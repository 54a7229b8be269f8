import DigitalEuro.Model.Wallet

/-!
# Digital euro — what a wallet call does

`Wallet.Step` lists, once, everything a wallet call that is not refused checked
and did. Invariants are proved by cases on it and never unfold an operation.

* `Wallet.covers` — a call is refused and leaves the wallet as it was, or it is
  one of the steps;
* `Wallet.Step.exec_eq` — a step is what the call does;
* `Wallet.run_fixed` — along every run the certificate, the key and the issuer's
  key stay what `Wallet::new` put there.
-/

namespace DigitalEuro

namespace Wallet

variable {R : Type}

/-- The wallet after a debit that went through. -/
def debited (w : Wallet R) (amountCents : UInt64) : Wallet R :=
  { w with
    balanceCents := if w.state = .sealed then w.balanceCents - amountCents else w.balanceCents
    counter := w.counter + 1 }

/-- An amount within the headroom gets a nonce. -/
theorem reserve_eq [Rng R] (w : Wallet R) {amountCents : UInt64}
    (hPos : amountCents ≠ 0) (hRoom : amountCents ≤ w.headroom) :
    w.reserve amountCents = (.ok (Rng.gen w.rng).1, { w with rng := (Rng.gen w.rng).2 }) := by
  rw [reserve, if_neg hPos, if_neg (UInt64.not_lt.mpr hRoom)]

/-- A reservation is refused, or there is room for it. -/
theorem reserve_cases [Rng R] (w : Wallet R) (amountCents : UInt64) :
    (∃ error, w.reserve amountCents = (.error error, w)) ∨
      (amountCents ≠ 0 ∧ amountCents ≤ w.headroom) := by
  unfold reserve
  split
  · exact Or.inl ⟨_, rfl⟩
  · next hPos =>
    split
    · exact Or.inl ⟨_, rfl⟩
    · next hRoom => exact Or.inr ⟨hPos, UInt64.not_lt.mp hRoom⟩

/-- An amount within the balance is debited, under the next counter. -/
theorem debit_eq (w : Wallet R) {amountCents : UInt64}
    (hPos : amountCents ≠ 0) (hFunds : amountCents ≤ w.balanceCents) :
    w.debit amountCents = (.ok (w.counter + 1), w.debited amountCents) := by
  rw [debit, if_neg hPos, if_neg (UInt64.not_lt.mpr hFunds)]
  rfl

/-- A debit is refused, or there are funds for it. -/
theorem debit_cases (w : Wallet R) (amountCents : UInt64) :
    (∃ error, w.debit amountCents = (.error error, w)) ∨
      (amountCents ≠ 0 ∧ amountCents ≤ w.balanceCents) := by
  unfold debit
  split
  · exact Or.inl ⟨_, rfl⟩
  · next hPos =>
    split
    · exact Or.inl ⟨_, rfl⟩
    · next hFunds => exact Or.inr ⟨hPos, UInt64.not_lt.mp hFunds⟩

variable [Sha256]

/-- The transfer `pay` answers a request with. -/
def transferFor (w : Wallet R) (request : PaymentRequest) : Transfer :=
  let transfer := w.unsignedTransfer request (w.counter + 1)
  { transfer with signature := w.keypair.sign transfer.digest }

/-- The defunding `defund` signs. -/
def defundingFor (w : Wallet R) (amountCents : UInt64) : Defunding :=
  let defunding : Defunding :=
    { device := w.device, amountCents, counter := w.counter + 1, signature := 0 }
  { defunding with signature := w.keypair.sign defunding.digest }

/-- The funding request `request_funding` signs for a nonce. -/
def fundingRequestFor (w : Wallet R) (amountCents : UInt64) (nonce : Nonce) : FundingRequest :=
  let request : FundingRequest := { device := w.device, amountCents, nonce, signature := 0 }
  { request with signature := w.keypair.sign request.digest }

section Projections

variable (w : Wallet R) (amountCents : UInt64) (nonce : Nonce) (request : PaymentRequest)

/-- What a payment signs. -/
@[simp] theorem transferFor_content :
    (w.transferFor request).content = .transfer w.device request.payee.device
      request.amountCents request.nonce (w.counter + 1) := rfl

@[simp] theorem transferFor_payer : (w.transferFor request).payer = w.certificate := rfl
@[simp] theorem transferFor_nonce : (w.transferFor request).nonce = request.nonce := rfl
/-- What a defunding signs. -/
@[simp] theorem defundingFor_content :
    (w.defundingFor amountCents).content = .defunding w.device amountCents (w.counter + 1) := rfl

@[simp] theorem defundingFor_amountCents :
    (w.defundingFor amountCents).amountCents = amountCents := rfl
@[simp] theorem fundingRequestFor_device :
    (w.fundingRequestFor amountCents nonce).device = w.device := rfl
@[simp] theorem fundingRequestFor_amountCents :
    (w.fundingRequestFor amountCents nonce).amountCents = amountCents := rfl
@[simp] theorem fundingRequestFor_nonce :
    (w.fundingRequestFor amountCents nonce).nonce = nonce := rfl

end Projections

section Signatures

variable {w : Wallet R} (h : w.keypair.Generated)

include h

/-- A payment verifies under the key of the certificate it carries. -/
theorem transferFor_verifies (hKey : w.certificate.publicKey = w.keypair.publicKey)
    (request : PaymentRequest) :
    (w.transferFor request).payer.publicKey.verify (w.transferFor request).digest
      (w.transferFor request).signature = true := by
  rw [transferFor_payer, hKey]
  exact h.verify_sign _

/-- A defunding verifies under the key of its element. -/
theorem defundingFor_verifies (amountCents : UInt64) :
    w.keypair.publicKey.verify (w.defundingFor amountCents).digest
      (w.defundingFor amountCents).signature = true :=
  h.verify_sign _

/-- So does a funding request. -/
theorem fundingRequestFor_verifies (amountCents : UInt64) (nonce : Nonce) :
    w.keypair.publicKey.verify (w.fundingRequestFor amountCents nonce).digest
      (w.fundingRequestFor amountCents nonce).signature = true :=
  h.verify_sign _

end Signatures

-- ---------------------------------------------------------------------------
-- Calls that pass their checks
-- ---------------------------------------------------------------------------

section Equations

variable {w : Wallet R} {amountCents : UInt64}

omit [Sha256] in
/-- A request for which there is room is open from then on. -/
theorem requestPayment_eq [Rng R] (hPos : amountCents ≠ 0) (hRoom : amountCents ≤ w.headroom) :
    w.requestPayment amountCents =
      (.ok { payee := w.certificate, amountCents, nonce := (Rng.gen w.rng).1 },
        { w with
          rng := (Rng.gen w.rng).2
          incoming := w.incoming.insert (Rng.gen w.rng).1 amountCents }) := by
  rw [requestPayment, w.reserve_eq hPos hRoom]

/-- A transfer that passes all checks is credited, and its request closed. -/
theorem receive_eq {transfer : Transfer} (hPayee : transfer.payee = w.device)
    (hCertificate : transfer.payer.verify w.issuer = true)
    (hSignature : transfer.payer.publicKey.verify transfer.digest transfer.signature = true)
    (hNew : transfer.nonce ∉ w.credited)
    (hOpen : w.incoming.lookup transfer.nonce = some transfer.amountCents) :
    w.receive transfer =
      (.ok transfer.amountCents,
        { w with
          incoming := w.incoming.erase transfer.nonce
          credited := insert transfer.nonce w.credited
          balanceCents := w.balanceCents + transfer.amountCents }) := by
  simp [receive, hPayee, hCertificate, hSignature, hNew, hOpen]

/-- A payment that passes all checks is debited and signed. -/
theorem pay_eq {request : PaymentRequest} (hCertificate : request.payee.verify w.issuer = true)
    (hOther : request.payee.device ≠ w.device) (hPos : request.amountCents ≠ 0)
    (hFunds : request.amountCents ≤ w.balanceCents) :
    w.pay request = (.ok (w.transferFor request), w.debited request.amountCents) := by
  simp [pay, hCertificate, hOther, w.debit_eq hPos hFunds]
  rfl

/-- A funding request for which there is room is signed and open from then on. -/
theorem requestFunding_eq [Rng R] (hPos : amountCents ≠ 0) (hRoom : amountCents ≤ w.headroom) :
    w.requestFunding amountCents =
      (.ok (w.fundingRequestFor amountCents (Rng.gen w.rng).1),
        { w with
          rng := (Rng.gen w.rng).2
          pendingFunding := w.pendingFunding.insert (Rng.gen w.rng).1 amountCents }) := by
  rw [requestFunding, w.reserve_eq hPos hRoom]
  rfl

/-- A funding that passes all checks is credited, and its request closed. -/
theorem applyFunding_eq {funding : Funding} (hDevice : funding.device = w.device)
    (hSignature : w.issuer.verify funding.digest funding.signature = true)
    (hNew : funding.nonce ∉ w.credited)
    (hOpen : w.pendingFunding.lookup funding.nonce = some funding.amountCents) :
    w.applyFunding funding =
      (.ok funding.amountCents,
        { w with
          pendingFunding := w.pendingFunding.erase funding.nonce
          credited := insert funding.nonce w.credited
          balanceCents := w.balanceCents + funding.amountCents }) := by
  simp [applyFunding, hDevice, hSignature, hNew, hOpen]

/-- A defunding within the balance is debited and signed. -/
theorem defund_eq (hPos : amountCents ≠ 0) (hFunds : amountCents ≤ w.balanceCents) :
    w.defund amountCents = (.ok (w.defundingFor amountCents), w.debited amountCents) := by
  rw [defund, w.debit_eq hPos hFunds]
  rfl

end Equations

-- ---------------------------------------------------------------------------
-- Steps
-- ---------------------------------------------------------------------------

/-- The calls that are not refused: the checks they passed, the event they left
and the wallet after them. -/
inductive Step [Rng R] (w : Wallet R) : Op → Event → Wallet R → Prop
  | requestPayment (amountCents : UInt64)
      (hPos : amountCents ≠ 0) (hRoom : amountCents ≤ w.headroom) :
      Step w (.requestPayment amountCents)
        (.requested { payee := w.certificate, amountCents, nonce := (Rng.gen w.rng).1 })
        { w with
          rng := (Rng.gen w.rng).2
          incoming := w.incoming.insert (Rng.gen w.rng).1 amountCents }
  | cancelRequest (nonce : Nonce) (amountCents : UInt64)
      (hOpen : w.incoming.lookup nonce = some amountCents) :
      Step w (.cancelRequest nonce) (.requestCancelled nonce)
        { w with incoming := w.incoming.erase nonce }
  | receive (transfer : Transfer)
      (hPayee : transfer.payee = w.device)
      (hCertificate : transfer.payer.verify w.issuer = true)
      (hSignature : transfer.payer.publicKey.verify transfer.digest transfer.signature = true)
      (hNew : transfer.nonce ∉ w.credited)
      (hOpen : w.incoming.lookup transfer.nonce = some transfer.amountCents) :
      Step w (.receive transfer) (.received transfer)
        { w with
          incoming := w.incoming.erase transfer.nonce
          credited := insert transfer.nonce w.credited
          balanceCents := w.balanceCents + transfer.amountCents }
  | pay (request : PaymentRequest)
      (hCertificate : request.payee.verify w.issuer = true)
      (hOther : request.payee.device ≠ w.device)
      (hPos : request.amountCents ≠ 0) (hFunds : request.amountCents ≤ w.balanceCents) :
      Step w (.pay request) (.paid request (w.transferFor request) w.state)
        (w.debited request.amountCents)
  | requestFunding (amountCents : UInt64)
      (hPos : amountCents ≠ 0) (hRoom : amountCents ≤ w.headroom) :
      Step w (.requestFunding amountCents)
        (.fundingRequested (w.fundingRequestFor amountCents (Rng.gen w.rng).1))
        { w with
          rng := (Rng.gen w.rng).2
          pendingFunding := w.pendingFunding.insert (Rng.gen w.rng).1 amountCents }
  | cancelFunding (nonce : Nonce) (amountCents : UInt64)
      (hOpen : w.pendingFunding.lookup nonce = some amountCents) :
      Step w (.cancelFunding nonce) (.fundingCancelled nonce)
        { w with pendingFunding := w.pendingFunding.erase nonce }
  | applyFunding (funding : Funding)
      (hDevice : funding.device = w.device)
      (hSignature : w.issuer.verify funding.digest funding.signature = true)
      (hNew : funding.nonce ∉ w.credited)
      (hOpen : w.pendingFunding.lookup funding.nonce = some funding.amountCents) :
      Step w (.applyFunding funding) (.applied funding)
        { w with
          pendingFunding := w.pendingFunding.erase funding.nonce
          credited := insert funding.nonce w.credited
          balanceCents := w.balanceCents + funding.amountCents }
  | defund (amountCents : UInt64)
      (hPos : amountCents ≠ 0) (hFunds : amountCents ≤ w.balanceCents) :
      Step w (.defund amountCents) (.defunded (w.defundingFor amountCents) w.state)
        (w.debited amountCents)
  | crackSecureElement : Step w .crackSecureElement .cracked w.crackSecureElement

-- ---------------------------------------------------------------------------
-- Calls are refused or steps
-- ---------------------------------------------------------------------------

/-- **The step relation is complete.** Every call is refused, leaving the wallet
untouched, or it is one of the steps. -/
theorem exec_cases [Rng R] (w : Wallet R) (op : Op) :
    w.exec op = (none, w) ∨ ∃ e w', w.exec op = (some e, w') ∧ Step w op e w' := by
  cases op with
  | requestPayment amountCents =>
    rcases w.reserve_cases amountCents with ⟨error, hError⟩ | ⟨hPos, hRoom⟩
    · left
      simp [exec, requestPayment, hError, eventOf]
    · right
      refine ⟨_, _, ?_, .requestPayment amountCents hPos hRoom⟩
      simp only [exec, requestPayment_eq hPos hRoom, eventOf]
  | cancelRequest nonce =>
    cases hOpen : w.incoming.lookup nonce with
    | none =>
      left
      simp [exec, cancelRequest, hOpen, Finmap.erase_of_lookup_none hOpen]
    | some amountCents =>
      right
      refine ⟨_, _, ?_, .cancelRequest nonce amountCents hOpen⟩
      simp [exec, cancelRequest, hOpen]
  | receive transfer =>
    by_cases hPayee : transfer.payee = w.device
    case neg => left; simp [exec, receive, hPayee, eventOf]
    by_cases hCertificate : transfer.payer.verify w.issuer = true
    case neg => left; simp [exec, receive, hPayee, hCertificate, eventOf]
    by_cases hSignature :
        transfer.payer.publicKey.verify transfer.digest transfer.signature = true
    case neg => left; simp [exec, receive, hPayee, hCertificate, hSignature, eventOf]
    by_cases hNew : transfer.nonce ∈ w.credited
    case pos => left; simp [exec, receive, hPayee, hCertificate, hSignature, hNew, eventOf]
    cases hOpen : w.incoming.lookup transfer.nonce with
    | none => left; simp [exec, receive, hPayee, hCertificate, hSignature, hNew, hOpen, eventOf]
    | some expected =>
      by_cases hAmount : transfer.amountCents = expected
      case neg =>
        left
        simp [exec, receive, hPayee, hCertificate, hSignature, hNew, hOpen, hAmount, eventOf]
      subst hAmount
      right
      refine ⟨_, _, ?_, .receive transfer hPayee hCertificate hSignature hNew hOpen⟩
      simp only [exec, receive_eq hPayee hCertificate hSignature hNew hOpen, eventOf]
  | pay request =>
    by_cases hCertificate : request.payee.verify w.issuer = true
    case neg => left; simp [exec, pay, hCertificate, eventOf]
    by_cases hOther : request.payee.device = w.device
    case pos => left; simp [exec, pay, hCertificate, hOther, eventOf]
    rcases w.debit_cases request.amountCents with ⟨error, hError⟩ | ⟨hPos, hFunds⟩
    · left
      simp [exec, pay, hCertificate, hOther, hError, eventOf]
    · right
      refine ⟨_, _, ?_, .pay request hCertificate hOther hPos hFunds⟩
      simp only [exec, pay_eq hCertificate hOther hPos hFunds, eventOf]
  | requestFunding amountCents =>
    rcases w.reserve_cases amountCents with ⟨error, hError⟩ | ⟨hPos, hRoom⟩
    · left
      simp [exec, requestFunding, hError, eventOf]
    · right
      refine ⟨_, _, ?_, .requestFunding amountCents hPos hRoom⟩
      simp only [exec, requestFunding_eq hPos hRoom, eventOf]
  | cancelFunding nonce =>
    cases hOpen : w.pendingFunding.lookup nonce with
    | none =>
      left
      simp [exec, cancelFunding, hOpen, Finmap.erase_of_lookup_none hOpen]
    | some amountCents =>
      right
      refine ⟨_, _, ?_, .cancelFunding nonce amountCents hOpen⟩
      simp [exec, cancelFunding, hOpen]
  | applyFunding funding =>
    by_cases hDevice : funding.device = w.device
    case neg => left; simp [exec, applyFunding, hDevice, eventOf]
    by_cases hSignature : w.issuer.verify funding.digest funding.signature = true
    case neg => left; simp [exec, applyFunding, hDevice, hSignature, eventOf]
    by_cases hNew : funding.nonce ∈ w.credited
    case pos => left; simp [exec, applyFunding, hDevice, hSignature, hNew, eventOf]
    cases hOpen : w.pendingFunding.lookup funding.nonce with
    | none => left; simp [exec, applyFunding, hDevice, hSignature, hNew, hOpen, eventOf]
    | some expected =>
      by_cases hAmount : funding.amountCents = expected
      case neg =>
        left
        simp [exec, applyFunding, hDevice, hSignature, hNew, hOpen, hAmount, eventOf]
      subst hAmount
      right
      refine ⟨_, _, ?_, .applyFunding funding hDevice hSignature hNew hOpen⟩
      simp only [exec, applyFunding_eq hDevice hSignature hNew hOpen, eventOf]
  | defund amountCents =>
    rcases w.debit_cases amountCents with ⟨error, hError⟩ | ⟨hPos, hFunds⟩
    · left
      simp [exec, defund, hError, eventOf]
    · right
      refine ⟨_, _, ?_, .defund amountCents hPos hFunds⟩
      simp only [exec, defund_eq hPos hFunds, eventOf]
  | crackSecureElement => exact Or.inr ⟨_, _, rfl, .crackSecureElement⟩

/-- **Refusals are atomic**: a refused call leaves the wallet exactly as it was. -/
theorem covers [Rng R] : Machine.Covers (exec (R := R)) Step := exec_cases

omit [Sha256] in
/-- An answer is an event. -/
theorem eventOf_ok {α : Type} {result : Except Error α} {event : α → Event} {a : α}
    (h : result = .ok a) : eventOf result event = some (event a) := by
  rw [h, eventOf]

/-- **The step relation is sound.** A step is what the call does. -/
theorem Step.exec_eq [Rng R] {w w' : Wallet R} {op : Op} {e : Event} (h : Step w op e w') :
    w.exec op = (some e, w') := by
  cases h with
  | requestPayment amountCents hPos hRoom =>
    simp only [exec, requestPayment_eq hPos hRoom, eventOf]
  | cancelRequest nonce amountCents hOpen => simp [exec, Wallet.cancelRequest, hOpen]
  | receive transfer hPayee hCertificate hSignature hNew hOpen =>
    simp only [exec, receive_eq hPayee hCertificate hSignature hNew hOpen, eventOf]
  | pay request hCertificate hOther hPos hFunds =>
    simp only [exec, pay_eq hCertificate hOther hPos hFunds, eventOf]
  | requestFunding amountCents hPos hRoom =>
    simp only [exec, requestFunding_eq hPos hRoom, eventOf]
  | cancelFunding nonce amountCents hOpen => simp [exec, Wallet.cancelFunding, hOpen]
  | applyFunding funding hDevice hSignature hNew hOpen =>
    simp only [exec, applyFunding_eq hDevice hSignature hNew hOpen, eventOf]
  | defund amountCents hPos hFunds => simp only [exec, defund_eq hPos hFunds, eventOf]
  | crackSecureElement => rfl

/-- `Wallet::new` accepts exactly the certificates that verify and are for the
key that comes with them. -/
theorem new_eq_ok {certificate : DeviceCertificate} {keypair : Keypair} {issuer : PublicKey}
    {rng : R} {w : Wallet R} :
    Wallet.new certificate keypair issuer rng = .ok w ↔
      certificate.verify issuer = true ∧ certificate.publicKey = keypair.publicKey ∧
        w = fresh certificate keypair issuer rng := by
  unfold Wallet.new
  by_cases hVerify : certificate.verify issuer = true
  case neg => simp [hVerify]
  by_cases hKey : certificate.publicKey = keypair.publicKey
  case neg => simp [hKey]
  simp [hVerify, hKey, eq_comm]

/-- An accepted transfer is a step, and it is credited with its own amount. -/
theorem receive_ok [Rng R] {w : Wallet R} {transfer : Transfer} {amountCents : UInt64}
    (h : (w.receive transfer).1 = .ok amountCents) :
    Step w (.receive transfer) (.received transfer) (w.receive transfer).2 ∧
      amountCents = transfer.amountCents := by
  have hStep : Step w (.receive transfer) (.received transfer) (w.receive transfer).2 :=
    covers.step (a := .receive transfer) (eventOf_ok h)
  refine ⟨hStep, ?_⟩
  generalize (w.receive transfer).2 = w' at hStep
  cases hStep with
  | receive _ hPayee hCertificate hSignature hNew hOpen =>
    rw [receive_eq hPayee hCertificate hSignature hNew hOpen, Except.ok.injEq] at h
    exact h.symm

/-- An accepted funding is a step, and it is credited with its own amount. -/
theorem applyFunding_ok [Rng R] {w : Wallet R} {funding : Funding} {amountCents : UInt64}
    (h : (w.applyFunding funding).1 = .ok amountCents) :
    Step w (.applyFunding funding) (.applied funding) (w.applyFunding funding).2 ∧
      amountCents = funding.amountCents := by
  have hStep : Step w (.applyFunding funding) (.applied funding) (w.applyFunding funding).2 :=
    covers.step (a := .applyFunding funding) (eventOf_ok h)
  refine ⟨hStep, ?_⟩
  generalize (w.applyFunding funding).2 = w' at hStep
  cases hStep with
  | applyFunding _ hDevice hSignature hNew hOpen =>
    rw [applyFunding_eq hDevice hSignature hNew hOpen, Except.ok.injEq] at h
    exact h.symm

/-- What `defund` signs names the device and its next counter. -/
theorem defund_ok {w : Wallet R} {amountCents : UInt64} {defunding : Defunding}
    (h : (w.defund amountCents).1 = .ok defunding) :
    defunding.device = w.device ∧ defunding.counter = w.counter + 1 := by
  rcases w.debit_cases amountCents with ⟨error, hError⟩ | ⟨hPos, hFunds⟩
  · rw [defund, hError] at h
    exact absurd h (by simp)
  · rw [defund_eq hPos hFunds, Except.ok.injEq] at h
    rw [← h]
    exact ⟨rfl, rfl⟩

-- ---------------------------------------------------------------------------
-- Runs
-- ---------------------------------------------------------------------------

/-- A run of one element from `start`: any calls, in any order, with any
messages. -/
abbrev Run [Rng R] (start : Wallet R) : List Event → Wallet R → Prop :=
  Machine.Reaches exec (fun _ _ _ => True) start

/-- No call replaces the certificate, the key or the issuer's key. -/
theorem Step.fixed [Rng R] {w w' : Wallet R} {op : Op} {e : Event} (h : Step w op e w') :
    w'.certificate = w.certificate ∧ w'.keypair = w.keypair ∧ w'.issuer = w.issuer := by
  cases h <;> exact ⟨rfl, rfl, rfl⟩

/-- No run replaces them either. -/
theorem run_fixed [Rng R] {allowed : List Event → Wallet R → Op → Prop} {start w : Wallet R}
    {history : List Event} (hRun : Machine.Reaches exec allowed start history w) :
    w.certificate = start.certificate ∧ w.keypair = start.keypair ∧ w.issuer = start.issuer := by
  refine covers.induction (P := fun _ w => w.certificate = start.certificate ∧
    w.keypair = start.keypair ∧ w.issuer = start.issuer) hRun ⟨rfl, rfl, rfl⟩ ?_
  intro history w op e w' _ _ ih hStep
  obtain ⟨hCertificate, hKeypair, hIssuer⟩ := hStep.fixed
  exact ⟨hCertificate.trans ih.1, hKeypair.trans ih.2.1, hIssuer.trans ih.2.2⟩

end Wallet

-- ---------------------------------------------------------------------------
-- A wallet to run
-- ---------------------------------------------------------------------------

/-- A fresh element of the sample issuer. -/
def sampleWallet [Sha256] (keys : Keypair) (n : ℕ) : Wallet CountingRng :=
  .fresh (sampleCertificate keys n) keys issuerKeys.publicKey ⟨0⟩

/-- It is one that `Wallet::new` makes. -/
theorem sampleWallet_new [Sha256] (keys : Keypair) (n : ℕ) :
    Wallet.new (sampleCertificate keys n) keys issuerKeys.publicKey ⟨0⟩ =
      .ok (sampleWallet keys n) :=
  Wallet.new_eq_ok.mpr ⟨issuerKeys_generated.verify_certify .., rfl, rfl⟩

end DigitalEuro
