import DigitalEuro.Model.HoldingLimit
import DigitalEuro.Model.IssuerLedger

/-!
# Digital euro — both sides of one movement (`lib.rs`)

The crate's helpers run the steps of a movement one after another and undo the
reservation when the other side refuses. Between parties that know each other's
keys, with a nonce that is new to them, a helper is refused for one of three
reasons, and no step after a debit fails.

* `pay_zero`, `pay_noRoom`, `pay_noFunds`, `pay_ok` — the outcomes of `pay`, in
  their order of precedence; `fund` and `defund` likewise.
-/

namespace DigitalEuro

variable [Sha256] {P Q R : Type} [Rng Q] [Rng R]

/-- Moves value from the device's online account onto the device. -/
def fund (wallet : Wallet R) (issuer : Issuer) (amountCents : UInt64) :
    Except Error UInt64 × Wallet R × Issuer :=
  match wallet.requestFunding amountCents with
  | (.error error, wallet) => (.error error, wallet, issuer)
  | (.ok request, wallet) =>
    match issuer.fund request with
    | (.ok funding, issuer) =>
      let (result, wallet) := wallet.applyFunding funding
      (result, wallet, issuer)
    | (.error error, issuer) =>
      let (_, wallet) := wallet.cancelFunding request.nonce
      (.error error, wallet, issuer)

omit [Rng R] in
/-- Moves value from the device back to its online account. -/
def defund (wallet : Wallet R) (issuer : Issuer) (amountCents : UInt64) :
    Except Error UInt64 × Wallet R × Issuer :=
  match wallet.defund amountCents with
  | (.error error, wallet) => (.error error, wallet, issuer)
  | (.ok defunding, wallet) =>
    let (result, issuer) := issuer.defund defunding
    (result, wallet, issuer)

/-- One offline payment, both sides: the payee requests, the payer pays, the
payee credits. If the payer refuses, the payee's reservation is released. -/
def pay (payer : Wallet P) (payee : Wallet Q) (amountCents : UInt64) :
    Except Error UInt64 × Wallet P × Wallet Q :=
  match payee.requestPayment amountCents with
  | (.error error, payee) => (.error error, payer, payee)
  | (.ok request, payee) =>
    match payer.pay request with
    | (.error error, payer) =>
      let (_, payee) := payee.cancelRequest request.nonce
      (.error error, payer, payee)
    | (.ok transfer, payer) =>
      let (result, payee) := payee.receive transfer
      (result, payer, payee)

-- ---------------------------------------------------------------------------
-- Refusals before anything was asked of the other side
-- ---------------------------------------------------------------------------

omit [Sha256] in
theorem Wallet.reserve_zero (w : Wallet R) : w.reserve 0 = (.error .zeroAmount, w) := by
  rw [reserve, if_pos rfl]

omit [Sha256] in
theorem Wallet.reserve_noRoom (w : Wallet R) {amountCents : UInt64} (hPos : amountCents ≠ 0)
    (hRoom : w.headroom < amountCents) :
    w.reserve amountCents = (.error (.holdingLimitExceeded amountCents w.headroom), w) := by
  rw [reserve, if_neg hPos, if_pos hRoom]

omit [Sha256] [Rng R] in
theorem Wallet.debit_noFunds (w : Wallet R) {amountCents : UInt64} (hPos : amountCents ≠ 0)
    (hFunds : w.balanceCents < amountCents) :
    w.debit amountCents = (.error (.insufficientFunds amountCents w.balanceCents), w) := by
  rw [debit, if_neg hPos, if_pos hFunds]

theorem fund_zero (w : Wallet R) (issuer : Issuer) :
    fund w issuer 0 = (.error .zeroAmount, w, issuer) := by
  rw [fund, Wallet.requestFunding, w.reserve_zero]

theorem fund_noRoom (w : Wallet R) (issuer : Issuer) {amountCents : UInt64}
    (hPos : amountCents ≠ 0) (hRoom : w.headroom < amountCents) :
    fund w issuer amountCents =
      (.error (.holdingLimitExceeded amountCents w.headroom), w, issuer) := by
  rw [fund, Wallet.requestFunding, w.reserve_noRoom hPos hRoom]

theorem pay_zero (payer : Wallet P) (payee : Wallet Q) :
    pay payer payee 0 = (.error .zeroAmount, payer, payee) := by
  rw [pay, Wallet.requestPayment, payee.reserve_zero]

theorem pay_noRoom (payer : Wallet P) (payee : Wallet Q) {amountCents : UInt64}
    (hPos : amountCents ≠ 0) (hRoom : payee.headroom < amountCents) :
    pay payer payee amountCents =
      (.error (.holdingLimitExceeded amountCents payee.headroom), payer, payee) := by
  rw [pay, Wallet.requestPayment, payee.reserve_noRoom hPos hRoom]

omit [Rng R] in
theorem defund_zero (w : Wallet R) (issuer : Issuer) :
    defund w issuer 0 = (.error .zeroAmount, w, issuer) := by
  rw [defund, Wallet.defund, Wallet.debit, if_pos rfl]

omit [Rng R] in
theorem defund_noFunds (w : Wallet R) (issuer : Issuer) {amountCents : UInt64}
    (hPos : amountCents ≠ 0) (hFunds : w.balanceCents < amountCents) :
    defund w issuer amountCents =
      (.error (.insufficientFunds amountCents w.balanceCents), w, issuer) := by
  rw [defund, Wallet.defund, w.debit_noFunds hPos hFunds]

/-- The element after a credit under the nonce it drew for it. -/
def Wallet.credit (w : Wallet R) (amountCents : UInt64) : Wallet R :=
  { w with
    rng := (Rng.gen w.rng).2
    credited := insert (Rng.gen w.rng).1 w.credited
    balanceCents := w.balanceCents + amountCents }

-- ---------------------------------------------------------------------------
-- One payment
-- ---------------------------------------------------------------------------

/-- Two elements that accept each other's certificates, the payer with a key that
makes valid signatures. -/
structure CanPay (payer : Wallet P) (payee : Wallet Q) : Prop where
  payee_verifies : payee.certificate.verify payer.issuer = true
  payer_verifies : payer.certificate.verify payee.issuer = true
  other : payee.device ≠ payer.device
  publicKey_eq : payer.certificate.publicKey = payer.keypair.publicKey
  generated : payer.keypair.Generated

section Pay

variable {payer : Wallet P} {payee : Wallet Q} {amountCents : UInt64}

/-- The payer refuses, and the payee's reservation is gone again. -/
theorem pay_noFunds (h : CanPay payer payee) (hPos : amountCents ≠ 0)
    (hRoom : amountCents ≤ payee.headroom) (hFunds : payer.balanceCents < amountCents)
    (hFresh : payee.incoming.lookup (Rng.gen payee.rng).1 = none) :
    pay payer payee amountCents =
      (.error (.insufficientFunds amountCents payer.balanceCents), payer,
        { payee with rng := (Rng.gen payee.rng).2 }) := by
  have hOther : payee.certificate.device ≠ payer.device := h.other
  simp only [pay, Wallet.requestPayment_eq hPos hRoom, Wallet.pay, h.payee_verifies, hOther,
    payer.debit_noFunds hPos hFunds, Wallet.cancelRequest,
    Finmap.erase_insert_of_lookup_none hFresh, Bool.not_true, Bool.false_eq_true, if_false]

/-- Nothing fails once the payer has debited itself. -/
theorem pay_ok (h : CanPay payer payee) (hPos : amountCents ≠ 0)
    (hRoom : amountCents ≤ payee.headroom) (hFunds : amountCents ≤ payer.balanceCents)
    (hFresh : payee.incoming.lookup (Rng.gen payee.rng).1 = none)
    (hNew : (Rng.gen payee.rng).1 ∉ payee.credited) :
    pay payer payee amountCents =
      (.ok amountCents, payer.debited amountCents, payee.credit amountCents) := by
  let request : PaymentRequest :=
    { payee := payee.certificate, amountCents, nonce := (Rng.gen payee.rng).1 }
  let payee' : Wallet Q :=
    { payee with
      rng := (Rng.gen payee.rng).2
      incoming := payee.incoming.insert (Rng.gen payee.rng).1 amountCents }
  have hPay : payer.pay request = (.ok (payer.transferFor request), payer.debited amountCents) :=
    Wallet.pay_eq h.payee_verifies h.other hPos hFunds
  have hReceive : payee'.receive (payer.transferFor request) = _ := Wallet.receive_eq rfl
    h.payer_verifies (Wallet.transferFor_verifies h.generated h.publicKey_eq request) hNew
    (Finmap.lookup_insert _)
  have hErase : payee'.incoming.erase request.nonce = payee.incoming :=
    Finmap.erase_insert_of_lookup_none hFresh
  rw [Wallet.transferFor_nonce, hErase] at hReceive
  simp only [pay, Wallet.requestPayment_eq hPos hRoom]
  rw [hPay]
  dsimp only
  rw [hReceive]
  rfl

end Pay

-- ---------------------------------------------------------------------------
-- Funding and defunding
-- ---------------------------------------------------------------------------

/-- An element and the issuer that has it on record. -/
structure OnRecord (w : Wallet R) (issuer : Issuer) (record : DeviceRecord) (balance : UInt64) :
    Prop where
  issuer_eq : w.issuer = issuer.publicKey
  issuer_generated : issuer.keypair.Generated
  generated : w.keypair.Generated
  record_eq : issuer.devices.lookup w.device = some record
  publicKey_eq : record.publicKey = w.keypair.publicKey
  account_eq : issuer.accounts.lookup record.account = some balance

section Fund

variable {w : Wallet R} {issuer : Issuer} {record : DeviceRecord} {balance amountCents : UInt64}

omit [Rng R] in
theorem OnRecord.request_verifies (h : OnRecord w issuer record balance) (nonce : Nonce) :
    record.publicKey.verify (w.fundingRequestFor amountCents nonce).digest
      (w.fundingRequestFor amountCents nonce).signature = true := by
  rw [h.publicKey_eq]
  exact Wallet.fundingRequestFor_verifies h.generated amountCents nonce

omit [Rng R] in
theorem OnRecord.defunding_verifies (h : OnRecord w issuer record balance)
    (amountCents : UInt64) :
    record.publicKey.verify (w.defundingFor amountCents).digest
      (w.defundingFor amountCents).signature = true := by
  rw [h.publicKey_eq]
  exact Wallet.defundingFor_verifies h.generated amountCents

/-- The account does not cover the amount, and the reservation is gone again. -/
theorem fund_noFunds (h : OnRecord w issuer record balance) (hPos : amountCents ≠ 0)
    (hRoom : amountCents ≤ w.headroom) (hFunds : balance < amountCents)
    (hFresh : w.pendingFunding.lookup (Rng.gen w.rng).1 = none)
    (hNew : (w.device, (Rng.gen w.rng).1) ∉ issuer.fundingNonces) :
    fund w issuer amountCents =
      (.error (.insufficientFunds amountCents balance), { w with rng := (Rng.gen w.rng).2 },
        issuer) := by
  have hFund : issuer.fund (w.fundingRequestFor amountCents (Rng.gen w.rng).1) =
      (.error (.insufficientFunds amountCents balance), issuer) := by
    simp only [Issuer.fund, Wallet.fundingRequestFor_device, h.record_eq, h.request_verifies,
      Wallet.fundingRequestFor_amountCents, Wallet.fundingRequestFor_nonce, hPos, hNew,
      h.account_eq, hFunds, Bool.not_true, Bool.false_eq_true, if_false, if_true]
  simp only [fund, Wallet.requestFunding_eq hPos hRoom, hFund, Wallet.cancelFunding,
    Wallet.fundingRequestFor_nonce, Finmap.erase_insert_of_lookup_none hFresh]

/-- Nothing fails once the issuer has debited the account. -/
theorem fund_ok (h : OnRecord w issuer record balance) (hPos : amountCents ≠ 0)
    (hRoom : amountCents ≤ w.headroom) (hFunds : amountCents ≤ balance)
    (hFresh : w.pendingFunding.lookup (Rng.gen w.rng).1 = none)
    (hUncredited : (Rng.gen w.rng).1 ∉ w.credited)
    (hNew : (w.device, (Rng.gen w.rng).1) ∉ issuer.fundingNonces) :
    fund w issuer amountCents =
      (.ok amountCents, w.credit amountCents,
        issuer.funded (w.fundingRequestFor amountCents (Rng.gen w.rng).1) record.account
          balance) := by
  let request := w.fundingRequestFor amountCents (Rng.gen w.rng).1
  let w' : Wallet R :=
    { w with
      rng := (Rng.gen w.rng).2
      pendingFunding := w.pendingFunding.insert (Rng.gen w.rng).1 amountCents }
  have hFund : issuer.fund request =
      (.ok (issuer.fundingFor request), issuer.funded request record.account balance) :=
    Issuer.fund_eq h.record_eq (h.request_verifies _) hPos hNew h.account_eq hFunds
  have hSignature : w'.issuer.verify (issuer.fundingFor request).digest
      (issuer.fundingFor request).signature = true := by
    have hIssuer : w'.issuer = issuer.keypair.publicKey := h.issuer_eq
    rw [hIssuer]
    exact h.issuer_generated.verify_sign _
  have hApply : w'.applyFunding (issuer.fundingFor request) = _ := Wallet.applyFunding_eq rfl
    hSignature hUncredited (Finmap.lookup_insert _)
  have hErase : w'.pendingFunding.erase request.nonce = w.pendingFunding :=
    Finmap.erase_insert_of_lookup_none hFresh
  rw [Issuer.fundingFor_nonce, hErase] at hApply
  simp only [fund, Wallet.requestFunding_eq hPos hRoom]
  rw [hFund]
  dsimp only
  rw [hApply]
  rfl

omit [Rng R] in
/-- A defunding with a counter the issuer has not seen is credited. -/
theorem defund_ok (h : OnRecord w issuer record balance) (hPos : amountCents ≠ 0)
    (hFunds : amountCents ≤ w.balanceCents)
    (hCounter : record.lastDefundingCounter < w.counter + 1) :
    defund w issuer amountCents =
      (.ok amountCents, w.debited amountCents,
        issuer.defunded (w.defundingFor amountCents) record balance) := by
  have hDefund : issuer.defund (w.defundingFor amountCents) = _ :=
    Issuer.defund_eq h.record_eq (h.defunding_verifies amountCents) hCounter h.account_eq
  simp only [defund, Wallet.defund_eq hPos hFunds, hDefund, Wallet.defundingFor_amountCents]

omit [Rng R] in
/-- A defunding with a counter the issuer has seen is refused after the element
has debited itself. -/
theorem defund_replay (h : OnRecord w issuer record balance) (hPos : amountCents ≠ 0)
    (hFunds : amountCents ≤ w.balanceCents)
    (hCounter : w.counter + 1 ≤ record.lastDefundingCounter) :
    defund w issuer amountCents = (.error .replay, w.debited amountCents, issuer) := by
  have hDefund : issuer.defund (w.defundingFor amountCents) = _ :=
    Issuer.defund_replay h.record_eq (h.defunding_verifies amountCents) hCounter
  simp only [defund, Wallet.defund_eq hPos hFunds, hDefund]

end Fund

end DigitalEuro
