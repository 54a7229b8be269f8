import DigitalEuro.Model.Runs

/-!
# Digital euro — every credit answers a debit

An element credits a transfer on the strength of two signatures and an open
request, the issuer credits an account on the strength of one signature and a
counter. In a run in which signatures cannot be forged this is enough to know who
was debited before.

* `credited_nodup` — no message is credited twice, by whomever;
* `credited_subset_signed` — what is credited was signed, field by field;
* `agreement` — at the moment of a credit: the request it answers is open, and the
  party the message names had been debited by this amount for this nonce or
  counter.
-/

namespace DigitalEuro

namespace System

-- ---------------------------------------------------------------------------
-- Messages that carry value
-- ---------------------------------------------------------------------------

/-- The content of the value an event sent off. -/
def Event.sends : Event → Option Content
  | .issuer (.funded _ _ funding) => some funding.content
  | .wallet _ (.paid _ transfer _) => some transfer.content
  | .wallet _ (.defunded defunding _) => some defunding.content
  | _ => none

/-- The content of the value an event credited. -/
def Event.credits : Event → Option Content
  | .issuer (.defunded _ defunding) => some defunding.content
  | .wallet _ (.received transfer) => some transfer.content
  | .wallet _ (.applied funding) => some funding.content
  | _ => none

/-- What carries value is signed. -/
theorem signing_of_sends (issuerKey : PublicKey) {e : Event} {content : Content}
    (h : e.sends = some content) : ∃ key, e.signing issuerKey = some (key, content) := by
  rcases e with ((_ | _ | _ | _) | _ | ⟨_, (_ | _ | _ | _ | _ | _ | _ | _ | _)⟩) <;>
    simp [Event.sends, Event.signing] at h ⊢
  all_goals exact h

/-- The fundings, transfers and defundings that were signed. -/
def signed (history : List Event) : List Content := history.filterMap Event.sends

/-- The fundings, transfers and defundings that were credited. -/
def credited (history : List Event) : List Content := history.filterMap Event.credits

variable [Sha256] {R G : Type} [Rng R] [Rng G] {keypair : Keypair} {history : List Event}
  {s : System R}

-- ---------------------------------------------------------------------------
-- No message is credited twice
-- ---------------------------------------------------------------------------

/-- The nonce an element credited is in its set. -/
theorem Enrolled.credited_nonce (h : Enrolled R G keypair history s) {device : DeviceId}
    {w : Wallet R} (hWallet : s.wallets.lookup device = some w) {certificate : DeviceCertificate}
    {e : Wallet.Event} {nonce : Nonce} (hMem : .wallet certificate e ∈ history)
    (hDevice : certificate.device = device) (hNonce : e.creditedNonce = some nonce) :
    nonce ∈ w.credited := by
  obtain ⟨rng, hRun⟩ := (h.wallet_of hWallet).run
  have hLocal : e ∈ localEvents device history := by
    rw [← hDevice]
    exact mem_localEvents hMem
  exact (Wallet.mem_credited hRun nonce).mpr (List.mem_filterMap.mpr ⟨e, hLocal, hNonce⟩)

theorem Enrolled.transfer_new (h : Enrolled R G keypair history s) {device : DeviceId}
    {w : Wallet R} (hWallet : s.wallets.lookup device = some w) {transfer : Transfer}
    (hPayee : transfer.payee = w.device) (hNew : transfer.nonce ∉ w.credited) :
    transfer.content ∉ credited history := by
  intro hMem
  obtain ⟨e, hEvent, hCredits⟩ := List.mem_filterMap.mp hMem
  -- only a receipt credits a transfer
  have hReceipt : ∃ certificate transfer', e = .wallet certificate (.received transfer') ∧
      transfer'.content = transfer.content := by
    rcases e with ((_ | _ | _ | _) | _ | ⟨_, (_ | _ | _ | _ | _ | _ | _ | _ | _)⟩) <;>
      simp [Event.credits, Transfer.content, Funding.content, Defunding.content] at hCredits ⊢
    exact hCredits
  obtain ⟨certificate, transfer', rfl, hContent⟩ := hReceipt
  obtain ⟨-, hSamePayee, -, hNonce, -⟩ := Content.transfer.inj hContent
  obtain ⟨w', hWallet', hCertificate, hGenuine⟩ := h.genuine hEvent
  have hDevice : certificate.device = device := by
    have hPayee' : transfer'.payee = certificate.device := hGenuine.1
    rw [← hPayee', hSamePayee, hPayee, Wallet.device, (h.wallet_of hWallet).device_eq]
  exact hNew (h.credited_nonce hWallet hEvent hDevice (congrArg some hNonce))

theorem Enrolled.funding_new (h : Enrolled R G keypair history s) {device : DeviceId}
    {w : Wallet R} (hWallet : s.wallets.lookup device = some w) {funding : Funding}
    (hDevice : funding.device = w.device) (hNew : funding.nonce ∉ w.credited) :
    funding.content ∉ credited history := by
  intro hMem
  obtain ⟨e, hEvent, hCredits⟩ := List.mem_filterMap.mp hMem
  -- only an application credits a funding
  have hApplied : ∃ certificate funding', e = .wallet certificate (.applied funding') ∧
      funding'.content = funding.content := by
    rcases e with ((_ | _ | _ | _) | _ | ⟨_, (_ | _ | _ | _ | _ | _ | _ | _ | _)⟩) <;>
      simp [Event.credits, Transfer.content, Funding.content, Defunding.content] at hCredits ⊢
    exact hCredits
  obtain ⟨certificate, funding', rfl, hContent⟩ := hApplied
  obtain ⟨hSameDevice, -, hNonce⟩ := Content.funding.inj hContent
  obtain ⟨w', hWallet', hCertificate, hGenuine⟩ := h.genuine hEvent
  have hCertificateDevice : certificate.device = device := by
    have hDevice' : funding'.device = certificate.device := hGenuine.1
    rw [← hDevice', hSameDevice, hDevice, Wallet.device, (h.wallet_of hWallet).device_eq]
  exact hNew (h.credited_nonce hWallet hEvent hCertificateDevice (congrArg some hNonce))

theorem Enrolled.defunding_new (h : Enrolled R G keypair history s) {defunding : Defunding}
    {record : DeviceRecord} (hRecord : s.issuer.devices.lookup defunding.device = some record)
    (hNew : record.lastDefundingCounter < defunding.counter) :
    defunding.content ∉ credited history := by
  intro hMem
  obtain ⟨e, hEvent, hCredits⟩ := List.mem_filterMap.mp hMem
  -- only the issuer credits a defunding
  have hIssuer : ∃ account defunding', e = .issuer (.defunded account defunding') ∧
      defunding'.content = defunding.content := by
    rcases e with ((_ | _ | _ | _) | _ | ⟨_, (_ | _ | _ | _ | _ | _ | _ | _ | _)⟩) <;>
      simp [Event.credits, Transfer.content, Funding.content, Defunding.content] at hCredits ⊢
    exact hCredits
  obtain ⟨account, defunding', rfl, hContent⟩ := hIssuer
  obtain ⟨hDevice, -, hCounter⟩ := Content.defunding.inj hContent
  have hMatch := Issuer.counters_match h.issuer_run defunding.device
  have hSeen : defunding'.counter ∈
      Issuer.counters defunding.device (issuerEvents history) := by
    refine List.mem_filterMap.mpr ⟨_, mem_issuerEvents.mpr hEvent, ?_⟩
    simp [Issuer.Event.counterOf, hDevice]
  have hOld := hMatch.le_last hRecord _ hSeen
  rw [hCounter] at hOld
  exact absurd hNew (UInt64.not_lt.mpr hOld)

/-- **No message is credited twice**, whatever is delivered and however often. -/
theorem credited_nodup (h : Enrolled R G keypair history s) : (credited history).Nodup := by
  refine covers.induction (P := fun history _ => (credited history).Nodup) h List.nodup_nil ?_
  intro history s op e s' hReach _ ih hStep
  cases hStep with
  | issuer hStep =>
    cases hStep with
    | openAccount | certifyDevice | fund => exact ih
    | defund defunding record balance hDevice _ hNew _ =>
      exact List.nodup_cons.mpr ⟨Enrolled.defunding_new hReach hDevice hNew, ih⟩
  | install => exact ih
  | wallet hWallet hStep =>
    cases hStep with
    | receive transfer hPayee _ _ hNew _ =>
      exact List.nodup_cons.mpr ⟨Enrolled.transfer_new hReach hWallet hPayee hNew, ih⟩
    | applyFunding funding hDevice _ hNew _ =>
      exact List.nodup_cons.mpr ⟨Enrolled.funding_new hReach hWallet hDevice hNew, ih⟩
    | _ => exact ih

-- ---------------------------------------------------------------------------
-- What is accepted was signed
-- ---------------------------------------------------------------------------

/-- The device that a transfer names as payer is certified, and its element made a
call of `pay` that signed a transfer with this payee, amount, nonce and counter. -/
def PaidBy (history : List Event) (transfer : Transfer) : Prop :=
  Certified history transfer.payer.device transfer.payer.publicKey ∧
  ∃ certificate request transfer' state,
    .wallet certificate (.paid request transfer' state) ∈ history ∧
      certificate.device = transfer.payer.device ∧
      certificate.publicKey = transfer.payer.publicKey ∧
      transfer'.payee = transfer.payee ∧ transfer'.amountCents = transfer.amountCents ∧
      transfer'.nonce = transfer.nonce ∧ transfer'.counter = transfer.counter

/-- The element of the device made a call of `request_funding` with this amount and
nonce. -/
def FundingRequestedBy (history : List Event) (request : FundingRequest) : Prop :=
  ∃ certificate request', .wallet certificate (.fundingRequested request') ∈ history ∧
    certificate.device = request.device ∧ request'.device = request.device ∧
    request'.amountCents = request.amountCents ∧ request'.nonce = request.nonce

/-- The element of the device made a call of `defund` with this amount and counter. -/
def DefundedBy (history : List Event) (defunding : Defunding) : Prop :=
  ∃ certificate defunding' state, .wallet certificate (.defunded defunding' state) ∈ history ∧
    certificate.device = defunding.device ∧ defunding'.device = defunding.device ∧
    defunding'.amountCents = defunding.amountCents ∧ defunding'.counter = defunding.counter

theorem Reachable.paidBy (h : Reachable R G keypair history s) {device : DeviceId}
    {transfer : Transfer} {w w' : Wallet R}
    (hUnforged : Unforged history s (Op.wallet (R := R) (G := G) device (.receive transfer)))
    (hWallet : s.wallets.lookup device = some w)
    (hStep : Wallet.Step w (.receive transfer) (.received transfer) w') :
    PaidBy history transfer := by
  have hIssuer : w.issuer = s.issuer.publicKey := by
    rw [(h.enrolled.wallet_of hWallet).issuer_eq, h.enrolled.publicKey_eq]
  cases hStep with
  | receive _ _ hCertificate hSignature _ _ =>
    rw [hIssuer] at hCertificate
    obtain ⟨account, issued, hIssued, hSame⟩ :=
      hUnforged.certified transfer.payer List.mem_cons_self hCertificate
    obtain ⟨hIssuedDevice, hIssuedKey, -⟩ := Content.certificate.inj hSame
    obtain ⟨certificate, request, transfer', state, hMem, hKey, hContent⟩ :=
      hUnforged.paid hCertificate hSignature
    obtain ⟨hPayer, hPayee, hAmount, hNonce, hCounter⟩ := Content.transfer.inj hContent
    -- the element signed its own device id into the transfer
    obtain ⟨w₁, hWallet₁, hCertificate₁, hGenuine⟩ := h.enrolled.genuine hMem
    have hOwn : transfer'.payer = certificate := hGenuine.2.1
    refine ⟨⟨account, issued, hIssued, hIssuedDevice, hIssuedKey⟩, certificate, request, transfer',
      state, hMem, ?_, hKey, hPayee, hAmount, hNonce, hCounter⟩
    rw [← hOwn, hPayer]

theorem Reachable.fundingRequestedBy (h : Reachable R G keypair history s)
    {request : FundingRequest} {record : DeviceRecord}
    (hUnforged : Unforged history s (Op.issuer (R := R) (G := G) (.fund request)))
    (hRecord : s.issuer.devices.lookup request.device = some record)
    (hSignature : record.publicKey.verify request.digest request.signature = true) :
    FundingRequestedBy history request := by
  obtain ⟨certificate, request', hMem, -, hContent⟩ :=
    h.enrolled.fundingRequested hUnforged hRecord hSignature
  obtain ⟨hDevice, hAmount, hNonce⟩ := Content.fundingRequest.inj hContent
  obtain ⟨w₁, hWallet₁, hCertificate₁, hGenuine⟩ := h.enrolled.genuine hMem
  have hOwn : request'.device = certificate.device := hGenuine.1
  exact ⟨certificate, request', hMem, by rw [← hOwn, hDevice], hDevice, hAmount, hNonce⟩

theorem Reachable.defundedBy (h : Reachable R G keypair history s) {defunding : Defunding}
    {record : DeviceRecord}
    (hUnforged : Unforged history s (Op.issuer (R := R) (G := G) (.defund defunding)))
    (hRecord : s.issuer.devices.lookup defunding.device = some record)
    (hSignature : record.publicKey.verify defunding.digest defunding.signature = true) :
    DefundedBy history defunding := by
  obtain ⟨certificate, defunding', state, hMem, -, hContent⟩ :=
    h.enrolled.defunded hUnforged hRecord hSignature
  obtain ⟨hDevice, hAmount, hCounter⟩ := Content.defunding.inj hContent
  obtain ⟨w₁, hWallet₁, hCertificate₁, hGenuine⟩ := h.enrolled.genuine hMem
  have hOwn : defunding'.device = certificate.device := hGenuine.1
  exact ⟨certificate, defunding', state, hMem, by rw [← hOwn, hDevice], hDevice, hAmount, hCounter⟩

/-- The issuer took the amount of a request out of the device's account, and the
device had made this request before. -/
def AccountDebited (R G : Type) [Rng R] [Rng G] (keypair : Keypair) (history : List Event)
    (funding : Funding) : Prop :=
  ∃ account request funding' older, ∃ s₁ : System R,
    (.issuer (.funded account request funding') :: older) <:+ history ∧
      Reachable R G keypair older s₁ ∧
      (request.device = funding.device ∧ request.amountCents = funding.amountCents ∧
        request.nonce = funding.nonce) ∧
      FundingRequestedBy older request ∧
      s₁.issuer.accountOf request.device = some account ∧
      ∃ balance remaining, s₁.issuer.balanceOf account = some balance ∧
        (s₁.issuer.fund request).2.balanceOf account = some remaining ∧
        remaining.toNat + funding.amountCents.toNat = balance.toNat

theorem Reachable.accountDebited (h : Reachable R G keypair history s) {device : DeviceId}
    {funding : Funding} {w w' : Wallet R}
    (hUnforged : Unforged history s (Op.wallet (R := R) (G := G) device (.applyFunding funding)))
    (hWallet : s.wallets.lookup device = some w)
    (hStep : Wallet.Step w (.applyFunding funding) (.applied funding) w') :
    AccountDebited R G keypair history funding := by
  have hIssuer : w.issuer = s.issuer.publicKey := by
    rw [(h.enrolled.wallet_of hWallet).issuer_eq, h.enrolled.publicKey_eq]
  cases hStep with
  | applyFunding _ _ hSignature _ _ =>
    rw [hIssuer] at hSignature
    obtain ⟨account, request, funding', hMem, hContent⟩ := hUnforged.funded hSignature
    have hAnswers := (Issuer.funded_content h.enrolled.issuer_run (mem_issuerEvents.mpr hMem)).1
    rw [hContent] at hAnswers
    obtain ⟨hDevice, hAmount, hNonce⟩ := Content.funding.inj hAnswers
    -- go back to the call that signed the funding
    obtain ⟨older, s₁, op, issuer', hSuffix, hOlder, hRequestUnforged, hIssuerStep⟩ :=
      h.issuer_call hMem
    cases hIssuerStep with
    | fund _ record balance hRecord hRequestSignature hPos hNew hAccount hFunds =>
      have hEq := Issuer.fund_eq hRecord hRequestSignature hPos hNew hAccount hFunds
      obtain ⟨account', balance', remaining, hOf, hBefore, hAfter, hSum, -⟩ :=
        Issuer.fund_debits (congrArg Prod.fst hEq)
      rw [Issuer.accountOf_eq hRecord, Option.some.injEq] at hOf
      subst hOf
      refine ⟨_, request, _, older, s₁, hSuffix, hOlder,
        ⟨hDevice.symm, hAmount.symm, hNonce.symm⟩,
        hOlder.fundingRequestedBy hRequestUnforged hRecord hRequestSignature,
        Issuer.accountOf_eq hRecord, balance', remaining, hBefore, hAfter, ?_⟩
      rw [hAmount]
      exact hSum

/-- **What is credited was signed**, with the same fields. -/
theorem credited_subset_signed (h : Reachable R G keypair history s) :
    credited history ⊆ signed history := by
  refine covers.induction (P := fun history _ => credited history ⊆ signed history) h
    (List.Subset.refl _) ?_
  intro history s op e s' hReach hEnvironment ih hStep
  have hUnforged := hEnvironment.unforged
  -- what was signed stays signed
  have hGrows : signed history ⊆ signed (e :: history) :=
    fun m hMem => List.mem_filterMap.mpr (by
      obtain ⟨e', hEvent, hSends⟩ := List.mem_filterMap.mp hMem
      exact ⟨e', List.mem_cons_of_mem e hEvent, hSends⟩)
  have hCredit : ∀ m, m ∈ signed history → m :: credited history ⊆ signed (e :: history) := by
    intro m hSigned m' hMem
    rcases List.mem_cons.mp hMem with rfl | hOld
    · exact hGrows hSigned
    · exact hGrows (ih hOld)
  cases hStep with
  | issuer hStep =>
    cases hStep with
    | openAccount | certifyDevice | fund => exact fun m hMem => hGrows (ih hMem)
    | defund defunding record balance hRecord hSignature _ _ =>
      obtain ⟨certificate, defunding', state, hMem, -, hContent⟩ :=
        (Reachable.enrolled hReach).defunded hUnforged hRecord hSignature
      refine hCredit _ (List.mem_filterMap.mpr ⟨_, hMem, ?_⟩)
      exact congrArg some hContent
  | install => exact fun m hMem => hGrows (ih hMem)
  | @wallet device w w' op e hWallet hStep =>
    have hIssuer : w.issuer = s.issuer.publicKey := by
      rw [((Reachable.enrolled hReach).wallet_of hWallet).issuer_eq,
        (Reachable.enrolled hReach).publicKey_eq]
    cases hStep with
    | receive transfer _ hCertificate hSignature _ _ =>
      rw [hIssuer] at hCertificate
      obtain ⟨certificate, request, transfer', state, hMem, -, hContent⟩ :=
        hUnforged.paid hCertificate hSignature
      refine hCredit _ (List.mem_filterMap.mpr ⟨_, hMem, ?_⟩)
      exact congrArg some hContent
    | applyFunding funding _ hSignature _ _ =>
      rw [hIssuer] at hSignature
      obtain ⟨account, request, funding', hMem, hContent⟩ := hUnforged.funded hSignature
      refine hCredit _ (List.mem_filterMap.mpr ⟨_, hMem, ?_⟩)
      exact congrArg some hContent
    | _ => exact fun m hMem => hGrows (ih hMem)

-- ---------------------------------------------------------------------------
-- Agreement
-- ---------------------------------------------------------------------------

/-- **Injective agreement.** In every state of a run in which signatures cannot be
forged, whatever happened before:

* an element that accepts a transfer has a request open with this nonce and
  amount, and the certified device the transfer names as payer signed it;
* an element that accepts a funding had asked for it, and the issuer took exactly
  this amount out of its account for that request;
* a device whose funding request or defunding the issuer accepts had made it;
* and no message is credited twice. -/
theorem agreement (h : Reachable R G keypair history s) :
    (∀ device w transfer amountCents, s.wallets.lookup device = some w →
        Unforged history s (Op.wallet (R := R) (G := G) device (.receive transfer)) →
        (w.receive transfer).1 = .ok amountCents →
          transfer.payee = device ∧ transfer.amountCents = amountCents ∧
            Wallet.OpenRequest (localEvents device history) transfer.nonce amountCents ∧
            PaidBy history transfer ∧ transfer.content ∉ credited history) ∧
      (∀ device w funding amountCents, s.wallets.lookup device = some w →
        Unforged history s (Op.wallet (R := R) (G := G) device (.applyFunding funding)) →
        (w.applyFunding funding).1 = .ok amountCents →
          funding.device = device ∧ funding.amountCents = amountCents ∧
            Wallet.OpenFunding (localEvents device history) funding.nonce amountCents ∧
            AccountDebited R G keypair history funding ∧ funding.content ∉ credited history) ∧
      (∀ request funding,
        Unforged history s (Op.issuer (R := R) (G := G) (.fund request)) →
        (s.issuer.fund request).1 = .ok funding →
          FundingRequestedBy history request ∧
            (request.device, request.nonce) ∉ Issuer.fundedKeys (issuerEvents history)) ∧
      (∀ defunding amountCents,
        Unforged history s (Op.issuer (R := R) (G := G) (.defund defunding)) →
        (s.issuer.defund defunding).1 = .ok amountCents →
          defunding.amountCents = amountCents ∧ DefundedBy history defunding ∧
            defunding.content ∉ credited history) ∧
      (credited history).Nodup ∧ credited history ⊆ signed history := by
  have hEnrolled := h.enrolled
  refine ⟨?_, ?_, ?_, ?_, credited_nodup hEnrolled, credited_subset_signed h⟩
  · intro device w transfer amountCents hWallet hUnforged hOk
    obtain ⟨hStep, rfl⟩ := Wallet.receive_ok hOk
    have hOf := hEnrolled.wallet_of hWallet
    obtain ⟨rng, hRun⟩ := hOf.run
    have hPaid := h.paidBy hUnforged hWallet hStep
    generalize (w.receive transfer).2 = w' at hStep
    cases hStep with
    | receive _ hPayee _ _ hNew hOpen =>
      refine ⟨?_, rfl, Wallet.requested_of_incoming hRun hOpen, hPaid,
        hEnrolled.transfer_new hWallet hPayee hNew⟩
      rw [hPayee, Wallet.device, hOf.device_eq]
  · intro device w funding amountCents hWallet hUnforged hOk
    obtain ⟨hStep, rfl⟩ := Wallet.applyFunding_ok hOk
    have hOf := hEnrolled.wallet_of hWallet
    obtain ⟨rng, hRun⟩ := hOf.run
    have hDebited := h.accountDebited hUnforged hWallet hStep
    generalize (w.applyFunding funding).2 = w' at hStep
    cases hStep with
    | applyFunding _ hDevice _ hNew hOpen =>
      refine ⟨?_, rfl, Wallet.requested_of_pendingFunding hRun hOpen, hDebited,
        hEnrolled.funding_new hWallet hDevice hNew⟩
      rw [hDevice, Wallet.device, hOf.device_eq]
  · intro request funding hUnforged hOk
    rcases s.issuer.fund_cases request with
      ⟨error, hError⟩ | ⟨record, balance, hRecord, hSignature, -, hNew, -, -⟩
    · rw [hError] at hOk
      exact absurd hOk (by simp)
    · refine ⟨h.fundingRequestedBy hUnforged hRecord hSignature, fun hMem => hNew ?_⟩
      exact (Issuer.mem_fundedKeys hEnrolled.issuer_run _).mp hMem
  · intro defunding amountCents hUnforged hOk
    rcases s.issuer.defund_cases defunding with
      ⟨error, hError⟩ | ⟨record, balance, hRecord, hSignature, hNew, hAccount⟩
    · rw [hError] at hOk
      exact absurd hOk (by simp)
    · rw [Issuer.defund_eq hRecord hSignature hNew hAccount, Except.ok.injEq] at hOk
      exact ⟨hOk, h.defundedBy hUnforged hRecord hSignature,
        hEnrolled.defunding_new hRecord hNew⟩

end System

section Sample

open scoped Fips

/-- The second sample device accepts the payment of the first. -/
theorem agreement_sample :
    (samplePayee.receive sampleTransfer).1 = .ok 300 ∧
      Wallet.OpenRequest (System.localEvents (sampleDevice 2) samplePaidHistory) sampleNonce 300 ∧
      System.PaidBy samplePaidHistory sampleTransfer := by
  obtain ⟨-, -, hOpen, hPaid, -⟩ := (System.agreement samplePaid_reachable).1 (sampleDevice 2)
    samplePayee sampleTransfer 300 samplePaid_payee samplePaid_unforged samplePaid_receive
  exact ⟨samplePaid_receive, hOpen, hPaid⟩

end Sample

end DigitalEuro
