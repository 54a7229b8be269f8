import DigitalEuro.Model.Conservation

/-!
# Digital euro — once the payer has paid, the credit cannot fail

The payee reserves room when it issues a request and the payer checks everything
before it debits itself. So a transfer that answers an open request passes all six
checks of `receive`, whatever the payee has done in the meantime; and likewise for
a funding the issuer has signed.

Here nonces do not repeat on one element. Nothing is assumed about signatures of
others: messages may even be forged.

* `WalletOf.receive_ok`, `WalletOf.applyFunding_ok` — the checks, one by one;
* `credit_cannot_fail` — both, in every state reached after the debit.
-/

namespace DigitalEuro

namespace System

variable [Sha256] {R G : Type} [Rng R] [Rng G] {keypair : Keypair} {history : List Event}
  {s : System R}

theorem WalletOf.genuine {device : DeviceId} {w : Wallet R}
    (h : WalletOf keypair history device w) {e : Wallet.Event}
    (hMem : e ∈ localEvents device history) :
    e.Genuine w.certificate w.keypair keypair.publicKey := by
  obtain ⟨rng, hRun⟩ := h.run
  exact Wallet.genuine_of_mem hRun hMem

/-- The device of an event is installed. -/
theorem Enrolled.wallet_of_event (h : Enrolled R G keypair history s) {device : DeviceId}
    {e : Wallet.Event} (hMem : e ∈ localEvents device history) :
    ∃ w, s.wallets.lookup device = some w := by
  cases hWallet : s.wallets.lookup device with
  | some w => exact ⟨w, rfl⟩
  | none =>
    rw [h.installed.silent hWallet] at hMem
    exact absurd hMem List.not_mem_nil

/-- The checks of `receive`, for the transfer that answers an open request. -/
theorem WalletOf.receive_ok {payee payer : DeviceId} {w w₁ : Wallet R}
    (h : WalletOf keypair history payee w) (hPayer : WalletOf keypair history payer w₁)
    (hFresh : (Wallet.drawnNonces (localEvents payee history)).Nodup)
    {request : PaymentRequest} {transfer : Transfer} {state : ElementState}
    (hRequested : .requested request ∈ localEvents payee history)
    (hPaid : .paid request transfer state ∈ localEvents payer history)
    (hNotCancelled : .requestCancelled request.nonce ∉ localEvents payee history)
    (hNotReceived : ∀ transfer', .received transfer' ∈ localEvents payee history →
      transfer'.nonce ≠ request.nonce) :
    (w.receive transfer).1 = .ok request.amountCents := by
  obtain ⟨rng, hRun⟩ := h.run
  have hIssued : request.payee = w.certificate := h.genuine hRequested
  obtain ⟨-, hPayerCertificate, hPayee, hAmount, hNonce, hSigned⟩ := hPayer.genuine hPaid
  obtain ⟨hOpen, hNew⟩ :=
    Wallet.incoming_of_requested hRun hFresh hRequested hNotCancelled hNotReceived
  -- the message names this device
  have hDevice : transfer.payee = w.device := by
    rw [hPayee, hIssued, Wallet.device]
  -- the payer's certificate passed `Wallet::new` under the same issuer's key
  have hCertificate : transfer.payer.verify w.issuer = true := by
    rw [hPayerCertificate, h.issuer_eq]
    exact hPayer.verifies
  -- the payer signed with the key of this certificate
  have hSignature :
      transfer.payer.publicKey.verify transfer.digest transfer.signature = true := by
    rw [hPayerCertificate, hPayer.publicKey_eq, hSigned]
    exact hPayer.generated.verify_sign transfer.digest
  rw [← hNonce] at hOpen hNew
  rw [← hAmount] at hOpen ⊢
  rw [Wallet.receive_eq hDevice hCertificate hSignature hNew hOpen]

/-- The checks of `apply_funding`, for the funding that answers an open request. -/
theorem WalletOf.applyFunding_ok {device : DeviceId} {w : Wallet R}
    (h : WalletOf keypair history device w) (hIssuer : keypair.Generated)
    (hFresh : (Wallet.drawnNonces (localEvents device history)).Nodup)
    {request : FundingRequest} {funding : Funding}
    (hRequested : .fundingRequested request ∈ localEvents device history)
    (hContent : funding.content = .funding request.device request.amountCents request.nonce)
    (hSigned : funding.signature = keypair.sign funding.digest)
    (hNotCancelled : .fundingCancelled request.nonce ∉ localEvents device history)
    (hNotApplied : .applied funding ∉ localEvents device history) :
    (w.applyFunding funding).1 = .ok request.amountCents := by
  obtain ⟨rng, hRun⟩ := h.run
  obtain ⟨hRequestDevice, -⟩ := h.genuine hRequested
  obtain ⟨hDevice, hAmount, hNonce⟩ := Content.funding.inj hContent
  -- another funding with this nonce would be this funding: it has the amount of the
  -- one request with this nonce, and a content has one signature
  have hNone : ∀ funding', .applied funding' ∈ localEvents device history →
      funding'.nonce ≠ request.nonce := by
    intro funding' hApplied hSameNonce
    obtain ⟨request', hRequested', hNonce', hAmount'⟩ :=
      Wallet.fundingRequested_of_applied hRun hApplied
    have hSame := Wallet.eq_of_drawn hFresh hRequested hRequested' rfl
      (congrArg some (hNonce'.trans hSameNonce))
    obtain rfl := Wallet.Event.fundingRequested.inj hSame
    obtain ⟨hOwnDevice, hVerify⟩ := h.genuine hApplied
    have hSameContent : funding'.content = funding.content := by
      rw [hContent, Funding.content, hSameNonce, ← hAmount', hOwnDevice, hRequestDevice]
    have hSignature : funding'.signature = funding.signature := by
      rw [(hIssuer.verify_iff _ _).mp hVerify, hSigned, funding'.digest_eq, funding.digest_eq,
        hSameContent]
    have hEqual : funding' = funding := by
      obtain ⟨hD, hA, hN⟩ := Content.funding.inj hSameContent
      cases funding'
      cases funding
      simp only [Funding.mk.injEq]
      exact ⟨hD, hA, hN, hSignature⟩
    rw [hEqual] at hApplied
    exact hNotApplied hApplied
  obtain ⟨hOpen, hNew⟩ :=
    Wallet.pendingFunding_of_requested hRun hFresh hRequested hNotCancelled hNone
  have hOwn : funding.device = w.device := by
    rw [hDevice, hRequestDevice, Wallet.device]
  have hVerify : w.issuer.verify funding.digest funding.signature = true := by
    rw [h.issuer_eq, hSigned]
    exact hIssuer.verify_sign funding.digest
  rw [← hNonce] at hOpen hNew
  rw [← hAmount] at hOpen ⊢
  rw [Wallet.applyFunding_eq hOwn hVerify hNew hOpen]

/-- **Once the other side has debited, the credit cannot fail.** In every state
reached after an element has requested a payment and another has paid it, or after
an element has requested a funding and the issuer has signed it: as long as the
request was not cancelled and its nonce not credited, `receive` and `apply_funding`
credit exactly the amount requested. -/
theorem credit_cannot_fail (h : Enrolled R G keypair history s) (hIssuer : keypair.Generated) :
    (∀ payee payer w request transfer state, s.wallets.lookup payee = some w →
        (Wallet.drawnNonces (localEvents payee history)).Nodup →
        .requested request ∈ localEvents payee history →
        .paid request transfer state ∈ localEvents payer history →
        .requestCancelled request.nonce ∉ localEvents payee history →
        (∀ transfer', .received transfer' ∈ localEvents payee history →
          transfer'.nonce ≠ request.nonce) →
          (w.receive transfer).1 = .ok request.amountCents) ∧
      ∀ device w account request funding, s.wallets.lookup device = some w →
        (Wallet.drawnNonces (localEvents device history)).Nodup →
        .fundingRequested request ∈ localEvents device history →
        .issuer (.funded account request funding) ∈ history →
        .fundingCancelled request.nonce ∉ localEvents device history →
        .applied funding ∉ localEvents device history →
          (w.applyFunding funding).1 = .ok request.amountCents := by
  constructor
  · intro payee payer w request transfer state hWallet hFresh hRequested hPaid hNotCancelled
      hNotReceived
    obtain ⟨w₁, hWallet₁⟩ := h.wallet_of_event hPaid
    exact (h.wallet_of hWallet).receive_ok (h.wallet_of hWallet₁) hFresh hRequested hPaid
      hNotCancelled hNotReceived
  · intro device w account request funding hWallet hFresh hRequested hFunded hNotCancelled
      hNotApplied
    obtain ⟨hContent, hSigned⟩ :=
      Issuer.funded_content h.issuer_run (mem_issuerEvents.mpr hFunded)
    exact (h.wallet_of hWallet).applyFunding_ok hIssuer hFresh hRequested hContent hSigned
      hNotCancelled hNotApplied

end System

section Sample

open scoped Fips

/-- A payment on its way is accepted, and so is a funding. -/
theorem credit_cannot_fail_sample :
    (.requested sampleRequest ∈ System.localEvents (sampleDevice 2) samplePaidHistory ∧
      .paid sampleRequest sampleTransfer .sealed ∈
        System.localEvents (sampleDevice 1) samplePaidHistory ∧
      (samplePayee.receive sampleTransfer).1 = .ok 300) ∧
    .fundingRequested sampleFundingRequest ∈
        System.localEvents (sampleDevice 1) sampleGrantedHistory ∧
      .issuer (.funded sampleAccount sampleFundingRequest sampleFunding) ∈ sampleGrantedHistory ∧
      (sampleAsked.applyFunding sampleFunding).1 = .ok 1000 := by
  have hAlice : (sampleCertificate aliceKeys 1).device ≠ sampleDevice 2 := sampleDevice_ne.symm
  have hPayee : System.localEvents (sampleDevice 2) samplePaidHistory =
      [.requested sampleRequest] := by
    have hBakery : (sampleCertificate bakeryKeys 2).device = sampleDevice 2 := rfl
    simp only [samplePaidHistory, List.cons_append, System.localEvents_wallet_ne hAlice,
      System.localEvents_wallet hBakery, System.localEvents_issuer]
    rfl
  have hPayer : System.localEvents (sampleDevice 1) sampleGrantedHistory =
      [.fundingRequested sampleFundingRequest] := by
    have hOwn : (sampleCertificate aliceKeys 1).device = sampleDevice 1 := rfl
    simp only [sampleGrantedHistory, List.cons_append, System.localEvents_wallet hOwn,
      System.localEvents_issuer]
    rfl
  constructor
  · have hPaid : .paid sampleRequest sampleTransfer .sealed ∈
        System.localEvents (sampleDevice 1) samplePaidHistory := by
      have hEvent : System.Event.wallet (sampleCertificate aliceKeys 1)
          (.paid sampleRequest sampleTransfer .sealed) ∈ samplePaidHistory := List.mem_cons_self
      exact System.mem_localEvents hEvent
    have hRequested :
        .requested sampleRequest ∈ System.localEvents (sampleDevice 2) samplePaidHistory := by
      rw [hPayee]
      exact List.mem_cons_self
    refine ⟨hRequested, hPaid, ?_⟩
    refine (System.credit_cannot_fail samplePaid_reachable.enrolled issuerKeys_generated).1
      (sampleDevice 2) (sampleDevice 1) samplePayee sampleRequest sampleTransfer .sealed
      samplePaid_payee ?_ hRequested hPaid ?_ ?_
    all_goals rw [hPayee]
    · decide
    · decide
    · simp
  · have hRequested : .fundingRequested sampleFundingRequest ∈
        System.localEvents (sampleDevice 1) sampleGrantedHistory := by
      rw [hPayer]
      exact List.mem_cons_self
    refine ⟨hRequested, List.mem_cons_self, ?_⟩
    refine (System.credit_cannot_fail sampleGranted_reachable.enrolled issuerKeys_generated).2
      (sampleDevice 1) sampleAsked sampleAccount sampleFundingRequest sampleFunding
      sampleGranted_alice ?_ hRequested List.mem_cons_self ?_ ?_
    all_goals rw [hPayer]
    · decide
    · decide
    · simp

end Sample

end DigitalEuro
