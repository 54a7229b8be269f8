import DigitalEuro.Model.Runs

/-!
# Digital euro — a refused call changed nothing

`Wallet.covers` and `Issuer.covers` say it of the two machines, whose events tell
answered calls from refused ones. Here it is read back to the calls themselves: a
call that returns `Err` (`false`, for the two cancellations) returns the state it
was given, all of it, the counter and the RNG included.

* `refusals_atomic` — every fallible call of both parties, in any state.
-/

namespace DigitalEuro

namespace Wallet

/-- A refusal is no event. -/
theorem eventOf_error {α : Type} {result : Except Error α} {event : α → Event} {error : Error}
    (h : result = .error error) : eventOf result event = none := by
  rw [h, eventOf]

/-- A wallet call that leaves no event leaves the wallet. -/
theorem exec_refused [Sha256] {R : Type} [Rng R] {w : Wallet R} (op : Op)
    (h : (w.exec op).1 = none) : (w.exec op).2 = w :=
  covers.refused h

/-- A payment that is refused debits nothing and uses up no counter. -/
theorem pay_refused [Sha256] {R : Type} [Rng R] {w : Wallet R} {request : PaymentRequest}
    {error : Error} (h : (w.pay request).1 = .error error) : (w.pay request).2 = w :=
  exec_refused (.pay request) (eventOf_error h)

/-- Nor does a defunding. -/
theorem defund_refused [Sha256] {R : Type} [Rng R] {w : Wallet R} {amountCents : UInt64}
    {error : Error} (h : (w.defund amountCents).1 = .error error) :
    (w.defund amountCents).2 = w :=
  exec_refused (.defund amountCents) (eventOf_error h)

end Wallet

/-- A certification that is refused draws no device id. -/
theorem Issuer.certifyDevice_refused [Sha256] {G : Type} [Rng G] {issuer : Issuer}
    {account : AccountId} {publicKey : PublicKey} {limit : UInt64} {rng : G} {error : Error}
    (h : (issuer.certifyDevice account publicKey limit rng).1 = .error error) :
    (issuer.certifyDevice account publicKey limit rng).2 = (issuer, rng) := by
  unfold certifyDevice at h ⊢
  split
  · rfl
  · next hAccount =>
    rw [if_neg hAccount] at h
    exact absurd h (by simp)

/-- A funding that is refused leaves the account and the nonce alone. -/
theorem Issuer.fund_refused [Sha256] {issuer : Issuer} {request : FundingRequest} {error : Error}
    (h : (issuer.fund request).1 = .error error) : (issuer.fund request).2 = issuer := by
  rcases issuer.fund_cases request with
    ⟨error', hError⟩ | ⟨record, balance, hDevice, hSignature, hPos, hNew, hAccount, hFunds⟩
  · rw [hError]
  · rw [fund_eq hDevice hSignature hPos hNew hAccount hFunds] at h
    exact absurd h (by simp)

/-- A defunding that is refused leaves the account and the counter alone. -/
theorem Issuer.defund_refused [Sha256] {issuer : Issuer} {defunding : Defunding} {error : Error}
    (h : (issuer.defund defunding).1 = .error error) : (issuer.defund defunding).2 = issuer := by
  rcases issuer.defund_cases defunding with
    ⟨error', hError⟩ | ⟨record, balance, hDevice, hSignature, hNew, hAccount⟩
  · rw [hError]
  · rw [defund_eq hDevice hSignature hNew hAccount] at h
    exact absurd h (by simp)

/-- **Every refusal is atomic.** In any state, for any amount and any message: a
call that is refused leaves the wallet, or the issuer, exactly as it was. -/
theorem refusals_atomic [Sha256] {R G : Type} [Rng R] [Rng G] :
    (∀ w : Wallet R,
      (∀ amountCents error, (w.requestPayment amountCents).1 = .error error →
        (w.requestPayment amountCents).2 = w) ∧
      (∀ nonce, (w.cancelRequest nonce).1 = false → (w.cancelRequest nonce).2 = w) ∧
      (∀ transfer error, (w.receive transfer).1 = .error error → (w.receive transfer).2 = w) ∧
      (∀ request error, (w.pay request).1 = .error error → (w.pay request).2 = w) ∧
      (∀ amountCents error, (w.requestFunding amountCents).1 = .error error →
        (w.requestFunding amountCents).2 = w) ∧
      (∀ nonce, (w.cancelFunding nonce).1 = false → (w.cancelFunding nonce).2 = w) ∧
      (∀ funding error, (w.applyFunding funding).1 = .error error →
        (w.applyFunding funding).2 = w) ∧
      ∀ amountCents error, (w.defund amountCents).1 = .error error →
        (w.defund amountCents).2 = w) ∧
    ∀ issuer : Issuer,
      (∀ account publicKey limit (rng : G) error,
        (issuer.certifyDevice account publicKey limit rng).1 = .error error →
          (issuer.certifyDevice account publicKey limit rng).2 = (issuer, rng)) ∧
      (∀ request error, (issuer.fund request).1 = .error error →
        (issuer.fund request).2 = issuer) ∧
      ∀ defunding error, (issuer.defund defunding).1 = .error error →
        (issuer.defund defunding).2 = issuer := by
  constructor
  · intro w
    refine ⟨?_, ?_, ?_, ?_, ?_, ?_, ?_, ?_⟩
    · intro amountCents error hError
      exact Wallet.exec_refused (.requestPayment amountCents) (Wallet.eventOf_error hError)
    · intro nonce hFalse
      exact Wallet.exec_refused (.cancelRequest nonce) (by simp [Wallet.exec, hFalse])
    · intro transfer error hError
      exact Wallet.exec_refused (.receive transfer) (Wallet.eventOf_error hError)
    · intro request error hError
      exact Wallet.pay_refused hError
    · intro amountCents error hError
      exact Wallet.exec_refused (.requestFunding amountCents) (Wallet.eventOf_error hError)
    · intro nonce hFalse
      exact Wallet.exec_refused (.cancelFunding nonce) (by simp [Wallet.exec, hFalse])
    · intro funding error hError
      exact Wallet.exec_refused (.applyFunding funding) (Wallet.eventOf_error hError)
    · intro amountCents error hError
      exact Wallet.defund_refused hError
  · intro issuer
    refine ⟨?_, ?_, ?_⟩
    · exact fun _ _ _ _ _ hError => Issuer.certifyDevice_refused hError
    · exact fun _ _ hError => Issuer.fund_refused hError
    · exact fun _ _ hError => Issuer.defund_refused hError

section Sample

open scoped Fips

/-- The payer of the sample run, once it has also asked for 2 €. -/
def sampleBusy : Wallet CountingRng :=
  { sampleFunded.debited 300 with
    rng := ⟨2⟩
    incoming := (∅ : Finmap _).insert (Rng.gen (⟨1⟩ : CountingRng)).1 200 }

/-- A defunding beyond the 7 € left, a funding that was applied before, the cancellation of
a request that is not open, and a funding request the issuer has answered before. -/
theorem refusals_atomic_sample :
    sampleBusy.defund 800 = (.error (.insufficientFunds 800 700), sampleBusy) ∧
      sampleBusy.applyFunding sampleFunding = (.error .alreadyCredited, sampleBusy) ∧
      sampleBusy.cancelRequest sampleNonce = (false, sampleBusy) ∧
      samplePaid.issuer.fund sampleFundingRequest = (.error .replay, samplePaid.issuer) := by
  have hAtomic := refusals_atomic (R := CountingRng) (G := CountingRng)
  have hDefund : (sampleBusy.defund 800).1 = .error (.insufficientFunds 800 700) := rfl
  have hApplied : (sampleBusy.applyFunding sampleFunding).1 = .error .alreadyCredited := by
    have hDevice : sampleFunding.device = sampleBusy.device := rfl
    have hSigned : sampleBusy.issuer.verify sampleFunding.digest sampleFunding.signature = true :=
      issuerKeys_generated.verify_sign _
    have hCredited : sampleFunding.nonce ∈ sampleBusy.credited := Finset.mem_singleton_self _
    rw [Wallet.applyFunding, if_neg (not_not.mpr hDevice), hSigned, if_neg (by decide),
      if_pos hCredited]
  have hCancelled : (sampleBusy.cancelRequest sampleNonce).1 = false := rfl
  have hFunded : (samplePaid.issuer.fund sampleFundingRequest).1 = .error .replay := by
    have hRecord := sampleIssuer_alice
    have hNonce : (sampleFundingRequest.device, sampleFundingRequest.nonce) ∈
        samplePaid.issuer.fundingNonces := Finset.mem_insert_self _ _
    rw [Issuer.fund, show samplePaid.issuer.devices.lookup sampleFundingRequest.device = _ from
      hRecord]
    dsimp only
    rw [sampleFundingRequest_verifies, if_neg (by decide), if_neg (by decide), if_pos hNonce]
  exact ⟨Prod.ext hDefund ((hAtomic.1 sampleBusy).2.2.2.2.2.2.2 800 _ hDefund),
    Prod.ext hApplied ((hAtomic.1 sampleBusy).2.2.2.2.2.2.1 sampleFunding _ hApplied),
    Prod.ext hCancelled ((hAtomic.1 sampleBusy).2.1 sampleNonce hCancelled),
    Prod.ext hFunded ((hAtomic.2 samplePaid.issuer).2.1 sampleFundingRequest _ hFunded)⟩

end Sample

end DigitalEuro
