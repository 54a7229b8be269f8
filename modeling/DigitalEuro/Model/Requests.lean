import DigitalEuro.Model.Payer
import DigitalEuro.Model.Runs

/-!
# Digital euro — paying a request nobody made

A funding request is signed, "so the issuer knows the request came from the element
that holds the reservation". A payment request is not: it carries the payee's
certificate, which is public, and `Wallet::pay` checks nothing that ties amount and
nonce to that certificate. So an altered request is paid like a genuine one, and no
element has reserved room for what was debited.

* `pays_issued_iff` — a run pays only requests that the named device issued if and
  only if every other request it is given fails one of the checks of `pay`;
* `alteredRequest_paid` — a request altered on its way is paid.
-/

namespace DigitalEuro

namespace System

/-- The device a request names has issued a request with this amount and nonce. -/
def Issued (history : List Event) (request : PaymentRequest) : Prop :=
  ∃ request', .requested request' ∈ localEvents request.payee.device history ∧
    request'.amountCents = request.amountCents ∧ request'.nonce = request.nonce

variable [Sha256] {R G : Type} [Rng R] [Rng G]

/-- A run pays only issued requests: whatever was paid had been issued, and a call
that presents anything else is refused and debits nothing. -/
structure PaysIssued (start : System R) (ops : List (Op R G)) : Prop where
  issued : ∀ {older certificate request transfer state},
    (.wallet certificate (.paid request transfer state) :: older) <:+
      (Machine.run exec start ops).1 → Issued older request
  refused : ∀ before device request after w,
    ops = before ++ .wallet device (.pay request) :: after →
    (Machine.run exec start before).2.wallets.lookup device = some w →
    ¬ Issued (Machine.run exec start before).1 request →
      (∃ error, (w.pay request).1 = .error error) ∧
        (w.pay request).2.balanceCents = w.balanceCents

/-- An element is given a request that its named device has not issued, with a
certificate that verifies, for another device, and with an amount that is positive
and covered by the balance. -/
def AlteredPayable (start : System R) (ops : List (Op R G)) : Prop :=
  ∃ before device request after w,
    ops = before ++ .wallet device (.pay request) :: after ∧
    (Machine.run exec start before).2.wallets.lookup device = some w ∧
    ¬ Issued (Machine.run exec start before).1 request ∧ w.Payable request

theorem not_paysIssued_of_alteredPayable {start : System R} {ops : List (Op R G)}
    (h : AlteredPayable start ops) : ¬ PaysIssued start ops := by
  intro hIssued
  obtain ⟨before, device, request, after, w, hSplit, hWallet, hNot, hPayable⟩ := h
  obtain ⟨⟨error, hError⟩, -⟩ := hIssued.refused before device request after w hSplit hWallet hNot
  obtain ⟨hCertificate, hOther, hPos, hFunds⟩ := hPayable
  rw [Wallet.pay_eq hCertificate hOther hPos hFunds] at hError
  exact absurd hError (by simp)

/-- What was paid had been issued, when nothing else was payable. -/
theorem issued_of_paid {start : System R} {ops : List (Op R G)}
    (h : ¬ AlteredPayable start ops) :
    ∀ {older certificate request transfer state},
      (.wallet certificate (.paid request transfer state) :: older) <:+
        (Machine.run exec start ops).1 → Issued older request := by
  induction ops using List.reverseRecOn with
  | nil =>
    intro older certificate request transfer state hSuffix
    exact absurd (List.suffix_nil.mp hSuffix) (List.cons_ne_nil _ _)
  | append_singleton before op ih =>
    have hBefore : ¬ AlteredPayable start before := by
      rintro ⟨before', device, request, after, w, hSplit, hAltered⟩
      exact h ⟨before', device, request, after ++ [op], w, by rw [hSplit]; simp, hAltered⟩
    intro older certificate request transfer state hSuffix
    rw [Machine.run_append_singleton] at hSuffix
    cases hEvent : (exec (Machine.run exec start before).2 op).1 with
    | none =>
      rw [hEvent, Machine.record_none] at hSuffix
      exact ih hBefore hSuffix
    | some e =>
      rw [hEvent, Machine.record_some] at hSuffix
      rcases List.suffix_cons_iff.mp hSuffix with hNew | hOld
      · obtain ⟨rfl, rfl⟩ := List.cons.inj hNew
        have hStep := covers.step hEvent
        generalize (exec (Machine.run exec start before).2 op).2 = s' at hStep
        cases hStep with
        | @wallet device w w' op _ hWallet hStep =>
          cases hStep with
          | pay _ hCertificate hOther hPos hFunds =>
            by_contra hNot
            exact h ⟨before, device, request, [], w, rfl, hWallet, hNot, hCertificate, hOther,
              hPos, hFunds⟩
      · exact ih hBefore hOld

/-- **When a run pays only requests that were issued.** Exactly when every request
it is given that the named device has not issued fails one of the checks of `pay`:
its certificate does not verify, or names the payer itself, or its amount is zero or
above the balance. -/
theorem pays_issued_iff (start : System R) (ops : List (Op R G)) :
    PaysIssued start ops ↔ ¬ AlteredPayable start ops := by
  constructor
  · exact fun hIssued hAltered => not_paysIssued_of_alteredPayable hAltered hIssued
  · intro hAltered
    refine ⟨issued_of_paid hAltered, fun before device request after w hSplit hWallet hNot => ?_⟩
    have hNotPayable : ¬ w.Payable request := fun hPayable =>
      hAltered ⟨before, device, request, after, w, hSplit, hWallet, hNot, hPayable⟩
    obtain ⟨error, hEq⟩ := Wallet.pay_of_not_payable hNotPayable
    rw [hEq]
    exact ⟨⟨error, rfl⟩, rfl⟩

end System

-- ---------------------------------------------------------------------------
-- A request altered on its way
-- ---------------------------------------------------------------------------

section Sample

open scoped Fips

/-- The request of the second sample device, with 4 € instead of 3 €. -/
def alteredRequest : PaymentRequest := { sampleRequest with amountCents := 400 }

/-- The first sample element is sealed and pays the altered request, although the
second element only ever asked for 3 €. -/
theorem alteredRequest_paid :
    System.Reachable CountingRng CountingRng issuerKeys samplePaidHistory samplePaid ∧
      (∀ certificate, .wallet certificate .cracked ∉ samplePaidHistory) ∧
      System.Unforged samplePaidHistory samplePaid
        (System.Op.wallet (R := CountingRng) (G := CountingRng) (sampleDevice 1)
          (.pay alteredRequest)) ∧
      samplePaid.wallets.lookup (sampleDevice 1) = some (sampleFunded.debited 300) ∧
      (((sampleFunded.debited 300).pay alteredRequest).1 =
        .ok ((sampleFunded.debited 300).transferFor alteredRequest)) ∧
      ¬ System.Issued samplePaidHistory alteredRequest := by
  refine ⟨samplePaid_reachable, ?_, ?_, samplePaid_alice, ?_, ?_⟩
  · intro certificate hMem
    simp [samplePaidHistory, sampleHistory] at hMem
  · refine System.unforged_of_signed fun p hp => ?_
    obtain rfl := List.mem_singleton.mp hp
    refine ⟨.issuer (.certified sampleAccount (sampleCertificate bakeryKeys 2)), ?_, rfl⟩
    simp [samplePaidHistory, sampleHistory]
  · have hPay : (sampleFunded.debited 300).pay alteredRequest = _ := Wallet.pay_eq
      (issuerKeys_generated.verify_certify ..) sampleDevice_ne (show (400 : UInt64) ≠ 0 by decide)
      (show (400 : UInt64) ≤ 1000 - 300 by decide)
    rw [hPay]
  · rintro ⟨request', hRequested, hAmount, -⟩
    obtain ⟨certificate, -, hMem⟩ := System.exists_of_mem_localEvents hRequested
    simp [samplePaidHistory, sampleHistory] at hMem
    obtain ⟨-, rfl⟩ := hMem
    exact absurd hAmount (show (300 : UInt64) ≠ 400 by decide)

end Sample

end DigitalEuro
