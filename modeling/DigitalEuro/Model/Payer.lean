import DigitalEuro.Model.HoldingLimit

/-!
# Digital euro — paying a request more than once

The payee credits a nonce once, and the issuer refuses a funding request it has
already answered. The payer's element keeps no such record: `Wallet::pay` checks
the payee's certificate, that the payee is another device, and the amount, and
nothing about earlier payments. A request that is delivered again is paid again,
and the second transfer can never be credited.

* `exec_pay` — a call of `pay` succeeds exactly on a `Payable` request;
* `pays_once_iff` — a run debits at most once per request if and only if no
  request already paid is delivered again while it is still payable.
-/

namespace DigitalEuro

/-- What identifies a payment request for its payee. -/
def PaymentRequest.key (request : PaymentRequest) : DeviceId × Nonce :=
  (request.payee.device, request.nonce)

namespace Wallet

variable [Sha256] {R : Type} [Rng R]

/-- The request an event paid. -/
def Event.paidKey : Event → Option (DeviceId × Nonce)
  | .paid request _ _ => some request.key
  | _ => none

/-- The requests a history paid, each as often as it was paid. -/
def paidKeys (history : List Event) : List (DeviceId × Nonce) :=
  history.filterMap Event.paidKey

/-- The requests `pay` does not refuse: a genuine certificate of another device,
and an amount that is positive and covered by the balance. -/
def Payable (w : Wallet R) (request : PaymentRequest) : Prop :=
  request.payee.verify w.issuer = true ∧ request.payee.device ≠ w.device ∧
    request.amountCents ≠ 0 ∧ request.amountCents ≤ w.balanceCents

omit [Rng R] in
instance (w : Wallet R) (request : PaymentRequest) : Decidable (w.Payable request) :=
  inferInstanceAs (Decidable (_ ∧ _ ∧ _ ∧ _))

omit [Rng R] in
theorem pay_of_not_payable {w : Wallet R} {request : PaymentRequest}
    (h : ¬ w.Payable request) : ∃ error, w.pay request = (.error error, w) := by
  by_cases hCertificate : request.payee.verify w.issuer = true
  case neg => exact ⟨.invalidCertificate, by simp [pay, hCertificate]⟩
  by_cases hOther : request.payee.device = w.device
  case pos => exact ⟨.selfPayment, by simp [pay, hCertificate, hOther]⟩
  rcases w.debit_cases request.amountCents with ⟨error, hError⟩ | ⟨hPos, hFunds⟩
  · exact ⟨error, by simp [pay, hCertificate, hOther, hError]⟩
  · exact absurd ⟨hCertificate, hOther, hPos, hFunds⟩ h

/-- `pay` answers a payable request, whatever was paid before. -/
theorem exec_pay {w : Wallet R} {request : PaymentRequest} (h : w.Payable request) :
    w.exec (.pay request) =
      (some (.paid request (w.transferFor request) w.state), w.debited request.amountCents) := by
  obtain ⟨hCertificate, hOther, hPos, hFunds⟩ := h
  exact (Step.pay request hCertificate hOther hPos hFunds).exec_eq

/-- Only `pay` adds to the requests paid. -/
theorem paidKeys_record {w : Wallet R} {history : List Event} {op : Op}
    (h : ∀ request, op = .pay request → ¬ w.Payable request) :
    paidKeys (Machine.record (w.exec op).1 history) = paidKeys history := by
  rcases w.exec_cases op with hRefused | ⟨e, w', hEq, hStep⟩
  · rw [hRefused, Machine.record_none]
  · rw [hEq, Machine.record_some]
    cases hStep with
    | pay request hCertificate hOther hPos hFunds =>
      exact absurd ⟨hCertificate, hOther, hPos, hFunds⟩ (h request rfl)
    | _ => rfl

theorem paidKeys_pay {w : Wallet R} {history : List Event} {request : PaymentRequest}
    (h : w.Payable request) :
    paidKeys (Machine.record (w.exec (.pay request)).1 history) =
      request.key :: paidKeys history := by
  rw [exec_pay h, Machine.record_some]
  rfl

/-- A run debits at most once per request: no request is paid twice, and a call
that presents a request already paid is refused and debits nothing. -/
structure PaysOnce (start : Wallet R) (ops : List Op) : Prop where
  once : (paidKeys (Machine.run exec start ops).1).Nodup
  refused : ∀ before request after, ops = before ++ .pay request :: after →
    request.key ∈ paidKeys (Machine.run exec start before).1 →
    (∃ error, ((Machine.run exec start before).2.pay request).1 = .error error) ∧
      ((Machine.run exec start before).2.pay request).2.balanceCents =
        (Machine.run exec start before).2.balanceCents

/-- A request already paid is delivered again while the wallet would still pay
it. -/
def PaidAgain (start : Wallet R) (ops : List Op) : Prop :=
  ∃ before request after, ops = before ++ .pay request :: after ∧
    request.key ∈ paidKeys (Machine.run exec start before).1 ∧
    (Machine.run exec start before).2.Payable request

theorem not_paysOnce_of_paidAgain {start : Wallet R} {ops : List Op}
    (h : PaidAgain start ops) : ¬ PaysOnce start ops := by
  intro hOnce
  obtain ⟨before, request, after, hSplit, hPaid, hPayable⟩ := h
  obtain ⟨⟨error, hError⟩, -⟩ := hOnce.refused before request after hSplit hPaid
  obtain ⟨hCertificate, hOther, hPos, hFunds⟩ := hPayable
  rw [pay_eq hCertificate hOther hPos hFunds] at hError
  exact absurd hError (by simp)

/-- Paying a request for the first time keeps the paid requests distinct. -/
theorem paidKeys_nodup {start : Wallet R} {ops : List Op} (h : ¬ PaidAgain start ops) :
    (paidKeys (Machine.run exec start ops).1).Nodup := by
  induction ops using List.reverseRecOn with
  | nil => exact List.nodup_nil
  | append_singleton before op ih =>
    have hBefore : ¬ PaidAgain start before := by
      rintro ⟨before', request, after, hSplit, hAgain⟩
      exact h ⟨before', request, after ++ [op], by rw [hSplit]; simp, hAgain⟩
    rw [Machine.run_append_singleton]
    by_cases hPay : ∃ request, op = .pay request ∧
        (Machine.run exec start before).2.Payable request
    · obtain ⟨request, rfl, hPayable⟩ := hPay
      rw [paidKeys_pay hPayable, List.nodup_cons]
      refine ⟨fun hMem => ?_, ih hBefore⟩
      exact h ⟨before, request, [], rfl, hMem, hPayable⟩
    · rw [paidKeys_record fun request hOp hPayable => hPay ⟨request, hOp, hPayable⟩]
      exact ih hBefore

/-- **When a run debits at most once per request.** Exactly when no request that
is already paid is delivered again with a certificate that verifies, for another
device, and with an amount that is positive and still covered by the balance. -/
theorem pays_once_iff (start : Wallet R) (ops : List Op) :
    PaysOnce start ops ↔ ¬ PaidAgain start ops := by
  constructor
  · exact fun hOnce hAgain => not_paysOnce_of_paidAgain hAgain hOnce
  · intro hAgain
    refine ⟨paidKeys_nodup hAgain, fun before request after hSplit hPaid => ?_⟩
    have hNot : ¬ (Machine.run exec start before).2.Payable request :=
      fun hPayable => hAgain ⟨before, request, after, hSplit, hPaid, hPayable⟩
    obtain ⟨error, hEq⟩ := pay_of_not_payable hNot
    rw [hEq]
    exact ⟨⟨error, rfl⟩, rfl⟩

end Wallet

-- ---------------------------------------------------------------------------
-- The same request delivered twice
-- ---------------------------------------------------------------------------

section Sample

open scoped Fips

/-- Funded with 10 €, the wallet pays the same request for 3 € twice. -/
def sampleDelivery : List Wallet.Op :=
  [.requestFunding 1000, .applyFunding sampleFunding, .pay sampleRequest, .pay sampleRequest]

theorem sampleDelivery_paid_twice :
    .crackSecureElement ∉ sampleDelivery ∧
      ¬ Wallet.PaysOnce (sampleWallet aliceKeys 1) sampleDelivery := by
  have hPayable : sampleFunded.Payable sampleRequest :=
    ⟨issuerKeys_generated.verify_certify .., by decide +kernel, by decide,
      show (300 : UInt64) ≤ 1000 by decide⟩
  have hRun : Machine.run Wallet.exec (sampleWallet aliceKeys 1)
      [.requestFunding 1000, .applyFunding sampleFunding, .pay sampleRequest] =
        ([.paid sampleRequest (sampleFunded.transferFor sampleRequest) .sealed,
          .applied sampleFunding, .fundingRequested sampleFundingRequest],
          sampleFunded.debited 300) := by
    simp only [Machine.run, List.foldl_cons, List.foldl_nil, sampleAsked_step.exec_eq,
      sampleFunded_step.exec_eq, Wallet.exec_pay hPayable, Machine.record_some]
    rfl
  refine ⟨by decide, Wallet.not_paysOnce_of_paidAgain
    ⟨[.requestFunding 1000, .applyFunding sampleFunding, .pay sampleRequest], sampleRequest, [],
      rfl, ?_⟩⟩
  rw [hRun]
  -- the 7 € that are left cover the request once more
  exact ⟨List.mem_cons_self, hPayable.1, hPayable.2.1, hPayable.2.2.1,
    show (300 : UInt64) ≤ 1000 - 300 by decide⟩

end Sample

end DigitalEuro
