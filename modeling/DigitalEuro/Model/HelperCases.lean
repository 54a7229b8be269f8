import DigitalEuro.Model.Refinement

/-!
# Digital euro — the helpers, case by case

Between installed elements the signatures, certificates and counters of a helper all
check, so only amounts are left to decide what it comes to.

* `Enrolled.pay_cases`, `Reachable.fund_cases`, `Reachable.defund_cases` — what a helper
  returns and leaves, for every amount.
-/

namespace DigitalEuro

namespace System

variable [Sha256] {R G : Type} [Rng R] [Rng G] {keypair : Keypair} {history : List Event}
  {s : System R}

/-- A payment between two installed elements. -/
theorem Enrolled.pay_cases (h : Enrolled R G keypair history s) {payer payee : DeviceId}
    (hOther : payer ≠ payee) {w w' : Wallet R} (hPayer : s.wallets.lookup payer = some w)
    (hPayee : s.wallets.lookup payee = some w') (hFresh : FreshNonce history payee w')
    (amountCents : UInt64) :
    (amountCents = 0 ∧ s.pay payer payee amountCents = some (.error .zeroAmount, s)) ∨
    (amountCents ≠ 0 ∧ w'.headroom < amountCents ∧ s.pay payer payee amountCents =
      some (.error (.holdingLimitExceeded amountCents w'.headroom), s)) ∨
    (amountCents ≠ 0 ∧ amountCents ≤ w'.headroom ∧ w.balanceCents < amountCents ∧
      s.pay payer payee amountCents =
        some (.error (.insufficientFunds amountCents w.balanceCents),
          { s with
            wallets := s.wallets.insert payee { w' with rng := (Rng.gen w'.rng).2 } })) ∨
    (amountCents ≠ 0 ∧ amountCents ≤ w'.headroom ∧ amountCents ≤ w.balanceCents ∧
      s.pay payer payee amountCents =
        some (.ok amountCents,
          { s with
            wallets := (s.wallets.insert payer (w.debited amountCents)).insert payee
              (w'.credit amountCents) })) := by
  have hCan := h.canPay hOther hPayer hPayee
  obtain ⟨hIncoming, -, hNew⟩ := (h.wallet_of hPayee).untouched hFresh
  by_cases hZero : amountCents = 0
  · refine .inl ⟨hZero, ?_⟩
    simp only [System.pay, hPayer, hPayee, hZero, pay_zero, Finmap.insert_of_lookup hPayer,
      Finmap.insert_of_lookup hPayee]
  by_cases hFull : w'.headroom < amountCents
  · refine .inr (.inl ⟨hZero, hFull, ?_⟩)
    simp only [System.pay, hPayer, hPayee, pay_noRoom w w' hZero hFull,
      Finmap.insert_of_lookup hPayer, Finmap.insert_of_lookup hPayee]
  have hRoom := UInt64.not_lt.mp hFull
  by_cases hShort : w.balanceCents < amountCents
  · refine .inr (.inr (.inl ⟨hZero, hRoom, hShort, ?_⟩))
    simp only [System.pay, hPayer, hPayee, pay_noFunds hCan hZero hRoom hShort hIncoming,
      Finmap.insert_of_lookup hPayer]
  · have hFunds := UInt64.not_lt.mp hShort
    refine .inr (.inr (.inr ⟨hZero, hRoom, hFunds, ?_⟩))
    simp only [System.pay, hPayer, hPayee, pay_ok hCan hZero hRoom hFunds hIncoming hNew]

/-- A funding of an installed element. -/
theorem Reachable.fund_cases (h : Reachable R G keypair history s) (hIssuer : keypair.Generated)
    {device : DeviceId} {w : Wallet R} (hWallet : s.wallets.lookup device = some w)
    (hFresh : FreshNonce history device w) (amountCents : UInt64) :
    ∃ record balance, OnRecord w s.issuer record balance ∧
      ((amountCents = 0 ∧ s.fund device amountCents = some (.error .zeroAmount, s)) ∨
      (amountCents ≠ 0 ∧ w.headroom < amountCents ∧ s.fund device amountCents =
        some (.error (.holdingLimitExceeded amountCents w.headroom), s)) ∨
      (amountCents ≠ 0 ∧ amountCents ≤ w.headroom ∧ balance < amountCents ∧
        s.fund device amountCents =
          some (.error (.insufficientFunds amountCents balance),
            { s with
              wallets := s.wallets.insert device { w with rng := (Rng.gen w.rng).2 } })) ∨
      (amountCents ≠ 0 ∧ amountCents ≤ w.headroom ∧ amountCents ≤ balance ∧
        s.fund device amountCents =
          some (.ok amountCents,
            { issuer := s.issuer.funded (w.fundingRequestFor amountCents (Rng.gen w.rng).1)
                record.account balance
              wallets := s.wallets.insert device (w.credit amountCents) }))) := by
  obtain ⟨-, hPending, hUncredited⟩ := (h.enrolled.wallet_of hWallet).untouched hFresh
  have hNew := h.unfunded hWallet hFresh
  obtain ⟨record, balance, hOn⟩ := h.onRecord hIssuer hWallet
  refine ⟨record, balance, hOn, ?_⟩
  by_cases hZero : amountCents = 0
  · refine .inl ⟨hZero, ?_⟩
    simp only [System.fund, hWallet, hZero, fund_zero, Finmap.insert_of_lookup hWallet]
  by_cases hFull : w.headroom < amountCents
  · refine .inr (.inl ⟨hZero, hFull, ?_⟩)
    simp only [System.fund, hWallet, fund_noRoom w s.issuer hZero hFull,
      Finmap.insert_of_lookup hWallet]
  have hRoom := UInt64.not_lt.mp hFull
  by_cases hShort : balance < amountCents
  · refine .inr (.inr (.inl ⟨hZero, hRoom, hShort, ?_⟩))
    simp only [System.fund, hWallet, fund_noFunds hOn hZero hRoom hShort hPending hNew]
  · have hFunds := UInt64.not_lt.mp hShort
    refine .inr (.inr (.inr ⟨hZero, hRoom, hFunds, ?_⟩))
    simp only [System.fund, hWallet, fund_ok hOn hZero hRoom hFunds hPending hUncredited hNew]

/-- A defunding of an installed element whose counter does not wrap. -/
theorem Reachable.defund_cases (h : Reachable R G keypair history s) (hIssuer : keypair.Generated)
    {device : DeviceId} {w : Wallet R} (hWallet : s.wallets.lookup device = some w)
    (hFew : debits device history + 1 < 2 ^ 64) (amountCents : UInt64) :
    ∃ record balance, OnRecord w s.issuer record balance ∧
      record.lastDefundingCounter < w.counter + 1 ∧
      ((amountCents = 0 ∧ s.defund device amountCents = some (.error .zeroAmount, s)) ∨
      (amountCents ≠ 0 ∧ w.balanceCents < amountCents ∧ s.defund device amountCents =
        some (.error (.insufficientFunds amountCents w.balanceCents), s)) ∨
      (amountCents ≠ 0 ∧ amountCents ≤ w.balanceCents ∧ s.defund device amountCents =
        some (.ok amountCents,
          { issuer := s.issuer.defunded (w.defundingFor amountCents) record balance
            wallets := s.wallets.insert device (w.debited amountCents) }))) := by
  obtain ⟨record, balance, hOn⟩ := h.onRecord hIssuer hWallet
  have hRecord : s.issuer.devices.lookup device = some record := by
    rw [← (h.enrolled.wallet_of hWallet).device_eq]
    exact hOn.record_eq
  have hCounter := h.last_lt_next hWallet hRecord hFew
  refine ⟨record, balance, hOn, hCounter, ?_⟩
  by_cases hZero : amountCents = 0
  · refine .inl ⟨hZero, ?_⟩
    simp only [System.defund, hWallet, hZero, defund_zero, Finmap.insert_of_lookup hWallet]
  by_cases hShort : w.balanceCents < amountCents
  · refine .inr (.inl ⟨hZero, hShort, ?_⟩)
    simp only [System.defund, hWallet, defund_noFunds w s.issuer hZero hShort,
      Finmap.insert_of_lookup hWallet]
  · have hFunds := UInt64.not_lt.mp hShort
    refine .inr (.inr ⟨hZero, hFunds, ?_⟩)
    simp only [System.defund, hWallet, defund_ok hOn hZero hFunds hCounter]

end System

end DigitalEuro
