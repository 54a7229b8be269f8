import DigitalEuro.Model.Float
import DigitalEuro.Model.HelperRuns

/-!
# Digital euro — what cracked elements pay out

Runs of the helpers among any elements, and the run that cashes one cracked balance
over and over.

* `calls_counterfeit` — a run is a run of movements in which the purses of cracked
  spenders are put back; nothing but what elements and accounts hold together tells
  what was paid twice;
* `cashed_again` — one cracked balance can be paid to sealed elements and redeemed by
  them as often as the accounts have room for it.
-/

namespace DigitalEuro

namespace Ledger

variable {D A N : Type*} [DecidableEq D] [DecidableEq A] {cracked : D → Bool}
  {ledger : Ledger D A N} {payer : D} {amount : ℕ}

/-- The movements that have some payees cash an amount, one by one. -/
def cashing (payer : D) (payees : List D) (amount : ℕ) : List (Movement D) :=
  payees.flatMap fun payee => [.pay payer payee amount, .defund payee amount]

/-- What a payer pays out and some payees redeem leaves every purse as it was. -/
theorem cash_one (hCracked : cracked payer = true) {payee : D} (hSealed : cracked payee = false)
    {source target : Purse N} {account : A} {balance : ℕ}
    (hPayer : ledger.purse payer = some source)
    (hPayee : Served ledger payee target account balance)
    (hPos : amount ≠ 0) (hFunds : amount ≤ source.balance) (hRoom : amount ≤ target.headroom) :
    Service.answers (moveAs cracked) ledger [.pay payer payee amount, .defund payee amount] =
      some ([.ok amount, .ok amount],
        { ledger.setAccount account (balance + amount) with float := ledger.float - amount }) := by
  have hOther : payer ≠ payee := fun hSame => by
    rw [hSame, hSealed] at hCracked
    cases hCracked
  -- the payment credits the payee only
  let paid := (ledger.setPurse payer source).setPurse payee (target.credit amount hRoom)
  have hPaid : ledger.moveAs cracked (.pay payer payee amount) = some (.ok amount, paid) := by
    rw [moveAs, move, pay_ok hPayer hPayee.purse_eq hPos hRoom hFunds, Option.map_some]
    dsimp only
    rw [rollBack_pay hOther hCracked hPayer]
  -- the defunding takes it back off the payee
  have hPurse : paid.purse payee = some (target.credit amount hRoom) := Function.update_self ..
  have hFull : amount ≤ (target.credit amount hRoom).balance := Nat.le_add_left _ _
  have hRedeemed : paid.moveAs cracked (.defund payee amount) =
      some (.ok amount,
        { ledger.setAccount account (balance + amount) with float := ledger.float - amount }) := by
    rw [moveAs, move, defund_ok hPurse hPayee.owner_eq hPayee.account_eq hPos hFull,
      Option.map_some]
    dsimp only
    rw [rollBack_of_sealed (by rintro _ ⟨⟩; exact hSealed)]
    have hBack : (target.credit amount hRoom).debit amount = target :=
      Purse.ext rfl (Nat.add_sub_cancel ..) rfl rfl
    congr 2
    refine Ledger.ext ?_ rfl rfl rfl
    show Function.update (Function.update (Function.update ledger.purse payer (some source)) payee
        (some (target.credit amount hRoom))) payee
        (some ((target.credit amount hRoom).debit amount)) = ledger.purse
    rw [Function.update_idem, hBack, ← hPayer, Function.update_eq_self, ← hPayee.purse_eq,
      Function.update_eq_self]
  rw [Service.answers_cons _ hPaid, Service.answers_cons _ hRedeemed]
  rfl

/-- **One cracked purse can be cashed any number of times.** -/
theorem cash (hCracked : cracked payer = true) (hPos : amount ≠ 0) {payees : List D} :
    ∀ {ledger : Ledger D A N} {source : Purse N}, ledger.purse payer = some source →
      amount ≤ source.balance →
      (∀ payee ∈ payees, cracked payee = false ∧ ∃ target account balance,
        Served ledger payee target account balance ∧ amount ≤ target.headroom) →
      ∃ ledger', Service.answers (moveAs cracked) ledger (cashing payer payees amount) =
          some (List.replicate (2 * payees.length) (.ok amount), ledger') ∧
        ledger'.purse = ledger.purse ∧
        ledger'.float = ledger.float - (payees.length * amount : ℕ) := by
  induction payees with
  | nil => exact fun {ledger} _ _ _ _ => ⟨ledger, rfl, rfl, by simp⟩
  | cons payee rest ih =>
    intro ledger source hPayer hFunds hPayees
    obtain ⟨⟨hSealed, target, account, balance, hServed, hRoom⟩, hLater⟩ :=
      List.forall_mem_cons.mp hPayees
    have hOne := cash_one hCracked hSealed hPayer hServed hPos hFunds hRoom
    have hSome : (ledger.account account).isSome := by
      rw [hServed.account_eq]
      rfl
    obtain ⟨ledger', hRun, hPurse, hFloat⟩ := @ih
      { ledger.setAccount account (balance + amount) with float := ledger.float - amount } source
      hPayer hFunds fun other hMem => by
        obtain ⟨hSealed', target', account', balance', hServed', hRoom'⟩ := hLater other hMem
        have hStill := setAccount_isSome (balance + amount) hSome account'
        rw [hServed'.account_eq] at hStill
        obtain ⟨balance'', hAccount⟩ := Option.isSome_iff_exists.mp hStill
        exact ⟨hSealed', target', account', balance'',
          ⟨hServed'.purse_eq, hServed'.owner_eq, hAccount⟩, hRoom'⟩
    refine ⟨ledger', ?_, hPurse, ?_⟩
    · rw [cashing, List.flatMap_cons, ← cashing, Service.answers_append _ hOne, hRun]
      rfl
    · rw [hFloat, List.length_cons, Nat.succ_mul]
      push_cast
      omega

end Ledger

namespace System

variable [Sha256] {R G : Type} [Rng R] [Rng G] {keypair : Keypair} {history history' : List Event}
  {s : System R}

-- ---------------------------------------------------------------------------
-- Elements of both kinds
-- ---------------------------------------------------------------------------

/-- Which elements are cracked. -/
def cracked (s : System R) (device : DeviceId) : Bool :=
  (s.wallets.lookup device).any fun w => w.state = .cracked

omit [Sha256] [Rng R] in
theorem state_eq {device : DeviceId} {w : Wallet R} (hWallet : s.wallets.lookup device = some w) :
    w.state = if s.cracked device then .cracked else .sealed := by
  rw [cracked, hWallet, Option.any_some]
  cases w.state <;> rfl

theorem Reachable.readyAs (h : Reachable R G keypair history s) {calls : List Call}
    (hAddressed : ∀ c ∈ calls, c.Addressed s)
    (hLasting : ∀ device w, s.wallets.lookup device = some w → Lasting history device w calls)
    (hFits : s.issuer.accounts.total UInt64.toNat + s.balances +
      (calls.map fun c => c.movement.stake s.cracked).sum < 2 ^ 64) :
    ReadyAs R G keypair s.cracked s.wallets.keys s.issuer.accounts.keys calls s where
  reachable := ⟨history, h, fun device w hWallet => ⟨hLasting device w hWallet, state_eq hWallet⟩⟩
  addressed := hAddressed
  within := h.enrolled.ledger_within
  fits := by
    rw [ledger_online, h.enrolled.ledger_held]
    exact hFits

/-- What the accepted calls take from cracked elements. -/
def counterfeited (s : System R) (calls : List Call) (results : List (Except Error UInt64)) : ℕ :=
  (List.zipWith (fun c result => if result.isOk then c.movement.stake s.cracked else 0)
    calls results).sum

omit [Sha256] [Rng R] in
theorem mintedBy_eq {results : List (Except Error UInt64)} {outcomes : List (Except Refusal ℕ)}
    (h : List.Forall₂ (fun result outcome => verdict result = some outcome) results outcomes)
    (calls : List Call) :
    Ledger.mintedBy s.cracked (calls.map Call.movement) outcomes =
      s.counterfeited calls results := by
  induction h generalizing calls with
  | nil => rw [Ledger.mintedBy, counterfeited, List.zipWith_nil_right, List.zipWith_nil_right]
  | @cons result outcome results outcomes hVerdict _ ih =>
    cases calls with
    | nil => rfl
    | cons c later =>
      have hOne : Ledger.minted s.cracked c.movement outcome =
          if result.isOk then c.movement.stake s.cracked else 0 := by
        cases result with
        | ok amount =>
          obtain rfl := Option.some.inj hVerdict
          rfl
        | error error =>
          obtain ⟨refusal, -, rfl⟩ := Option.map_eq_some_iff.mp hVerdict
          rfl
      have hRest := ih later
      unfold Ledger.mintedBy counterfeited at hRest ⊢
      rw [List.map_cons, List.zipWith_cons_cons, List.zipWith_cons_cons, List.sum_cons,
        List.sum_cons, hOne, hRest]

/-- **Runs among sealed and cracked elements.** From any reachable state, with elements of
both kinds, helper calls among installed devices give the results of the movements in
which a cracked spender's purse is put back, while nonces and counters last and the
money fits. Elements and accounts together gain exactly what the accepted calls took
from cracked elements, and the float moves by what the accounts lost. -/
theorem calls_counterfeit (h : Reachable R G keypair history s) (hIssuer : keypair.Generated)
    (calls : List Call) (hAddressed : ∀ c ∈ calls, c.Addressed s)
    (hLasting : ∀ device w, s.wallets.lookup device = some w → Lasting history device w calls)
    (hFits : s.issuer.accounts.total UInt64.toNat + s.balances +
      (calls.map fun c => c.movement.stake s.cracked).sum < 2 ^ 64) :
    ∃ results s' outcomes, Service.answers call s calls = some (results, s') ∧
      Service.answers (Ledger.moveAs s.cracked) s.ledger (calls.map Call.movement) =
        some (outcomes, s'.ledger) ∧
      List.Forall₂ (fun result outcome => verdict result = some outcome) results outcomes ∧
      s'.issuer.accounts.total UInt64.toNat + s'.balances =
        s.issuer.accounts.total UInt64.toNat + s.balances + s.counterfeited calls results ∧
      s'.issuer.offlineFloatI128 =
        i128 (s.issuer.offlineFloatI128 +
          (((s.issuer.accounts.total UInt64.toNat : ℕ) : ℤ) -
            (s'.issuer.accounts.total UInt64.toNat : ℕ))) := by
  have hReady := h.readyAs hAddressed hLasting hFits
  rw [← List.append_nil calls] at hReady
  obtain ⟨results, s', outcomes, hRun, hMoves, hAgree, hReady'⟩ := hReady.run hIssuer calls []
  obtain ⟨history', hReach', -⟩ := hReady'.reachable
  have hMints := Ledger.moves_mint h.enrolled.ledger_within (movements_proper hAddressed) hMoves
  rw [mintedBy_eq hAgree] at hMints
  obtain ⟨hDevices, hMoney⟩ := h.enrolled.books hReach'.enrolled hMints
  exact ⟨results, s', outcomes, hRun, hMoves, hAgree, by omega,
    Issuer.offlineFloatI128_add (by omega)⟩

-- ---------------------------------------------------------------------------
-- Cashing one balance over and over
-- ---------------------------------------------------------------------------

/-- The calls that have some payees cash an amount, one by one. -/
def cashing (payer : DeviceId) (payees : List DeviceId) (amountCents : UInt64) : List Call :=
  payees.flatMap fun payee => [.pay payer payee amountCents, .defund payee amountCents]

omit [Sha256] [Rng R] in
theorem cashing_movements (payer : DeviceId) (payees : List DeviceId) (amountCents : UInt64) :
    (cashing payer payees amountCents).map Call.movement =
      Ledger.cashing payer payees amountCents.toNat := by
  rw [cashing, Ledger.cashing, List.map_flatMap]
  rfl

omit [Sha256] [Rng R] in
theorem cashing_stake {payer : DeviceId} {payees : List DeviceId}
    (hCracked : s.cracked payer = true)
    (hSealed : ∀ payee ∈ payees, s.cracked payee = false) (amountCents : UInt64) :
    ((cashing payer payees amountCents).map fun c => c.movement.stake s.cracked).sum =
      payees.length * amountCents.toNat := by
  induction payees with
  | nil => exact (Nat.zero_mul _).symm
  | cons payee rest ih =>
    obtain ⟨hFirst, hLater⟩ := List.forall_mem_cons.mp hSealed
    have hPay : (Call.pay payer payee amountCents).movement.stake s.cracked =
        amountCents.toNat := if_pos hCracked
    have hDefund : (Call.defund payee amountCents).movement.stake s.cracked = 0 :=
      if_neg (by rw [hFirst]; exact Bool.false_ne_true)
    rw [cashing, List.flatMap_cons, ← cashing, List.map_append, List.sum_append, ih hLater,
      List.map_cons, List.map_cons, List.map_nil, List.sum_cons, List.sum_cons, List.sum_nil,
      hPay, hDefund, List.length_cons, Nat.succ_mul]
    omega

omit [Sha256] [Rng R] in
theorem cashing_addressed {payer : DeviceId} {payees : List DeviceId} {amountCents : UInt64}
    (hPayer : (s.wallets.lookup payer).isSome) (hCracked : s.cracked payer = true)
    (hSealed : ∀ payee ∈ payees, s.cracked payee = false)
    (hPayees : ∀ payee ∈ payees, (s.wallets.lookup payee).isSome) :
    ∀ c ∈ cashing payer payees amountCents, c.Addressed s := by
  intro c hMem
  obtain ⟨payee, hPayee, hCall⟩ := List.mem_flatMap.mp hMem
  rcases List.mem_pair.mp hCall with rfl | rfl
  · refine ⟨fun hSame => ?_, hPayer, hPayees payee hPayee⟩
    rw [hSame, hSealed payee hPayee] at hCracked
    exact Bool.false_ne_true hCracked
  · exact hPayees payee hPayee

/-- **A cracked balance can be cashed over and over.** In any reachable state with
a cracked element, every payment of an amount up to its balance to a sealed element with
room for it, and every redemption after it, goes through, for any payees in any order,
while nonces and counters last and the money fits: every device ends with what it had,
the accounts have gained the amount for each payee, and the float has lost as much. -/
theorem cashed_again (h : Reachable R G keypair history s) (hIssuer : keypair.Generated)
    {payer : DeviceId} {w : Wallet R} (hWallet : s.wallets.lookup payer = some w)
    (hState : w.state = .cracked) {amountCents : UInt64} (hPos : amountCents ≠ 0)
    (hFunds : amountCents ≤ w.balanceCents) {payees : List DeviceId}
    (hPayees : ∀ payee ∈ payees, ∃ w', s.wallets.lookup payee = some w' ∧
      w'.state = .sealed ∧ amountCents ≤ w'.headroom)
    (hLasting : ∀ device w, s.wallets.lookup device = some w →
      Lasting history device w (cashing payer payees amountCents))
    (hFits : s.issuer.accounts.total UInt64.toNat + s.balances +
      payees.length * amountCents.toNat < 2 ^ 64) :
    ∃ s', Service.answers call s (cashing payer payees amountCents) =
        some (List.replicate (2 * payees.length) (.ok amountCents), s') ∧
      (∀ device, s'.holding device = s.holding device) ∧
      s'.issuer.accounts.total UInt64.toNat =
        s.issuer.accounts.total UInt64.toNat + payees.length * amountCents.toNat ∧
      s'.issuer.offlineFloatI128 =
        i128 (s.issuer.offlineFloatI128 - payees.length * amountCents.toNat) := by
  have hEnrolled := h.enrolled
  have hCracked : s.cracked payer = true := by
    rw [cracked, hWallet, Option.any_some, hState]
    rfl
  have hSealed : ∀ payee ∈ payees, s.cracked payee = false := by
    intro payee hMem
    obtain ⟨w', hPayee, hState', -⟩ := hPayees payee hMem
    rw [cracked, hPayee, Option.any_some, hState']
    rfl
  have hAddressed : ∀ c ∈ cashing payer payees amountCents, c.Addressed s :=
    cashing_addressed (by rw [hWallet]; rfl) hCracked hSealed fun payee hMem => by
      obtain ⟨w', hPayee, -⟩ := hPayees payee hMem
      rw [hPayee]
      rfl
  have hReady := h.readyAs hAddressed hLasting (by
    rw [cashing_stake hCracked hSealed]
    exact hFits)
  rw [← List.append_nil (cashing payer payees amountCents)] at hReady
  obtain ⟨results, s', outcomes, hRun, hMoves, hAgree, hReady'⟩ :=
    hReady.run hIssuer (cashing payer payees amountCents) []
  obtain ⟨history', hReach', -⟩ := hReady'.reachable
  -- on the ledger every movement goes through and no purse has moved
  have hServed : ∀ payee ∈ payees, s.cracked payee = false ∧ ∃ target account balance,
      Ledger.Served s.ledger payee target account balance ∧
        amountCents.toNat ≤ target.headroom := by
    intro payee hMem
    obtain ⟨w', hPayee, -, hRoom⟩ := hPayees payee hMem
    obtain ⟨account, balance, hServed⟩ := h.served hIssuer hPayee
    refine ⟨hSealed payee hMem, _, account, balance, hServed, ?_⟩
    rw [Wallet.purse_headroom]
    exact UInt64.le_iff_toNat_le.mp hRoom
  obtain ⟨ledger', hCash, hPurses, hFloat⟩ := Ledger.cash hCracked
    (fun hNat => hPos (UInt64.toNat_inj.mp hNat)) (hEnrolled.ledger_purse hWallet)
    (UInt64.le_iff_toNat_le.mp hFunds) hServed
  have hMints := Ledger.moves_mint hEnrolled.ledger_within (movements_proper hAddressed) hMoves
  obtain ⟨-, hMoney⟩ := hEnrolled.books hReach'.enrolled hMints
  rw [cashing_movements, hCash, Option.some.injEq, Prod.mk.injEq] at hMoves
  obtain ⟨rfl, rfl⟩ := hMoves
  have hOutcomes : List.replicate (2 * payees.length) (.ok amountCents.toNat) =
      (List.replicate (2 * payees.length) amountCents).map fun amount =>
        (.ok amount.toNat : Except Refusal ℕ) := by
    rw [List.map_replicate]
  rw [hOutcomes, List.forall₂_map_right_iff] at hAgree
  have hResults : results = (List.replicate (2 * payees.length) amountCents).map .ok :=
    List.forall₂_eq_eq_eq ▸ List.forall₂_map_right_iff.mpr
      (hAgree.imp fun result amount hVerdict => verdict_inj hVerdict rfl)
  rw [List.map_replicate] at hResults
  have hHolding : ∀ device, s'.holding device = s.holding device := by
    intro device
    refine UInt64.toNat_inj.mp ?_
    rw [hReach'.enrolled.holding_toNat, hEnrolled.holding_toNat, Ledger.balance, Ledger.balance,
      hPurses]
  have hLess : s'.issuer.offlineFloat =
      s.issuer.offlineFloat - (payees.length * amountCents.toNat : ℕ) := hFloat
  rw [Nat.cast_mul] at hLess
  refine ⟨s', by rw [hRun, hResults], hHolding, ?_, Issuer.offlineFloatI128_add hLess⟩
  have hProduct : ((payees.length * amountCents.toNat : ℕ) : ℤ) =
      payees.length * amountCents.toNat := Nat.cast_mul ..
  omega

end System

section Sample

/-- The payer of the sample run with its element cracked. -/
def sampleCracked [Sha256] : System CountingRng :=
  { samplePaid with
    wallets := samplePaid.wallets.insert (sampleDevice 1)
      (sampleFunded.debited 300).crackSecureElement }

def sampleCrackedHistory [Sha256] : List System.Event :=
  .wallet (sampleCertificate aliceKeys 1) .cracked :: samplePaidHistory

theorem sampleCracked_reachable [Sha256] :
    System.Reachable CountingRng CountingRng issuerKeys sampleCrackedHistory sampleCracked :=
  samplePaid_reachable.wallet_next samplePaid_alice Wallet.Step.crackSecureElement
    (fun _ hp => absurd hp List.not_mem_nil)

theorem sampleCracked_alice [Sha256] : sampleCracked.wallets.lookup (sampleDevice 1) =
    some (sampleFunded.debited 300).crackSecureElement :=
  Finmap.lookup_insert _

theorem sampleCracked_bakery [Sha256] :
    sampleCracked.wallets.lookup (sampleDevice 2) = some samplePayee := by
  rw [sampleCracked, Finmap.lookup_insert_of_ne _ sampleDevice_ne, samplePaid_payee]

open scoped Fips

theorem sampleCracked_money :
    sampleCracked.issuer.accounts.total UInt64.toNat + sampleCracked.balances = 4700 := by
  decide +kernel

/-- The two sample devices last for a few calls with two payments to the second. -/
theorem sampleCracked_lasting {calls : List System.Call} (hShort : calls.length ≤ 4)
    (hAlice : (calls.map (System.Call.draws (sampleDevice 1))).sum = 0)
    (hBakery : (calls.map (System.Call.draws (sampleDevice 2))).sum = 2) (device : DeviceId)
    (w : Wallet CountingRng) (h : sampleCracked.wallets.lookup device = some w) :
    System.Lasting sampleCrackedHistory device w calls := by
  have hLength := System.debits_le_length device sampleCrackedHistory
  have hEleven : sampleCrackedHistory.length = 11 := rfl
  have hDebits := System.Call.debits_le device calls
  have hFew : System.debits device sampleCrackedHistory +
      (calls.map (System.Call.debits device)).sum < 2 ^ 64 := by omega
  by_cases hPayer : device = sampleDevice 1
  · subst hPayer
    refine ⟨hFew, ?_, ?_⟩
    · rw [hAlice]
      exact List.nodup_nil
    · rw [hAlice]
      exact fun _ hNonce => absurd hNonce List.not_mem_nil
  · rw [sampleCracked, Finmap.lookup_insert_of_ne _ hPayer] at h
    obtain ⟨hSame, -⟩ | ⟨rfl, rfl⟩ := samplePaid_cases h
    · exact absurd hSame hPayer
    have hDrawn : Wallet.drawnNonces (System.localEvents (sampleDevice 2) sampleCrackedHistory) =
        [sampleNonce] := by
      decide +kernel
    refine ⟨hFew, ?_, ?_⟩
    · rw [hBakery]
      show (Rng.draws 2 (⟨1⟩ : CountingRng)).Nodup
      decide +kernel
    · rw [hBakery, hDrawn]
      show ∀ nonce ∈ Rng.draws 2 (⟨1⟩ : CountingRng), nonce ∉ [sampleNonce]
      refine List.forall_mem_cons.mpr ⟨by decide, List.forall_mem_cons.mpr ⟨by decide, ?_⟩⟩
      exact fun _ hNonce => absurd hNonce List.not_mem_nil

/-- Two payments from 7 € that together take 8 €, and two defundings, the second too
large. -/
def sampleForgery : List System.Call :=
  [.pay (sampleDevice 1) (sampleDevice 2) 200, .pay (sampleDevice 1) (sampleDevice 2) 600,
    .defund (sampleDevice 2) 800, .defund (sampleDevice 1) 900]

theorem calls_counterfeit_sample :
    ∃ results s' outcomes,
      Service.answers System.call sampleCracked sampleForgery = some (results, s') ∧
        Service.answers (Ledger.moveAs sampleCracked.cracked) sampleCracked.ledger
            (sampleForgery.map System.Call.movement) = some (outcomes, s'.ledger) ∧
        List.Forall₂ (fun result outcome => verdict result = some outcome) results outcomes ∧
        s'.issuer.accounts.total UInt64.toNat + s'.balances =
          sampleCracked.issuer.accounts.total UInt64.toNat + sampleCracked.balances +
            sampleCracked.counterfeited sampleForgery results ∧
        s'.issuer.offlineFloatI128 =
          i128 (sampleCracked.issuer.offlineFloatI128 +
            (((sampleCracked.issuer.accounts.total UInt64.toNat : ℕ) : ℤ) -
              (s'.issuer.accounts.total UInt64.toNat : ℕ))) := by
  refine System.calls_counterfeit sampleCracked_reachable issuerKeys_generated sampleForgery ?_
    (sampleCracked_lasting (Nat.le_refl 4) (by decide +kernel) (by decide +kernel)) ?_
  · have hAlice : (sampleCracked.wallets.lookup (sampleDevice 1)).isSome := by
      rw [sampleCracked_alice, Option.isSome_some]
    have hBakery : (sampleCracked.wallets.lookup (sampleDevice 2)).isSome := by
      rw [sampleCracked_bakery, Option.isSome_some]
    intro c hMem
    simp only [sampleForgery, List.mem_cons, List.not_mem_nil, or_false] at hMem
    rcases hMem with rfl | rfl | rfl | rfl
    · exact ⟨sampleDevice_ne.symm, hAlice, hBakery⟩
    · exact ⟨sampleDevice_ne.symm, hAlice, hBakery⟩
    · exact hBakery
    · exact hAlice
  · have hStake : (sampleForgery.map fun c =>
        c.movement.stake sampleCracked.cracked).sum = 1700 := by
      decide +kernel
    rw [hStake, sampleCracked_money]
    omega

/-- The same 7 € are cashed twice. -/
theorem cashed_again_sample :
    ∃ s', Service.answers System.call sampleCracked
          (System.cashing (sampleDevice 1) [sampleDevice 2, sampleDevice 2] 700) =
        some (List.replicate 4 (.ok 700), s') ∧
      (∀ device, s'.holding device = sampleCracked.holding device) ∧
      s'.issuer.accounts.total UInt64.toNat =
        sampleCracked.issuer.accounts.total UInt64.toNat + 2 * 700 ∧
      s'.issuer.offlineFloatI128 =
        i128 (sampleCracked.issuer.offlineFloatI128 - 2 * 700) := by
  have hBakery : ∀ payee ∈ [sampleDevice 2, sampleDevice 2], ∃ w',
      sampleCracked.wallets.lookup payee = some w' ∧ w'.state = .sealed ∧ 700 ≤ w'.headroom := by
    intro payee hMem
    obtain rfl : payee = sampleDevice 2 := by
      simpa using hMem
    exact ⟨samplePayee, sampleCracked_bakery, rfl, by decide +kernel⟩
  have hFits : sampleCracked.issuer.accounts.total UInt64.toNat + sampleCracked.balances +
      [sampleDevice 2, sampleDevice 2].length * (700 : UInt64).toNat < 2 ^ 64 := by
    rw [sampleCracked_money]
    decide
  exact System.cashed_again sampleCracked_reachable issuerKeys_generated sampleCracked_alice rfl
    (by decide) (by decide +kernel) hBakery
    (sampleCracked_lasting (Nat.le_refl 4) (by decide +kernel) (by decide +kernel)) hFits

end Sample

end DigitalEuro
