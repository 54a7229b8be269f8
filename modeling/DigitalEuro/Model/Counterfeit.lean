import DigitalEuro.Model.HelperCases
import DigitalEuro.Model.Movements

/-!
# Digital euro — movements with cracked elements

A cracked element rolls its balance back after every debit, so it pays out value it no
longer has. On the ledger a movement is then followed by putting the purse back.

* `moves_mint` — what cracked purses pay out is what the purses come to hold above the
  float, and nothing else in the books shows it;
* `refines_pay_as`, `refines_defund_as` — the helpers refine these movements, whether the
  element that pays is sealed or cracked.
-/

namespace DigitalEuro

/-- Who is debited. -/
def Movement.spender {D : Type*} : Movement D → Option D
  | .fund .. => none
  | .defund device _ => some device
  | .pay payer _ _ => some payer

/-- What a movement takes from a cracked purse. -/
def Movement.stake {D : Type*} (cracked : D → Bool) (movement : Movement D) : ℕ :=
  match movement.spender with
  | none => 0
  | some device => if cracked device then movement.amount else 0

namespace Ledger

variable {D A N : Type*} [DecidableEq D] [DecidableEq A] {cracked : D → Bool}
  {ledger ledger' : Ledger D A N}

-- ---------------------------------------------------------------------------
-- Movements that are rolled back
-- ---------------------------------------------------------------------------

/-- Puts the purse of a cracked spender back. -/
def rollBack (cracked : D → Bool) (movement : Movement D) (before after : Ledger D A N) :
    Ledger D A N :=
  match movement.spender with
  | none => after
  | some device =>
    if cracked device then
      { after with purse := Function.update after.purse device (before.purse device) }
    else after

def moveAs (cracked : D → Bool) (ledger : Ledger D A N) (movement : Movement D) :
    Option (Except Refusal ℕ × Ledger D A N) :=
  (ledger.move movement).map fun moved => (moved.1, rollBack cracked movement ledger moved.2)

/-- What a movement pays out that stays where it was. -/
def minted (cracked : D → Bool) (movement : Movement D) : Except Refusal ℕ → ℕ
  | .error _ => 0
  | .ok _ => movement.stake cracked

omit [DecidableEq D] in
theorem minted_le (movement : Movement D) (outcome : Except Refusal ℕ) :
    minted cracked movement outcome ≤ movement.stake cracked := by
  cases outcome with
  | error => exact Nat.zero_le _
  | ok => exact Nat.le_refl _

omit [DecidableEq A] in
theorem rollBack_of_sealed {movement : Movement D}
    (h : ∀ device, movement.spender = some device → cracked device = false)
    (before after : Ledger D A N) : rollBack cracked movement before after = after := by
  unfold rollBack
  split
  next => rfl
  next device hSpender => rw [h device hSpender, if_neg Bool.false_ne_true]

/-- Without a cracked purse movements are what they were. -/
theorem moveAs_sealed : moveAs (D := D) (A := A) (N := N) (fun _ => false) = move := by
  funext ledger movement
  rw [moveAs]
  cases ledger.move movement with
  | none => rfl
  | some moved => rw [Option.map_some, rollBack_of_sealed fun _ _ => rfl]

omit [DecidableEq A] in
theorem rollBack_self (movement : Movement D) :
    rollBack cracked movement ledger ledger = ledger := by
  unfold rollBack
  split
  next => rfl
  next => split_ifs <;> simp

omit [DecidableEq A] in
/-- A cracked payer's purse is put back under the payee's credit. -/
theorem rollBack_pay {payer payee : D} (hOther : payer ≠ payee) (hCracked : cracked payer = true)
    {source : Purse N} (hPayer : ledger.purse payer = some source) (spent target : Purse N)
    (amount : ℕ) :
    rollBack cracked (.pay payer payee amount) ledger
        ((ledger.setPurse payer spent).setPurse payee target) =
      (ledger.setPurse payer source).setPurse payee target := by
  rw [rollBack, Movement.spender]
  dsimp only
  rw [if_pos hCracked, hPayer]
  refine Ledger.ext ?_ rfl rfl rfl
  show Function.update (Function.update (Function.update ledger.purse payer (some spent)) payee
      (some target)) payer (some source) =
    Function.update (Function.update ledger.purse payer (some source)) payee (some target)
  rw [Function.update_comm hOther.symm, Function.update_idem]

/-- A cracked purse is put back beside the account's credit. -/
theorem rollBack_defund {device : D} (hCracked : cracked device = true) {purse : Purse N}
    (hPurse : ledger.purse device = some purse) (spent : Purse N) (account : A)
    (balance amount : ℕ) (float : ℤ) :
    rollBack cracked (.defund device amount) ledger
        { (ledger.setPurse device spent).setAccount account balance with float := float } =
      { (ledger.setPurse device purse).setAccount account balance with float := float } := by
  rw [rollBack, Movement.spender]
  dsimp only
  rw [if_pos hCracked, hPurse]
  refine Ledger.ext ?_ rfl rfl rfl
  show Function.update (Function.update ledger.purse device (some spent)) device (some purse) =
    Function.update ledger.purse device (some purse)
  rw [Function.update_idem]

/-- What a run with cracked purses leaves as it was, and how far the purses get ahead of
the float. -/
structure Mints (devices : Finset D) (accounts : Finset A) (amount : ℕ)
    (ledger ledger' : Ledger D A N) : Prop where
  terms : ∀ device, (ledger'.purse device).map Purse.terms = (ledger.purse device).map Purse.terms
  owner : ledger'.owner = ledger.owner
  exist : ∀ account, (ledger'.account account).isSome = (ledger.account account).isSome
  float : ledger'.held devices - ledger'.float = ledger.held devices - ledger.float + amount
  money : ledger'.online accounts + ledger'.float = ledger.online accounts + ledger.float

variable {devices : Finset D} {accounts : Finset A}

omit [DecidableEq D] [DecidableEq A] in
theorem Mints.refl (ledger : Ledger D A N) : Mints devices accounts 0 ledger ledger :=
  ⟨fun _ => rfl, rfl, fun _ => rfl, (Int.add_zero _).symm, rfl⟩

omit [DecidableEq D] [DecidableEq A] in
theorem Mints.trans {amount amount' : ℕ} {ledger'' : Ledger D A N}
    (h : Mints devices accounts amount ledger ledger')
    (h' : Mints devices accounts amount' ledger' ledger'') :
    Mints devices accounts (amount + amount') ledger ledger'' where
  terms device := (h'.terms device).trans (h.terms device)
  owner := h'.owner.trans h.owner
  exist account := (h'.exist account).trans (h.exist account)
  float := by
    have hFirst := h.float
    have hSecond := h'.float
    omega
  money := h'.money.trans h.money

omit [DecidableEq D] [DecidableEq A] in
theorem Mints.within {amount : ℕ} (h : Mints devices accounts amount ledger ledger')
    (hWithin : Within devices accounts ledger) : Within devices accounts ledger' where
  devices device hSome := by
    have hTerms := congrArg Option.isSome (h.terms device)
    rw [Option.isSome_map, Option.isSome_map] at hTerms
    exact hWithin.devices device (hTerms ▸ hSome)
  accounts account hSome := hWithin.accounts account (h.exist account ▸ hSome)

omit [DecidableEq D] [DecidableEq A] in
theorem Keeps.mints (h : Keeps devices accounts ledger ledger') :
    Mints devices accounts 0 ledger ledger' :=
  ⟨h.terms, h.owner, h.exist, by rw [h.float, Int.ofNat_zero, Int.add_zero], h.money⟩

/-- The spender's purse after an accepted movement. -/
theorem Step.spent {movement : Movement D} (h : Step ledger movement ledger')
    (hProper : movement.Proper) {device : D} (hSpender : movement.spender = some device) :
    ∃ purse, ledger.purse device = some purse ∧ movement.amount ≤ purse.balance ∧
      ledger'.purse device = some (purse.debit movement.amount) := by
  cases h with
  | fund => cases hSpender
  | @defund device' account purse balance amount hPurse hOwner hAccount hFunds =>
    obtain rfl := Option.some.inj hSpender
    exact ⟨purse, hPurse, hFunds, Function.update_self ..⟩
  | @pay payer payee source target amount hPayer hPayee hRoom hFunds =>
    obtain rfl := Option.some.inj hSpender
    refine ⟨source, hPayer, hFunds, ?_⟩
    rw [setPurse_purse, Function.update_of_ne hProper, setPurse_purse, Function.update_self]
    rfl

/-- **One movement mints what a cracked purse keeps.** -/
theorem moveAs_mints {movement : Movement D} {outcome : Except Refusal ℕ}
    (hWithin : Within devices accounts ledger) (hProper : movement.Proper)
    (h : ledger.moveAs cracked movement = some (outcome, ledger')) :
    Mints devices accounts (minted cracked movement outcome) ledger ledger' := by
  obtain ⟨⟨outcome', after⟩, hMove, hSame⟩ := Option.map_eq_some_iff.mp h
  obtain ⟨rfl, rfl⟩ := Prod.mk.inj hSame
  have hKeeps := move_keeps hWithin hProper hMove
  rcases move_cases hMove with ⟨refusal, rfl, rfl⟩ | ⟨rfl, hStep⟩
  · rw [rollBack_self]
    exact .refl _
  cases hSpender : movement.spender with
  | none =>
    rw [rollBack_of_sealed (fun device h => by rw [hSpender] at h; cases h), minted,
      Movement.stake, hSpender]
    exact hKeeps.mints
  | some device =>
    by_cases hCracked : cracked device = true
    case neg =>
      have hSealed : ∀ device', movement.spender = some device' → cracked device' = false := by
        intro device' h
        obtain rfl := Option.some.inj (hSpender.symm.trans h)
        exact Bool.not_eq_true _ ▸ hCracked
      rw [rollBack_of_sealed hSealed, minted, Movement.stake, hSpender]
      dsimp only
      rw [if_neg hCracked]
      exact hKeeps.mints
    -- the purse that was debited is put back
    obtain ⟨purse, hPurse, hFunds, hAfter⟩ := hStep.spent hProper hSpender
    have hRolled : rollBack cracked movement ledger after = after.setPurse device purse := by
      rw [rollBack, hSpender]
      dsimp only
      rw [if_pos hCracked, hPurse]
      rfl
    have hHeld := sum_update ((hKeeps.within hWithin).devices device (by rw [hAfter]; rfl))
      after.balance purse.balance
    rw [balance_eq hAfter] at hHeld
    rw [hRolled, minted, Movement.stake, hSpender]
    dsimp only
    rw [if_pos hCracked]
    refine ⟨fun device' => ?_, hKeeps.owner, hKeeps.exist, ?_, hKeeps.money⟩
    · have hTerms : purse.terms = (purse.debit movement.amount).terms := rfl
      exact (setPurse_terms hAfter hTerms device').trans (hKeeps.terms device')
    · have hFloat := hKeeps.float
      show ((∑ x ∈ devices, (after.setPurse device purse).balance x : ℕ) : ℤ) - after.float = _
      rw [setPurse_balance]
      unfold held at hFloat ⊢
      unfold Purse.debit at hHeld
      dsimp only at hHeld
      omega

/-- What a run mints. -/
def mintedBy (cracked : D → Bool) (movements : List (Movement D))
    (outcomes : List (Except Refusal ℕ)) : ℕ :=
  (List.zipWith (minted cracked) movements outcomes).sum

/-- **Runs mint what cracked purses pay out.** -/
theorem moves_mint {movements : List (Movement D)} : ∀ {outcomes : List (Except Refusal ℕ)}
    {ledger : Ledger D A N}, Within devices accounts ledger → (∀ m ∈ movements, m.Proper) →
    Service.answers (moveAs cracked) ledger movements = some (outcomes, ledger') →
    Mints devices accounts (mintedBy cracked movements outcomes) ledger ledger' := by
  induction movements with
  | nil =>
    intro outcomes ledger _ _ h
    obtain ⟨rfl, rfl⟩ := Prod.mk.inj (Option.some.inj h)
    exact .refl _
  | cons movement later ih =>
    intro outcomes ledger hWithin hProper h
    obtain ⟨outcome, ledger₁, rest, hMove, hRest, rfl⟩ := Service.answers_cons_eq_some h
    obtain ⟨hFirst, hLater⟩ := List.forall_mem_cons.mp hProper
    have hOne := moveAs_mints hWithin hFirst hMove
    exact hOne.trans (ih (hOne.within hWithin) hLater hRest)

end Ledger

-- ---------------------------------------------------------------------------
-- The debits of a cracked element
-- ---------------------------------------------------------------------------

/-- A debit of a cracked element leaves its purse. -/
theorem Wallet.purse_debited_cracked {R : Type} {w : Wallet R} (h : w.WithinLimit)
    {amountCents : UInt64} (hFunds : amountCents ≤ w.balanceCents) (hCracked : w.state = .cracked) :
    (w.debited amountCents).purse (h.debited hFunds) = w.purse h := by
  have hBalance := w.debited_balance_toNat hFunds
  rw [if_neg (by rw [hCracked]; decide)] at hBalance
  exact Purse.ext rfl hBalance rfl rfl

namespace System

variable [Sha256] {R G : Type} [Rng R] [Rng G] {keypair : Keypair} {history : List Event}
  {s : System R} {cracked : DeviceId → Bool}

omit [Sha256] [Rng R] in
/-- A refused movement is not rolled back. -/
theorem moveAs_refused {movement : Movement DeviceId} {refusal : Refusal}
    (h : s.ledger.move movement = some (.error refusal, s.ledger)) :
    s.ledger.moveAs cracked movement = some (.error refusal, s.ledger) := by
  rw [Ledger.moveAs, h, Option.map_some, Ledger.rollBack_self]

omit [Sha256] [Rng R] in
/-- A movement of a sealed purse is not rolled back. -/
theorem Refines.of_sealed {call : Option (Except Error UInt64 × System R)}
    {movement : Movement DeviceId} (h : Refines call (s.ledger.move movement))
    (hSealed : ∀ device, movement.spender = some device → cracked device = false) :
    Refines call (s.ledger.moveAs cracked movement) := by
  obtain ⟨result, s', outcome, hCall, hMove, hVerdict⟩ := h
  refine ⟨result, s', outcome, hCall, ?_, hVerdict⟩
  rw [Ledger.moveAs, hMove, Option.map_some, Ledger.rollBack_of_sealed hSealed]

/-- A payment of a cracked element. -/
theorem Enrolled.refines_pay_cracked (h : Enrolled R G keypair history s) {payer payee : DeviceId}
    (hOther : payer ≠ payee) {w w' : Wallet R} (hPayer : s.wallets.lookup payer = some w)
    (hPayee : s.wallets.lookup payee = some w') (hState : w.state = .cracked)
    (hCracked : cracked payer = true) (hFresh : FreshNonce history payee w')
    (amountCents : UInt64) :
    Refines (s.pay payer payee amountCents)
      (s.ledger.moveAs cracked (.pay payer payee amountCents.toNat)) := by
  have hLimit := (h.wallet_of hPayer).within_limit
  have hLimit' := (h.wallet_of hPayee).within_limit
  have hPurse := System.ledger_purse hPayer hLimit
  have hPurse' := System.ledger_purse hPayee hLimit'
  have hHeadroom := Wallet.purse_headroom hLimit'
  have hNat : amountCents ≠ 0 → amountCents.toNat ≠ 0 := fun hPos hNat =>
    hPos (UInt64.toNat_inj.mp hNat)
  obtain ⟨rfl, hCall⟩ | ⟨hPos, hFull, hCall⟩ | ⟨hPos, hRoom, hShort, hCall⟩ |
    ⟨hPos, hRoom, hFunds, hCall⟩ := h.pay_cases hOther hPayer hPayee hFresh amountCents
  · exact Refines.refused hCall rfl rfl (moveAs_refused (Ledger.pay_zero hPurse hPurse'))
  · have hPurseFull : (w'.purse hLimit').headroom < amountCents.toNat := by
      rw [hHeadroom]
      exact UInt64.lt_iff_toNat_lt.mp hFull
    have hRefused := Ledger.pay_noRoom hPurse hPurse' (hNat hPos) hPurseFull
    rw [hHeadroom] at hRefused
    exact Refines.refused hCall rfl rfl (moveAs_refused hRefused)
  all_goals
    have hPurseRoom : amountCents.toNat ≤ (w'.purse hLimit').headroom := by
      rw [hHeadroom]
      exact UInt64.le_iff_toNat_le.mp hRoom
  · exact Refines.refused hCall (ledger_insert_same hPayee rfl) rfl (moveAs_refused
      (Ledger.pay_noFunds hPurse hPurse' (hNat hPos) hPurseRoom
        (UInt64.lt_iff_toNat_lt.mp hShort)))
  -- the payee is credited, and the payer's purse is as before
  · obtain ⟨hCreditLimit, hCredit⟩ := Wallet.purse_credit hLimit' hRoom hPurseRoom
    refine Refines.accepted hCall ?_
    rw [Ledger.moveAs, Ledger.move,
      Ledger.pay_ok hPurse hPurse' (hNat hPos) hPurseRoom (UInt64.le_iff_toNat_le.mp hFunds),
      ledger_insert { s with wallets := s.wallets.insert payer (w.debited amountCents) } payee
        hCreditLimit, ledger_insert s payer (hLimit.debited hFunds), hCredit,
      Wallet.purse_debited_cracked hLimit hFunds hState, Option.map_some]
    dsimp only
    rw [Ledger.rollBack_pay hOther hCracked hPurse]

/-- A payment of an element of either kind. -/
theorem Enrolled.refines_pay_as (h : Enrolled R G keypair history s) {payer payee : DeviceId}
    (hOther : payer ≠ payee) {w w' : Wallet R} (hPayer : s.wallets.lookup payer = some w)
    (hPayee : s.wallets.lookup payee = some w')
    (hState : w.state = if cracked payer then .cracked else .sealed)
    (hFresh : FreshNonce history payee w') (amountCents : UInt64) :
    Refines (s.pay payer payee amountCents)
      (s.ledger.moveAs cracked (.pay payer payee amountCents.toNat)) := by
  cases hCracked : cracked payer with
  | true =>
    rw [hCracked] at hState
    exact h.refines_pay_cracked hOther hPayer hPayee hState hCracked hFresh amountCents
  | false =>
    rw [hCracked] at hState
    refine Refines.of_sealed (h.refines_pay hOther hPayer hPayee hState hFresh amountCents) ?_
    rintro _ ⟨⟩
    exact hCracked

/-- A defunding of an element of either kind; what is accepted has to fit the account. -/
theorem Reachable.refines_defund_as (h : Reachable R G keypair history s)
    (hIssuer : keypair.Generated) {device : DeviceId} {w : Wallet R}
    (hWallet : s.wallets.lookup device = some w)
    (hState : w.state = if cracked device then .cracked else .sealed)
    (hFew : debits device history + 1 < 2 ^ 64) {amountCents : UInt64}
    (hFits : amountCents ≤ w.balanceCents → ∀ account balance,
      s.issuer.accountOf device = some account → s.issuer.balanceOf account = some balance →
        balance.toNat + amountCents.toNat < 2 ^ 64) :
    Refines (s.defund device amountCents)
      (s.ledger.moveAs cracked (.defund device amountCents.toNat)) := by
  have hOf := h.enrolled.wallet_of hWallet
  have hLimit := hOf.within_limit
  have hPurse := System.ledger_purse hWallet hLimit
  obtain ⟨record, balance, hOn, -, hCases⟩ := h.defund_cases hIssuer hWallet hFew amountCents
  obtain ⟨hOwner, hAccount⟩ := ledger_onRecord hOf.device_eq hOn
  obtain ⟨rfl, hCall⟩ | ⟨hPos, hShort, hCall⟩ | ⟨hPos, hFunds, hCall⟩ := hCases
  · exact Refines.refused hCall rfl rfl (moveAs_refused (Ledger.defund_zero hPurse hOwner hAccount))
  · exact Refines.refused hCall rfl rfl (moveAs_refused
      (Ledger.defund_noFunds hPurse hOwner hAccount (fun hNat => hPos (UInt64.toNat_inj.mp hNat))
        (UInt64.lt_iff_toNat_lt.mp hShort)))
  cases hCracked : cracked device with
  | false =>
    rw [hCracked] at hState
    refine Refines.of_sealed (h.refines_defund hIssuer hWallet hState hFew (hFits hFunds)) ?_
    rintro _ ⟨⟩
    exact hCracked
  | true =>
    -- the account is credited, and the purse is as before
    rw [hCracked] at hState
    have hFit : balance.toNat + (w.defundingFor amountCents).amountCents.toNat < 2 ^ 64 :=
      hFits hFunds record.account balance hOwner hOn.account_eq
    refine Refines.accepted hCall ?_
    let issuer' := s.issuer.defunded (w.defundingFor amountCents) record balance
    rw [Ledger.moveAs, Ledger.move, Ledger.defund_ok hPurse hOwner hAccount
        (fun hNat => hPos (UInt64.toNat_inj.mp hNat)) (UInt64.le_iff_toNat_le.mp hFunds),
      ledger_insert { s with issuer := issuer' } device (hLimit.debited hFunds),
      ledger_defunded s hOn.record_eq hFit,
      Wallet.purse_debited_cracked hLimit hFunds hState, Option.map_some]
    dsimp only
    rw [Ledger.rollBack_defund hCracked hPurse]
    rfl

end System

end DigitalEuro
