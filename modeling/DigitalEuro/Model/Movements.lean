import DigitalEuro.Lib.Answers
import DigitalEuro.Model.Ledger

/-!
# Digital euro — runs of the ledger

What any sequence of movements keeps, and what it can always reach. Sums are over
sets of devices and accounts that contain all there are.

* `Ledger.Step`, `move_cases` — a movement is refused and changes nothing, or is
  one of three steps;
* `moves_keep` — along every run the purses hold as much above the float as at the
  start, accounts and float together make the same money, and nobody's limit or open
  request moves;
* `redeem` — every purse can be emptied into its account, in any order.
-/

namespace DigitalEuro

/-- A movement of an amount. -/
inductive Movement (D : Type*) where
  | fund (device : D) (amount : ℕ)
  | defund (device : D) (amount : ℕ)
  | pay (payer payee : D) (amount : ℕ)

/-- A payment is between two devices. -/
def Movement.Proper {D : Type*} : Movement D → Prop
  | .pay payer payee _ => payer ≠ payee
  | _ => True

def Movement.amount {D : Type*} : Movement D → ℕ
  | .fund _ amount | .defund _ amount | .pay _ _ amount => amount

/-- What a purse has promised, and to stay within. -/
def Purse.terms {N : Type*} (purse : Purse N) : ℕ × Multiset (N × ℕ) × Multiset (N × ℕ) :=
  (purse.limit, purse.incoming, purse.pendingFunding)

namespace Ledger

variable {D A N : Type*} [DecidableEq D] [DecidableEq A] {ledger ledger' : Ledger D A N}

def move (ledger : Ledger D A N) : Movement D → Option (Except Refusal ℕ × Ledger D A N)
  | .fund device amount => ledger.fund device amount
  | .defund device amount => ledger.defund device amount
  | .pay payer payee amount => ledger.pay payer payee amount

/-- The movements that are not refused. -/
inductive Step (ledger : Ledger D A N) : Movement D → Ledger D A N → Prop
  | fund {device : D} {account : A} {purse : Purse N} {balance amount : ℕ}
      (hPurse : ledger.purse device = some purse) (hOwner : ledger.owner device = some account)
      (hAccount : ledger.account account = some balance) (hRoom : amount ≤ purse.headroom)
      (hFunds : amount ≤ balance) :
      Step ledger (.fund device amount)
        { (ledger.setPurse device (purse.credit amount hRoom)).setAccount account
            (balance - amount) with
          float := ledger.float + amount }
  | defund {device : D} {account : A} {purse : Purse N} {balance amount : ℕ}
      (hPurse : ledger.purse device = some purse) (hOwner : ledger.owner device = some account)
      (hAccount : ledger.account account = some balance) (hFunds : amount ≤ purse.balance) :
      Step ledger (.defund device amount)
        { (ledger.setPurse device (purse.debit amount)).setAccount account (balance + amount) with
          float := ledger.float - amount }
  | pay {payer payee : D} {source target : Purse N} {amount : ℕ}
      (hPayer : ledger.purse payer = some source) (hPayee : ledger.purse payee = some target)
      (hRoom : amount ≤ target.headroom) (hFunds : amount ≤ source.balance) :
      Step ledger (.pay payer payee amount)
        ((ledger.setPurse payer (source.debit amount)).setPurse payee
          (target.credit amount hRoom))

/-- **Refused movements change nothing.** -/
theorem move_cases {movement : Movement D} {outcome : Except Refusal ℕ}
    (h : ledger.move movement = some (outcome, ledger')) :
    (∃ refusal, outcome = .error refusal ∧ ledger' = ledger) ∨
      outcome = .ok movement.amount ∧ Step ledger movement ledger' := by
  have hRefused : ∀ {refusal : Refusal}, some (.error refusal, ledger) = some (outcome, ledger') →
      ∃ refusal, outcome = .error refusal ∧ ledger' = ledger := by
    intro refusal hSame
    obtain ⟨rfl, rfl⟩ := Prod.mk.inj (Option.some.inj hSame)
    exact ⟨refusal, rfl, rfl⟩
  cases movement with
  | fund device amount =>
    simp only [move, fund] at h
    split at h
    case h_2 => cases h
    split at h
    case h_2 => cases h
    split_ifs at h with hZero hFull hShort
    · exact .inl (hRefused h)
    · exact .inl (hRefused h)
    · exact .inl (hRefused h)
    · obtain ⟨rfl, rfl⟩ := Prod.mk.inj (Option.some.inj h)
      exact .inr ⟨rfl, .fund ‹_› ‹_› ‹_› (not_lt.mp hFull) (not_lt.mp hShort)⟩
  | defund device amount =>
    simp only [move, defund] at h
    split at h
    case h_2 => cases h
    split at h
    case h_2 => cases h
    split_ifs at h with hZero hShort
    · exact .inl (hRefused h)
    · exact .inl (hRefused h)
    · obtain ⟨rfl, rfl⟩ := Prod.mk.inj (Option.some.inj h)
      exact .inr ⟨rfl, .defund ‹_› ‹_› ‹_› (not_lt.mp hShort)⟩
  | pay payer payee amount =>
    simp only [move, pay] at h
    split at h
    case h_2 => cases h
    split_ifs at h with hZero hFull hShort
    · exact .inl (hRefused h)
    · exact .inl (hRefused h)
    · exact .inl (hRefused h)
    · obtain ⟨rfl, rfl⟩ := Prod.mk.inj (Option.some.inj h)
      exact .inr ⟨rfl, .pay ‹_› ‹_› (not_lt.mp hFull) (not_lt.mp hShort)⟩

-- ---------------------------------------------------------------------------
-- Totals
-- ---------------------------------------------------------------------------

/-- What a device holds. -/
def balance (ledger : Ledger D A N) (device : D) : ℕ :=
  ((ledger.purse device).map Purse.balance).getD 0

/-- What is in an account. -/
def deposit (ledger : Ledger D A N) (account : A) : ℕ := (ledger.account account).getD 0

def held (ledger : Ledger D A N) (devices : Finset D) : ℕ :=
  ∑ device ∈ devices, ledger.balance device

def online (ledger : Ledger D A N) (accounts : Finset A) : ℕ :=
  ∑ account ∈ accounts, ledger.deposit account

omit [DecidableEq D] [DecidableEq A] in
theorem balance_eq {device : D} {purse : Purse N} (h : ledger.purse device = some purse) :
    ledger.balance device = purse.balance := by
  rw [balance, h]
  rfl

omit [DecidableEq D] [DecidableEq A] in
theorem deposit_eq {account : A} {balance : ℕ} (h : ledger.account account = some balance) :
    ledger.deposit account = balance := by
  rw [deposit, h]
  rfl

omit [DecidableEq A] in
@[simp] theorem setPurse_purse (ledger : Ledger D A N) (device : D) (purse : Purse N) :
    (ledger.setPurse device purse).purse = Function.update ledger.purse device (some purse) := rfl

omit [DecidableEq D] in
@[simp] theorem setAccount_account (ledger : Ledger D A N) (account : A) (balance : ℕ) :
    (ledger.setAccount account balance).account =
      Function.update ledger.account account (some balance) := rfl

omit [DecidableEq A] in
@[simp] theorem setPurse_balance (ledger : Ledger D A N) (device : D) (purse : Purse N) :
    (ledger.setPurse device purse).balance =
      Function.update ledger.balance device purse.balance := by
  funext device'
  by_cases hSame : device' = device
  · subst hSame
    simp [balance]
  · simp [balance, Function.update_of_ne hSame]

omit [DecidableEq D] in
@[simp] theorem setAccount_deposit (ledger : Ledger D A N) (account : A) (balance : ℕ) :
    (ledger.setAccount account balance).deposit =
      Function.update ledger.deposit account balance := by
  funext account'
  by_cases hSame : account' = account
  · subst hSame
    simp [deposit]
  · simp [deposit, Function.update_of_ne hSame]

/-- A write of one entry moves a sum over a set with that entry by the difference. -/
theorem sum_update {ι : Type*} [DecidableEq ι] {entries : Finset ι} {i : ι} (hMem : i ∈ entries)
    (f : ι → ℕ) (value : ℕ) :
    ∑ x ∈ entries, Function.update f i value x + f i = ∑ x ∈ entries, f x + value := by
  rw [Finset.sum_update_of_mem hMem, ← Finset.add_sum_erase entries f hMem,
    Finset.sdiff_singleton_eq_erase]
  omega

-- ---------------------------------------------------------------------------
-- What movements keep
-- ---------------------------------------------------------------------------

/-- Sets that contain every device with a purse and every account. -/
structure Within (devices : Finset D) (accounts : Finset A) (ledger : Ledger D A N) : Prop where
  devices : ∀ device, (ledger.purse device).isSome → device ∈ devices
  accounts : ∀ account, (ledger.account account).isSome → account ∈ accounts

/-- What a run of movements leaves as it was. -/
structure Keeps (devices : Finset D) (accounts : Finset A) (ledger ledger' : Ledger D A N) :
    Prop where
  terms : ∀ device, (ledger'.purse device).map Purse.terms = (ledger.purse device).map Purse.terms
  owner : ledger'.owner = ledger.owner
  exist : ∀ account, (ledger'.account account).isSome = (ledger.account account).isSome
  float : ledger'.held devices - ledger'.float = ledger.held devices - ledger.float
  money : ledger'.online accounts + ledger'.float = ledger.online accounts + ledger.float

variable {devices : Finset D} {accounts : Finset A}

omit [DecidableEq D] [DecidableEq A] in
theorem Keeps.refl (ledger : Ledger D A N) : Keeps devices accounts ledger ledger :=
  ⟨fun _ => rfl, rfl, fun _ => rfl, rfl, rfl⟩

omit [DecidableEq D] [DecidableEq A] in
theorem Keeps.trans {ledger'' : Ledger D A N} (h : Keeps devices accounts ledger ledger')
    (h' : Keeps devices accounts ledger' ledger'') : Keeps devices accounts ledger ledger'' where
  terms device := (h'.terms device).trans (h.terms device)
  owner := h'.owner.trans h.owner
  exist account := (h'.exist account).trans (h.exist account)
  float := h'.float.trans h.float
  money := h'.money.trans h.money

omit [DecidableEq D] [DecidableEq A] in
theorem Keeps.within (h : Keeps devices accounts ledger ledger')
    (hWithin : Within devices accounts ledger) : Within devices accounts ledger' where
  devices device hSome := by
    have hTerms := congrArg Option.isSome (h.terms device)
    rw [Option.isSome_map, Option.isSome_map] at hTerms
    exact hWithin.devices device (hTerms ▸ hSome)
  accounts account hSome := hWithin.accounts account (h.exist account ▸ hSome)

omit [DecidableEq A] in
theorem setPurse_terms {device : D} {purse purse' : Purse N}
    (hPurse : ledger.purse device = some purse) (hTerms : purse'.terms = purse.terms)
    (device' : D) :
    ((ledger.setPurse device purse').purse device').map Purse.terms =
      (ledger.purse device').map Purse.terms := by
  by_cases hSame : device' = device
  · rw [setPurse_purse, hSame, Function.update_self, hPurse, Option.map_some, Option.map_some,
      hTerms]
  · rw [setPurse_purse, Function.update_of_ne hSame]

omit [DecidableEq D] in
theorem setAccount_isSome {account : A} (balance : ℕ)
    (hAccount : (ledger.account account).isSome) (account' : A) :
    ((ledger.setAccount account balance).account account').isSome =
      (ledger.account account').isSome := by
  by_cases hSame : account' = account
  · rw [setAccount_account, hSame, Function.update_self, hAccount, Option.isSome_some]
  · rw [setAccount_account, Function.update_of_ne hSame]

/-- A purse and an account that are written together, by the difference of the float. -/
theorem keeps_write {device : D} {account : A} {purse purse' : Purse N} {balance balance' : ℕ}
    {float' : ℤ} (hWithin : Within devices accounts ledger)
    (hPurse : ledger.purse device = some purse) (hAccount : ledger.account account = some balance)
    (hTerms : purse'.terms = purse.terms)
    (hFloat : (purse'.balance : ℤ) - float' = purse.balance - ledger.float)
    (hMoney : (balance' : ℤ) + float' = balance + ledger.float) :
    Keeps devices accounts ledger
      { (ledger.setPurse device purse').setAccount account balance' with float := float' } := by
  have hDevice : device ∈ devices := hWithin.devices device (by rw [hPurse]; rfl)
  have hSome : (ledger.account account).isSome := by rw [hAccount]; rfl
  have hHeld := sum_update hDevice ledger.balance purse'.balance
  have hOnline := sum_update (hWithin.accounts account hSome) ledger.deposit balance'
  rw [balance_eq hPurse] at hHeld
  rw [deposit_eq hAccount] at hOnline
  refine ⟨setPurse_terms hPurse hTerms, rfl, setAccount_isSome _ hSome, ?_, ?_⟩
  · show ((∑ x ∈ devices, (ledger.setPurse device purse').balance x : ℕ) : ℤ) - float' =
      ledger.held devices - ledger.float
    rw [setPurse_balance]
    unfold held
    omega
  · show ((∑ x ∈ accounts, (ledger.setAccount account balance').deposit x : ℕ) : ℤ) + float' =
      ledger.online accounts + ledger.float
    rw [setAccount_deposit]
    unfold online
    omega

/-- **One movement keeps the books.** -/
theorem Step.keeps {movement : Movement D} (h : Step ledger movement ledger')
    (hProper : movement.Proper) (hWithin : Within devices accounts ledger) :
    Keeps devices accounts ledger ledger' := by
  cases h with
  | @fund device account purse balance amount hPurse hOwner hAccount hRoom hFunds =>
    refine keeps_write hWithin hPurse hAccount rfl ?_ ?_
    · unfold Purse.credit
      dsimp only
      omega
    · omega
  | @defund device account purse balance amount hPurse hOwner hAccount hFunds =>
    refine keeps_write hWithin hPurse hAccount rfl ?_ ?_
    · unfold Purse.debit
      dsimp only
      omega
    · omega
  | @pay payer payee source target amount hPayer hPayee hRoom hFunds =>
    have hOther : payee ≠ payer := Ne.symm hProper
    have hSecond : (ledger.setPurse payer (source.debit amount)).purse payee = some target := by
      rw [setPurse_purse, Function.update_of_ne hOther, hPayee]
    have hCreditTerms : (target.credit amount hRoom).terms = target.terms := rfl
    have hDebitTerms : (source.debit amount).terms = source.terms := rfl
    have hDebited := sum_update (hWithin.devices payer (by rw [hPayer]; rfl)) ledger.balance
      (source.balance - amount)
    have hCredited := sum_update (hWithin.devices payee (by rw [hPayee]; rfl))
      (Function.update ledger.balance payer (source.balance - amount)) (target.balance + amount)
    rw [balance_eq hPayer] at hDebited
    rw [Function.update_of_ne hOther, balance_eq hPayee] at hCredited
    refine ⟨fun device => ?_, rfl, fun _ => rfl, ?_, rfl⟩
    · rw [setPurse_terms hSecond hCreditTerms, setPurse_terms hPayer hDebitTerms]
    · show ((∑ x ∈ devices, ((ledger.setPurse payer (source.debit amount)).setPurse payee
        (target.credit amount hRoom)).balance x : ℕ) : ℤ) - ledger.float =
          ledger.held devices - ledger.float
      rw [setPurse_balance, setPurse_balance]
      unfold held Purse.credit Purse.debit
      dsimp only
      omega

/-- A movement keeps the books, refused or not. -/
theorem move_keeps {movement : Movement D} {outcome : Except Refusal ℕ}
    (hWithin : Within devices accounts ledger) (hProper : movement.Proper)
    (h : ledger.move movement = some (outcome, ledger')) :
    Keeps devices accounts ledger ledger' := by
  rcases move_cases h with ⟨refusal, -, rfl⟩ | ⟨-, hStep⟩
  · exact .refl _
  · exact hStep.keeps hProper hWithin

/-- **Runs keep the books.** -/
theorem moves_keep {movements : List (Movement D)} {outcomes : List (Except Refusal ℕ)}
    (hWithin : Within devices accounts ledger) (hProper : ∀ m ∈ movements, m.Proper)
    (h : Service.answers move ledger movements = some (outcomes, ledger')) :
    Keeps devices accounts ledger ledger' := by
  refine Service.answers_invariant (P := Keeps devices accounts ledger)
    (fun {l movement outcome l'} hProper hKeeps hMove => ?_) hProper (Keeps.refl ledger) h
  exact hKeeps.trans (move_keeps (hKeeps.within hWithin) hProper hMove)

-- ---------------------------------------------------------------------------
-- Back to the accounts
-- ---------------------------------------------------------------------------

/-- A device with a purse and an account behind it. -/
structure Served (ledger : Ledger D A N) (device : D) (purse : Purse N) (account : A)
    (balance : ℕ) : Prop where
  purse_eq : ledger.purse device = some purse
  owner_eq : ledger.owner device = some account
  account_eq : ledger.account account = some balance

/-- The movements that empty the purses of some devices. -/
def redemption (ledger : Ledger D A N) (devices : List D) : List (Movement D) :=
  devices.map fun device => .defund device (ledger.balance device)

/-- What comes of emptying a purse. -/
def redeemed (amount : ℕ) : Except Refusal ℕ :=
  if amount = 0 then .error .zeroAmount else .ok amount

/-- Emptying one purse leaves the others and keeps every device served. -/
theorem redeem_one {device : D} {purse : Purse N} {account : A} {balance : ℕ}
    (h : Served ledger device purse account balance) :
    ∃ ledger', ledger.move (.defund device (ledger.balance device)) =
        some (redeemed (ledger.balance device), ledger') ∧
      ledger'.balance device = 0 ∧
      (∀ other, other ≠ device → ledger'.balance other = ledger.balance other) ∧
      ∀ other purse account balance, other ≠ device → Served ledger other purse account balance →
        ∃ balance', Served ledger' other purse account balance' := by
  have hAmount := balance_eq h.purse_eq
  rw [move]
  by_cases hZero : ledger.balance device = 0
  · refine ⟨ledger, ?_, hZero, fun _ _ => rfl, fun _ _ _ balance _ hServed => ⟨balance, hServed⟩⟩
    rw [hZero, redeemed, if_pos rfl, defund_zero h.purse_eq h.owner_eq h.account_eq]
  · rw [defund_ok h.purse_eq h.owner_eq h.account_eq hZero hAmount.le, redeemed, if_neg hZero]
    refine ⟨_, rfl, ?_, fun other hOther => ?_,
      fun other purse' account' balance' hOther hServed => ?_⟩
    · show (ledger.setPurse device (purse.debit (ledger.balance device))).balance device = 0
      rw [setPurse_balance, Function.update_self, Purse.debit, hAmount]
      exact Nat.sub_self _
    · show (ledger.setPurse device (purse.debit (ledger.balance device))).balance other = _
      rw [setPurse_balance, Function.update_of_ne hOther]
    · have hPurse : (ledger.setPurse device (purse.debit (ledger.balance device))).purse other =
          some purse' := by
        rw [setPurse_purse, Function.update_of_ne hOther, hServed.purse_eq]
      have hSome := setAccount_isSome (balance + ledger.balance device)
        (by rw [h.account_eq]; rfl) account'
      rw [hServed.account_eq] at hSome
      obtain ⟨balance'', hAccount⟩ := Option.isSome_iff_exists.mp hSome
      exact ⟨balance'', hPurse, hServed.owner_eq, hAccount⟩

/-- **Every purse can be emptied into its account.** Whatever the order, each
defunding goes through unless there was nothing to defund, and nothing is left. -/
theorem redeem {devices : List D} (hNodup : devices.Nodup) :
    ∀ {ledger : Ledger D A N},
      (∀ device ∈ devices, ∃ purse account balance, Served ledger device purse account balance) →
      ∃ ledger', Service.answers move ledger (redemption ledger devices) =
          some (devices.map fun device => redeemed (ledger.balance device), ledger') ∧
        (∀ device ∈ devices, ledger'.balance device = 0) ∧
        ∀ device ∉ devices, ledger'.balance device = ledger.balance device := by
  induction devices with
  | nil =>
    exact fun {ledger} _ =>
      ⟨ledger, rfl, fun _ hMem => absurd hMem List.not_mem_nil, fun _ _ => rfl⟩
  | cons device rest ih =>
    intro ledger hServed
    obtain ⟨hNotMem, hRest⟩ := List.nodup_cons.mp hNodup
    obtain ⟨hFirst, hLater⟩ := List.forall_mem_cons.mp hServed
    obtain ⟨purse, account, balance, hFirst⟩ := hFirst
    obtain ⟨ledger₁, hMove, hEmpty, hOthers, hKept⟩ := redeem_one hFirst
    have hNe : ∀ other ∈ rest, other ≠ device := fun other hMem hSame => hNotMem (hSame ▸ hMem)
    obtain ⟨ledger', hRun, hZero, hSame⟩ := @ih hRest ledger₁ (fun other hMem => by
      obtain ⟨purse', account', balance', hOther⟩ := hLater other hMem
      obtain ⟨balance'', hStill⟩ := hKept other purse' account' balance' (hNe other hMem) hOther
      exact ⟨purse', account', balance'', hStill⟩)
    -- the others are still owed what they were owed
    have hAmounts : ∀ other ∈ rest, ledger₁.balance other = ledger.balance other :=
      fun other hMem => hOthers other (hNe other hMem)
    have hCalls : redemption ledger₁ rest = redemption ledger rest :=
      List.map_congr_left fun other hMem => by rw [hAmounts other hMem]
    have hResults : rest.map (fun other => redeemed (ledger₁.balance other)) =
        rest.map fun other => redeemed (ledger.balance other) :=
      List.map_congr_left fun other hMem => by rw [hAmounts other hMem]
    rw [hCalls, hResults] at hRun
    refine ⟨ledger', ?_, ?_, fun other hOther => ?_⟩
    · rw [redemption, List.map_cons, Service.answers_cons _ hMove, List.map_cons, ← redemption,
        hRun, Option.map_some]
    · refine List.forall_mem_cons.mpr ⟨?_, hZero⟩
      rw [hSame device hNotMem, hEmpty]
    · obtain ⟨hNe', hNotRest⟩ := List.ne_and_not_mem_of_not_mem_cons hOther
      rw [hSame other hNotRest, hOthers other hNe']

end Ledger

end DigitalEuro
