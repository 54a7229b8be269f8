import Mathlib

/-!
# Digital euro — the ledger the protocol is meant to be

Forget keys, messages and counters: devices hold purses, accounts hold balances,
and a movement happens at once and on both sides, or not at all. Amounts are
numbers, identifiers and nonces any types. A purse cannot be over its limit.

* `Ledger.pay`, `Ledger.fund`, `Ledger.defund` — the movements, with the reasons
  to refuse one in their order of precedence;
* `Ledger.pay_zero` and its siblings — their outcomes, one by one.
-/

namespace DigitalEuro

/-- What a device holds and has promised to accept, within its limit. -/
structure Purse (N : Type*) where
  limit : ℕ
  balance : ℕ
  /-- Open payment requests. -/
  incoming : Multiset (N × ℕ)
  /-- Open funding requests. -/
  pendingFunding : Multiset (N × ℕ)
  within_limit :
    balance + ((incoming.map Prod.snd).sum + (pendingFunding.map Prod.snd).sum) ≤ limit

namespace Purse

variable {N : Type*}

/-- What the open requests reserve. -/
def reserved (purse : Purse N) : ℕ :=
  (purse.incoming.map Prod.snd).sum + (purse.pendingFunding.map Prod.snd).sum

/-- What the purse can still take, or promise to take. -/
def headroom (purse : Purse N) : ℕ := purse.limit - purse.balance - purse.reserved

/-- The purse with an amount less; what is promised stays promised. -/
def debit (purse : Purse N) (amount : ℕ) : Purse N :=
  { purse with
    balance := purse.balance - amount
    within_limit := by
      have hLimit := purse.within_limit
      omega }

/-- The purse with an amount more, for which there is room. -/
def credit (purse : Purse N) (amount : ℕ) (hRoom : amount ≤ purse.headroom) : Purse N :=
  { purse with
    balance := purse.balance + amount
    within_limit := by
      have hLimit := purse.within_limit
      unfold headroom reserved at hRoom
      omega }

/-- Purses are what they hold. -/
@[ext] theorem ext {purse purse' : Purse N} (hLimit : purse.limit = purse'.limit)
    (hBalance : purse.balance = purse'.balance) (hIncoming : purse.incoming = purse'.incoming)
    (hPending : purse.pendingFunding = purse'.pendingFunding) : purse = purse' := by
  cases purse
  cases purse'
  simp only [Purse.mk.injEq]
  exact ⟨hLimit, hBalance, hIncoming, hPending⟩

end Purse

/-- The purses, the accounts, and what went from one to the other. -/
@[ext] structure Ledger (D A N : Type*) where
  purse : D → Option (Purse N)
  /-- The account a device belongs to. -/
  owner : D → Option A
  account : A → Option ℕ
  /-- Funded minus defunded. -/
  float : ℤ

/-- Why a movement is refused. -/
inductive Refusal where
  | zeroAmount
  | holdingLimitExceeded (requested headroom : ℕ)
  | insufficientFunds (requested available : ℕ)

namespace Ledger

variable {D A N : Type*} [DecidableEq D] [DecidableEq A]

/-- Writes the purse of a device. -/
def setPurse (ledger : Ledger D A N) (device : D) (purse : Purse N) : Ledger D A N :=
  { ledger with purse := Function.update ledger.purse device (some purse) }

/-- Writes the balance of an account. -/
def setAccount (ledger : Ledger D A N) (account : A) (balance : ℕ) : Ledger D A N :=
  { ledger with account := Function.update ledger.account account (some balance) }

/-- Moves an amount between two devices. -/
def pay (ledger : Ledger D A N) (payer payee : D) (amount : ℕ) :
    Option (Except Refusal ℕ × Ledger D A N) :=
  match ledger.purse payer, ledger.purse payee with
  | some source, some target =>
    if amount = 0 then
      some (.error .zeroAmount, ledger)
    else if hFull : target.headroom < amount then
      some (.error (.holdingLimitExceeded amount target.headroom), ledger)
    else if source.balance < amount then
      some (.error (.insufficientFunds amount source.balance), ledger)
    else
      some (.ok amount,
        (ledger.setPurse payer (source.debit amount)).setPurse payee
          (target.credit amount (not_lt.mp hFull)))
  | _, _ => none

/-- Moves an amount from a device's account onto the device. -/
def fund (ledger : Ledger D A N) (device : D) (amount : ℕ) :
    Option (Except Refusal ℕ × Ledger D A N) :=
  match ledger.purse device, ledger.owner device with
  | some purse, some account =>
    match ledger.account account with
    | some balance =>
      if amount = 0 then
        some (.error .zeroAmount, ledger)
      else if hFull : purse.headroom < amount then
        some (.error (.holdingLimitExceeded amount purse.headroom), ledger)
      else if balance < amount then
        some (.error (.insufficientFunds amount balance), ledger)
      else
        some (.ok amount,
          { (ledger.setPurse device (purse.credit amount (not_lt.mp hFull))).setAccount account
              (balance - amount) with
            float := ledger.float + amount })
    | none => none
  | _, _ => none

/-- Moves an amount from a device back to its account. -/
def defund (ledger : Ledger D A N) (device : D) (amount : ℕ) :
    Option (Except Refusal ℕ × Ledger D A N) :=
  match ledger.purse device, ledger.owner device with
  | some purse, some account =>
    match ledger.account account with
    | some balance =>
      if amount = 0 then
        some (.error .zeroAmount, ledger)
      else if purse.balance < amount then
        some (.error (.insufficientFunds amount purse.balance), ledger)
      else
        some (.ok amount,
          { (ledger.setPurse device (purse.debit amount)).setAccount account
              (balance + amount) with
            float := ledger.float - amount })
    | none => none
  | _, _ => none

-- ---------------------------------------------------------------------------
-- Movements, case by case
-- ---------------------------------------------------------------------------

section Pay

variable {ledger : Ledger D A N} {payer payee : D} {source target : Purse N} {amount : ℕ}
  (hPayer : ledger.purse payer = some source) (hPayee : ledger.purse payee = some target)

include hPayer hPayee

omit [DecidableEq A] in
/-- A payment of nothing is refused, whoever pays it. -/
theorem pay_zero : ledger.pay payer payee 0 = some (.error .zeroAmount, ledger) := by
  simp only [pay, hPayer, hPayee, if_true]

omit [DecidableEq A] in
/-- The room of the payee comes before the funds of the payer. -/
theorem pay_noRoom (hPos : amount ≠ 0) (hFull : target.headroom < amount) :
    ledger.pay payer payee amount =
      some (.error (.holdingLimitExceeded amount target.headroom), ledger) := by
  simp only [pay, hPayer, hPayee, if_neg hPos]
  rw [dif_pos hFull]

omit [DecidableEq A] in
/-- With room on one side the funds are missing on the other. -/
theorem pay_noFunds (hPos : amount ≠ 0) (hRoom : amount ≤ target.headroom)
    (hShort : source.balance < amount) :
    ledger.pay payer payee amount =
      some (.error (.insufficientFunds amount source.balance), ledger) := by
  simp only [pay, hPayer, hPayee, if_neg hPos]
  rw [dif_neg (not_lt.mpr hRoom), if_pos hShort]

omit [DecidableEq A] in
/-- A payment moves the amount and nothing else. -/
theorem pay_ok (hPos : amount ≠ 0) (hRoom : amount ≤ target.headroom)
    (hFunds : amount ≤ source.balance) :
    ledger.pay payer payee amount =
      some (.ok amount,
        (ledger.setPurse payer (source.debit amount)).setPurse payee
          (target.credit amount hRoom)) := by
  simp only [pay, hPayer, hPayee, if_neg hPos]
  rw [dif_neg (not_lt.mpr hRoom), if_neg (not_lt.mpr hFunds)]

end Pay

section Fund

variable {ledger : Ledger D A N} {device : D} {account : A} {purse : Purse N} {balance amount : ℕ}
  (hPurse : ledger.purse device = some purse) (hOwner : ledger.owner device = some account)
  (hAccount : ledger.account account = some balance)

include hPurse hOwner hAccount

/-- So is a funding of nothing. -/
theorem fund_zero : ledger.fund device 0 = some (.error .zeroAmount, ledger) := by
  simp only [fund, hPurse, hOwner, hAccount, if_true]

/-- The room on the device comes before the funds on the account. -/
theorem fund_noRoom (hPos : amount ≠ 0) (hFull : purse.headroom < amount) :
    ledger.fund device amount =
      some (.error (.holdingLimitExceeded amount purse.headroom), ledger) := by
  simp only [fund, hPurse, hOwner, hAccount, if_neg hPos]
  rw [dif_pos hFull]

/-- With room on the device the account can be short. -/
theorem fund_noFunds (hPos : amount ≠ 0) (hRoom : amount ≤ purse.headroom)
    (hShort : balance < amount) :
    ledger.fund device amount = some (.error (.insufficientFunds amount balance), ledger) := by
  simp only [fund, hPurse, hOwner, hAccount, if_neg hPos]
  rw [dif_neg (not_lt.mpr hRoom), if_pos hShort]

/-- A funding moves the amount and tells the float. -/
theorem fund_ok (hPos : amount ≠ 0) (hRoom : amount ≤ purse.headroom) (hFunds : amount ≤ balance) :
    ledger.fund device amount =
      some (.ok amount,
        { (ledger.setPurse device (purse.credit amount hRoom)).setAccount account
            (balance - amount) with
          float := ledger.float + amount }) := by
  simp only [fund, hPurse, hOwner, hAccount, if_neg hPos]
  rw [dif_neg (not_lt.mpr hRoom), if_neg (not_lt.mpr hFunds)]

/-- And so is a defunding of nothing. -/
theorem defund_zero : ledger.defund device 0 = some (.error .zeroAmount, ledger) := by
  simp only [defund, hPurse, hOwner, hAccount, if_true]

/-- The purse can be short; an account takes what comes. -/
theorem defund_noFunds (hPos : amount ≠ 0) (hShort : purse.balance < amount) :
    ledger.defund device amount =
      some (.error (.insufficientFunds amount purse.balance), ledger) := by
  simp only [defund, hPurse, hOwner, hAccount, if_neg hPos, if_pos hShort]

/-- A defunding moves the amount back and tells the float. -/
theorem defund_ok (hPos : amount ≠ 0) (hFunds : amount ≤ purse.balance) :
    ledger.defund device amount =
      some (.ok amount,
        { (ledger.setPurse device (purse.debit amount)).setAccount account
            (balance + amount) with
          float := ledger.float - amount }) := by
  simp only [defund, hPurse, hOwner, hAccount, if_neg hPos, if_neg (not_lt.mpr hFunds)]

end Fund

end Ledger

end DigitalEuro
