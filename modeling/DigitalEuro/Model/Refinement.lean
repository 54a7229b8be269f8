import DigitalEuro.Model.Counters
import DigitalEuro.Model.Helpers
import DigitalEuro.Model.Ledger

/-!
# Digital euro — the helpers refine the ledger

Each helper runs two or three fallible steps on two machines. Seen from the
ledger it is one movement: it is refused for the ledger's reasons, in the ledger's
order, and nothing else changes. Open reservations and messages under way, left
over from step-by-step use, make no difference.

* `System.ledger`, `Refines` — the ledger behind a system, and what it is to follow it;
* `helpers_refine` — all three helpers, in every reachable state;
* `worn_defund` — why `defund` needs a counter that has not wrapped.
-/

namespace DigitalEuro

-- ---------------------------------------------------------------------------
-- What the ledger sees
-- ---------------------------------------------------------------------------

namespace Wallet

variable {R : Type}

instance (w : Wallet R) : Decidable w.WithinLimit :=
  inferInstanceAs (Decidable (_ ≤ _))

/-- The open requests as amounts. -/
def openAmounts (reservations : Reservations) : Multiset (Nonce × ℕ) :=
  reservations.entries.map fun entry => (entry.1, entry.2.toNat)

theorem openAmounts_sum (reservations : Reservations) :
    ((openAmounts reservations).map Prod.snd).sum = reservations.total UInt64.toNat := by
  rw [openAmounts, Multiset.map_map]
  rfl

/-- The purse of an element. -/
def purse (w : Wallet R) (h : w.WithinLimit) : Purse Nonce where
  limit := w.holdingLimit.toNat
  balance := w.balanceCents.toNat
  incoming := openAmounts w.incoming
  pendingFunding := openAmounts w.pendingFunding
  within_limit := by
    rw [openAmounts_sum, openAmounts_sum]
    exact h

def purse? (w : Wallet R) : Option (Purse Nonce) :=
  if h : w.WithinLimit then some (w.purse h) else none

theorem purse?_eq {w : Wallet R} (h : w.WithinLimit) : w.purse? = some (w.purse h) := dif_pos h

theorem purse_headroom {w : Wallet R} (h : w.WithinLimit) :
    (w.purse h).headroom = w.headroom.toNat := by
  have hHeadroom := h.headroom_toNat
  unfold Purse.headroom Purse.reserved
  simp only [purse, openAmounts_sum]
  unfold promised at hHeadroom
  omega

/-- A debit of a sealed element is a debit of its purse. -/
theorem purse_debited {w : Wallet R} (h : w.WithinLimit) {amountCents : UInt64}
    (hFunds : amountCents ≤ w.balanceCents) (hSealed : w.state = .sealed) :
    (w.debited amountCents).purse (h.debited hFunds) =
      (w.purse h).debit amountCents.toNat := by
  have hBalance := w.debited_balance_toNat hFunds
  rw [if_pos hSealed] at hBalance
  exact Purse.ext rfl hBalance rfl rfl

/-- A credit within the headroom is a credit of the purse. -/
theorem purse_credit [Rng R] {w : Wallet R} (h : w.WithinLimit) {amountCents : UInt64}
    (hRoom : amountCents ≤ w.headroom)
    (hPurseRoom : amountCents.toNat ≤ (w.purse h).headroom) :
    ∃ h' : (w.credit amountCents).WithinLimit,
      (w.credit amountCents).purse h' = (w.purse h).credit amountCents.toNat hPurseRoom := by
  have hHeadroom := h.headroom_toNat
  have hLe := UInt64.le_iff_toNat_le.mp hRoom
  have hLimit := w.holdingLimit.toNat_lt
  have hSum : (w.credit amountCents).balanceCents.toNat =
      w.balanceCents.toNat + amountCents.toNat := toNat_add_of_lt (by omega)
  refine ⟨?_, Purse.ext rfl hSum rfl rfl⟩
  show (w.credit amountCents).balanceCents.toNat + w.promised ≤ w.holdingLimit.toNat
  omega

end Wallet

/-- The ledger's reason for an error, where it has one. -/
def Error.refusal : Error → Option Refusal
  | .zeroAmount => some .zeroAmount
  | .holdingLimitExceeded requested headroom =>
    some (.holdingLimitExceeded requested.toNat headroom.toNat)
  | .insufficientFunds requested available =>
    some (.insufficientFunds requested.toNat available.toNat)
  | _ => none

/-- A result in the ledger's terms. -/
def verdict : Except Error UInt64 → Option (Except Refusal ℕ)
  | .ok amountCents => some (.ok amountCents.toNat)
  | .error error => error.refusal.map .error

namespace System

section Abstraction

variable {R : Type}

/-- The ledger behind a system. -/
def ledger (s : System R) : Ledger DeviceId AccountId Nonce where
  purse device := (s.wallets.lookup device).bind Wallet.purse?
  owner := s.issuer.accountOf
  account account := (s.issuer.balanceOf account).map UInt64.toNat
  float := s.issuer.offlineFloat

/-- One offline payment between two installed elements. -/
def pay [Sha256] [Rng R] (s : System R) (payer payee : DeviceId) (amountCents : UInt64) :
    Option (Except Error UInt64 × System R) :=
  match s.wallets.lookup payer, s.wallets.lookup payee with
  | some w, some w' =>
    let (result, w, w') := DigitalEuro.pay w w' amountCents
    some (result, { s with wallets := (s.wallets.insert payer w).insert payee w' })
  | _, _ => none

/-- Funds an installed element. -/
def fund [Sha256] [Rng R] (s : System R) (device : DeviceId) (amountCents : UInt64) :
    Option (Except Error UInt64 × System R) :=
  match s.wallets.lookup device with
  | some w =>
    let (result, w, issuer) := DigitalEuro.fund w s.issuer amountCents
    some (result, { issuer, wallets := s.wallets.insert device w })
  | none => none

/-- Defunds an installed element. -/
def defund [Sha256] (s : System R) (device : DeviceId) (amountCents : UInt64) :
    Option (Except Error UInt64 × System R) :=
  match s.wallets.lookup device with
  | some w =>
    let (result, w, issuer) := DigitalEuro.defund w s.issuer amountCents
    some (result, { issuer, wallets := s.wallets.insert device w })
  | none => none

/-- A call on the system does what the movement does on its ledger: the result, the
reason of a refusal with its amounts, and the whole ledger afterwards. -/
def Refines (call : Option (Except Error UInt64 × System R))
    (movement : Option (Except Refusal ℕ × Ledger DeviceId AccountId Nonce)) : Prop :=
  ∃ result s' outcome, call = some (result, s') ∧ movement = some (outcome, s'.ledger) ∧
    verdict result = some outcome

variable {s : System R}

theorem ledger_purse {device : DeviceId} {w : Wallet R} (hWallet : s.wallets.lookup device = some w)
    (hLimit : w.WithinLimit) : s.ledger.purse device = some (w.purse hLimit) := by
  show (s.wallets.lookup device).bind Wallet.purse? = _
  rw [hWallet, Option.bind_some, Wallet.purse?_eq hLimit]

/-- Replacing a wallet replaces its purse. -/
theorem ledger_insert (s : System R) (device : DeviceId) {w : Wallet R} (hLimit : w.WithinLimit) :
    ledger { s with wallets := s.wallets.insert device w } =
      s.ledger.setPurse device (w.purse hLimit) := by
  refine Ledger.ext (funext fun device' => ?_) rfl rfl rfl
  show ((s.wallets.insert device w).lookup device').bind Wallet.purse? =
    Function.update s.ledger.purse device (some (w.purse hLimit)) device'
  by_cases hSame : device' = device
  · rw [hSame, Function.update_self, Finmap.lookup_insert, Option.bind_some,
      Wallet.purse?_eq hLimit]
  · rw [Function.update_of_ne hSame, Finmap.lookup_insert_of_ne _ hSame]
    rfl

/-- A wallet with the same purse leaves the ledger alone. -/
theorem ledger_insert_same {device : DeviceId} {w w' : Wallet R}
    (hWallet : s.wallets.lookup device = some w) (hSame : w'.purse? = w.purse?) :
    ledger { s with wallets := s.wallets.insert device w' } = s.ledger := by
  refine Ledger.ext (funext fun device' => ?_) rfl rfl rfl
  show ((s.wallets.insert device w').lookup device').bind Wallet.purse? =
    (s.wallets.lookup device').bind Wallet.purse?
  by_cases hDevice : device' = device
  · rw [hDevice, Finmap.lookup_insert, hWallet, Option.bind_some, Option.bind_some, hSame]
  · rw [Finmap.lookup_insert_of_ne _ hDevice]

/-- Writing one account of the issuer writes it in the ledger. -/
theorem account_insert {accounts : Finmap fun _ : AccountId => UInt64} (account : AccountId)
    (balance : UInt64) :
    (fun account' => ((accounts.insert account balance).lookup account').map UInt64.toNat) =
      Function.update (fun account' => (accounts.lookup account').map UInt64.toNat) account
        (some balance.toNat) := by
  funext account'
  by_cases hSame : account' = account
  · rw [hSame, Function.update_self, Finmap.lookup_insert, Option.map_some]
  · rw [Function.update_of_ne hSame, Finmap.lookup_insert_of_ne _ hSame]

/-- A funding takes its amount out of the account and adds it to the float. -/
theorem ledger_funded [Sha256] (s : System R) (request : FundingRequest) (account : AccountId)
    {balance : UInt64} (hFunds : request.amountCents ≤ balance) :
    ledger { s with issuer := s.issuer.funded request account balance } =
      { s.ledger.setAccount account (balance.toNat - request.amountCents.toNat) with
        float := s.ledger.float + request.amountCents.toNat } := by
  refine Ledger.ext rfl rfl ?_ rfl
  rw [← UInt64.toNat_sub_of_le _ _ hFunds]
  exact account_insert account _

/-- A defunding that fits adds its amount to the account and takes it off the float. -/
theorem ledger_defunded [Sha256] (s : System R) {defunding : Defunding} {record : DeviceRecord}
    (hRecord : s.issuer.devices.lookup defunding.device = some record) {balance : UInt64}
    (hFits : balance.toNat + defunding.amountCents.toNat < 2 ^ 64) :
    ledger { s with issuer := s.issuer.defunded defunding record balance } =
      { s.ledger.setAccount record.account (balance.toNat + defunding.amountCents.toNat) with
        float := s.ledger.float - defunding.amountCents.toNat } := by
  refine Ledger.ext rfl (funext fun device => ?_) ?_ rfl
  · -- the device stays with its account
    show (s.issuer.defunded defunding record balance).accountOf device = s.issuer.accountOf device
    by_cases hSame : device = defunding.device
    · rw [hSame, Issuer.accountOf_eq hRecord, Issuer.accountOf, Issuer.defunded,
        Finmap.lookup_insert, Option.map_some]
    · rw [Issuer.accountOf, Issuer.defunded, Finmap.lookup_insert_of_ne _ hSame, Issuer.accountOf]
  · rw [← toNat_add_of_lt hFits]
    exact account_insert record.account _

end Abstraction

variable [Sha256] {R G : Type} [Rng R] [Rng G] {keypair : Keypair} {history : List Event}
  {s : System R}

-- ---------------------------------------------------------------------------
-- The parties of a helper
-- ---------------------------------------------------------------------------

/-- Two installed elements can pay each other. -/
theorem Enrolled.canPay (h : Enrolled R G keypair history s) {payer payee : DeviceId}
    (hOther : payer ≠ payee) {w w' : Wallet R} (hPayer : s.wallets.lookup payer = some w)
    (hPayee : s.wallets.lookup payee = some w') : CanPay w w' := by
  have hOf := h.wallet_of hPayer
  have hOf' := h.wallet_of hPayee
  refine ⟨?_, ?_, ?_, hOf.publicKey_eq, hOf.generated⟩
  · rw [hOf.issuer_eq]
    exact hOf'.verifies
  · rw [hOf'.issuer_eq]
    exact hOf.verifies
  · rw [Wallet.device, Wallet.device, hOf.device_eq, hOf'.device_eq]
    exact Ne.symm hOther

/-- An installed element is on record, and its account exists. -/
theorem Reachable.onRecord (h : Reachable R G keypair history s) (hIssuer : keypair.Generated)
    {device : DeviceId} {w : Wallet R} (hWallet : s.wallets.lookup device = some w) :
    ∃ record balance, OnRecord w s.issuer record balance := by
  have hOf := h.enrolled.wallet_of hWallet
  obtain ⟨record, hRecord, hKey⟩ := h.recorded hWallet
  obtain ⟨balance, hBalance⟩ := Option.isSome_iff_exists.mp
    (Issuer.accounts_exist h.enrolled.issuer_run device record hRecord)
  refine ⟨record, balance, ?_, ?_, hOf.generated, ?_, hKey, hBalance⟩
  · rw [hOf.issuer_eq, h.enrolled.publicKey_eq]
  · rw [h.enrolled.issuer_key]
    exact hIssuer
  · rw [Wallet.device, hOf.device_eq, hRecord]

-- ---------------------------------------------------------------------------
-- The helpers
-- ---------------------------------------------------------------------------

omit [Sha256] [Rng R] [Rng G] in
/-- A refused call that leaves the ledger alone. -/
theorem Refines.refused {call : Option (Except Error UInt64 × System R)}
    {movement : Option (Except Refusal ℕ × Ledger DeviceId AccountId Nonce)} {error : Error}
    {refusal : Refusal} {s' : System R} (hCall : call = some (.error error, s'))
    (hLedger : s'.ledger = s.ledger) (hRefusal : error.refusal = some refusal)
    (hMovement : movement = some (.error refusal, s.ledger)) : Refines call movement :=
  ⟨_, s', _, hCall, by rw [hMovement, hLedger], by rw [verdict, hRefusal, Option.map_some]⟩

omit [Sha256] [Rng R] [Rng G] in
theorem Refines.accepted {call : Option (Except Error UInt64 × System R)}
    {movement : Option (Except Refusal ℕ × Ledger DeviceId AccountId Nonce)}
    {amountCents : UInt64} {s' : System R} (hCall : call = some (.ok amountCents, s'))
    (hMovement : movement = some (.ok amountCents.toNat, s'.ledger)) : Refines call movement :=
  ⟨_, s', _, hCall, hMovement, rfl⟩

theorem Enrolled.refines_pay (h : Enrolled R G keypair history s) {payer payee : DeviceId}
    (hOther : payer ≠ payee) {w w' : Wallet R} (hPayer : s.wallets.lookup payer = some w)
    (hPayee : s.wallets.lookup payee = some w') (hSealed : w.state = .sealed)
    (hFresh : FreshNonce history payee w') (amountCents : UInt64) :
    Refines (s.pay payer payee amountCents) (s.ledger.pay payer payee amountCents.toNat) := by
  have hLimit := (h.wallet_of hPayer).within_limit
  have hLimit' := (h.wallet_of hPayee).within_limit
  have hCan := h.canPay hOther hPayer hPayee
  obtain ⟨hIncoming, -, hNew⟩ := (h.wallet_of hPayee).untouched hFresh
  have hPurse := ledger_purse hPayer hLimit
  have hPurse' := ledger_purse hPayee hLimit'
  have hHeadroom := Wallet.purse_headroom hLimit'
  by_cases hZero : amountCents = 0
  case pos =>
    subst hZero
    have hCall : s.pay payer payee 0 = some (.error .zeroAmount, s) := by
      simp only [System.pay, hPayer, hPayee, pay_zero, Finmap.insert_of_lookup hPayer,
        Finmap.insert_of_lookup hPayee]
    exact Refines.refused hCall rfl rfl (Ledger.pay_zero hPurse hPurse')
  have hPos : amountCents.toNat ≠ 0 := fun hNat => hZero (UInt64.toNat_inj.mp hNat)
  by_cases hRoom : amountCents ≤ w'.headroom
  case neg =>
    have hFull := UInt64.not_le.mp hRoom
    have hPurseFull : (w'.purse hLimit').headroom < amountCents.toNat := by
      rw [hHeadroom]
      exact UInt64.lt_iff_toNat_lt.mp hFull
    have hRefused := Ledger.pay_noRoom hPurse hPurse' hPos hPurseFull
    rw [hHeadroom] at hRefused
    have hCall : s.pay payer payee amountCents =
        some (.error (.holdingLimitExceeded amountCents w'.headroom), s) := by
      simp only [System.pay, hPayer, hPayee, pay_noRoom w w' hZero hFull,
        Finmap.insert_of_lookup hPayer, Finmap.insert_of_lookup hPayee]
    exact Refines.refused hCall rfl rfl hRefused
  have hPurseRoom : amountCents.toNat ≤ (w'.purse hLimit').headroom := by
    rw [hHeadroom]
    exact UInt64.le_iff_toNat_le.mp hRoom
  by_cases hFunds : amountCents ≤ w.balanceCents
  case neg =>
    have hShort := UInt64.not_le.mp hFunds
    have hCall : s.pay payer payee amountCents =
        some (.error (.insufficientFunds amountCents w.balanceCents),
          { s with
            wallets := s.wallets.insert payee { w' with rng := (Rng.gen w'.rng).2 } }) := by
      simp only [System.pay, hPayer, hPayee, pay_noFunds hCan hZero hRoom hShort hIncoming,
        Finmap.insert_of_lookup hPayer]
    exact Refines.refused hCall (ledger_insert_same hPayee rfl) rfl
      (Ledger.pay_noFunds hPurse hPurse' hPos hPurseRoom (UInt64.lt_iff_toNat_lt.mp hShort))
  -- the payer is debited and the payee credited
  obtain ⟨hCreditLimit, hCredit⟩ := Wallet.purse_credit hLimit' hRoom hPurseRoom
  have hCall : s.pay payer payee amountCents =
      some (.ok amountCents,
        { s with
          wallets := (s.wallets.insert payer (w.debited amountCents)).insert payee
            (w'.credit amountCents) }) := by
    simp only [System.pay, hPayer, hPayee, pay_ok hCan hZero hRoom hFunds hIncoming hNew]
  refine Refines.accepted hCall ?_
  rw [Ledger.pay_ok hPurse hPurse' hPos hPurseRoom (UInt64.le_iff_toNat_le.mp hFunds),
    ledger_insert { s with wallets := s.wallets.insert payer (w.debited amountCents) } payee
      hCreditLimit, ledger_insert s payer (hLimit.debited hFunds), hCredit,
    Wallet.purse_debited hLimit hFunds hSealed]

omit [Sha256] [Rng R] in
/-- The account behind a record, in the ledger. -/
theorem ledger_onRecord {device : DeviceId} {w : Wallet R} {record : DeviceRecord}
    {balance : UInt64} (hDevice : w.device = device)
    (hOn : OnRecord w s.issuer record balance) :
    s.ledger.owner device = some record.account ∧
      s.ledger.account record.account = some balance.toNat := by
  constructor
  · have hRecord := hOn.record_eq
    rw [hDevice] at hRecord
    exact Issuer.accountOf_eq hRecord
  · show (s.issuer.accounts.lookup record.account).map UInt64.toNat = some balance.toNat
    rw [hOn.account_eq, Option.map_some]

theorem Reachable.refines_fund (h : Reachable R G keypair history s) (hIssuer : keypair.Generated)
    {device : DeviceId} {w : Wallet R} (hWallet : s.wallets.lookup device = some w)
    (hFresh : FreshNonce history device w) (amountCents : UInt64) :
    Refines (s.fund device amountCents) (s.ledger.fund device amountCents.toNat) := by
  have hOf := h.enrolled.wallet_of hWallet
  have hLimit := hOf.within_limit
  have hPurse := ledger_purse hWallet hLimit
  have hHeadroom := Wallet.purse_headroom hLimit
  obtain ⟨-, hPending, hUncredited⟩ := hOf.untouched hFresh
  obtain ⟨record, balance, hOn⟩ := h.onRecord hIssuer hWallet
  obtain ⟨hOwner, hAccount⟩ := ledger_onRecord hOf.device_eq hOn
  have hNew := h.unfunded hWallet hFresh
  by_cases hZero : amountCents = 0
  case pos =>
    subst hZero
    have hCall : s.fund device 0 = some (.error .zeroAmount, s) := by
      simp only [System.fund, hWallet, fund_zero, Finmap.insert_of_lookup hWallet]
    exact Refines.refused hCall rfl rfl (Ledger.fund_zero hPurse hOwner hAccount)
  have hPos : amountCents.toNat ≠ 0 := fun hNat => hZero (UInt64.toNat_inj.mp hNat)
  by_cases hRoom : amountCents ≤ w.headroom
  case neg =>
    have hFull := UInt64.not_le.mp hRoom
    have hPurseFull : (w.purse hLimit).headroom < amountCents.toNat := by
      rw [hHeadroom]
      exact UInt64.lt_iff_toNat_lt.mp hFull
    have hRefused := Ledger.fund_noRoom hPurse hOwner hAccount hPos hPurseFull
    rw [hHeadroom] at hRefused
    have hCall : s.fund device amountCents =
        some (.error (.holdingLimitExceeded amountCents w.headroom), s) := by
      simp only [System.fund, hWallet, fund_noRoom w s.issuer hZero hFull,
        Finmap.insert_of_lookup hWallet]
    exact Refines.refused hCall rfl rfl hRefused
  have hPurseRoom : amountCents.toNat ≤ (w.purse hLimit).headroom := by
    rw [hHeadroom]
    exact UInt64.le_iff_toNat_le.mp hRoom
  by_cases hFunds : amountCents ≤ balance
  case neg =>
    have hShort := UInt64.not_le.mp hFunds
    have hCall : s.fund device amountCents =
        some (.error (.insufficientFunds amountCents balance),
          { s with wallets := s.wallets.insert device { w with rng := (Rng.gen w.rng).2 } }) := by
      simp only [System.fund, hWallet, fund_noFunds hOn hZero hRoom hShort hPending hNew]
    exact Refines.refused hCall (ledger_insert_same hWallet rfl) rfl
      (Ledger.fund_noFunds hPurse hOwner hAccount hPos hPurseRoom
        (UInt64.lt_iff_toNat_lt.mp hShort))
  -- the account is debited and the device credited
  let request := w.fundingRequestFor amountCents (Rng.gen w.rng).1
  obtain ⟨hCreditLimit, hCredit⟩ := Wallet.purse_credit hLimit hRoom hPurseRoom
  have hCall : s.fund device amountCents =
      some (.ok amountCents,
        { issuer := s.issuer.funded request record.account balance
          wallets := s.wallets.insert device (w.credit amountCents) }) := by
    simp only [System.fund, hWallet,
      fund_ok hOn hZero hRoom hFunds hPending hUncredited hNew]
    rfl
  refine Refines.accepted hCall ?_
  rw [Ledger.fund_ok hPurse hOwner hAccount hPos hPurseRoom (UInt64.le_iff_toNat_le.mp hFunds),
    ledger_insert { s with issuer := s.issuer.funded request record.account balance } device
      hCreditLimit, ledger_funded s request record.account hFunds, hCredit]
  rfl

theorem Reachable.refines_defund (h : Reachable R G keypair history s)
    (hIssuer : keypair.Generated) {device : DeviceId} {w : Wallet R}
    (hWallet : s.wallets.lookup device = some w) (hSealed : w.state = .sealed)
    (hFew : debits device history + 1 < 2 ^ 64) {amountCents : UInt64}
    (hFits : ∀ account balance, s.issuer.accountOf device = some account →
      s.issuer.balanceOf account = some balance → balance.toNat + amountCents.toNat < 2 ^ 64) :
    Refines (s.defund device amountCents) (s.ledger.defund device amountCents.toNat) := by
  have hOf := h.enrolled.wallet_of hWallet
  have hLimit := hOf.within_limit
  have hPurse := ledger_purse hWallet hLimit
  obtain ⟨record, balance, hOn⟩ := h.onRecord hIssuer hWallet
  obtain ⟨hOwner, hAccount⟩ := ledger_onRecord hOf.device_eq hOn
  have hRecord : s.issuer.devices.lookup device = some record := by
    rw [← hOf.device_eq]
    exact hOn.record_eq
  have hCounter : record.lastDefundingCounter < w.counter + 1 :=
    h.last_lt_next hWallet hRecord hFew
  by_cases hZero : amountCents = 0
  case pos =>
    subst hZero
    have hCall : s.defund device 0 = some (.error .zeroAmount, s) := by
      simp only [System.defund, hWallet, defund_zero, Finmap.insert_of_lookup hWallet]
    exact Refines.refused hCall rfl rfl (Ledger.defund_zero hPurse hOwner hAccount)
  have hPos : amountCents.toNat ≠ 0 := fun hNat => hZero (UInt64.toNat_inj.mp hNat)
  by_cases hFunds : amountCents ≤ w.balanceCents
  case neg =>
    have hShort := UInt64.not_le.mp hFunds
    have hCall : s.defund device amountCents =
        some (.error (.insufficientFunds amountCents w.balanceCents), s) := by
      simp only [System.defund, hWallet, defund_noFunds w s.issuer hZero hShort,
        Finmap.insert_of_lookup hWallet]
    exact Refines.refused hCall rfl rfl
      (Ledger.defund_noFunds hPurse hOwner hAccount hPos (UInt64.lt_iff_toNat_lt.mp hShort))
  -- the device is debited and the account credited
  let defunding := w.defundingFor amountCents
  have hCall : s.defund device amountCents =
      some (.ok amountCents,
        { issuer := s.issuer.defunded defunding record balance
          wallets := s.wallets.insert device (w.debited amountCents) }) := by
    simp only [System.defund, hWallet, defund_ok hOn hZero hFunds hCounter]
    rfl
  have hFit : balance.toNat + defunding.amountCents.toNat < 2 ^ 64 :=
    hFits record.account balance hOwner hOn.account_eq
  refine Refines.accepted hCall ?_
  rw [Ledger.defund_ok hPurse hOwner hAccount hPos (UInt64.le_iff_toNat_le.mp hFunds),
    ledger_insert { s with issuer := s.issuer.defunded defunding record balance } device
      (hLimit.debited hFunds), ledger_defunded s hOn.record_eq hFit,
    Wallet.purse_debited hLimit hFunds hSealed]
  rfl

/-- **The helpers refine the ledger.** In every reachable state, for every amount,
each helper returns what the ledger's movement returns and leaves the ledger as the
movement does: `pay` between two installed devices with a sealed payer, `fund`, and
`defund` of a sealed device whose account takes the credit and which has signed
fewer than 2^64 - 1 debits. Nonces a helper draws are new to the device. -/
theorem helpers_refine (h : Reachable R G keypair history s) (hIssuer : keypair.Generated)
    (amountCents : UInt64) :
    (∀ payer payee w w', payer ≠ payee → s.wallets.lookup payer = some w →
        s.wallets.lookup payee = some w' → w.state = .sealed → FreshNonce history payee w' →
          Refines (s.pay payer payee amountCents)
            (s.ledger.pay payer payee amountCents.toNat)) ∧
      (∀ device w, s.wallets.lookup device = some w → FreshNonce history device w →
        Refines (s.fund device amountCents) (s.ledger.fund device amountCents.toNat)) ∧
      ∀ device w, s.wallets.lookup device = some w → w.state = .sealed →
        debits device history + 1 < 2 ^ 64 →
        (∀ account balance, s.issuer.accountOf device = some account →
          s.issuer.balanceOf account = some balance →
            balance.toNat + amountCents.toNat < 2 ^ 64) →
          Refines (s.defund device amountCents) (s.ledger.defund device amountCents.toNat) :=
  ⟨fun _ _ _ _ hOther hPayer hPayee hSealed hFresh =>
      h.enrolled.refines_pay hOther hPayer hPayee hSealed hFresh amountCents,
    fun _ _ hWallet hFresh => h.refines_fund hIssuer hWallet hFresh amountCents,
    fun _ _ hWallet hSealed hFew hFits => h.refines_defund hIssuer hWallet hSealed hFew hFits⟩

-- ---------------------------------------------------------------------------
-- A counter that wraps
-- ---------------------------------------------------------------------------

/-- A funding that goes through is three calls of the system. -/
theorem Reachable.fund_next (h : Reachable R G keypair history s) {device : DeviceId}
    {w : Wallet R} (hWallet : s.wallets.lookup device = some w)
    (hFresh : FreshNonce history device w) {record : DeviceRecord} {balance amountCents : UInt64}
    (hOn : OnRecord w s.issuer record balance) (hPos : amountCents ≠ 0)
    (hRoom : amountCents ≤ w.headroom) (hFunds : amountCents ≤ balance) :
    Reachable R G keypair
      ([.wallet w.certificate (.applied (s.issuer.fundingFor
          (w.fundingRequestFor amountCents (Rng.gen w.rng).1))),
        .issuer (.funded record.account (w.fundingRequestFor amountCents (Rng.gen w.rng).1)
          (s.issuer.fundingFor (w.fundingRequestFor amountCents (Rng.gen w.rng).1))),
        .wallet w.certificate (.fundingRequested
          (w.fundingRequestFor amountCents (Rng.gen w.rng).1))] ++ history)
      { issuer := s.issuer.funded (w.fundingRequestFor amountCents (Rng.gen w.rng).1)
          record.account balance
        wallets := s.wallets.insert device (w.credit amountCents) } := by
  have hOf := h.enrolled.wallet_of hWallet
  obtain ⟨-, hPending, hUncredited⟩ := hOf.untouched hFresh
  have hNew := h.unfunded hWallet hFresh
  have hAsked := h.wallet_next hWallet (Wallet.Step.requestFunding amountCents hPos hRoom)
    (fun _ hp => absurd hp List.not_mem_nil)
  have hFunded := hAsked.issuer_next
    (Issuer.Step.fund (w.fundingRequestFor amountCents (Rng.gen w.rng).1) record balance
      hOn.record_eq (hOn.request_verifies _) hPos hNew hOn.account_eq hFunds)
    (fun _ _ _ _ hOp => absurd hOp (by simp)) (by
      rw [presented_fund (R := R) (G := G) hOn.record_eq, hOn.publicKey_eq, ← hOf.publicKey_eq]
      intro p hp
      obtain rfl := List.mem_singleton.mp hp
      exact ⟨_, List.mem_cons_self, rfl⟩)
  have hSignature := hOn.issuer_generated.verify_sign
    (s.issuer.fundingFor (w.fundingRequestFor amountCents (Rng.gen w.rng).1)).digest
  rw [← Issuer.publicKey, ← hOn.issuer_eq] at hSignature
  have hApplied := hFunded.wallet_next (Finmap.lookup_insert _)
    (Wallet.Step.applyFunding
      (s.issuer.fundingFor (w.fundingRequestFor amountCents (Rng.gen w.rng).1)) rfl hSignature
      hUncredited (Finmap.lookup_insert _)) (by
      intro p hp
      obtain rfl := List.mem_singleton.mp hp
      exact ⟨_, List.mem_cons_self, rfl⟩)
  simp only [Finmap.insert_insert, Issuer.fundingFor_nonce, Wallet.fundingRequestFor_nonce,
    Finmap.erase_insert_of_lookup_none hPending] at hApplied
  exact hApplied

/-- A defunding that goes through is two. -/
theorem Reachable.defund_next (h : Reachable R G keypair history s) {device : DeviceId}
    {w : Wallet R} (hWallet : s.wallets.lookup device = some w) {record : DeviceRecord}
    {balance amountCents : UInt64} (hOn : OnRecord w s.issuer record balance)
    (hCounter : record.lastDefundingCounter < w.counter + 1) (hPos : amountCents ≠ 0)
    (hFunds : amountCents ≤ w.balanceCents) :
    Reachable R G keypair
      ([.issuer (.defunded record.account (w.defundingFor amountCents)),
        .wallet w.certificate (.defunded (w.defundingFor amountCents) w.state)] ++ history)
      { issuer := s.issuer.defunded (w.defundingFor amountCents) record balance
        wallets := s.wallets.insert device (w.debited amountCents) } := by
  have hOf := h.enrolled.wallet_of hWallet
  have hSigned := h.wallet_next hWallet (Wallet.Step.defund amountCents hPos hFunds)
    (fun _ hp => absurd hp List.not_mem_nil)
  exact hSigned.issuer_next
    (Issuer.Step.defund (w.defundingFor amountCents) record balance hOn.record_eq
      (hOn.defunding_verifies amountCents) hCounter hOn.account_eq)
    (fun _ _ _ _ hOp => absurd hOp (by simp)) (by
      rw [presented_defund (R := R) (G := G) hOn.record_eq, hOn.publicKey_eq, ← hOf.publicKey_eq]
      intro p hp
      obtain rfl := List.mem_singleton.mp hp
      exact ⟨_, List.mem_cons_self, rfl⟩)

end System

section Sample

open scoped Fips

/-- The helpers between the two sample devices, with a payment under way. -/
theorem helpers_refine_sample :
    System.Refines (samplePaid.pay (sampleDevice 1) (sampleDevice 2) 200)
        (samplePaid.ledger.pay (sampleDevice 1) (sampleDevice 2) (200 : UInt64).toNat) ∧
      System.Refines (samplePaid.fund (sampleDevice 1) 200)
        (samplePaid.ledger.fund (sampleDevice 1) (200 : UInt64).toNat) ∧
      System.Refines (samplePaid.defund (sampleDevice 1) 200)
        (samplePaid.ledger.defund (sampleDevice 1) (200 : UInt64).toNat) := by
  obtain ⟨hPay, hFund, hDefund⟩ :=
    System.helpers_refine samplePaid_reachable issuerKeys_generated 200
  refine ⟨hPay _ _ _ _ sampleDevice_ne.symm samplePaid_alice samplePaid_payee rfl ?_,
    hFund _ _ samplePaid_alice ?_, hDefund _ _ samplePaid_alice rfl ?_ ?_⟩
  · unfold System.FreshNonce
    decide +kernel
  · unfold System.FreshNonce
    decide +kernel
  · have hLength := System.debits_le_length (sampleDevice 1) samplePaidHistory
    have hShort : samplePaidHistory.length = 10 := rfl
    omega
  · intro account balance hOwner hAccount
    have hOfAlice : samplePaid.issuer.accountOf (sampleDevice 1) = some sampleAccount :=
      Issuer.accountOf_eq sampleIssuer_alice
    have hLeft : samplePaid.issuer.balanceOf sampleAccount = some (5000 - 1000) :=
      Finmap.lookup_insert _
    obtain rfl := Option.some.inj (hOfAlice.symm.trans hOwner)
    obtain rfl := Option.some.inj (hLeft.symm.trans hAccount)
    decide

end Sample

section Sample

variable [Sha256]

/-- Everything there is, in cents. -/
def maxCents : UInt64 := 18446744073709551615

/-- A certificate with no limit but that of the amounts. -/
def unlimitedCertificate : DeviceCertificate :=
  issuerKeys.certify (sampleDevice 1) aliceKeys.publicKey maxCents

def unlimitedRecord : DeviceRecord where
  account := sampleAccount
  publicKey := aliceKeys.publicKey
  lastDefundingCounter := 0

/-- The issuer with one full account and its device. -/
def unlimitedIssuer : Issuer :=
  { Issuer.new issuerKeys with
    accounts := (∅ : Finmap _).insert sampleAccount maxCents
    devices := (∅ : Finmap _).insert (sampleDevice 1) unlimitedRecord }

def unlimitedWallet : Wallet CountingRng :=
  .fresh unlimitedCertificate aliceKeys issuerKeys.publicKey ⟨0⟩

/-- The wallet after `k` defundings of a cent each. -/
def worn {R : Type} (w : Wallet R) (k : ℕ) : Wallet R :=
  { w with
    balanceCents := w.balanceCents - UInt64.ofNat k
    counter := w.counter + UInt64.ofNat k }

theorem OnRecord.funded {w : Wallet CountingRng} {issuer : Issuer} {record : DeviceRecord}
    {balance : UInt64} (h : OnRecord w issuer record balance) (amountCents : UInt64) :
    OnRecord (w.credit amountCents)
      (issuer.funded (w.fundingRequestFor amountCents (Rng.gen w.rng).1) record.account balance)
      record (balance - amountCents) :=
  ⟨h.issuer_eq, h.issuer_generated, h.generated, h.record_eq, h.publicKey_eq,
    Finmap.lookup_insert _⟩

omit [Sha256] in
theorem OnRecord.worn {w : Wallet CountingRng} {issuer : Issuer} {record : DeviceRecord}
    {balance : UInt64} (h : OnRecord w issuer record balance) (k : ℕ) :
    OnRecord (worn w k) issuer record balance :=
  ⟨h.issuer_eq, h.issuer_generated, h.generated, h.record_eq, h.publicKey_eq, h.account_eq⟩

theorem OnRecord.defunded {w : Wallet CountingRng} {issuer : Issuer} {record : DeviceRecord}
    {balance : UInt64} (h : OnRecord w issuer record balance) (amountCents : UInt64) :
    OnRecord (w.debited amountCents)
      (issuer.defunded (w.defundingFor amountCents) record balance)
      { record with lastDefundingCounter := w.counter + 1 } (balance + amountCents) :=
  ⟨h.issuer_eq, h.issuer_generated, h.generated, Finmap.lookup_insert _, h.publicKey_eq,
    Finmap.lookup_insert _⟩

/-- A system with one device. -/
def oneDevice (issuer : Issuer) (w : Wallet CountingRng) : System CountingRng where
  issuer := issuer
  wallets := (∅ : Finmap _).insert (sampleDevice 1) w

omit [Sha256] in
theorem oneDevice_lookup (issuer : Issuer) (w : Wallet CountingRng) :
    (oneDevice issuer w).wallets.lookup (sampleDevice 1) = some w := Finmap.lookup_insert _

omit [Sha256] in
theorem oneDevice_lookup_ne (issuer : Issuer) (w : Wallet CountingRng) {device : DeviceId}
    (h : device ≠ sampleDevice 1) : (oneDevice issuer w).wallets.lookup device = none := by
  rw [oneDevice, Finmap.lookup_insert_of_ne _ h, Finmap.lookup_empty]

omit [Sha256] in
theorem worn_zero {R : Type} (w : Wallet R) : worn w 0 = w := by
  cases w
  simp [worn]

omit [Sha256] in
theorem worn_balance {R : Type} {w : Wallet R} {k : ℕ} (hLe : k ≤ w.balanceCents.toNat) :
    (worn w k).balanceCents.toNat = w.balanceCents.toNat - k := by
  have hFits : k < 2 ^ 64 := lt_of_le_of_lt hLe w.balanceCents.toNat_lt
  have hNat : (UInt64.ofNat k).toNat = k := UInt64.toNat_ofNat_of_lt' hFits
  show (w.balanceCents - UInt64.ofNat k).toNat = _
  rw [UInt64.toNat_sub_of_le _ _ (UInt64.le_iff_toNat_le.mpr (by rw [hNat]; exact hLe)), hNat]

omit [Sha256] in
theorem worn_succ {R : Type} {w : Wallet R} (hSealed : w.state = .sealed) (k : ℕ) :
    (worn w k).debited 1 = worn w (k + 1) := by
  have hOne : UInt64.ofNat (k + 1) = UInt64.ofNat k + 1 := UInt64.ofNat_add k 1
  simp only [worn, Wallet.debited, hSealed, if_true, hOne, Wallet.mk.injEq, true_and, and_true]
  exact ⟨by rw [sub_sub], by rw [add_assoc]⟩

/-- A run of the one device in which it stays sealed, and the nonces it has drawn. -/
def SealedRun (issuer : Issuer) (w : Wallet CountingRng) (nonces : List Nonce) : Prop :=
  ∃ history, System.Reachable CountingRng CountingRng issuerKeys history (oneDevice issuer w) ∧
    Wallet.drawnNonces (System.localEvents (sampleDevice 1) history) = nonces ∧
    ∀ certificate, .wallet certificate .cracked ∉ history

namespace SealedRun

variable {issuer : Issuer} {w : Wallet CountingRng} {nonces : List Nonce}
  {record : DeviceRecord} {balance amountCents : UInt64}

theorem fund (h : SealedRun issuer w nonces) (hOn : OnRecord w issuer record balance)
    (hFresh : (Rng.gen w.rng).1 ∉ nonces) (hPos : amountCents ≠ 0)
    (hRoom : amountCents ≤ w.headroom) (hFunds : amountCents ≤ balance) :
    SealedRun
      (issuer.funded (w.fundingRequestFor amountCents (Rng.gen w.rng).1) record.account balance)
      (w.credit amountCents) ((Rng.gen w.rng).1 :: nonces) := by
  obtain ⟨history, hReach, rfl, hUncracked⟩ := h
  have hDevice := (hReach.enrolled.wallet_of (oneDevice_lookup issuer w)).device_eq
  have hNext := hReach.fund_next (oneDevice_lookup issuer w) hFresh hOn hPos hRoom hFunds
  simp only [oneDevice, Finmap.insert_insert] at hNext
  refine ⟨_, hNext, ?_, fun certificate hMem => ?_⟩
  · simp only [List.cons_append, List.nil_append, System.localEvents_wallet hDevice,
      System.localEvents_issuer]
    rfl
  · simp only [List.cons_append, List.nil_append, List.mem_cons, System.Event.wallet.injEq,
      reduceCtorEq, and_false, false_or] at hMem
    exact hUncracked certificate hMem

/-- One cent goes off the element; the order to credit it may or may not arrive. -/
theorem debit (h : SealedRun issuer w nonces) (hFunds : 1 ≤ w.balanceCents) :
    SealedRun issuer (w.debited 1) nonces ∧
      ∀ record balance, OnRecord w issuer record balance →
        record.lastDefundingCounter < w.counter + 1 →
          SealedRun (issuer.defunded (w.defundingFor 1) record balance) (w.debited 1) nonces := by
  obtain ⟨history, hReach, rfl, hUncracked⟩ := h
  have hOf := hReach.enrolled.wallet_of (oneDevice_lookup issuer w)
  have hNext := hReach.wallet_next (oneDevice_lookup issuer w)
    (Wallet.Step.defund 1 (by decide) hFunds) (fun _ hp => absurd hp List.not_mem_nil)
  simp only [oneDevice, Finmap.insert_insert] at hNext
  have hDrawn : Wallet.drawnNonces (System.localEvents (sampleDevice 1)
      (.wallet w.certificate (.defunded (w.defundingFor 1) w.state) :: history)) =
        Wallet.drawnNonces (System.localEvents (sampleDevice 1) history) := by
    rw [System.localEvents_wallet hOf.device_eq]
    rfl
  have hSame : ∀ certificate, .wallet certificate .cracked ∉
      .wallet w.certificate (.defunded (w.defundingFor 1) w.state) :: history := by
    intro certificate hMem
    rcases List.mem_cons.mp hMem with hNew | hOld
    · exact absurd hNew (by simp)
    · exact hUncracked certificate hOld
  refine ⟨⟨_, hNext, hDrawn, hSame⟩, fun record balance hOn hCounter => ?_⟩
  have hCredited := hReach.defund_next (oneDevice_lookup issuer w) hOn hCounter (by decide) hFunds
  simp only [oneDevice, Finmap.insert_insert] at hCredited
  refine ⟨_, hCredited, hDrawn, fun certificate hMem => ?_⟩
  rcases List.mem_cons.mp hMem with hNew | hOld
  · exact absurd hNew (by simp)
  · exact hSame certificate hOld

/-- An element can debit itself until its balance is used up. -/
theorem worn (h : SealedRun issuer w nonces) (hSealed : w.state = .sealed) (k : ℕ)
    (hLe : k ≤ w.balanceCents.toNat) : SealedRun issuer (worn w k) nonces := by
  induction k with
  | zero =>
    rw [worn_zero]
    exact h
  | succ k ih =>
    have hFunds : (1 : UInt64) ≤ (DigitalEuro.worn w k).balanceCents := by
      rw [UInt64.le_iff_toNat_le, worn_balance (by omega), UInt64.toNat_one]
      omega
    rw [← worn_succ hSealed]
    exact ((ih (by omega)).debit hFunds).1

/-- What happens when the issuer has seen the counter that comes next. -/
theorem replayed (h : SealedRun issuer w nonces) (hOn : OnRecord w issuer record balance)
    (hNonces : nonces.Nodup) (hBalance : w.balanceCents = 1) (hSealed : w.state = .sealed)
    (hCounter : w.counter + 1 ≤ record.lastDefundingCounter) :
    ∃ history, System.Reachable CountingRng CountingRng issuerKeys history (oneDevice issuer w) ∧
      (∀ certificate, .wallet certificate .cracked ∉ history) ∧
      (∀ device, (Wallet.drawnNonces (System.localEvents device history)).Nodup) ∧
      (defund w issuer 1).1 = .error .replay ∧ (defund w issuer 1).2.1.balanceCents = 0 ∧
      ¬ System.Refines ((oneDevice issuer w).defund (sampleDevice 1) 1)
        ((oneDevice issuer w).ledger.defund (sampleDevice 1) 1) := by
  obtain ⟨history, hReach, rfl, hUncracked⟩ := h
  have hDefund : defund w issuer 1 = (.error .replay, w.debited 1, issuer) :=
    defund_replay hOn (by decide) (by rw [hBalance]; exact UInt64.le_refl 1) hCounter
  refine ⟨history, hReach, hUncracked, fun device => ?_, ?_, ?_, ?_⟩
  · by_cases hDevice : device = sampleDevice 1
    · rw [hDevice]
      exact hNonces
    · rw [hReach.enrolled.installed.silent (oneDevice_lookup_ne _ _ hDevice)]
      exact List.nodup_nil
  · rw [hDefund]
  · rw [hDefund]
    show (if w.state = .sealed then w.balanceCents - 1 else w.balanceCents) = 0
    rw [if_pos hSealed, hBalance]
    rfl
  · rintro ⟨result, s', outcome, hCall, -, hVerdict⟩
    have hResult : (oneDevice issuer w).defund (sampleDevice 1) 1 =
        some (.error .replay, oneDevice issuer (w.debited 1)) := by
      simp only [System.defund, oneDevice_lookup]
      show some ((defund w issuer 1).1, _) = _
      rw [show (oneDevice issuer w).issuer = issuer from rfl, hDefund]
      simp only [oneDevice, Finmap.insert_insert]
    rw [hResult, Option.some.injEq, Prod.mk.injEq] at hCall
    rw [← hCall.1] at hVerdict
    exact absurd hVerdict (Option.some_ne_none outcome).symm

end SealedRun

/-- The account is opened and the device certified and set up. -/
def unlimitedHistory : List System.Event :=
  [.installed unlimitedCertificate,
    .issuer (.certified sampleAccount unlimitedCertificate),
    .issuer (.opened sampleAccount maxCents)]

theorem unlimited_reachable :
    System.Reachable CountingRng CountingRng issuerKeys unlimitedHistory
      (oneDevice unlimitedIssuer unlimitedWallet) := by
  have hOpened : System.Reachable CountingRng CountingRng issuerKeys _ _ :=
    System.Reachable.issuer_next .start (Issuer.Step.openAccount sampleAccount maxCents)
      (fun _ _ _ _ hOp => absurd hOp (by simp)) (fun _ hp => absurd hp List.not_mem_nil)
  have hCertified := hOpened.issuer_next
    (Issuer.Step.certifyDevice sampleAccount aliceKeys.publicKey maxCents ⟨1⟩ rfl)
    (fun _ _ _ _ hOp => by obtain ⟨-, -, -, rfl⟩ := Issuer.Op.certifyDevice.inj hOp; rfl)
    (fun _ hp => absurd hp List.not_mem_nil)
  exact hCertified.install_next (⟨0⟩ : CountingRng) List.mem_cons_self
    (issuerKeys_generated.verify_certify ..) rfl aliceKeys_generated rfl

theorem unlimited_run : SealedRun unlimitedIssuer unlimitedWallet [] :=
  ⟨_, unlimited_reachable, rfl, fun certificate hMem => by simp [unlimitedHistory] at hMem⟩

/-- The element after its last cent but one, and after its last. -/
def almostWorn : Wallet CountingRng := worn (unlimitedWallet.credit maxCents) 18446744073709551614

def wornWallet : Wallet CountingRng := almostWorn.debited 1

/-- The issuer once the element holds everything there is. -/
def fullIssuer : Issuer :=
  unlimitedIssuer.funded (unlimitedWallet.fundingRequestFor maxCents (Rng.gen unlimitedWallet.rng).1)
    sampleAccount maxCents

/-- The issuer once it has seen the highest counter there is. -/
def wornIssuer : Issuer :=
  fullIssuer.defunded (almostWorn.defundingFor 1) unlimitedRecord (maxCents - maxCents)

/-- The issuer once the last cent is funded again. -/
def lastIssuer : Issuer :=
  wornIssuer.funded (wornWallet.fundingRequestFor 1 (Rng.gen wornWallet.rng).1) sampleAccount
    (maxCents - maxCents + 1)

/-- There is room for everything there is. -/
theorem unlimited_room : maxCents ≤ unlimitedWallet.headroom := by
  rw [unlimitedWallet, Wallet.fresh_headroom]
  exact UInt64.le_refl maxCents

theorem unlimited_onRecord : OnRecord unlimitedWallet unlimitedIssuer unlimitedRecord maxCents :=
  ⟨rfl, issuerKeys_generated, aliceKeys_generated, Finmap.lookup_insert _, rfl,
    Finmap.lookup_insert _⟩

theorem almostWorn_onRecord :
    OnRecord almostWorn fullIssuer unlimitedRecord (maxCents - maxCents) :=
  (unlimited_onRecord.funded maxCents).worn _

theorem worn_onRecord : OnRecord wornWallet wornIssuer
    { unlimitedRecord with lastDefundingCounter := almostWorn.counter + 1 }
    (maxCents - maxCents + 1) :=
  almostWorn_onRecord.defunded 1

theorem worn_run : SealedRun wornIssuer wornWallet [(Rng.gen unlimitedWallet.rng).1] := by
  have hFull : SealedRun fullIssuer (unlimitedWallet.credit maxCents)
      [(Rng.gen unlimitedWallet.rng).1] :=
    unlimited_run.fund unlimited_onRecord List.not_mem_nil (by decide) unlimited_room
      (UInt64.le_refl maxCents)
  have hAlmost : SealedRun fullIssuer almostWorn [(Rng.gen unlimitedWallet.rng).1] :=
    hFull.worn rfl 18446744073709551614
      (show 18446744073709551614 ≤ (0 + maxCents).toNat by decide)
  have hFunds : 1 ≤ almostWorn.balanceCents :=
    show 1 ≤ 0 + maxCents - UInt64.ofNat 18446744073709551614 by decide
  have hCounter : unlimitedRecord.lastDefundingCounter < almostWorn.counter + 1 :=
    show (0 : UInt64) < 0 + UInt64.ofNat 18446744073709551614 + 1 by decide
  exact (hAlmost.debit hFunds).2 _ _ almostWorn_onRecord hCounter

theorem last_run : SealedRun lastIssuer (wornWallet.credit 1)
    [(Rng.gen wornWallet.rng).1, (Rng.gen unlimitedWallet.rng).1] := by
  have hNonce : (Rng.gen wornWallet.rng).1 ∉ [(Rng.gen unlimitedWallet.rng).1] := by
    show (Rng.gen (⟨1⟩ : CountingRng)).1 ∉ [(Rng.gen (⟨0⟩ : CountingRng)).1]
    decide
  have hRoom : 1 ≤ wornWallet.headroom := by
    have hNone : wornWallet.reserved = 0 := rfl
    have hLimit : wornWallet.holdingLimit = maxCents := rfl
    have hBalance : wornWallet.balanceCents = 0 :=
      show 0 + maxCents - UInt64.ofNat 18446744073709551614 - 1 = 0 by decide
    rw [Wallet.headroom, hNone, hLimit, hBalance]
    decide
  exact worn_run.fund worn_onRecord hNonce (by decide) hRoom
    (show 1 ≤ maxCents - maxCents + 1 by decide)

end Sample

section Counterexample

open scoped Fips

/-- After 2^64 - 1 debits, the last of which the issuer has seen, a sealed element
with a cent is debited by `defund`, and the issuer refuses the order as a replay. -/
theorem worn_defund :
    ∃ history, System.Reachable CountingRng CountingRng issuerKeys history
        (oneDevice lastIssuer (wornWallet.credit 1)) ∧
      (∀ certificate, .wallet certificate .cracked ∉ history) ∧
      (∀ device, (Wallet.drawnNonces (System.localEvents device history)).Nodup) ∧
      lastIssuer.accountOf (sampleDevice 1) = some sampleAccount ∧
      lastIssuer.balanceOf sampleAccount = some 0 ∧
      (defund (wornWallet.credit 1) lastIssuer 1).1 = .error .replay ∧
      (defund (wornWallet.credit 1) lastIssuer 1).2.1.balanceCents = 0 ∧
      ¬ System.Refines ((oneDevice lastIssuer (wornWallet.credit 1)).defund (sampleDevice 1) 1)
        ((oneDevice lastIssuer (wornWallet.credit 1)).ledger.defund (sampleDevice 1) 1) := by
  have hNonces : [(Rng.gen wornWallet.rng).1, (Rng.gen unlimitedWallet.rng).1].Nodup := by
    show [(Rng.gen (⟨1⟩ : CountingRng)).1, (Rng.gen (⟨0⟩ : CountingRng)).1].Nodup
    decide
  have hBalance : (wornWallet.credit 1).balanceCents = 1 :=
    show 0 + maxCents - UInt64.ofNat 18446744073709551614 - 1 + 1 = 1 by decide
  have hCounter : (wornWallet.credit 1).counter + 1 ≤ almostWorn.counter + 1 :=
    show (0 : UInt64) + UInt64.ofNat 18446744073709551614 + 1 + 1 ≤
      0 + UInt64.ofNat 18446744073709551614 + 1 by decide
  have hOn := worn_onRecord.funded 1
  have hAccount : lastIssuer.balanceOf sampleAccount = some (maxCents - maxCents + 1 - 1) :=
    hOn.account_eq
  obtain ⟨history, hReach, hUncracked, hDrawn, hRest⟩ :=
    last_run.replayed hOn hNonces hBalance rfl hCounter
  refine ⟨history, hReach, hUncracked, hDrawn, Issuer.accountOf_eq hOn.record_eq, ?_, hRest⟩
  rw [hAccount]
  rfl

end Counterexample

end DigitalEuro
