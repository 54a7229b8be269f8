import DigitalEuro.Model.IssuerStep

/-!
# Digital euro — the issuer's ledger

The issuer updates four things one after another: account balances, device
records, the set of funding nonces and the offline float. Here they are tied to
the history of its calls, for arbitrary requests and with nothing assumed about
signatures or devices.

* `money_step` — no call creates or destroys money: online balances and float
  together are what accounts were opened with;
* `accounts_exist` — the account of a certified device exists, so the last error
  branch of `fund` and `defund` is dead;
* `fundedKeys_nodup` — one funding per device and nonce;
* `certified_of_lookup`, `recorded_of_certified` — device records are certifications;
* `CountersMatch` — the record of a device holds the last counter credited to it,
  and these counters increase;
* `ledger_invariant` — all of it along every orderly run.
-/

namespace DigitalEuro

namespace Issuer

-- ---------------------------------------------------------------------------
-- What a history says
-- ---------------------------------------------------------------------------

/-- What an event opened an account with. -/
def Event.opening : Event → ℕ
  | .opened _ balanceCents => balanceCents.toNat
  | _ => 0

/-- The sum of the opening balances. -/
def openings (history : List Event) : ℕ := (history.map Event.opening).sum

@[simp] theorem openings_cons (e : Event) (history : List Event) :
    openings (e :: history) = e.opening + openings history := by
  rw [openings, List.map_cons, List.sum_cons, openings]

/-- The request an event answered with a funding. -/
def Event.fundedKey : Event → Option (DeviceId × Nonce)
  | .funded _ request _ => some (request.device, request.nonce)
  | _ => none

/-- The requests answered, each as often as it was. -/
def fundedKeys (history : List Event) : List (DeviceId × Nonce) :=
  history.filterMap Event.fundedKey

/-- The counter of a defunding credited to the device. -/
def Event.counterOf (device : DeviceId) : Event → Option UInt64
  | .defunded _ defunding => if defunding.device = device then some defunding.counter else none
  | _ => none

/-- The counters credited to a device, newest first. -/
def counters (device : DeviceId) (history : List Event) : List UInt64 :=
  history.filterMap (Event.counterOf device)

-- ---------------------------------------------------------------------------
-- Accounts of certified devices
-- ---------------------------------------------------------------------------

/-- Every certified device has an account. -/
def AccountsExist (issuer : Issuer) : Prop :=
  ∀ device record, issuer.devices.lookup device = some record →
    (issuer.accounts.lookup record.account).isSome

theorem isSome_lookup_insert {accounts : Finmap fun _ : AccountId => UInt64}
    {account account' : AccountId} {balance : UInt64}
    (h : (accounts.lookup account).isSome) :
    ((accounts.insert account' balance).lookup account).isSome := by
  by_cases hSame : account = account'
  · rw [hSame, Finmap.lookup_insert]
    rfl
  · rwa [Finmap.lookup_insert_of_ne _ hSame]

variable [Sha256] {G : Type} [Rng G]

theorem AccountsExist.step {issuer issuer' : Issuer} {op : Op G} {e : Event}
    (h : issuer.AccountsExist) (hStep : Step issuer op e issuer') : issuer'.AccountsExist := by
  cases hStep with
  | openAccount account balanceCents =>
    intro device record hRecord
    exact isSome_lookup_insert (h device record hRecord)
  | certifyDevice account publicKey limit rng hAccount =>
    intro device record hRecord
    by_cases hSame : device = ⟨(Rng.gen rng).1⟩
    · rw [hSame, Finmap.lookup_insert, Option.some.injEq] at hRecord
      rw [← hRecord]
      exact hAccount
    · rw [Finmap.lookup_insert_of_ne _ hSame] at hRecord
      exact h device record hRecord
  | fund request record balance hDevice hSignature hPos hNew hAccount hFunds =>
    intro device record' hRecord
    exact isSome_lookup_insert (h device record' hRecord)
  | defund defunding record balance hDevice hSignature hNew hAccount =>
    intro device record' hRecord
    refine isSome_lookup_insert ?_
    by_cases hSame : device = defunding.device
    · rw [hSame] at hRecord
      simp only [defunded, Finmap.lookup_insert, Option.some.injEq] at hRecord
      rw [← hRecord]
      exact h _ record hDevice
    · simp only [defunded, Finmap.lookup_insert_of_ne _ hSame] at hRecord
      exact h device record' hRecord

theorem accounts_exist {allowed : List Event → Issuer → Op G → Prop} {keypair : Keypair}
    {history : List Event} {issuer : Issuer}
    (hRun : Machine.Reaches exec allowed (new keypair) history issuer) :
    issuer.AccountsExist := by
  refine covers.induction (P := fun _ issuer => issuer.AccountsExist) hRun ?_ ?_
  · intro device record hRecord
    exact absurd hRecord (Option.some_ne_none record).symm
  · intro history issuer op e issuer' _ _ h hStep
    exact h.step hStep

omit [Rng G] in
/-- `fund` never reports an unknown account. -/
theorem AccountsExist.fund_ne {issuer : Issuer} (h : issuer.AccountsExist)
    (request : FundingRequest) (account : AccountId) :
    (issuer.fund request).1 ≠ .error (.unknownAccount account) := by
  unfold fund
  cases hDevice : issuer.devices.lookup request.device with
  | none => simp
  | some record =>
    obtain ⟨balance, hBalance⟩ := Option.isSome_iff_exists.mp (h _ record hDevice)
    simp only [hBalance]
    repeat' split
    all_goals simp

omit [Rng G] in
/-- `defund` never reports an unknown account. -/
theorem AccountsExist.defund_ne {issuer : Issuer} (h : issuer.AccountsExist)
    (defunding : Defunding) (account : AccountId) :
    (issuer.defund defunding).1 ≠ .error (.unknownAccount account) := by
  unfold defund
  cases hDevice : issuer.devices.lookup defunding.device with
  | none => simp
  | some record =>
    obtain ⟨balance, hBalance⟩ := Option.isSome_iff_exists.mp (h _ record hDevice)
    simp only [hBalance]
    repeat' split
    all_goals simp

-- ---------------------------------------------------------------------------
-- Funding nonces
-- ---------------------------------------------------------------------------

/-- The nonce set holds exactly the requests answered. -/
theorem mem_fundedKeys {allowed : List Event → Issuer → Op G → Prop} {keypair : Keypair}
    {history : List Event} {issuer : Issuer}
    (hRun : Machine.Reaches exec allowed (new keypair) history issuer) (key : DeviceId × Nonce) :
    key ∈ fundedKeys history ↔ key ∈ issuer.fundingNonces := by
  refine covers.induction
    (P := fun history issuer => key ∈ fundedKeys history ↔ key ∈ issuer.fundingNonces) hRun ?_ ?_
  · exact iff_of_false List.not_mem_nil (Finset.notMem_empty key)
  · intro history issuer op e issuer' _ _ ih hStep
    cases hStep with
    | fund request record balance _ _ _ _ _ _ =>
      show key ∈ (request.device, request.nonce) :: fundedKeys history ↔
        key ∈ insert (request.device, request.nonce) issuer.fundingNonces
      rw [List.mem_cons, Finset.mem_insert, ih]
    | openAccount | certifyDevice | defund => exact ih

/-- **One funding per request**: no device and nonce is answered twice. -/
theorem fundedKeys_nodup {allowed : List Event → Issuer → Op G → Prop} {keypair : Keypair}
    {history : List Event} {issuer : Issuer}
    (hRun : Machine.Reaches exec allowed (new keypair) history issuer) :
    (fundedKeys history).Nodup := by
  refine covers.induction (P := fun history _ => (fundedKeys history).Nodup) hRun
    List.nodup_nil ?_
  intro history issuer op e issuer' hReach _ ih hStep
  cases hStep with
  | fund request record balance _ _ _ hNew _ _ =>
    show ((request.device, request.nonce) :: fundedKeys history).Nodup
    refine List.nodup_cons.mpr ⟨fun hMem => ?_, ih⟩
    exact hNew ((mem_fundedKeys hReach _).mp hMem)
  | openAccount | certifyDevice | defund => exact ih

/-- The funding an event recorded answers the request it recorded. -/
theorem funded_content {allowed : List Event → Issuer → Op G → Prop} {keypair : Keypair}
    {history : List Event} {issuer : Issuer}
    (hRun : Machine.Reaches exec allowed (new keypair) history issuer) {account : AccountId}
    {request : FundingRequest} {funding : Funding}
    (hMem : .funded account request funding ∈ history) :
    funding.content = .funding request.device request.amountCents request.nonce ∧
      funding.signature = keypair.sign funding.digest := by
  have hBoth : issuer.keypair = keypair ∧ (.funded account request funding ∈ history →
      funding.content = .funding request.device request.amountCents request.nonce ∧
        funding.signature = keypair.sign funding.digest) := by
    refine covers.induction (P := fun history issuer => issuer.keypair = keypair ∧
      (.funded account request funding ∈ history →
        funding.content = .funding request.device request.amountCents request.nonce ∧
          funding.signature = keypair.sign funding.digest)) hRun
      ⟨rfl, fun hMem => absurd hMem List.not_mem_nil⟩ ?_
    intro history issuer op e issuer' _ _ ih hStep
    obtain ⟨hKeypair, hOlder⟩ := ih
    refine ⟨by rw [hStep.fixed, hKeypair], fun hMem => ?_⟩
    rcases List.mem_cons.mp hMem with hNew | hOld
    · cases hStep with
      | fund request' record balance _ _ _ _ _ _ =>
        obtain ⟨-, rfl, rfl⟩ := Event.funded.inj hNew
        refine ⟨rfl, ?_⟩
        rw [← hKeypair]
        rfl
      | openAccount | certifyDevice | defund => exact absurd hNew (by simp)
    · exact hOlder hOld
  exact hBoth.2 hMem

/-- The issuer signed the certificates it recorded. -/
theorem certified_signature {allowed : List Event → Issuer → Op G → Prop} {keypair : Keypair}
    {history : List Event} {issuer : Issuer}
    (hRun : Machine.Reaches exec allowed (new keypair) history issuer) {account : AccountId}
    {certificate : DeviceCertificate} (hMem : .certified account certificate ∈ history) :
    certificate.signature = keypair.sign certificate.digest := by
  revert hMem
  refine covers.induction (P := fun history _ => .certified account certificate ∈ history →
    certificate.signature = keypair.sign certificate.digest) hRun
    (fun hMem => absurd hMem List.not_mem_nil) ?_
  intro history issuer op e issuer' hReach _ ih hStep hMem
  rcases List.mem_cons.mp hMem with hNew | hOld
  · cases hStep with
    | certifyDevice =>
      obtain ⟨-, rfl⟩ := Event.certified.inj hNew
      rw [show issuer.keypair = keypair from run_keypair hReach]
      rfl
    | openAccount | fund | defund => exact absurd hNew (by simp)
  · exact ih hOld

-- ---------------------------------------------------------------------------
-- Certified devices
-- ---------------------------------------------------------------------------

omit [Sha256] in
/-- The id drawn for a device is not in use. -/
def FreshDevice (_ : List Event) (issuer : Issuer) (op : Op G) : Prop :=
  ∀ account publicKey limit rng, op = .certifyDevice account publicKey limit rng →
    issuer.devices.lookup ⟨(Rng.gen rng).1⟩ = none

/-- A record and a certificate of the same device, key and account. -/
def Recorded (issuer : Issuer) (account : AccountId) (certificate : DeviceCertificate) : Prop :=
  ∃ record, issuer.devices.lookup certificate.device = some record ∧
    record.account = account ∧ record.publicKey = certificate.publicKey

/-- A record was made by a certification. -/
theorem certified_of_lookup {allowed : List Event → Issuer → Op G → Prop} {keypair : Keypair}
    {history : List Event} {issuer : Issuer}
    (hRun : Machine.Reaches exec allowed (new keypair) history issuer) {device : DeviceId}
    {record : DeviceRecord} (hRecord : issuer.devices.lookup device = some record) :
    ∃ certificate, .certified record.account certificate ∈ history ∧
      certificate.device = device ∧ certificate.publicKey = record.publicKey := by
  revert record
  refine covers.induction (P := fun history issuer => ∀ {record},
    issuer.devices.lookup device = some record →
    ∃ certificate, .certified record.account certificate ∈ history ∧
      certificate.device = device ∧ certificate.publicKey = record.publicKey) hRun ?_ ?_
  · intro record hRecord
    exact absurd hRecord (Option.some_ne_none record).symm
  · intro history issuer op e issuer' _ _ ih hStep record hRecord
    -- what an older record was made by stays in the history
    have hOlder : ∀ {record' : DeviceRecord}, issuer.devices.lookup device = some record' →
        ∃ certificate, .certified record'.account certificate ∈ e :: history ∧
          certificate.device = device ∧ certificate.publicKey = record'.publicKey := by
      intro record' hRecord'
      obtain ⟨certificate, hMem, hRest⟩ := ih hRecord'
      exact ⟨certificate, List.mem_cons_of_mem e hMem, hRest⟩
    cases hStep with
    | openAccount | fund => exact hOlder hRecord
    | certifyDevice account publicKey limit rng _ =>
      by_cases hSame : device = ⟨(Rng.gen rng).1⟩
      · rw [hSame, Finmap.lookup_insert, Option.some.injEq] at hRecord
        rw [← hRecord]
        exact ⟨_, List.mem_cons_self, hSame.symm, rfl⟩
      · rw [Finmap.lookup_insert_of_ne _ hSame] at hRecord
        exact hOlder hRecord
    | defund defunding record' balance hDevice _ _ _ =>
      by_cases hSame : device = defunding.device
      · rw [hSame, defunded, Finmap.lookup_insert, Option.some.injEq] at hRecord
        rw [← hRecord]
        rw [← hSame] at hDevice
        have hFound := hOlder hDevice
        exact hFound
      · rw [defunded, Finmap.lookup_insert_of_ne _ hSame] at hRecord
        exact hOlder hRecord

/-- A certificate has its record, as long as device ids do not repeat. -/
theorem recorded_of_certified {keypair : Keypair} {history : List Event} {issuer : Issuer}
    (hRun : Machine.Reaches (exec (G := G)) FreshDevice (new keypair) history issuer)
    {account : AccountId} {certificate : DeviceCertificate}
    (hMem : .certified account certificate ∈ history) : issuer.Recorded account certificate := by
  revert hMem
  refine covers.induction (P := fun history issuer => .certified account certificate ∈ history →
    issuer.Recorded account certificate) hRun (fun hMem => absurd hMem List.not_mem_nil) ?_
  intro history issuer op e issuer' _ hFresh ih hStep hMem
  cases hStep with
  | openAccount | fund =>
    rcases List.mem_cons.mp hMem with hNew | hOld
    · exact absurd hNew (by simp)
    · exact ih hOld
  | certifyDevice account' publicKey limit rng _ =>
    rcases List.mem_cons.mp hMem with hNew | hOld
    · obtain ⟨rfl, rfl⟩ := Event.certified.inj hNew
      exact ⟨_, Finmap.lookup_insert _, rfl, rfl⟩
    · obtain ⟨record, hRecord, hRest⟩ := ih hOld
      have hOther : certificate.device ≠ ⟨(Rng.gen rng).1⟩ := by
        intro hSame
        rw [hSame, hFresh account' publicKey limit rng rfl] at hRecord
        exact absurd hRecord (Option.some_ne_none record).symm
      exact ⟨record, by rw [Finmap.lookup_insert_of_ne _ hOther]; exact hRecord, hRest⟩
  | defund defunding record' balance hDevice _ _ _ =>
    rcases List.mem_cons.mp hMem with hNew | hOld
    · exact absurd hNew (by simp)
    · obtain ⟨record, hRecord, hAccount, hKey⟩ := ih hOld
      by_cases hSame : certificate.device = defunding.device
      · rw [hSame, hDevice, Option.some.injEq] at hRecord
        subst hRecord
        refine ⟨{ record' with lastDefundingCounter := defunding.counter }, ?_, hAccount, hKey⟩
        rw [hSame, defunded, Finmap.lookup_insert]
      · refine ⟨record, ?_, hAccount, hKey⟩
        rw [defunded, Finmap.lookup_insert_of_ne _ hSame, hRecord]

-- ---------------------------------------------------------------------------
-- Defunding counters
-- ---------------------------------------------------------------------------

/-- The history and the record of a device agree on its counters. -/
structure CountersMatch (history : List Event) (issuer : Issuer) (device : DeviceId) : Prop where
  uncertified : issuer.devices.lookup device = none → counters device history = []
  increasing : (counters device history).Pairwise (· > ·)
  last : ∀ record, issuer.devices.lookup device = some record →
    record.lastDefundingCounter = (counters device history).headD 0

omit [Sha256] [Rng G] in
/-- The last counter is the highest. -/
theorem CountersMatch.le_last {history : List Event} {issuer : Issuer} {device : DeviceId}
    (h : CountersMatch history issuer device) {record : DeviceRecord}
    (hRecord : issuer.devices.lookup device = some record) :
    ∀ counter ∈ counters device history, counter ≤ record.lastDefundingCounter := by
  have hLast := h.last record hRecord
  have hIncreasing := h.increasing
  cases hCounters : counters device history with
  | nil => exact fun counter hMem => absurd hMem List.not_mem_nil
  | cons newest older =>
    rw [hCounters] at hLast hIncreasing
    intro counter hMem
    rw [hLast]
    rcases List.mem_cons.mp hMem with rfl | hOlder
    · exact UInt64.le_refl counter
    · exact UInt64.le_of_lt ((List.pairwise_cons.mp hIncreasing).1 counter hOlder)

theorem CountersMatch.step {history : List Event} {issuer issuer' : Issuer} {op : Op G}
    {e : Event} {device : DeviceId} (h : CountersMatch history issuer device)
    (hStep : Step issuer op e issuer') (hFresh : FreshDevice history issuer op) :
    CountersMatch (e :: history) issuer' device := by
  cases hStep with
  | openAccount | fund => exact ⟨h.uncertified, h.increasing, h.last⟩
  | certifyDevice account publicKey limit rng _ =>
    refine ⟨fun hNone => ?_, h.increasing, fun record hRecord => ?_⟩
    · by_cases hSame : device = ⟨(Rng.gen rng).1⟩
      · rw [hSame, Finmap.lookup_insert] at hNone
        exact absurd hNone (Option.some_ne_none _)
      · rw [Finmap.lookup_insert_of_ne _ hSame] at hNone
        exact h.uncertified hNone
    · by_cases hSame : device = ⟨(Rng.gen rng).1⟩
      · -- a fresh device has no counters, and its record starts at zero
        have hNone : issuer.devices.lookup device = none := by
          rw [hSame]
          exact hFresh account publicKey limit rng rfl
        have hEmpty := h.uncertified hNone
        rw [hSame, Finmap.lookup_insert, Option.some.injEq] at hRecord
        show record.lastDefundingCounter = (counters device history).headD 0
        rw [hEmpty, ← hRecord]
        rfl
      · rw [Finmap.lookup_insert_of_ne _ hSame] at hRecord
        exact h.last record hRecord
  | defund defunding record balance hDevice hSignature hNew hAccount =>
    by_cases hSame : defunding.device = device
    · subst hSame
      have hCounters : counters defunding.device (.defunded record.account defunding :: history) =
          defunding.counter :: counters defunding.device history := by
        simp [counters, Event.counterOf]
      refine ⟨fun hNone => ?_, ?_, fun record' hRecord => ?_⟩
      · rw [defunded, Finmap.lookup_insert] at hNone
        exact absurd hNone (Option.some_ne_none _)
      · rw [hCounters, List.pairwise_cons]
        refine ⟨fun counter hMem => ?_, h.increasing⟩
        exact UInt64.lt_of_le_of_lt (h.le_last hDevice counter hMem) hNew
      · rw [defunded, Finmap.lookup_insert, Option.some.injEq] at hRecord
        rw [hCounters, ← hRecord]
        rfl
    · have hCounters : counters device (.defunded record.account defunding :: history) =
          counters device history := by
        simp [counters, Event.counterOf, hSame]
      have hLookup : (issuer.defunded defunding record balance).devices.lookup device =
          issuer.devices.lookup device := by
        rw [defunded, Finmap.lookup_insert_of_ne _ (Ne.symm hSame)]
      refine ⟨?_, ?_, ?_⟩
      · rw [hCounters, hLookup]
        exact h.uncertified
      · rw [hCounters]
        exact h.increasing
      · rw [hCounters, hLookup]
        exact h.last

/-- **Counters along every run** in which device ids do not repeat. -/
theorem counters_match {keypair : Keypair} {history : List Event} {issuer : Issuer}
    (hRun : Machine.Reaches (exec (G := G)) FreshDevice (new keypair) history issuer)
    (device : DeviceId) : CountersMatch history issuer device := by
  refine covers.induction (P := fun history issuer => CountersMatch history issuer device)
    hRun ?_ ?_
  · refine ⟨fun _ => rfl, List.Pairwise.nil, fun record hRecord => ?_⟩
    exact absurd hRecord (Option.some_ne_none record).symm
  · intro history issuer op e issuer' _ hFresh ih hStep
    exact ih.step hStep hFresh

-- ---------------------------------------------------------------------------
-- Money
-- ---------------------------------------------------------------------------

/-- The runs the ledger is kept for: an account is opened once, device ids do not
repeat, and no call credits an account past the range of `u64`. -/
def Orderly (_ : List Event) (issuer : Issuer) : Op G → Prop
  | .openAccount account _ => issuer.accounts.lookup account = none
  | .certifyDevice _ _ _ rng => issuer.devices.lookup ⟨(Rng.gen rng).1⟩ = none
  | .fund _ => True
  | .defund defunding => ∀ amountCents record balance,
      (issuer.defund defunding).1 = .ok amountCents →
      issuer.devices.lookup defunding.device = some record →
      issuer.accounts.lookup record.account = some balance →
      balance.toNat + amountCents.toNat < 2 ^ 64

/-- All money: what is online and what the issuer believes is offline. -/
def money (issuer : Issuer) : ℤ := issuer.accounts.total UInt64.toNat + issuer.offlineFloat

omit [Sha256] in
/-- Funding a device moves money from an account to the float. -/
theorem money_funded {issuer : Issuer} {request : FundingRequest} {account : AccountId}
    {balance : UInt64} (hAccount : issuer.accounts.lookup account = some balance)
    (hFunds : request.amountCents ≤ balance) :
    (issuer.funded request account balance).money = issuer.money := by
  have hTotal := Finmap.total_replace UInt64.toNat (balance - request.amountCents) hAccount
  have hDebit : (balance - request.amountCents).toNat =
      balance.toNat - request.amountCents.toNat := UInt64.toNat_sub_of_le _ _ hFunds
  have hLe : request.amountCents.toNat ≤ balance.toNat := UInt64.le_iff_toNat_le.mp hFunds
  simp only [money, funded]
  omega

omit [Sha256] in
/-- Defunding moves it back, as far as the account's balance does not wrap. -/
theorem money_defunded {issuer : Issuer} (defunding : Defunding) {record : DeviceRecord}
    {balance : UInt64} (hAccount : issuer.accounts.lookup record.account = some balance) :
    (issuer.defunded defunding record balance).money +
        (balance.toNat + defunding.amountCents.toNat) =
      issuer.money + (balance + defunding.amountCents).toNat := by
  have hTotal := Finmap.total_replace UInt64.toNat (balance + defunding.amountCents) hAccount
  simp only [money, defunded]
  omega

/-- **Money is conserved**: a call changes the money by what it opens. -/
theorem money_step {history : List Event} {issuer issuer' : Issuer} {op : Op G} {e : Event}
    (hOrderly : Orderly history issuer op) (hStep : Step issuer op e issuer') :
    issuer'.money = issuer.money + e.opening := by
  cases hStep with
  | openAccount account balanceCents =>
    have hTotal := Finmap.total_insert_of_lookup_none UInt64.toNat (v := balanceCents) hOrderly
    simp only [money, openAccount, hTotal, Event.opening]
    push_cast
    omega
  | certifyDevice account publicKey limit rng _ => simp [money, Event.opening]
  | fund request record balance _ _ _ _ hAccount hFunds =>
    simp [money_funded hAccount hFunds, Event.opening]
  | defund defunding record balance hDevice hSignature hNew hAccount =>
    have hOk := congrArg Prod.fst (defund_eq hDevice hSignature hNew hAccount)
    have hMoney := money_defunded defunding hAccount
    have hCredit : (balance + defunding.amountCents).toNat =
        balance.toNat + defunding.amountCents.toNat := by
      rw [UInt64.toNat_add, Nat.mod_eq_of_lt (hOrderly _ record balance hOk hDevice hAccount)]
    simp only [Event.opening]
    omega

theorem money_eq {keypair : Keypair} {history : List Event} {issuer : Issuer}
    (hRun : Machine.Reaches (exec (G := G)) Orderly (new keypair) history issuer) :
    issuer.money = openings history := by
  refine covers.induction (P := fun history issuer => issuer.money = openings history) hRun rfl ?_
  intro history issuer op e issuer' _ hOrderly ih hStep
  rw [money_step hOrderly hStep, ih, openings_cons]
  push_cast
  ring

omit [Rng G] in
/-- An answered request takes its amount out of the device's account, which covers
it, and out of no other. -/
theorem fund_debits {issuer : Issuer} {request : FundingRequest} {funding : Funding}
    (h : (issuer.fund request).1 = .ok funding) :
    ∃ account balance remaining, issuer.accountOf request.device = some account ∧
      issuer.balanceOf account = some balance ∧
      (issuer.fund request).2.balanceOf account = some remaining ∧
      remaining.toNat + request.amountCents.toNat = balance.toNat ∧
      ∀ other, other ≠ account →
        (issuer.fund request).2.balanceOf other = issuer.balanceOf other := by
  rcases issuer.fund_cases request with
    ⟨error, hError⟩ | ⟨record, balance, hDevice, hSignature, hPos, hNew, hAccount, hFunds⟩
  · rw [hError] at h
    exact absurd h (by simp)
  · have hEq := fund_eq hDevice hSignature hPos hNew hAccount hFunds
    have hLe : request.amountCents.toNat ≤ balance.toNat := UInt64.le_iff_toNat_le.mp hFunds
    refine ⟨record.account, balance, balance - request.amountCents, accountOf_eq hDevice, hAccount,
      ?_, ?_, ?_⟩
    · rw [hEq]
      exact Finmap.lookup_insert _
    · rw [UInt64.toNat_sub_of_le _ _ hFunds]
      omega
    · intro other hOther
      rw [hEq]
      exact Finmap.lookup_insert_of_ne _ hOther

/-- **Ledger invariant.** Along every orderly run of the issuer, whatever requests
and defundings it is sent: online balances and float add up to what accounts were
opened with; every certified device has its account, so no call fails for lack of
one; a funding never takes an account below zero; a device and nonce are funded
at most once; and the counters credited to a device increase, the record holding
the last. -/
theorem ledger_invariant {keypair : Keypair} {history : List Event} {issuer : Issuer}
    (hRun : Machine.Reaches (exec (G := G)) Orderly (new keypair) history issuer) :
    (issuer.accounts.total UInt64.toNat + issuer.offlineFloat : ℤ) = openings history ∧
      ((∀ device record, issuer.devices.lookup device = some record →
          (issuer.accounts.lookup record.account).isSome) ∧
        (∀ request account, (issuer.fund request).1 ≠ .error (.unknownAccount account)) ∧
        ∀ defunding account, (issuer.defund defunding).1 ≠ .error (.unknownAccount account)) ∧
      (∀ request funding, (issuer.fund request).1 = .ok funding →
        ∃ account balance remaining, issuer.accountOf request.device = some account ∧
          issuer.balanceOf account = some balance ∧
          (issuer.fund request).2.balanceOf account = some remaining ∧
          remaining.toNat + request.amountCents.toNat = balance.toNat ∧
          ∀ other, other ≠ account →
            (issuer.fund request).2.balanceOf other = issuer.balanceOf other) ∧
      (fundedKeys history).Nodup ∧
      ∀ device, (counters device history).Pairwise (· > ·) ∧
        ∀ record, issuer.devices.lookup device = some record →
          record.lastDefundingCounter = (counters device history).headD 0 := by
  have hExist := accounts_exist hRun
  refine ⟨money_eq hRun, ⟨hExist, hExist.fund_ne, hExist.defund_ne⟩,
    fun request funding hOk => fund_debits hOk, fundedKeys_nodup hRun, fun device => ?_⟩
  have hMatch : CountersMatch history issuer device := by
    refine counters_match (hRun.mono fun {history issuer op} _ hOrderly => ?_) device
    rintro account publicKey limit rng rfl
    exact hOrderly
  exact ⟨hMatch.increasing, hMatch.last⟩

end Issuer

section Sample

open scoped Fips

/-- The account of the sample device. -/
def sampleAccount : AccountId := ⟨(Rng.gen (⟨0⟩ : CountingRng)).1⟩

/-- The float after the run below, for any hash function. -/
theorem sampleFloat [Sha256] :
    (Machine.run (Issuer.exec (G := CountingRng)) (.new issuerKeys)
      [.openAccount sampleAccount 5000,
        .certifyDevice sampleAccount aliceKeys.publicKey sampleLimit ⟨1⟩,
        .fund sampleFundingRequest]).2.offlineFloat = 1000 := by
  let record : DeviceRecord :=
    { account := sampleAccount, publicKey := aliceKeys.publicKey, lastDefundingCounter := 0 }
  let certified : Issuer :=
    { (Issuer.new issuerKeys).openAccount sampleAccount 5000 with
      devices := (∅ : Finmap _).insert (sampleDevice 1) record }
  have hFunded : certified.exec (.fund sampleFundingRequest : Issuer.Op CountingRng) = _ :=
    (Issuer.Step.fund sampleFundingRequest record 5000 (Finmap.lookup_insert _)
      sampleFundingRequest_verifies (show (1000 : UInt64) ≠ 0 by decide)
      (Finset.notMem_empty _) rfl (show (1000 : UInt64) ≤ 5000 by decide)).exec_eq
  exact (congrArg (fun c => c.2.offlineFloat) hFunded).trans rfl

/-- An account with 50 €, its device, and a funding with 10 €. -/
def sampleLedger : List Issuer.Event × Issuer :=
  Machine.run (Issuer.exec (G := CountingRng)) (.new issuerKeys)
    [.openAccount sampleAccount 5000,
      .certifyDevice sampleAccount aliceKeys.publicKey sampleLimit ⟨1⟩,
      .fund sampleFundingRequest]

theorem ledger_invariant_sample :
    sampleLedger.2.offlineFloat = 1000 ∧
      (sampleLedger.2.accounts.total UInt64.toNat + sampleLedger.2.offlineFloat : ℤ) =
        Issuer.openings sampleLedger.1 := by
  have hRun : Machine.Reaches (Issuer.exec (G := CountingRng)) Issuer.Orderly (.new issuerKeys)
      sampleLedger.1 sampleLedger.2 := by
    refine .run_concat [_, _] (.run_concat [_] (.run_concat [] .start ?_) ?_) trivial
    · rfl
    · rfl
  exact ⟨sampleFloat, (Issuer.ledger_invariant hRun).1⟩

end Sample

end DigitalEuro
