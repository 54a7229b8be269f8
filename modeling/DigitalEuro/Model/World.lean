import DigitalEuro.Lib.Keyed
import DigitalEuro.Model.Enrol
import DigitalEuro.Model.HelperRuns

/-!
# Digital euro — the harness's world (`main.rs`)

The harness drives whole runs across several devices. Its world is a backend and a
vector of devices, one for each account; `world` draws the accounts, opens them and
enrols the devices. `usize` is `UInt64`, and `expect`, an index and `assert_ne` panic.

* `World.system` — the world as a system, its devices by their ids;
* `worldLoop_opens` — what the set-up leaves behind;
* `world_opens` — a set-up that returns never panics, and leads to a reachable state.
-/

namespace DigitalEuro

/-- The generator of the harness: seeded, and drawing integers of a width in a range
as well. The range must not be empty. -/
class StdRng (R : Type) extends Rng R, RandBigInt R where
  seedFromU64 : UInt64 → R
  genRange : R → (width low high : ℕ) → ℕ × R
  le_genRange : ∀ rng width {low high}, low < high → low ≤ (genRange rng width low high).1
  genRange_lt : ∀ rng width {low high}, low < high → (genRange rng width low high).1 < high

structure Config where
  issuerKey : Keypair
  keyBits : UInt64
  seed : UInt64
  limit : UInt64
  devices : UInt64
  ops : UInt64

/-- A backend and one device per account. -/
structure World (R : Type) where
  issuer : Issuer
  accounts : List AccountId
  devices : List (Wallet R)

/-- How the harness can panic: in key generation, on its `expect`, on an index that is
out of bounds or a pair that is not one, on an empty range, and on a vector of more than
`isize::MAX` bytes. -/
inductive HarnessPanic where
  | keygen (panic : KeygenPanic)
  | enrolment (error : Error)
  | index
  | emptyRange
  | capacity

section Setup

variable [Sha256] {R : Type} [StdRng R]

def worldLoop (cfg : Config) (seed : UInt64) (fuel : ℕ) :
    ℕ → List UInt64 → World R → R → Option (Except HarnessPanic (World R))
  | _, [], w, _ => some (.ok w)
  | index, balance :: balances, w, rng =>
    let (bytes, rng) := Rng.gen rng
    let account : AccountId := ⟨bytes⟩
    let deviceRng : R := StdRng.seedFromU64 (seed ^^^ ((UInt64.ofNat index + 1) <<< 32))
    match enrol (w.issuer.openAccount account balance) account cfg.limit cfg.keyBits fuel deviceRng
        rng with
    | none => none
    | some (.error panic, _, _) => some (.error (.keygen panic))
    | some (.ok (.error error), _, _) => some (.error (.enrolment error))
    | some (.ok (.ok device), issuer, rng) =>
      worldLoop cfg seed fuel (index + 1) balances
        { issuer, accounts := w.accounts ++ [account], devices := w.devices ++ [device] } rng

/-- Opens an account with each balance and enrols a device for it. -/
def world (cfg : Config) (seed : UInt64) (fuel : ℕ) (balances : List UInt64) :
    Option (Except HarnessPanic (World R)) :=
  worldLoop cfg seed fuel 0 balances
    { issuer := .new cfg.issuerKey, accounts := [], devices := [] } (StdRng.seedFromU64 seed)

end Setup

/-- Two distinct devices out of one vector. -/
def pair {α : Type} (devices : List α) (a b : ℕ) : Option (α × α) :=
  if a = b then none
  else if a < b then
    match devices.splitAt b with
    | (left, right) =>
      match left[a]?, right[0]? with
      | some x, some y => some (x, y)
      | _, _ => none
  else
    match devices.splitAt a with
    | (left, right) =>
      match right[0]?, left[b]? with
      | some x, some y => some (x, y)
      | _, _ => none

/-- `pair` finds the devices at two indices. -/
theorem pair_eq {α : Type} {devices : List α} {a b : ℕ} (hOther : a ≠ b) {x y : α}
    (hFirst : devices[a]? = some x) (hSecond : devices[b]? = some y) :
    pair devices a b = some (x, y) := by
  rw [pair, if_neg hOther]
  by_cases hLt : a < b
  · have hLeft : (devices.take b)[a]? = some x := by
      rw [List.getElem?_take_of_lt hLt, hFirst]
    have hRight : (devices.drop b)[0]? = some y := by
      rw [List.getElem?_drop, Nat.add_zero, hSecond]
    rw [if_pos hLt, List.splitAt_eq]
    dsimp only
    rw [hLeft, hRight]
  · have hLeft : (devices.take a)[b]? = some y := by
      rw [List.getElem?_take_of_lt (by omega), hSecond]
    have hRight : (devices.drop a)[0]? = some x := by
      rw [List.getElem?_drop, Nat.add_zero, hFirst]
    rw [if_neg hLt, List.splitAt_eq]
    dsimp only
    rw [hRight, hLeft]

-- ---------------------------------------------------------------------------
-- The world as a system
-- ---------------------------------------------------------------------------

/-- The world as a system. -/
def World.system {R : Type} (w : World R) : System R where
  issuer := w.issuer
  wallets := Finmap.byKey Wallet.device w.devices

/-- What the draws of a set-up are expected to give: accounts and device ids that do not
repeat, and keys whose modulus is a product of two primes. -/
structure World.Distinct {R : Type} (w : World R) : Prop where
  accounts : w.accounts.Nodup
  devices : (w.devices.map Wallet.device).Nodup
  primes : ∀ device ∈ w.devices, ∃ p q, p.Prime ∧ q.Prime ∧ device.keypair.publicKey.n = p * q

/-- An element as it leaves enrolment. -/
structure Wallet.Blank {R : Type} (limit : UInt64) (w : Wallet R) : Prop where
  limit_eq : w.holdingLimit = limit
  balance_eq : w.balanceCents = 0
  incoming_eq : w.incoming = ∅
  pendingFunding_eq : w.pendingFunding = ∅
  isSealed : w.state = .sealed

theorem Wallet.fresh_blank {R : Type} (certificate : DeviceCertificate) (keypair : Keypair)
    (issuer : PublicKey) (rng : R) :
    (fresh certificate keypair issuer rng).Blank certificate.holdingLimitCents :=
  ⟨rfl, rfl, rfl, rfl, rfl⟩

namespace World

variable {R : Type} {cfg : Config} {w w' : World R} {balances : List UInt64}

theorem Distinct.of_prefix (h : w'.Distinct) (hAccounts : w.accounts <+: w'.accounts)
    (hDevices : w.devices <+: w'.devices) : w.Distinct where
  accounts := h.accounts.sublist hAccounts.sublist
  devices := h.devices.sublist (hDevices.map _).sublist
  primes device hMem := h.primes device (hDevices.subset hMem)

/-- What every world starts with, whatever was drawn. -/
structure Blank (cfg : Config) (w : World R) : Prop where
  issuer_key : w.issuer.keypair = cfg.issuerKey
  float : w.issuer.offlineFloat = 0
  devices : ∀ device ∈ w.devices, device.Blank cfg.limit
  one_each : w.devices.length = w.accounts.length

variable [Sha256] [Rng R]

/-- What a world of distinct accounts and devices starts with. -/
structure Opened (cfg : Config) (balances : List UInt64) (w : World R) : Prop where
  reachable : ∃ history, System.Reachable R R cfg.issuerKey history w.system ∧
    ∀ device, System.localEvents device history = []
  recorded : ∀ device, (w.issuer.devices.lookup device).isSome →
    device ∈ w.devices.map Wallet.device
  known : ∀ account, (w.issuer.accounts.lookup account).isSome → account ∈ w.accounts
  balances_eq : w.accounts.map w.issuer.balanceOf = balances.map some
  owners : w.devices.map (fun device => w.issuer.accountOf device.device) = w.accounts.map some

/-- A world with one more account and its device. -/
def joined (w : World R) (account : AccountId) (balance : UInt64) (keys : Keypair)
    (device : DeviceId) (limit : UInt64) (deviceRng : R) : World R where
  issuer := { w.issuer.openAccount account balance with
    devices := w.issuer.devices.insert device (.fresh account keys.publicKey) }
  accounts := w.accounts ++ [account]
  devices := w.devices ++
    [.fresh (w.issuer.keypair.certify device keys.publicKey limit) keys w.issuer.publicKey
      deviceRng]

variable {account : AccountId} {keys : Keypair} {deviceRng : R}

omit [Rng R] in
theorem Blank.joined (h : w.Blank cfg) (account : AccountId) (balance : UInt64) (keys : Keypair)
    (device : DeviceId) (deviceRng : R) :
    (w.joined account balance keys device cfg.limit deviceRng).Blank cfg where
  issuer_key := h.issuer_key
  float := h.float
  devices other hMem := by
    rcases List.mem_append.mp hMem with hMem | hMem
    · exact h.devices other hMem
    · obtain rfl := List.mem_singleton.mp hMem
      exact Wallet.fresh_blank (w.issuer.keypair.certify device keys.publicKey cfg.limit) keys
        w.issuer.publicKey deviceRng
  one_each := by
    show (w.devices ++ [_]).length = (w.accounts ++ [_]).length
    rw [List.length_append, List.length_append, h.one_each]
    rfl

omit [Rng R] in
theorem joined_system {device : DeviceId} (hNew : device ∉ w.devices.map Wallet.device)
    (account : AccountId) (balance : UInt64) (keys : Keypair) (limit : UInt64) (deviceRng : R) :
    (w.joined account balance keys device limit deviceRng).system =
      System.enrolled { w.system with issuer := w.issuer.openAccount account balance } account keys
        device limit deviceRng := by
  let new : Wallet R := .fresh (w.issuer.keypair.certify device keys.publicKey limit) keys
    w.issuer.publicKey deviceRng
  have hNew' : new.device ∉ w.devices.map Wallet.device := hNew
  rw [system, World.joined, Finmap.byKey_append hNew']
  rfl

/-- **One more account and its device** are as the others were. -/
theorem Opened.joined (h : w.Opened cfg balances) (hIssuer : cfg.issuerKey.Generated)
    (hKeys : keys.Generated) (hAccount : account ∉ w.accounts) (rng : R)
    (hDevice : ⟨(Rng.gen rng).1⟩ ∉ w.devices.map Wallet.device) (balance limit : UInt64)
    (deviceRng : R) :
    (w.joined account balance keys ⟨(Rng.gen rng).1⟩ limit deviceRng).Opened cfg
      (balances ++ [balance]) where
  reachable := by
    obtain ⟨history, hReach, hQuiet⟩ := h.reachable
    have hOpened := hReach.issuer_next (Issuer.Step.openAccount account balance)
      (fun _ _ _ _ hOp => absurd hOp (by simp)) (fun _ hp => absurd hp List.not_mem_nil)
    have hKnown : ((w.issuer.openAccount account balance).accounts.lookup account).isSome := by
      rw [Issuer.openAccount, Finmap.lookup_insert, Option.isSome_some]
    have hFresh : w.issuer.devices.lookup ⟨(Rng.gen rng).1⟩ = none := by
      by_contra hRecord
      exact hDevice (h.recorded _ (Option.isSome_iff_ne_none.mpr hRecord))
    have hNext := hOpened.enrol_next hIssuer hKeys hKnown rng hFresh limit deviceRng
    rw [joined_system hDevice]
    refine ⟨_, hNext, fun device => ?_⟩
    rw [System.localEvents_installed, System.localEvents_issuer, System.localEvents_issuer,
      hQuiet device]
  recorded device hSome := by
    show device ∈ (w.devices ++ [_]).map Wallet.device
    rw [List.map_append, List.mem_append]
    by_cases hSame : device = ⟨(Rng.gen rng).1⟩
    · exact .inr (List.mem_singleton.mpr hSame)
    · left
      have hLookup : ((w.issuer.devices.insert ⟨(Rng.gen rng).1⟩
        (.fresh account keys.publicKey)).lookup device).isSome := hSome
      rw [Finmap.lookup_insert_of_ne _ hSame] at hLookup
      exact h.recorded device hLookup
  known other hSome := by
    show other ∈ w.accounts ++ [account]
    rw [List.mem_append]
    by_cases hSame : other = account
    · exact .inr (List.mem_singleton.mpr hSame)
    · left
      have hLookup : ((w.issuer.accounts.insert account balance).lookup other).isSome := hSome
      rw [Finmap.lookup_insert_of_ne _ hSame] at hLookup
      exact h.known other hLookup
  balances_eq := by
    show (w.accounts ++ [account]).map (fun other =>
      (w.issuer.accounts.insert account balance).lookup other) = (balances ++ [balance]).map some
    rw [List.map_append, List.map_append, ← h.balances_eq]
    refine congrArg₂ (· ++ ·) (List.map_congr_left fun other hMem => ?_) ?_
    · exact Finmap.lookup_insert_of_ne _ fun hSame => hAccount (hSame ▸ hMem)
    · rw [List.map_singleton, List.map_singleton, Finmap.lookup_insert]
  owners := by
    let id : DeviceId := ⟨(Rng.gen rng).1⟩
    have hNew : id ∉ w.devices.map Wallet.device := hDevice
    show (w.devices ++ [_]).map (fun other : Wallet R => ((w.issuer.devices.insert id
        (DeviceRecord.fresh account keys.publicKey)).lookup other.device).map
          DeviceRecord.account) = (w.accounts ++ [account]).map some
    rw [List.map_append, List.map_append, ← h.owners]
    refine congrArg₂ (· ++ ·) (List.map_congr_left fun other hMem => ?_) ?_
    · have hOther : other.device ≠ id := fun hSame =>
        hNew (hSame ▸ List.mem_map_of_mem hMem)
      rw [Finmap.lookup_insert_of_ne _ hOther]
      rfl
    · have hLookup : (w.issuer.devices.insert id (.fresh account keys.publicKey)).lookup id =
          some (DeviceRecord.fresh account keys.publicKey) := Finmap.lookup_insert _
      exact congrArg (fun record : Option DeviceRecord => [record.map DeviceRecord.account]) hLookup

-- ---------------------------------------------------------------------------
-- The set-up
-- ---------------------------------------------------------------------------

variable {R : Type} [StdRng R] {w w' : World R} {fuel index : ℕ} {seed : UInt64} {rng : R}
  {outcome : Except HarnessPanic (World R)}

/-- One pass of the set-up, once the key is generated. -/
theorem worldLoop_joined (w : World R) (seed : UInt64) (index : ℕ) (balance : UInt64)
    (balances : List UInt64) {rng₁ : R} (hIssuer : w.issuer.keypair.Generated)
    (hKeys : Keypair.generate cfg.keyBits fuel (Rng.gen rng).2 = some (.ok keys, rng₁)) :
    worldLoop cfg seed fuel index (balance :: balances) w rng =
      worldLoop cfg seed fuel (index + 1) balances
        (w.joined ⟨(Rng.gen rng).1⟩ balance keys ⟨(Rng.gen rng₁).1⟩ cfg.limit
          (StdRng.seedFromU64 (seed ^^^ ((UInt64.ofNat index + 1) <<< 32)))) (Rng.gen rng₁).2 := by
  have hIssuer' : (w.issuer.openAccount ⟨(Rng.gen rng).1⟩ balance).keypair.Generated := hIssuer
  have hKnown : ((w.issuer.openAccount ⟨(Rng.gen rng).1⟩ balance).accounts.lookup
      ⟨(Rng.gen rng).1⟩).isSome := by
    rw [Issuer.openAccount, Finmap.lookup_insert, Option.isSome_some]
  rw [worldLoop]
  dsimp only
  rw [enrol_eq hKeys hIssuer' hKnown]
  rfl

/-- What a set-up adds to a world. -/
structure Extended (cfg : Config) (balances : List UInt64) (w w' : World R) : Prop where
  blank : w'.Blank cfg
  length_eq : w'.accounts.length = w.accounts.length + balances.length
  accounts : w.accounts <+: w'.accounts
  devices : w.devices <+: w'.devices
  opened : w'.Distinct → ∀ {before}, w.Opened cfg before → w'.Opened cfg (before ++ balances)

variable (hSize : 512 ≤ cfg.keyBits) (hEven : cfg.keyBits % 2 = 0)
  (hIssuer : cfg.issuerKey.Generated)

include hSize hEven hIssuer

/-- **What the set-up leaves behind**, by induction on the accounts still to open. -/
theorem worldLoop_opens (hBlank : w.Blank cfg)
    (h : worldLoop cfg seed fuel index balances w rng = some outcome) :
    ∃ w', outcome = .ok w' ∧ Extended cfg balances w w' := by
  induction balances generalizing index w rng with
  | nil =>
    obtain rfl := Option.some.inj h
    refine ⟨w, rfl, hBlank, rfl, List.prefix_rfl, List.prefix_rfl, fun _ before hOpened => ?_⟩
    rw [List.append_nil]
    exact hOpened
  | cons balance balances ih =>
    have hKey : w.issuer.keypair.Generated := hBlank.issuer_key ▸ hIssuer
    cases hGenerate : Keypair.generate cfg.keyBits fuel (Rng.gen rng).2 with
    | none =>
      rw [worldLoop] at h
      dsimp only at h
      rw [enrol, hGenerate] at h
      cases h
    | some generated =>
      obtain ⟨result, rng₁⟩ := generated
      obtain ⟨keys, p, q, rfl, -, -, -⟩ := generate_spec hSize hEven hGenerate
      rw [worldLoop_joined w seed index balance balances hKey hGenerate] at h
      obtain ⟨w', rfl, hExtended⟩ := ih (hBlank.joined _ _ _ _ _) h
      have hAccounts := hExtended.accounts
      have hDevices := hExtended.devices
      refine ⟨w', rfl, hExtended.blank, ?_, (List.prefix_append _ _).trans hAccounts,
        (List.prefix_append _ _).trans hDevices, fun hDistinct before hOpened => ?_⟩
      · rw [hExtended.length_eq]
        show (w.accounts ++ [_]).length + _ = _
        rw [List.length_append, List.length_singleton, List.length_cons]
        omega
      -- what was just drawn is not among what was drawn before
      have hJoined := hDistinct.of_prefix hAccounts hDevices
      have hNewAccount : ⟨(Rng.gen rng).1⟩ ∉ w.accounts := by
        have hNodup : (w.accounts ++ [_]).Nodup := hJoined.accounts
        rw [List.nodup_append] at hNodup
        exact fun hMem => hNodup.2.2 _ hMem _ List.mem_cons_self rfl
      have hNewDevice : ⟨(Rng.gen rng₁).1⟩ ∉ w.devices.map Wallet.device := by
        have hNodup : ((w.devices ++ [_]).map Wallet.device).Nodup := hJoined.devices
        rw [List.map_append, List.nodup_append] at hNodup
        exact fun hMem => hNodup.2.2 _ hMem _ List.mem_cons_self rfl
      have hKeys := System.generated_of_primes hSize hEven hGenerate
        (hJoined.primes _ (List.mem_append_right _ List.mem_cons_self))
      have hNext := hExtended.opened hDistinct
        (hOpened.joined hIssuer hKeys hNewAccount rng₁ hNewDevice _ _ _)
      rw [List.append_assoc] at hNext
      exact hNext

/-- The set-up as a whole. -/
theorem world_spec (h : world cfg seed fuel balances = some outcome) :
    ∃ w, outcome = .ok w ∧ w.Blank cfg ∧ w.accounts.length = balances.length ∧
      (w.Distinct → w.Opened cfg balances) := by
  have hBlank : Blank cfg ({ issuer := .new cfg.issuerKey, accounts := [], devices := [] } :
      World R) := ⟨rfl, rfl, fun _ hMem => absurd hMem List.not_mem_nil, rfl⟩
  have hOpened : Opened cfg [] ({ issuer := .new cfg.issuerKey, accounts := [], devices := [] } :
      World R) := by
    refine ⟨⟨[], .start, fun _ => rfl⟩, fun device hSome => ?_, fun account hSome => ?_, rfl, rfl⟩
    · exact absurd hSome (by simp [Issuer.new])
    · exact absurd hSome (by simp [Issuer.new])
  obtain ⟨w, rfl, hExtended⟩ := worldLoop_opens hSize hEven hIssuer hBlank h
  exact ⟨w, rfl, hExtended.blank, hExtended.length_eq.trans (Nat.zero_add _),
    fun hDistinct => hExtended.opened hDistinct hOpened⟩

/-- **A set-up that returns never panics**: the keys are generated for their size, and
every account is known by the time it gets its device. There is a device for each
account, it has the configured limit and holds nothing, and nothing is offline. When no
identifier was drawn twice and every modulus is a product of two primes, the state is
reachable with no element having done anything, each account has its opening balance, and
each device belongs to the account at its index. -/
theorem world_opens (h : world cfg seed fuel balances = some outcome) :
    ∃ w, outcome = .ok w ∧ w.accounts.length = balances.length ∧
      w.devices.length = balances.length ∧ (∀ device ∈ w.devices, device.Blank cfg.limit) ∧
      w.issuer.offlineFloat = 0 ∧ (w.Distinct → w.Opened cfg balances) := by
  obtain ⟨w, rfl, hBlank, hLength, hOpened⟩ := world_spec hSize hEven hIssuer h
  exact ⟨w, rfl, hLength, hBlank.one_each.trans hLength, hBlank.devices, hBlank.float, hOpened⟩

end World

-- ---------------------------------------------------------------------------
-- A scripted world
-- ---------------------------------------------------------------------------

/-- The numbers drawn from a seed: two accounts with their devices, or three operations. -/
def sampleNumbers (seed : UInt64) : List ℕ :=
  if seed = 0xf022 then
    [1, samplePrime 51975, samplePrime 52455, 1, 2, samplePrime 54525, samplePrime 53823, 2]
  else
    [0, 299, 1, 0, 99, 5, 3, 7, 199, 2]

instance : StdRng ScriptedRng where
  seedFromU64 seed := ⟨sampleNumbers seed, []⟩
  genRange rng _ low high :=
    (low + rng.numbers.headD 0 % (high - low), { rng with numbers := rng.numbers.tail })
  le_genRange _ _ _ _ _ := Nat.le_add_right ..
  genRange_lt rng _ low high h := by
    have hMod := Nat.mod_lt (rng.numbers.headD 0) (Nat.sub_pos_of_lt h)
    dsimp only
    omega

def sampleConfig : Config where
  issuerKey := issuerKeys
  keyBits := 512
  seed := 0
  limit := 2000
  devices := 2
  ops := 3

/-- The account whose id is a number. -/
def sampleHolder (n : ℕ) : AccountId := ⟨(Rng.gen (⟨n⟩ : CountingRng)).1⟩

section Sample

open scoped Fips

/-- The world of one device, and of two, that the sample seed leads to. -/
def sampleFirst : World ScriptedRng :=
  ({ issuer := .new issuerKeys, accounts := [], devices := [] } : World ScriptedRng).joined
    (sampleHolder 1) 3000 aliceKeys (sampleDevice 1) 2000
    (StdRng.seedFromU64 ((0xf022 : UInt64) ^^^ ((UInt64.ofNat 0 + 1) <<< 32)))

def sampleWorld : World ScriptedRng :=
  sampleFirst.joined (sampleHolder 2) 3000 bakeryKeys (sampleDevice 2) 2000
    (StdRng.seedFromU64 ((0xf022 : UInt64) ^^^ ((UInt64.ofNat 1 + 1) <<< 32)))

theorem sampleWorld_eq :
    world sampleConfig 0xf022 2 [3000, 3000] = some (.ok sampleWorld) := by
  let second : List ℕ := [2, samplePrime 54525, samplePrime 53823, 2]
  let first : List ℕ := 1 :: samplePrime 51975 :: samplePrime 52455 :: 1 :: second
  have hAlice : Keypair.generate sampleConfig.keyBits 2
      (Rng.gen (⟨first, []⟩ : ScriptedRng)).2 = some (.ok aliceKeys, ⟨1 :: second, []⟩) :=
    Keypair.GeneratedFrom.generate_scripted_append 512 aliceKeys_generatedFrom (1 :: second)
  have hBakery : Keypair.generate sampleConfig.keyBits 2
      (Rng.gen (⟨second, []⟩ : ScriptedRng)).2 = some (.ok bakeryKeys, ⟨[2], []⟩) :=
    Keypair.GeneratedFrom.generate_scripted_append 512 bakeryKeys_generatedFrom [2]
  have hSeed : (StdRng.seedFromU64 0xf022 : ScriptedRng) = ⟨first, []⟩ := by
    show (⟨sampleNumbers 0xf022, []⟩ : ScriptedRng) = _
    rw [sampleNumbers, if_pos rfl]
  have hHolder : (⟨(Rng.gen (⟨first, []⟩ : ScriptedRng)).1⟩ : AccountId) = sampleHolder 1 := rfl
  have hDevice : (⟨(Rng.gen (⟨1 :: second, []⟩ : ScriptedRng)).1⟩ : DeviceId) = sampleDevice 1 :=
    rfl
  have hHolder' : (⟨(Rng.gen (⟨second, []⟩ : ScriptedRng)).1⟩ : AccountId) = sampleHolder 2 := rfl
  have hDevice' : (⟨(Rng.gen (⟨[2], []⟩ : ScriptedRng)).1⟩ : DeviceId) = sampleDevice 2 := rfl
  have hFirst := World.worldLoop_joined { issuer := .new issuerKeys, accounts := [], devices := [] }
    0xf022 0 3000 [3000] issuerKeys_generated hAlice
  have hSecond := World.worldLoop_joined sampleFirst 0xf022 1 3000 [] issuerKeys_generated hBakery
  rw [hHolder, hDevice] at hFirst
  rw [hHolder', hDevice'] at hSecond
  rw [world, hSeed]
  exact hFirst.trans hSecond

theorem sampleWorld_distinct : sampleWorld.Distinct where
  accounts := by
    show [sampleHolder 1, sampleHolder 2].Nodup
    decide
  devices := by
    show [sampleDevice 1, sampleDevice 2].Nodup
    decide
  primes := by
    refine List.forall_mem_cons.mpr ⟨?_, List.forall_mem_singleton.mpr ?_⟩
    · have hAlice := aliceKeys_generatedFrom
      exact ⟨_, _, hAlice.p_generated.prime, hAlice.q_generated.prime, rfl⟩
    · have hBakery := bakeryKeys_generatedFrom
      exact ⟨_, _, hBakery.p_generated.prime, hBakery.q_generated.prime, rfl⟩

theorem world_opens_sample :
    sampleWorld.devices.length = 2 ∧ sampleWorld.Opened sampleConfig [3000, 3000] := by
  obtain ⟨w, hSame, -, hLength, -, -, hOpened⟩ :=
    World.world_opens (by decide) (by decide) issuerKeys_generated sampleWorld_eq
  obtain rfl := Except.ok.inj hSame
  exact ⟨hLength, hOpened sampleWorld_distinct⟩

end Sample

end DigitalEuro
