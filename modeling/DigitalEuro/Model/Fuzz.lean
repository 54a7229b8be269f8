import DigitalEuro.Model.World

/-!
# Digital euro — the fuzz run (`main.rs`)

`run_fuzz` draws fundings, payments and defundings across the devices of a world and
checks after each that nothing is over its limit, that the devices hold the float, and
that no money was made or lost; a refused operation must leave everything as it was. The
run returns when a check fails. What it prints is left out, apart from the table.

* `World.call_next` — an operation by index is a helper's call by device id;
* `Steady.checkInvariants_eq` — what the movements keep is what is checked;
* `fuzz_passes` — no run fails, and it is a run of the ledger;
* `fuzz_outcomes` — what the table it prints can say.
-/

namespace DigitalEuro

/-- An operation of the run, on devices by index. -/
inductive FuzzOp where
  | fund (a : ℕ) (amount : UInt64)
  | defund (a : ℕ) (amount : UInt64)
  | pay (a b : ℕ) (amount : UInt64)

def FuzzOp.kind : FuzzOp → String
  | .fund .. => "fund"
  | .defund .. => "defund"
  | .pay .. => "pay"

/-- The name of an error, which is what its debug text begins with. -/
def Error.name : Error → String
  | .invalidCertificate => "InvalidCertificate"
  | .invalidSignature => "InvalidSignature"
  | .notForThisDevice => "NotForThisDevice"
  | .selfPayment => "SelfPayment"
  | .zeroAmount => "ZeroAmount"
  | .insufficientFunds .. => "InsufficientFunds"
  | .holdingLimitExceeded .. => "HoldingLimitExceeded"
  | .unknownRequest => "UnknownRequest"
  | .alreadyCredited => "AlreadyCredited"
  | .amountMismatch .. => "AmountMismatch"
  | .replay => "Replay"
  | .unknownAccount .. => "UnknownAccount"
  | .unknownDevice .. => "UnknownDevice"

/-- The line of the table that an operation is counted under. -/
def FuzzOp.label (op : FuzzOp) : Except Error UInt64 → String
  | .ok _ => op.kind ++ ": ok"
  | .error error => op.kind ++ ": refused, " ++ error.name

/-- Why a world is not as it should be. -/
inductive Violation where
  | overLimit (index : ℕ) (balance limit : UInt64)
  | keptReservation (index : ℕ)
  | floatMismatch (onDevices : ℕ) (float : ℤ)
  | moneyMoved (online onDevices money : ℕ)

/-- How a run ends early: it panics, or a check fails after a step. -/
inductive FuzzStop where
  | panicked (panic : HarnessPanic)
  | changedState (step : ℕ) (kind : String) (error : Error)
  | violated (step : ℕ) (kind : String) (violation : Violation)

section Draw

variable {R : Type} [StdRng R]

/-- `gen_range`, which panics on an empty range. -/
def StdRng.genRange? (rng : R) (width low high : ℕ) : Option (ℕ × R) :=
  if low < high then some (StdRng.genRange rng width low high) else none

/-- Draws one operation. Amounts are up to half the limit. -/
def drawOp (n : ℕ) (limit : UInt64) (rng : R) : Option (FuzzOp × R) := do
  let (a, rng) ← StdRng.genRange? rng 64 0 n
  let (amount, rng) ← StdRng.genRange? rng 64 1 ((limit / 2).toNat + 1)
  let (kind, rng) ← StdRng.genRange? rng 32 0 10
  if kind ≤ 1 then
    some (.fund a (.ofNat amount), rng)
  else if kind = 2 then
    some (.defund a (.ofNat amount), rng)
  else
    let (offset, rng) ← StdRng.genRange? rng 64 1 n
    some (.pay a ((a + offset) % n) (.ofNat amount), rng)

end Draw

namespace World

variable {R : Type}

/-- Runs one operation on the world. -/
def call [Sha256] [Rng R] (w : World R) : FuzzOp → Option (Except Error UInt64 × World R)
  | .fund a amount =>
    match w.devices[a]? with
    | none => none
    | some device =>
      let (result, device, issuer) := DigitalEuro.fund device w.issuer amount
      some (result, { w with issuer, devices := w.devices.set a device })
  | .defund a amount =>
    match w.devices[a]? with
    | none => none
    | some device =>
      let (result, device, issuer) := DigitalEuro.defund device w.issuer amount
      some (result, { w with issuer, devices := w.devices.set a device })
  | .pay a b amount =>
    match pair w.devices a b with
    | none => none
    | some (payer, payee) =>
      let (result, payer, payee) := DigitalEuro.pay payer payee amount
      some (result, { w with devices := (w.devices.set a payer).set b payee })

/-- Balances and reservations of every device, and every online account. -/
def snapshot (w : World R) : List (UInt64 × UInt64) × List (Option UInt64) × ℤ :=
  (w.devices.map fun device => (device.balanceCents, device.reserved),
    w.accounts.map w.issuer.balanceOf, w.issuer.offlineFloat)

def checkDevices (limit : UInt64) : ℕ → List (Wallet R) → Except Violation Unit
  | _, [] => .ok ()
  | index, device :: rest =>
    if ¬ device.balanceCents ≤ limit then .error (.overLimit index device.balanceCents limit)
    else if device.reserved ≠ 0 then .error (.keptReservation index)
    else checkDevices limit (index + 1) rest

/-- What the devices hold, a `u128`. -/
def onDevices (w : World R) : ℕ := (w.devices.map fun device => device.balanceCents.toNat).sum

/-- What the accounts hold, a `u128`. -/
def online (w : World R) : ℕ :=
  (w.accounts.map fun account => ((w.issuer.balanceOf account).getD 0).toNat).sum

def checkInvariants (w : World R) (limit : UInt64) (money : ℕ) : Except Violation Unit :=
  match checkDevices limit 0 w.devices with
  | .error violation => .error violation
  | .ok () =>
    if (w.onDevices : ℤ) ≠ w.issuer.offlineFloat then
      .error (.floatMismatch w.onDevices w.issuer.offlineFloat)
    else if w.online + w.onDevices ≠ money then
      .error (.moneyMoved w.online w.onDevices money)
    else .ok ()

end World

section Run

variable [Sha256] {R : Type} [StdRng R]

/-- The table of a run: how often each line was counted. -/
abbrev Outcomes := Finmap fun _ : String => ℕ

/-- A refused operation must not have changed anything. -/
def checkRefusal (step : ℕ) (op : FuzzOp) (before after : World R) :
    Except Error UInt64 → Except FuzzStop Unit
  | .ok _ => .ok ()
  | .error error =>
    if after.snapshot ≠ before.snapshot then .error (.changedState step op.kind error) else .ok ()

/-- The operations that are left, with the table so far. -/
def fuzzLoop (cfg : Config) (money : ℕ) :
    ℕ → ℕ → World R → R → Outcomes → Except FuzzStop (World R × Outcomes)
  | 0, _, w, _, outcomes => .ok (w, outcomes)
  | left + 1, step, w, rng, outcomes =>
    match drawOp cfg.devices.toNat cfg.limit rng with
    | none => .error (.panicked .emptyRange)
    | some (op, rng) =>
      match w.call op with
      | none => .error (.panicked .index)
      | some (result, w') => do
        checkRefusal step op w w' result
        let outcomes := outcomes.count (op.label result)
        (w'.checkInvariants cfg.limit money).mapError (.violated step op.kind)
        fuzzLoop cfg money left (step + 1) w' rng outcomes

/-- The opening balance of every account, which wraps for a limit from a third of the
range on. -/
def Config.opening (cfg : Config) : UInt64 := 3 * cfg.limit / 2

/-- Whether `vec![opening; n]` is longer than a vector can be, at eight bytes an amount. -/
def Config.Overlong (cfg : Config) : Prop := 2 ^ 63 ≤ 8 * cfg.devices.toNat

instance (cfg : Config) : Decidable cfg.Overlong := inferInstanceAs (Decidable (_ ≤ _))

/-- The world of the fuzz run, with the opening balances it is set up from. -/
def fuzzWorld (cfg : Config) (fuel : ℕ) : Option (Except HarnessPanic (World R)) :=
  if cfg.Overlong then some (.error .capacity)
  else world cfg (cfg.seed ^^^ 0xf022) fuel (List.replicate cfg.devices.toNat cfg.opening)

def runFuzz (cfg : Config) (fuel : ℕ) : Option (Except FuzzStop (World R × Outcomes)) :=
  match fuzzWorld cfg fuel with
  | none => none
  | some (.error panic) => some (.error (.panicked panic))
  | some (.ok w) =>
    some (fuzzLoop cfg (cfg.opening.toNat * cfg.devices.toNat) cfg.ops.toNat 0 w
      (StdRng.seedFromU64 (cfg.seed ^^^ 0x5eed)) ∅)

end Run

-- ---------------------------------------------------------------------------
-- Operations are calls
-- ---------------------------------------------------------------------------

/-- The indices of an operation are in bounds, a payment is between two devices, and
there is something to move. -/
def FuzzOp.Proper (n : ℕ) : FuzzOp → Prop
  | .fund a amount | .defund a amount => a < n ∧ amount ≠ 0
  | .pay a b amount => (a < n ∧ b < n ∧ a ≠ b) ∧ amount ≠ 0

/-- The call an operation makes. -/
def FuzzOp.call (id : ℕ → DeviceId) : FuzzOp → System.Call
  | .fund a amount => .fund (id a) amount
  | .defund a amount => .defund (id a) amount
  | .pay a b amount => .pay (id a) (id b) amount

namespace World

variable {R : Type} {w : World R} {i : ℕ} {device device' : Wallet R}

/-- The id of the device at an index. -/
def id (w : World R) (i : ℕ) : DeviceId :=
  ((w.devices.map Wallet.device)[i]?).getD ⟨.replicate 16 0⟩

theorem id_eq (h : w.devices[i]? = some device) : w.id i = device.device := by
  unfold id
  rw [List.getElem?_map, h]
  rfl

theorem id_congr {w' : World R} (h : w'.devices.map Wallet.device = w.devices.map Wallet.device) :
    w'.id = w.id := by
  funext i
  unfold id
  rw [h]

theorem system_lookup (hIds : (w.devices.map Wallet.device).Nodup)
    (h : w.devices[i]? = some device) : w.system.wallets.lookup (w.id i) = some device := by
  rw [id_eq h]
  exact Finmap.byKey_lookup hIds (List.mem_of_getElem? h)

/-- Writing a device in place keeps the ids. -/
theorem set_ids (h : w.devices[i]? = some device) (hId : device'.device = w.id i) :
    (w.devices.set i device').map Wallet.device = w.devices.map Wallet.device := by
  rw [id_eq h] at hId
  refine List.ext_getElem? fun j => ?_
  rw [List.getElem?_map, List.getElem?_map, List.getElem?_set]
  split_ifs with hSame hLt
  · subst hSame
    rw [h, Option.map_some, Option.map_some, hId]
  · subst hSame
    rw [List.getElem?_eq_none (not_lt.mp hLt)] at h
    cases h
  · rfl

/-- Writing a device in place is inserting its wallet. -/
theorem set_system (hIds : (w.devices.map Wallet.device).Nodup)
    (h : w.devices[i]? = some device) (hId : device'.device = w.id i) (issuer : Issuer) :
    system { w with issuer, devices := w.devices.set i device' } =
      { issuer, wallets := w.system.wallets.insert (w.id i) device' } := by
  rw [id_eq h] at hId ⊢
  unfold system
  rw [Finmap.byKey_set hIds h hId]

section Calls

variable [Sha256] [Rng R] {keypair : Keypair} {devices : Finset DeviceId}
  {accounts : Finset AccountId} {later : List System.Call} {s : System R} {op : FuzzOp}

/-- The devices of a system are under their own ids. -/
theorem device_eq (h : System.Ready R R keypair devices accounts later s) {id : DeviceId}
    (hWallet : s.wallets.lookup id = some device) : device.device = id := by
  obtain ⟨history, hReach, -⟩ := h.reachable
  exact (hReach.enrolled.wallet_of hWallet).device_eq

/-- What an operation does to a world that is ready for its call. -/
def Follows (keypair : Keypair) (devices : Finset DeviceId) (accounts : Finset AccountId)
    (later : List System.Call) (w : World R) (op : FuzzOp) : Prop :=
  ∃ result w' outcome, w.call op = some (result, w') ∧ w'.accounts = w.accounts ∧
    w'.devices.map Wallet.device = w.devices.map Wallet.device ∧
    w.system.ledger.move (op.call w.id).movement = some (outcome, w'.system.ledger) ∧
    verdict result = some outcome ∧
    System.Ready R R keypair devices accounts later w'.system

/-- An operation that writes one device. -/
theorem one_next {result : Except Error UInt64} {issuer : Issuer} {a : ℕ}
    (hIssuer : keypair.Generated) (hIds : (w.devices.map Wallet.device).Nodup)
    (hAt : w.devices[a]? = some device)
    (hOp : w.call op = some (result, { w with issuer, devices := w.devices.set a device' }))
    (hCall : w.system.call (op.call w.id) =
      some (result, { issuer, wallets := w.system.wallets.insert (w.id a) device' }))
    (h : System.Ready R R keypair devices accounts (op.call w.id :: later) w.system) :
    Follows keypair devices accounts later w op := by
  obtain ⟨result', s', outcome, hCall', hMove, hVerdict, hNext⟩ := h.next hIssuer
  rw [hCall, Option.some.injEq, Prod.mk.injEq] at hCall'
  obtain ⟨rfl, rfl⟩ := hCall'
  have hId := device_eq hNext (Finmap.lookup_insert _)
  have hSystem := set_system hIds hAt hId issuer
  rw [← hSystem] at hMove hNext
  exact ⟨result, _, outcome, hOp, rfl, set_ids hAt hId, hMove, hVerdict, hNext⟩

/-- **An operation by index is a call by id**, and leads on like it. -/
theorem call_next (hIssuer : keypair.Generated) (hIds : (w.devices.map Wallet.device).Nodup)
    (hProper : op.Proper w.devices.length)
    (h : System.Ready R R keypair devices accounts (op.call w.id :: later) w.system) :
    Follows keypair devices accounts later w op := by
  cases op with
  | fund a amount =>
    obtain ⟨device, hAt⟩ : ∃ device, w.devices[a]? = some device :=
      ⟨_, List.getElem?_eq_getElem hProper.1⟩
    refine one_next hIssuer hIds hAt (by rw [call, hAt]) ?_ h
    unfold FuzzOp.call System.call System.fund
    dsimp only
    rw [system_lookup hIds hAt]
    rfl
  | defund a amount =>
    obtain ⟨device, hAt⟩ : ∃ device, w.devices[a]? = some device :=
      ⟨_, List.getElem?_eq_getElem hProper.1⟩
    refine one_next hIssuer hIds hAt (by rw [call, hAt]) ?_ h
    unfold FuzzOp.call System.call System.defund
    dsimp only
    rw [system_lookup hIds hAt]
    rfl
  | pay a b amount =>
    obtain ⟨⟨hFirst, hSecond, hOther⟩, -⟩ := hProper
    obtain ⟨payer, hPayer⟩ : ∃ device, w.devices[a]? = some device :=
      ⟨_, List.getElem?_eq_getElem hFirst⟩
    obtain ⟨payee, hPayee⟩ : ∃ device, w.devices[b]? = some device :=
      ⟨_, List.getElem?_eq_getElem hSecond⟩
    cases hPay : DigitalEuro.pay payer payee amount with
    | mk result after =>
      obtain ⟨payer', payee'⟩ := after
      have hCall : w.system.call ((FuzzOp.pay a b amount).call w.id) = some (result,
          { w.system with
            wallets := (w.system.wallets.insert (w.id a) payer').insert (w.id b) payee' }) := by
        unfold FuzzOp.call System.call System.pay
        dsimp only
        rw [system_lookup hIds hPayer, system_lookup hIds hPayee]
        dsimp only
        rw [hPay]
      have hOp : w.call (.pay a b amount) =
          some (result, { w with devices := (w.devices.set a payer').set b payee' }) := by
        rw [call, pair_eq hOther hPayer hPayee]
        dsimp only
        rw [hPay]
      obtain ⟨result', s', outcome, hCall', hMove, hVerdict, hNext⟩ := h.next hIssuer
      rw [hCall, Option.some.injEq, Prod.mk.injEq] at hCall'
      obtain ⟨rfl, rfl⟩ := hCall'
      -- the payer is written first, and the payee is still where it was
      let paid : World R := { w with devices := w.devices.set a payer' }
      have hIdNe : w.id a ≠ w.id b := (h.addressed _ List.mem_cons_self).1
      have hPayerId := device_eq hNext (by
        rw [Finmap.lookup_insert_of_ne _ hIdNe, Finmap.lookup_insert])
      have hPaidIds := set_ids hPayer hPayerId
      have hPaid : paid.system = _ := set_system hIds hPayer hPayerId w.issuer
      have hStill : paid.devices[b]? = some payee := by
        rw [List.getElem?_set_ne hOther, hPayee]
      have hSameId : paid.id b = w.id b := by rw [id_eq hStill, id_eq hPayee]
      have hPayeeId : payee'.device = paid.id b := by
        rw [hSameId]
        exact device_eq hNext (Finmap.lookup_insert _)
      have hSystem := set_system (hPaidIds ▸ hIds) hStill hPayeeId w.issuer
      rw [hPaid, hSameId] at hSystem
      refine ⟨result, _, outcome, hOp, rfl, (set_ids hStill hPayeeId).trans hPaidIds, ?_⟩
      rw [show World.system _ = _ from hSystem]
      exact ⟨hMove, hVerdict, hNext⟩

end Calls

end World

-- ---------------------------------------------------------------------------
-- Draws
-- ---------------------------------------------------------------------------

section Draws

variable {R : Type} [StdRng R] {n : ℕ} {limit : UInt64}

theorem StdRng.genRange?_eq (rng : R) (width : ℕ) {low high : ℕ} (h : low < high) :
    ∃ drawn rng', StdRng.genRange? rng width low high = some (drawn, rng') ∧ low ≤ drawn ∧
      drawn < high :=
  ⟨_, _, if_pos h, StdRng.le_genRange rng width h, StdRng.genRange_lt rng width h⟩

/-- What is drawn is in bounds: two devices suffice, and a limit of two cents. -/
theorem drawOp_proper (hDevices : 2 ≤ n) (hLimit : 2 ≤ limit) (rng : R) :
    ∃ op rng', drawOp n limit rng = some (op, rng') ∧ op.Proper n := by
  have hHalf : (limit / 2).toNat = limit.toNat / 2 := UInt64.toNat_div limit 2
  have hLimitNat : 2 ≤ limit.toNat := UInt64.le_iff_toNat_le.mp hLimit
  have hFits := limit.toNat_lt
  obtain ⟨a, rng₁, hFirst, -, hBound⟩ := StdRng.genRange?_eq rng 64 (by omega : 0 < n)
  obtain ⟨amount, rng₂, hAmount, hPos, hAtMost⟩ := StdRng.genRange?_eq rng₁ 64
    (by omega : 1 < (limit / 2).toNat + 1)
  obtain ⟨kind, rng₃, hKind, -, -⟩ := StdRng.genRange?_eq rng₂ 32 (by omega : 0 < 10)
  obtain ⟨offset, rng₄, hOffset, hApart, hBelow⟩ := StdRng.genRange?_eq rng₃ 64 (by omega : 1 < n)
  have hNonzero : UInt64.ofNat amount ≠ 0 := by
    intro hZero
    have hNat := congrArg UInt64.toNat hZero
    have hSmall : amount < UInt64.size := by
      show amount < 2 ^ 64
      omega
    rw [UInt64.toNat_ofNat_of_lt' hSmall, UInt64.toNat_zero] at hNat
    omega
  unfold drawOp
  simp only [Option.bind_eq_bind, hFirst, hAmount, hKind, hOffset, Option.bind_some]
  split_ifs with hFund hDefund
  · exact ⟨_, _, rfl, hBound, hNonzero⟩
  · exact ⟨_, _, rfl, hBound, hNonzero⟩
  · refine ⟨_, _, rfl, ⟨hBound, Nat.mod_lt _ (by omega), fun hSame => ?_⟩, hNonzero⟩
    -- an offset below `n` that is not zero leads elsewhere
    rcases Nat.lt_or_ge (a + offset) n with hLt | hGe
    · rw [Nat.mod_eq_of_lt hLt] at hSame
      omega
    · rw [Nat.mod_eq_sub_mod hGe, Nat.mod_eq_of_lt (by omega)] at hSame
      omega

/-- The operations that a run draws, one after another. -/
def drawOps (n : ℕ) (limit : UInt64) : ℕ → R → Option (List FuzzOp)
  | 0, _ => some []
  | left + 1, rng => do
    let (op, rng) ← drawOp n limit rng
    let ops ← drawOps n limit left rng
    some (op :: ops)

theorem drawOps_proper (hDevices : 2 ≤ n) (hLimit : 2 ≤ limit) (left : ℕ) : ∀ rng : R,
    ∃ ops, drawOps n limit left rng = some ops ∧ ops.length = left ∧ ∀ op ∈ ops, op.Proper n := by
  induction left with
  | zero => exact fun _ => ⟨[], rfl, rfl, fun _ hMem => absurd hMem List.not_mem_nil⟩
  | succ left ih =>
    intro rng
    obtain ⟨op, rng', hDraw, hProper⟩ := drawOp_proper hDevices hLimit rng
    obtain ⟨ops, hDraws, hLength, hAll⟩ := ih rng'
    refine ⟨op :: ops, ?_, congrArg (· + 1) hLength, List.forall_mem_cons.mpr ⟨hProper, hAll⟩⟩
    rw [drawOps, hDraw, Option.bind_eq_bind, Option.bind_some]
    dsimp only
    rw [hDraws]
    rfl

/-- A run that draws begins with a draw. -/
theorem drawOps_cons {left : ℕ} {rng : R} {op : FuzzOp} {ops : List FuzzOp}
    (h : drawOps n limit (left + 1) rng = some (op :: ops)) :
    ∃ rng', drawOp n limit rng = some (op, rng') ∧ drawOps n limit left rng' = some ops := by
  rw [drawOps, Option.bind_eq_bind, Option.bind_eq_some_iff] at h
  obtain ⟨⟨op', rng'⟩, hDraw, h⟩ := h
  rw [Option.bind_eq_bind, Option.bind_eq_some_iff] at h
  obtain ⟨ops', hDraws, hSame⟩ := h
  rw [Option.some.injEq, List.cons.injEq] at hSame
  obtain ⟨rfl, rfl⟩ := hSame
  exact ⟨rng', hDraw, hDraws⟩

end Draws

-- ---------------------------------------------------------------------------
-- What is checked
-- ---------------------------------------------------------------------------

/-- What a snapshot says of a device: its balance and its reservations. -/
def Ledger.reading (ledger : Ledger DeviceId AccountId Nonce) (device : DeviceId) :
    UInt64 × UInt64 :=
  (ledger.purse device).elim (0, 0) fun purse => (.ofNat purse.balance, .ofNat purse.reserved)

namespace World

section Checks

variable {R : Type} {w : World R} {limit : UInt64}

theorem checkDevices_eq_ok_iff {devices : List (Wallet R)} : ∀ index : ℕ,
    checkDevices limit index devices = .ok () ↔
      ∀ device ∈ devices, device.balanceCents ≤ limit ∧ device.reserved = 0 := by
  induction devices with
  | nil => exact fun _ => ⟨fun _ _ hMem => absurd hMem List.not_mem_nil, fun _ => rfl⟩
  | cons device rest ih =>
    intro index
    rw [List.forall_mem_cons, checkDevices]
    by_cases hLimit : device.balanceCents ≤ limit
    case neg =>
      rw [if_pos hLimit]
      exact ⟨fun h => (by cases h), fun h => absurd h.1.1 hLimit⟩
    by_cases hNone : device.reserved = 0
    case neg =>
      rw [if_neg (not_not.mpr hLimit), if_pos hNone]
      exact ⟨fun h => (by cases h), fun h => absurd h.1.2 hNone⟩
    rw [if_neg (not_not.mpr hLimit), if_neg (not_not.mpr hNone), ih]
    exact ⟨fun h => ⟨⟨hLimit, hNone⟩, h⟩, And.right⟩

theorem checkInvariants_eq_ok_iff {money : ℕ} : w.checkInvariants limit money = .ok () ↔
    (∀ device ∈ w.devices, device.balanceCents ≤ limit ∧ device.reserved = 0) ∧
      (w.onDevices : ℤ) = w.issuer.offlineFloat ∧ w.online + w.onDevices = money := by
  unfold checkInvariants
  cases hDevices : checkDevices limit 0 w.devices with
  | error violation =>
    rw [← checkDevices_eq_ok_iff 0, hDevices]
    exact ⟨fun h => (by cases h), fun h => (by cases h.1)⟩
  | ok =>
    have hAll := (checkDevices_eq_ok_iff 0).mp hDevices
    dsimp only
    by_cases hFloat : (w.onDevices : ℤ) = w.issuer.offlineFloat
    case neg =>
      rw [if_pos hFloat]
      exact ⟨fun h => (by cases h), fun h => absurd h.2.1 hFloat⟩
    by_cases hMoney : w.online + w.onDevices = money
    case neg =>
      rw [if_neg (not_not.mpr hFloat), if_pos hMoney]
      exact ⟨fun h => (by cases h), fun h => absurd h.2.2 hMoney⟩
    rw [if_neg (not_not.mpr hFloat), if_neg (not_not.mpr hMoney)]
    exact ⟨fun _ => ⟨hAll, hFloat, hMoney⟩, fun _ => rfl⟩

end Checks

section Readings

variable [Sha256] {R : Type} [Rng R] {keypair : Keypair} {history : List System.Event}
  {w : World R}

theorem reading_eq (h : System.Enrolled R R keypair history w.system) {device : Wallet R}
    (hIds : (w.devices.map Wallet.device).Nodup) (hMem : device ∈ w.devices) :
    w.system.ledger.reading device.device = (device.balanceCents, device.reserved) := by
  have hWallet : w.system.wallets.lookup device.device = some device :=
    Finmap.byKey_lookup hIds hMem
  have hLimit := (h.wallet_of hWallet).within_limit
  have hReserved : (device.purse hLimit).reserved = device.reserved.toNat := by
    rw [hLimit.reserved_toNat]
    unfold Purse.reserved Wallet.promised Wallet.purse
    simp only [Wallet.openAmounts_sum]
  unfold Ledger.reading
  rw [h.ledger_purse hWallet, Option.elim_some, hReserved, UInt64.ofNat_toNat]
  exact congrArg (·, device.reserved) UInt64.ofNat_toNat

/-- A snapshot shows the ledger and nothing else. -/
theorem snapshot_eq (h : System.Enrolled R R keypair history w.system)
    (hIds : (w.devices.map Wallet.device).Nodup) :
    w.snapshot = ((w.devices.map Wallet.device).map w.system.ledger.reading,
      w.accounts.map (fun account => (w.system.ledger.account account).map UInt64.ofNat),
      w.system.ledger.float) := by
  unfold snapshot
  rw [List.map_map]
  refine Prod.ext (List.map_congr_left fun device hMem => ?_) (Prod.ext ?_ rfl)
  · exact (reading_eq h hIds hMem).symm
  · refine List.map_congr_left fun account _ => ?_
    show _ = ((w.issuer.balanceOf account).map UInt64.toNat).map UInt64.ofNat
    cases w.issuer.balanceOf account with
    | none => rfl
    | some balance => rw [Option.map_some, Option.map_some, UInt64.ofNat_toNat]

theorem onDevices_eq (h : System.Enrolled R R keypair history w.system)
    (hIds : (w.devices.map Wallet.device).Nodup) :
    w.onDevices = w.system.ledger.held w.system.wallets.keys := by
  rw [h.ledger_held]
  exact (Finmap.byKey_total (fun device => device.balanceCents.toNat) hIds).symm

omit [Sha256] [Rng R] in
theorem online_eq (hAccounts : w.accounts.Nodup) :
    w.online = w.system.ledger.online w.accounts.toFinset := by
  unfold online Ledger.online
  rw [List.sum_toFinset _ hAccounts]
  refine congrArg List.sum (List.map_congr_left fun account _ => ?_)
  show _ = ((w.issuer.balanceOf account).map UInt64.toNat).getD 0
  cases w.issuer.balanceOf account with
  | none => rfl
  | some balance => rfl

end Readings

-- ---------------------------------------------------------------------------
-- What movements keep is what is checked
-- ---------------------------------------------------------------------------

/-- A world that movements have led to from the opening one. -/
structure Steady {R : Type} (start w : World R) : Prop where
  accounts_eq : w.accounts = start.accounts
  ids_eq : w.devices.map Wallet.device = start.devices.map Wallet.device
  keeps : Ledger.Keeps start.system.wallets.keys start.accounts.toFinset start.system.ledger
    w.system.ledger

section Steady

variable [Sha256] {R : Type} [Rng R] {cfg : Config} {balances : List UInt64}
  {history : List System.Event} {start w : World R}

omit [Sha256] [Rng R] in
theorem system_keys (w : World R) :
    w.system.wallets.keys = (w.devices.map Wallet.device).toFinset := Finmap.byKey_keys _ _

/-- A device has the limit it was enrolled with and nothing reserved. -/
theorem Steady.checkDevice (h : Steady start w) (hBlank : start.Blank cfg)
    (hDistinct : start.Distinct) (hStart : ∃ history,
      System.Enrolled R R cfg.issuerKey history start.system)
    (hEnrolled : System.Enrolled R R cfg.issuerKey history w.system) {device : Wallet R}
    (hMem : device ∈ w.devices) : device.balanceCents ≤ cfg.limit ∧ device.reserved = 0 := by
  obtain ⟨history₀, hStart⟩ := hStart
  have hIds : (w.devices.map Wallet.device).Nodup := h.ids_eq ▸ hDistinct.devices
  have hWallet : w.system.wallets.lookup device.device = some device :=
    Finmap.byKey_lookup hIds hMem
  obtain ⟨first, hFirst, hSame⟩ : ∃ first ∈ start.devices, first.device = device.device :=
    List.mem_map.mp (h.ids_eq ▸ List.mem_map_of_mem hMem)
  have hFirstWallet : start.system.wallets.lookup device.device = some first :=
    hSame ▸ Finmap.byKey_lookup hDistinct.devices hFirst
  have hLimit := (hEnrolled.wallet_of hWallet).within_limit
  have hTerms := h.keeps.terms device.device
  rw [hEnrolled.ledger_purse hWallet, hStart.ledger_purse hFirstWallet, Option.map_some,
    Option.map_some, Option.some.injEq, Purse.terms, Purse.terms, Prod.mk.injEq,
    Prod.mk.injEq] at hTerms
  obtain ⟨hLimitEq, hIncoming, hPending⟩ := hTerms
  have hFirstBlank := hBlank.devices first hFirst
  have hLimitNat : device.holdingLimit.toNat = cfg.limit.toNat := by
    rw [← hFirstBlank.limit_eq]
    exact hLimitEq
  have hPromised : device.promised = 0 := by
    unfold Wallet.promised
    rw [← Wallet.openAmounts_sum, ← Wallet.openAmounts_sum]
    change Wallet.openAmounts device.incoming = Wallet.openAmounts first.incoming at hIncoming
    change Wallet.openAmounts device.pendingFunding =
      Wallet.openAmounts first.pendingFunding at hPending
    rw [hIncoming, hPending, hFirstBlank.incoming_eq, hFirstBlank.pendingFunding_eq]
    rfl
  refine ⟨UInt64.le_iff_toNat_le.mpr ?_, UInt64.toNat_inj.mp ?_⟩
  · unfold Wallet.WithinLimit at hLimit
    omega
  · rw [hLimit.reserved_toNat, hPromised]
    rfl

omit [Rng R] in
theorem Opened.online_eq [Rng R] (h : start.Opened cfg balances) :
    start.online = (balances.map UInt64.toNat).sum := by
  have hMap := congrArg (List.map fun balance : Option UInt64 => (balance.getD 0).toNat)
    h.balances_eq
  rw [List.map_map, List.map_map] at hMap
  exact congrArg List.sum hMap

omit [Sha256] [Rng R] in
theorem Blank.onDevices_eq (h : start.Blank cfg) : start.onDevices = 0 :=
  List.sum_eq_zero fun n hn => by
    obtain ⟨device, hMem, rfl⟩ := List.mem_map.mp hn
    rw [(h.devices device hMem).balance_eq]
    rfl

/-- **No check fails** in a world that movements have led to. -/
theorem Steady.checkInvariants_eq (h : Steady start w) (hOpened : start.Opened cfg balances)
    (hBlank : start.Blank cfg) (hDistinct : start.Distinct)
    (hEnrolled : System.Enrolled R R cfg.issuerKey history w.system) :
    w.checkInvariants cfg.limit (balances.map UInt64.toNat).sum = .ok () := by
  obtain ⟨history₀, hReach, -⟩ := hOpened.reachable
  have hStart := hReach.enrolled
  have hIds : (w.devices.map Wallet.device).Nodup := h.ids_eq ▸ hDistinct.devices
  have hKeys : w.system.wallets.keys = start.system.wallets.keys := by
    rw [system_keys, system_keys, h.ids_eq]
  have hHeld := onDevices_eq hStart hDistinct.devices
  have hHeld' := onDevices_eq hEnrolled hIds
  have hOnline := World.online_eq hDistinct.accounts
  have hOnline' := World.online_eq (w := w) (h.accounts_eq ▸ hDistinct.accounts)
  have hFloat := h.keeps.float
  have hMoney := h.keeps.money
  rw [hBlank.onDevices_eq] at hHeld
  rw [hKeys] at hHeld'
  rw [hOpened.online_eq] at hOnline
  rw [h.accounts_eq] at hOnline'
  rw [← hHeld, ← hHeld'] at hFloat
  rw [← hOnline, ← hOnline'] at hMoney
  have hZero : start.system.ledger.float = 0 := hBlank.float
  have hIssuer : w.system.ledger.float = w.issuer.offlineFloat := rfl
  rw [checkInvariants_eq_ok_iff]
  refine ⟨fun device hMem => h.checkDevice hBlank hDistinct ⟨_, hStart⟩ hEnrolled hMem, ?_, ?_⟩
  · omega
  · omega

end Steady

end World

-- ---------------------------------------------------------------------------
-- The run
-- ---------------------------------------------------------------------------

def Refusal.name : Refusal → String
  | .zeroAmount => "ZeroAmount"
  | .holdingLimitExceeded .. => "HoldingLimitExceeded"
  | .insufficientFunds .. => "InsufficientFunds"

/-- The line of the table that a movement is counted under. -/
def FuzzOp.ledgerLabel (op : FuzzOp) : Except Refusal ℕ → String
  | .ok _ => op.kind ++ ": ok"
  | .error refusal => op.kind ++ ": refused, " ++ refusal.name

theorem FuzzOp.label_eq (op : FuzzOp) {result : Except Error UInt64} {outcome : Except Refusal ℕ}
    (h : verdict result = some outcome) : op.label result = op.ledgerLabel outcome := by
  cases result with
  | ok amount =>
    obtain rfl := Option.some.inj h
    rfl
  | error error =>
    cases error <;> cases h <;> rfl

section Loop

variable [Sha256] {R : Type} [StdRng R] {cfg : Config} {balances : List UInt64}
  {start : World R} {devices : Finset DeviceId} {accounts : Finset AccountId}

omit [Sha256] [StdRng R] in
theorem checkRefusal_eq {step : ℕ} {op : FuzzOp} {before after : World R}
    {result : Except Error UInt64}
    (h : ∀ error, result = .error error → after.snapshot = before.snapshot) :
    checkRefusal step op before after result = .ok () := by
  cases result with
  | ok amount => rfl
  | error error => exact if_neg (not_not.mpr (h error rfl))

/-- **The run never ends early**: by induction on the operations that are left, each is
answered as the ledger answers its movement, and the checks after it pass. -/
theorem fuzzLoop_eq (hIssuer : cfg.issuerKey.Generated) (hOpened : start.Opened cfg balances)
    (hBlank : start.Blank cfg) (hDistinct : start.Distinct)
    (hLength : start.devices.length = cfg.devices.toNat) {ops : List FuzzOp} :
    ∀ (step : ℕ) {w : World R} {rng : R} (outcomes : Outcomes),
      drawOps cfg.devices.toNat cfg.limit ops.length rng = some ops →
      (∀ op ∈ ops, op.Proper cfg.devices.toNat) → start.Steady w →
      System.Ready R R cfg.issuerKey start.system.wallets.keys start.accounts.toFinset
        (ops.map (FuzzOp.call start.id)) w.system →
      ∃ final results,
        fuzzLoop cfg (balances.map UInt64.toNat).sum ops.length step w rng outcomes =
          .ok (final, outcomes.tally (List.zipWith FuzzOp.ledgerLabel ops results)) ∧
        Service.answers Ledger.move w.system.ledger
            (ops.map fun op => (op.call start.id).movement) =
          some (results, final.system.ledger) := by
  induction ops with
  | nil => exact fun _ {w _} _ _ _ _ _ => ⟨w, [], rfl, rfl⟩
  | cons op ops ih =>
    intro step w rng outcomes hDraws hProper hSteady hReady
    obtain ⟨rng', hDraw, hDraws'⟩ := drawOps_cons hDraws
    obtain ⟨hFirst, hRest⟩ := List.forall_mem_cons.mp hProper
    have hIds : (w.devices.map Wallet.device).Nodup := hSteady.ids_eq ▸ hDistinct.devices
    have hId : w.id = start.id := World.id_congr hSteady.ids_eq
    have hCount : w.devices.length = cfg.devices.toNat := by
      rw [← hLength, ← List.length_map Wallet.device, hSteady.ids_eq, List.length_map]
    rw [List.map_cons, ← hId] at hReady
    obtain ⟨history, hReach, -⟩ := hReady.reachable
    obtain ⟨result, w', outcome, hCall, hAccounts, hIds', hMove, hVerdict, hNext⟩ :=
      World.call_next hIssuer hIds (hCount ▸ hFirst) hReady
    obtain ⟨history', hReach', -⟩ := hNext.reachable
    have hKeeps := Ledger.move_keeps hReady.within
      (hReady.addressed _ List.mem_cons_self).proper hMove
    have hSteady' : start.Steady w' := ⟨hAccounts.trans hSteady.accounts_eq,
      hIds'.trans hSteady.ids_eq, hSteady.keeps.trans hKeeps⟩
    -- what the ledger refuses leaves the ledger alone, and a snapshot shows no more
    have hUnchanged : ∀ error, result = .error error → w'.snapshot = w.snapshot := by
      rintro error rfl
      obtain ⟨refusal, -, hOutcome⟩ := Option.map_eq_some_iff.mp hVerdict
      rcases Ledger.move_cases hMove with ⟨_, -, hLedger⟩ | ⟨hOk, -⟩
      · rw [World.snapshot_eq hReach'.enrolled (hIds' ▸ hIds),
          World.snapshot_eq hReach.enrolled hIds, hLedger, hIds', hAccounts]
      · rw [hOk] at hOutcome
        cases hOutcome
    have hChecked := hSteady'.checkInvariants_eq hOpened hBlank hDistinct hReach'.enrolled
    rw [hId] at hNext hMove
    obtain ⟨final, results, hRun, hMoves⟩ := ih (step + 1) (outcomes.count (op.label result))
      hDraws' hRest hSteady' hNext
    refine ⟨final, outcome :: results, ?_, ?_⟩
    · rw [List.length_cons, fuzzLoop, hDraw]
      dsimp only
      rw [hCall]
      dsimp only
      rw [checkRefusal_eq hUnchanged, hChecked]
      refine hRun.trans ?_
      rw [op.label_eq hVerdict]
      rfl
    · rw [List.map_cons, Service.answers_cons _ hMove, hMoves, Option.map_some]

end Loop

-- ---------------------------------------------------------------------------
-- From the opening world
-- ---------------------------------------------------------------------------

/-- What `main` accepts. -/
structure Config.Accepted (cfg : Config) : Prop where
  size : 512 ≤ cfg.keyBits
  even : cfg.keyBits % 2 = 0
  limit : 2000 ≤ cfg.limit
  devices : 2 ≤ cfg.devices

/-- A run whose set-up returned, with nothing drawn twice that should not be, and with
no more money than fits a `u64`. -/
structure Fair [Sha256] {R : Type} [StdRng R] (cfg : Config) (fuel : ℕ) (start : World R) :
    Prop where
  accepted : cfg.Accepted
  issuer : cfg.issuerKey.Generated
  world_eq : fuzzWorld cfg fuel = some (.ok start)
  distinct : start.Distinct
  nonces : ∀ device ∈ start.devices, (Rng.draws cfg.ops.toNat device.rng).Nodup
  money : cfg.opening.toNat * cfg.devices.toNat < 2 ^ 64

/-- A set-up that returned is that of a world. -/
theorem world_of_fuzzWorld [Sha256] {R : Type} [StdRng R] {cfg : Config} {fuel : ℕ} {w : World R}
    (h : fuzzWorld cfg fuel = some (.ok w)) :
    world cfg (cfg.seed ^^^ 0xf022) fuel (List.replicate cfg.devices.toNat cfg.opening) =
      some (.ok w) := by
  unfold fuzzWorld at h
  split_ifs at h
  · exact absurd h (by simp)
  · exact h

section Opening

variable [Sha256] {R : Type} [Rng R] {cfg : Config} {balances : List UInt64} {start : World R}

theorem World.Opened.accounts_keys (h : start.Opened cfg balances) :
    start.issuer.accounts.keys = start.accounts.toFinset := by
  ext account
  rw [Finmap.mem_keys, List.mem_toFinset, ← Finmap.lookup_isSome]
  refine ⟨h.known account, fun hMem => ?_⟩
  have hBalance : start.issuer.balanceOf account ∈ balances.map some :=
    h.balances_eq ▸ List.mem_map_of_mem hMem
  obtain ⟨balance, -, hSome⟩ := List.mem_map.mp hBalance
  rw [← Issuer.balanceOf, ← hSome, Option.isSome_some]

omit [Sha256] [Rng R] in
/-- A proper operation is addressed to devices that are there. -/
theorem FuzzOp.Proper.addressed (hIds : (start.devices.map Wallet.device).Nodup) {op : FuzzOp}
    (h : op.Proper start.devices.length) : (op.call start.id).Addressed start.system := by
  have hInstalled : ∀ i, i < start.devices.length →
      (start.system.wallets.lookup (start.id i)).isSome := fun i hLt => by
    rw [World.system_lookup hIds (List.getElem?_eq_getElem hLt), Option.isSome_some]
  cases op with
  | fund a amount | defund a amount => exact hInstalled a h.1
  | pay a b amount =>
    obtain ⟨⟨hFirst, hSecond, hOther⟩, -⟩ := h
    refine ⟨fun hSame => hOther ?_, hInstalled a hFirst, hInstalled b hSecond⟩
    have hLength : (start.devices.map Wallet.device).length = start.devices.length :=
      List.length_map _
    have hFirst' : a < (start.devices.map Wallet.device).length := by omega
    have hSecond' : b < (start.devices.map Wallet.device).length := by omega
    unfold World.id at hSame
    rw [List.getElem?_eq_getElem hFirst', List.getElem?_eq_getElem hSecond'] at hSame
    exact hIds.getElem_inj_iff.mp hSame

/-- The opening world is ready for operations that stay within its pace. -/
theorem World.Opened.ready (h : start.Opened cfg balances) (hBlank : start.Blank cfg)
    (hDistinct : start.Distinct) {ops : List FuzzOp}
    (hProper : ∀ op ∈ ops, op.Proper start.devices.length) (hFew : ops.length < 2 ^ 64)
    (hNonces : ∀ device ∈ start.devices, (Rng.draws ops.length device.rng).Nodup)
    (hMoney : (balances.map UInt64.toNat).sum < 2 ^ 64) :
    System.Ready R R cfg.issuerKey start.system.wallets.keys start.accounts.toFinset
      (ops.map (FuzzOp.call start.id)) start.system := by
  obtain ⟨history, hReach, hQuiet⟩ := h.reachable
  rw [← h.accounts_keys]
  refine hReach.ready (fun c hMem => ?_) (fun device w hWallet => ?_) ?_
  · obtain ⟨op, hOp, rfl⟩ := List.mem_map.mp hMem
    exact (hProper op hOp).addressed hDistinct.devices
  · obtain ⟨hMem, -⟩ := Finmap.mem_of_byKey_lookup hWallet
    have hDraws := System.Call.draws_le device (ops.map (FuzzOp.call start.id))
    have hDebits := System.Call.debits_le device (ops.map (FuzzOp.call start.id))
    rw [List.length_map] at hDraws hDebits
    have hNone : System.debits device history = 0 := by
      unfold System.debits
      rw [hQuiet device]
      rfl
    refine ⟨⟨by omega, ?_, fun nonce _ => ?_⟩, (hBlank.devices w hMem).isSealed⟩
    · exact (hNonces w hMem).sublist (Rng.draws_prefix hDraws w.rng).sublist
    · rw [hQuiet device]
      exact List.not_mem_nil
  · have hHeld := World.onDevices_eq hReach.enrolled hDistinct.devices
    have hOnline := World.online_eq hDistinct.accounts
    rw [hBlank.onDevices_eq, hReach.enrolled.ledger_held] at hHeld
    rw [h.online_eq, ← h.accounts_keys] at hOnline
    have hTotal := System.ledger_online start.system
    change start.system.ledger.online start.issuer.accounts.keys = _ at hTotal
    omega

end Opening

-- ---------------------------------------------------------------------------
-- The table
-- ---------------------------------------------------------------------------

/-- The lines there are. -/
def tableLines : List String :=
  ["defund: ok", "defund: refused, InsufficientFunds", "fund: ok",
    "fund: refused, HoldingLimitExceeded", "fund: refused, InsufficientFunds", "pay: ok",
    "pay: refused, HoldingLimitExceeded", "pay: refused, InsufficientFunds"]

theorem FuzzOp.Proper.line_mem {n : ℕ} {id : ℕ → DeviceId} {op : FuzzOp}
    {ledger ledger' : Ledger DeviceId AccountId Nonce} {outcome : Except Refusal ℕ}
    (hProper : op.Proper n) (h : ledger.move (op.call id).movement = some (outcome, ledger')) :
    op.ledgerLabel outcome ∈ tableLines := by
  have hOk : ∀ op : FuzzOp, op.kind ++ ": ok" ∈ tableLines := by
    intro op
    cases op with
    | fund a amount =>
      show "fund" ++ ": ok" ∈ tableLines
      decide
    | defund a amount =>
      show "defund" ++ ": ok" ∈ tableLines
      decide
    | pay a b amount =>
      show "pay" ++ ": ok" ∈ tableLines
      decide
  cases op with
  | fund a amount =>
    have hAmount : amount.toNat ≠ 0 := fun hZero => hProper.2 (UInt64.toNat_inj.mp hZero)
    unfold FuzzOp.call System.Call.movement Ledger.move Ledger.fund at h
    dsimp only at h
    split at h
    case h_2 => cases h
    split at h
    case h_2 => cases h
    rw [if_neg hAmount] at h
    split_ifs at h <;> obtain ⟨rfl, -⟩ := Prod.mk.inj (Option.some.inj h)
    · show "fund" ++ ": refused, " ++ "HoldingLimitExceeded" ∈ tableLines
      decide
    · show "fund" ++ ": refused, " ++ "InsufficientFunds" ∈ tableLines
      decide
    · exact hOk _
  | defund a amount =>
    have hAmount : amount.toNat ≠ 0 := fun hZero => hProper.2 (UInt64.toNat_inj.mp hZero)
    unfold FuzzOp.call System.Call.movement Ledger.move Ledger.defund at h
    dsimp only at h
    split at h
    case h_2 => cases h
    split at h
    case h_2 => cases h
    rw [if_neg hAmount] at h
    split_ifs at h <;> obtain ⟨rfl, -⟩ := Prod.mk.inj (Option.some.inj h)
    · show "defund" ++ ": refused, " ++ "InsufficientFunds" ∈ tableLines
      decide
    · exact hOk _
  | pay a b amount =>
    have hAmount : amount.toNat ≠ 0 := fun hZero => hProper.2 (UInt64.toNat_inj.mp hZero)
    unfold FuzzOp.call System.Call.movement Ledger.move Ledger.pay at h
    dsimp only at h
    split at h
    case h_2 => cases h
    rw [if_neg hAmount] at h
    split_ifs at h <;> obtain ⟨rfl, -⟩ := Prod.mk.inj (Option.some.inj h)
    · show "pay" ++ ": refused, " ++ "HoldingLimitExceeded" ∈ tableLines
      decide
    · show "pay" ++ ": refused, " ++ "InsufficientFunds" ∈ tableLines
      decide
    · exact hOk _

/-- Every operation of a run is counted under one of the lines. -/
theorem lines_mem {n : ℕ} {id : ℕ → DeviceId} {ops : List FuzzOp} :
    ∀ {ledger ledger' : Ledger DeviceId AccountId Nonce} {outcomes : List (Except Refusal ℕ)},
      (∀ op ∈ ops, op.Proper n) →
      Service.answers Ledger.move ledger (ops.map fun op => (op.call id).movement) =
        some (outcomes, ledger') →
      ∀ line ∈ List.zipWith FuzzOp.ledgerLabel ops outcomes, line ∈ tableLines := by
  induction ops with
  | nil => exact fun {_ _ _} _ _ _ hLine => absurd hLine List.not_mem_nil
  | cons op ops ih =>
    intro ledger ledger' outcomes hProper h
    rw [List.map_cons] at h
    obtain ⟨outcome, ledger₁, rest, hMove, hRest, rfl⟩ := Service.answers_cons_eq_some h
    obtain ⟨hFirst, hLater⟩ := List.forall_mem_cons.mp hProper
    rw [List.zipWith_cons_cons]
    exact List.forall_mem_cons.mpr ⟨hFirst.line_mem hMove, ih hLater hRest⟩

section Passes

variable [Sha256] {R : Type} [StdRng R] {cfg : Config} {fuel : ℕ} {start : World R}

/-- The run from a fair start, operation by operation. -/
theorem Fair.run (h : Fair cfg fuel start) :
    ∃ (ops : List FuzzOp) (final : World R) (outcomes : List (Except Refusal ℕ)),
      drawOps cfg.devices.toNat cfg.limit cfg.ops.toNat
        (StdRng.seedFromU64 (cfg.seed ^^^ 0x5eed) : R) = some ops ∧
      ops.length = cfg.ops.toNat ∧ (∀ op ∈ ops, op.Proper cfg.devices.toNat) ∧
      runFuzz cfg fuel =
        some (.ok (final, Finmap.tally ∅ (List.zipWith FuzzOp.ledgerLabel ops outcomes))) ∧
      Service.answers Ledger.move start.system.ledger
        (ops.map fun op => (op.call start.id).movement) = some (outcomes, final.system.ledger) := by
  have hAccepted := h.accepted
  have hDevices : 2 ≤ cfg.devices.toNat := UInt64.le_iff_toNat_le.mp hAccepted.devices
  have hLimit : 2 ≤ cfg.limit := by
    have hLimit := UInt64.le_iff_toNat_le.mp hAccepted.limit
    rw [UInt64.le_iff_toNat_le]
    change 2000 ≤ cfg.limit.toNat at hLimit
    show 2 ≤ cfg.limit.toNat
    omega
  obtain ⟨w, hSame, hBlank, hCount, hOpened⟩ :=
    World.world_spec hAccepted.size hAccepted.even h.issuer (world_of_fuzzWorld h.world_eq)
  obtain rfl := Except.ok.inj hSame
  have hOpened := hOpened h.distinct
  have hLength : start.devices.length = cfg.devices.toNat := by
    rw [hBlank.one_each, hCount, List.length_replicate]
  have hSum : ((List.replicate cfg.devices.toNat cfg.opening).map UInt64.toNat).sum =
      cfg.opening.toNat * cfg.devices.toNat := by
    rw [List.map_replicate, List.sum_replicate, smul_eq_mul, Nat.mul_comm]
  obtain ⟨ops, hDraws, hMany, hProper⟩ := drawOps_proper hDevices hLimit cfg.ops.toNat
    (StdRng.seedFromU64 (cfg.seed ^^^ 0x5eed) : R)
  have hReady := hOpened.ready hBlank h.distinct (hLength.symm ▸ hProper)
    (hMany ▸ cfg.ops.toNat_lt) (hMany.symm ▸ h.nonces) (hSum ▸ h.money)
  obtain ⟨final, outcomes, hRun, hMoves⟩ := fuzzLoop_eq h.issuer hOpened hBlank h.distinct hLength
    0 ∅ (hMany.symm ▸ hDraws) hProper ⟨rfl, rfl, .refl _⟩ hReady
  refine ⟨ops, final, outcomes, hDraws, hMany, hProper, ?_, hMoves⟩
  rw [hSum, hMany] at hRun
  rw [runFuzz, h.world_eq]
  dsimp only
  rw [hRun]

/-- **No run fails.** From a fair start every operation that is drawn is in bounds, a
refused one leaves every balance, reservation and account and the float as they were, and
after each one no device is over its limit or keeps a reservation, the devices hold the
float, and accounts and devices together hold the opening money. The run is the run of
the ledger on the movements that were drawn: the table counts the ledger's outcomes, and
the last world is behind the last ledger. -/
theorem fuzz_passes (h : Fair cfg fuel start) :
    ∃ (ops : List FuzzOp) (final : World R) (outcomes : List (Except Refusal ℕ)),
      drawOps cfg.devices.toNat cfg.limit cfg.ops.toNat
        (StdRng.seedFromU64 (cfg.seed ^^^ 0x5eed) : R) = some ops ∧
      runFuzz cfg fuel =
        some (.ok (final, Finmap.tally ∅ (List.zipWith FuzzOp.ledgerLabel ops outcomes))) ∧
      Service.answers Ledger.move start.system.ledger
        (ops.map fun op => (op.call start.id).movement) = some (outcomes, final.system.ledger) := by
  obtain ⟨ops, final, outcomes, hDraws, -, -, hRun, hMoves⟩ := h.run
  exact ⟨ops, final, outcomes, hDraws, hRun, hMoves⟩

/-- **What the table can say**: one line for each operation, among eight. Of the
protocol's errors only the two that name an amount ever show, and a defunding is never
refused for a limit. -/
theorem fuzz_outcomes (h : Fair cfg fuel start) :
    ∃ (final : World R) (table : Outcomes), runFuzz cfg fuel = some (.ok (final, table)) ∧
      table.total id = cfg.ops.toNat ∧ ∀ line ∈ table, line ∈ tableLines := by
  obtain ⟨ops, final, outcomes, -, hMany, hProper, hRun, hMoves⟩ := h.run
  have hAnswers := Service.answers_length hMoves
  rw [List.length_map] at hAnswers
  refine ⟨final, _, hRun, ?_, fun line hLine => ?_⟩
  · rw [Finmap.tally_total, List.length_zipWith, hAnswers, hMany, Finmap.total_empty]
    omega
  · rcases (Finmap.mem_tally _).mp hLine with hEmpty | hLine
    · exact absurd hEmpty (Finmap.notMem_empty)
    · exact lines_mem hProper hMoves line hLine

end Passes

section Sample

open scoped Fips

theorem sampleSeed_draws {seed : UInt64} (hSeed : seed ≠ 0xf022) :
    (Rng.draws 3 (StdRng.seedFromU64 seed : ScriptedRng)).Nodup := by
  have hNumbers : sampleNumbers seed = [0, 299, 1, 0, 99, 5, 3, 7, 199, 2] := if_neg hSeed
  show (Rng.draws 3 (⟨sampleNumbers _, []⟩ : ScriptedRng)).Nodup
  rw [hNumbers]
  decide +kernel

theorem sampleFair : Fair sampleConfig 2 sampleWorld where
  accepted := ⟨by decide, by decide, by decide, by decide⟩
  issuer := issuerKeys_generated
  world_eq := (if_neg (by decide)).trans sampleWorld_eq
  distinct := sampleWorld_distinct
  nonces := List.forall_mem_cons.mpr ⟨sampleSeed_draws (by decide),
    List.forall_mem_singleton.mpr (sampleSeed_draws (by decide))⟩
  money := by decide

/-- The sample run: a funding, a payment, and a defunding of more than was received. -/
theorem fuzz_passes_sample :
    ∃ (ops : List FuzzOp) (final : World ScriptedRng) (outcomes : List (Except Refusal ℕ)),
      drawOps sampleConfig.devices.toNat sampleConfig.limit sampleConfig.ops.toNat
        (StdRng.seedFromU64 (sampleConfig.seed ^^^ 0x5eed) : ScriptedRng) = some ops ∧
      runFuzz sampleConfig 2 =
        some (.ok (final, Finmap.tally ∅ (List.zipWith FuzzOp.ledgerLabel ops outcomes))) ∧
      Service.answers Ledger.move sampleWorld.system.ledger
        (ops.map fun op => (op.call sampleWorld.id).movement) =
          some (outcomes, final.system.ledger) :=
  fuzz_passes sampleFair

theorem fuzz_outcomes_sample :
    ∃ (final : World ScriptedRng) (table : Outcomes),
      runFuzz sampleConfig 2 = some (.ok (final, table)) ∧ table.total id = 3 ∧
        ∀ line ∈ table, line ∈ tableLines :=
  fuzz_outcomes sampleFair

end Sample

end DigitalEuro
