import DigitalEuro.Lib.Ends
import DigitalEuro.Model.Scenarios

/-!
# Digital euro — what the acceptance check can say (`main.rs`)

The scenarios index devices, expect accounts to be known and generate keys. None of that
goes wrong in the worlds that are set up for them, so that the check ends in verdicts.

* `Harness.Quiet` — what cannot panic, step by step;
* `check_verdicts` — the verdicts are those of the scenarios, and a limit below 40 € is too
  low for them;
* `runFuzz_quiet` — the fuzz run panics for a vector that is too long and for nothing else.
-/

namespace DigitalEuro

/-- An early end that is a verdict and no panic. -/
def Halt.Said (halt : Halt) : Prop := ∃ why, halt = .failed why

/-- A program that can fail and cannot panic. -/
abbrev Harness.Quiet {α : Type} (x : Harness α) (post : α → Prop) (hangs : Prop) : Prop :=
  Ends x post Halt.Said hangs

-- ---------------------------------------------------------------------------
-- Steps of a scenario
-- ---------------------------------------------------------------------------

namespace Harness

variable {α : Type} {hangs : Prop}

theorem fail_quiet (why : String) : Quiet (fail why : Harness α) (fun _ => False) hangs :=
  .stopped ⟨why, rfl⟩

theorem ensure_quiet (holds : Bool) (why : String) :
    Quiet (ensure holds why) (fun _ => holds = true) hangs := by
  unfold ensure
  split
  next h => exact .pure h
  next => exact (fail_quiet why).mono (fun _ h => h.elim) fun _ h => h

theorem orFail_quiet (why : Error → String) (result : Except Error α) :
    Quiet (orFail why result) (fun a => result = .ok a) hangs := by
  cases result with
  | ok a => exact .pure rfl
  | error error => exact (fail_quiet (why error)).mono (fun _ h => h.elim) fun _ h => h

end Harness

/-- The indices of an operation are those of devices, two of them for a payment. -/
def FuzzOp.InBounds (n : ℕ) : FuzzOp → Prop
  | .fund a _ | .defund a _ => a < n
  | .pay a b _ => a < n ∧ b < n ∧ a ≠ b

instance FuzzOp.decidableInBounds (n : ℕ) : ∀ op : FuzzOp, Decidable (op.InBounds n)
  | .fund a _ => inferInstanceAs (Decidable (a < n))
  | .defund a _ => inferInstanceAs (Decidable (a < n))
  | .pay a b _ => inferInstanceAs (Decidable (a < n ∧ b < n ∧ a ≠ b))

theorem FuzzOp.Proper.inBounds {n : ℕ} {op : FuzzOp} (h : op.Proper n) : op.InBounds n := by
  cases op <;> exact h.1

namespace World

variable {R α : Type} {w : World R} {n i : ℕ} {early : Halt → Prop} {hangs : Prop}

/-- A world of some devices and as many accounts. -/
structure Sized (n : ℕ) (w : World R) : Prop where
  accounts : w.accounts.length = n
  devices : w.devices.length = n

theorem Sized.device (h : w.Sized n) (hIndex : i < n) :
    ∃ device, w.devices[i]? = some device :=
  ⟨_, List.getElem?_eq_getElem (h.devices.symm ▸ hIndex)⟩

theorem deviceAt_ends (h : w.Sized n) (hIndex : i < n) :
    Ends (w.deviceAt i) (fun device => w.devices[i]? = some device) early hangs := by
  obtain ⟨device, hDevice⟩ := h.device hIndex
  rw [deviceAt, hDevice]
  exact .pure rfl

theorem accountAt_ends (h : w.Sized n) (hIndex : i < n) :
    Ends (w.accountAt i) (fun account => w.accounts[i]? = some account) early hangs := by
  have hAccount := List.getElem?_eq_getElem (h.accounts.symm ▸ hIndex : i < w.accounts.length)
  rw [accountAt, hAccount]
  exact .pure rfl

theorem onDevice_ends (h : w.Sized n) (hIndex : i < n) (call : Wallet R → α × Wallet R) :
    Ends (w.onDevice i call) (fun answer => answer.2.Sized n) early hangs := by
  obtain ⟨device, hDevice⟩ := h.device hIndex
  rw [onDevice, hDevice]
  exact .pure ⟨h.accounts, List.length_set.trans h.devices⟩

variable [Sha256]

/-- An operation in bounds is answered. -/
theorem Sized.call [Rng R] (h : w.Sized n) {op : FuzzOp} (hBounds : op.InBounds n) :
    ∃ result w', w.call op = some (result, w') ∧ w'.Sized n := by
  cases op with
  | fund a amount =>
    obtain ⟨device, hDevice⟩ := h.device hBounds
    rw [World.call, hDevice]
    exact ⟨_, _, rfl, h.accounts, List.length_set.trans h.devices⟩
  | defund a amount =>
    obtain ⟨device, hDevice⟩ := h.device hBounds
    rw [World.call, hDevice]
    exact ⟨_, _, rfl, h.accounts, List.length_set.trans h.devices⟩
  | pay a b amount =>
    obtain ⟨hPayer, hPayee, hOther⟩ := hBounds
    obtain ⟨payer, hFirst⟩ := h.device hPayer
    obtain ⟨payee, hSecond⟩ := h.device hPayee
    rw [World.call, pair_eq hOther hFirst hSecond]
    exact ⟨_, _, rfl, h.accounts, List.length_set.trans (List.length_set.trans h.devices)⟩

theorem helper_ends [StdRng R] (h : w.Sized n) {op : FuzzOp} (hBounds : op.InBounds n) :
    Ends (w.helper op) (fun answer => answer.2.Sized n) early hangs := by
  obtain ⟨result, w', hCall, hSized⟩ := h.call hBounds
  rw [helper, hCall]
  exact .pure hSized

end World

theorem Wallet.Blank.headroom_eq {R : Type} {limit : UInt64} {w : Wallet R} (h : w.Blank limit) :
    w.headroom = w.holdingLimit := by
  have hWithin : w.WithinLimit := by
    simp [WithinLimit, promised, h.balance_eq, h.incoming_eq, h.pendingFunding_eq]
  have hHeadroom := hWithin.headroom_toNat
  simp only [promised, h.balance_eq, h.incoming_eq, h.pendingFunding_eq, Finmap.total_empty,
    UInt64.toNat_zero, Nat.add_zero] at hHeadroom
  exact UInt64.toNat_inj.mp hHeadroom

section Scenarios

/-- The worlds of the scenarios, by seed and opening balances. -/
def Config.setUps (cfg : Config) : List (UInt64 × List UInt64) :=
  [(cfg.seed, [10000, 0, 0]), (cfg.seed + 1, [10000, 0, 0]), (cfg.seed + 2, [10000, 0]),
    (cfg.seed + 3, [cfg.limit, cfg.limit]), (cfg.seed + 4, [10000, 0, 0]),
    (cfg.seed + 5, [10000]), (cfg.seed + 6, [10000]), (cfg.seed + 7, [10000, 0, 0])]

/-- What keeps the check from returning: the keys of one of its worlds, or those of the
issuer that is not the Eurosystem. -/
def Hangs [Sha256] (R : Type) [StdRng R] (cfg : Config) (fuel : ℕ) : Prop :=
  (∃ setUp ∈ cfg.setUps, world (R := R) cfg setUp.1 fuel setUp.2 = none) ∨
    (rogueCertificate (R := R) cfg fuel).run = none

variable [Sha256] {R : Type} [StdRng R] {cfg : Config} {fuel : ℕ}

open Harness

/-- The worlds of the scenarios are set up unless their keys are not found. -/
theorem openWorld_ends (hSize : 512 ≤ cfg.keyBits) (hEven : cfg.keyBits % 2 = 0)
    (hIssuer : cfg.issuerKey.Generated) {seed : UInt64} {balances : List UInt64}
    (hSetUp : (seed, balances) ∈ cfg.setUps) {early : Halt → Prop} :
    Ends (openWorld (R := R) cfg seed fuel balances)
      (fun w => w.Sized balances.length ∧ w.Blank cfg) early (Hangs R cfg fuel) := by
  cases hWorld : world (R := R) cfg seed fuel balances with
  | none =>
    rw [openWorld, hWorld]
    exact .waiting (.inl ⟨_, hSetUp, hWorld⟩)
  | some outcome =>
    obtain ⟨w, rfl, hBlank, hLength, -⟩ := World.world_spec hSize hEven hIssuer hWorld
    rw [openWorld, hWorld]
    exact .pure ⟨⟨hLength, hBlank.one_each.trans hLength⟩, hBlank⟩

variable (hSize : 512 ≤ cfg.keyBits) (hEven : cfg.keyBits % 2 = 0)
  (hIssuer : cfg.issuerKey.Generated)

include hSize hEven hIssuer

/-- All it needs is that the payer and the two payees have devices. -/
theorem partialPaymentKeepsTheRest_quiet :
    Quiet (partialPaymentKeepsTheRest (R := R) cfg fuel) (fun _ => True) (Hangs R cfg fuel) := by
  refine (openWorld_ends hSize hEven hIssuer (by simp [Config.setUps])).bind fun w h => ?_
  refine (World.helper_ends h.1 (by decide)).bind fun answer h => ?_
  refine (orFail_quiet _ answer.1).bind fun _ _ => ?_
  refine (World.helper_ends h (by decide)).bind fun answer h => ?_
  refine (orFail_quiet _ answer.1).bind fun _ _ => ?_
  refine (World.deviceAt_ends h (by decide)).bind fun _ _ => ?_
  refine (World.deviceAt_ends h (by decide)).bind fun _ _ => ?_
  refine (ensure_quiet _ _).bind fun _ _ => ?_
  refine (ensure_quiet _ _).bind fun _ _ => ?_
  refine (World.helper_ends h (by decide)).bind fun answer h => ?_
  refine (orFail_quiet _ answer.1).bind fun _ _ => ?_
  refine (World.deviceAt_ends h (by decide)).bind fun _ _ => ?_
  refine (World.deviceAt_ends h (by decide)).bind fun _ _ => ?_
  refine (ensure_quiet _ _).bind fun _ _ => ?_
  exact (ensure_quiet _ _).mono (fun _ _ => trivial) fun _ h => h

/-- The payee of the first payment pays the third device. -/
theorem receivedValueIsRespendable_quiet :
    Quiet (receivedValueIsRespendable (R := R) cfg fuel) (fun _ => True) (Hangs R cfg fuel) := by
  refine (openWorld_ends hSize hEven hIssuer (by simp [Config.setUps])).bind fun w h => ?_
  refine (World.helper_ends h.1 (by decide)).bind fun answer h => ?_
  refine (orFail_quiet _ answer.1).bind fun _ _ => ?_
  refine (World.helper_ends h (by decide)).bind fun answer h => ?_
  refine (orFail_quiet _ answer.1).bind fun _ _ => ?_
  refine (World.helper_ends h (by decide)).bind fun answer h => ?_
  refine (orFail_quiet _ answer.1).bind fun _ _ => ?_
  refine (World.helper_ends h (by decide)).bind fun answer h => ?_
  refine (orFail_quiet _ answer.1).bind fun _ _ => ?_
  refine (ensure_quiet _ _).bind fun _ _ => ?_
  exact (ensure_quiet _ _).mono (fun _ _ => trivial) fun _ h => h

omit hSize hEven hIssuer in
/-- The keys are generated for their size, and the account was opened before. -/
theorem rogueCertificate_ends {early : Halt → Prop} :
    Ends (rogueCertificate (R := R) cfg fuel) (fun _ => True) early (Hangs R cfg fuel) := by
  have hGenerate (rng : R) :
      Ends (rogueCertificate.generate fuel 512 rng) (fun _ => True) early True := by
    unfold rogueCertificate.generate
    cases hKeys : Keypair.generate 512 fuel rng with
    | none => exact .waiting trivial
    | some returned =>
      obtain ⟨result, rng'⟩ := returned
      obtain ⟨keypair, _, _, rfl, -⟩ := generate_spec (by decide) (by decide) hKeys
      exact .pure trivial
  suffices h : Ends (rogueCertificate (R := R) cfg fuel) (fun _ => True) early True from
    ⟨h.returns, h.stops, .inr⟩
  refine (hGenerate _).bind fun rogue _ => ?_
  refine (hGenerate rogue.2).bind fun keys _ => ?_
  dsimp only
  rw [Issuer.certifyDevice_eq]
  · exact .pure trivial
  · rw [Issuer.openAccount, Finmap.lookup_insert]
    rfl

/-- Besides its world it waits for the keys of another issuer and of a device of it. -/
theorem refusedPaymentCostsNothing_quiet :
    Quiet (refusedPaymentCostsNothing (R := R) cfg fuel) (fun _ => True) (Hangs R cfg fuel) := by
  refine (openWorld_ends hSize hEven hIssuer (by simp [Config.setUps])).bind fun w h => ?_
  refine (World.helper_ends h.1 (by decide)).bind fun answer h => ?_
  refine (orFail_quiet _ answer.1).bind fun _ _ => ?_
  refine (World.helper_ends h (by decide)).bind fun answer h => ?_
  refine (ensure_quiet _ _).bind fun _ _ => ?_
  refine (World.deviceAt_ends h (by decide)).bind fun _ _ => ?_
  refine (World.deviceAt_ends h (by decide)).bind fun _ _ => ?_
  refine (ensure_quiet _ _).bind fun _ _ => ?_
  refine (ensure_quiet _ _).bind fun _ _ => ?_
  refine (World.onDevice_ends h (by decide) _).bind fun answer h => ?_
  refine (orFail_quiet _ answer.1).bind fun _ _ => ?_
  refine rogueCertificate_ends.bind fun _ _ => ?_
  refine (World.onDevice_ends h (by decide) _).bind fun answer h => ?_
  refine (ensure_quiet _ _).bind fun _ _ => ?_
  refine (World.deviceAt_ends h (by decide)).bind fun _ _ => ?_
  exact (ensure_quiet _ _).mono (fun _ _ => trivial) fun _ h => h

/-- Whether the payment is refused as it should be or not, no index is out of bounds. -/
theorem holdingLimitCheckedBeforeDebit_quiet :
    Quiet (holdingLimitCheckedBeforeDebit (R := R) cfg fuel) (fun _ => True)
      (Hangs R cfg fuel) := by
  refine (openWorld_ends hSize hEven hIssuer (by simp [Config.setUps])).bind fun w hStart => ?_
  have hSized : w.Sized 2 := hStart.1
  refine (World.helper_ends hSized (by show 0 < 2; decide)).bind fun answer h => ?_
  refine (orFail_quiet _ answer.1).bind fun _ _ => ?_
  refine (World.helper_ends h (by show 1 < 2; decide)).bind fun answer h => ?_
  refine (orFail_quiet _ answer.1).bind fun _ _ => ?_
  refine (World.helper_ends h (by decide)).bind fun answer h => ?_
  have hRest (w : World R) (h : w.Sized 2) : Quiet (do
      let alice ← w.deviceAt 0
      ensure (alice.balanceCents = cfg.limit) "payer was debited anyway"
      let answer ← w.helper (.pay 0 1 100)
      let _ ← orFail (fun error => "payment within headroom refused: " ++ error.display) answer.1
      let bakery ← answer.2.deviceAt 1
      ensure (bakery.balanceCents = cfg.limit) "bakery should now be exactly at its limit")
      (fun _ => True) (Hangs R cfg fuel) := by
    refine (World.deviceAt_ends h (by decide)).bind fun _ _ => ?_
    refine (ensure_quiet _ _).bind fun _ _ => ?_
    refine (World.helper_ends h (by decide)).bind fun answer h => ?_
    refine (orFail_quiet _ answer.1).bind fun _ _ => ?_
    refine (World.deviceAt_ends h (by decide)).bind fun _ _ => ?_
    exact (ensure_quiet _ _).mono (fun _ _ => trivial) fun _ h => h
  dsimp only
  split
  next => exact (ensure_quiet _ _).bind fun _ _ => hRest _ h
  next => exact (fail_quiet _).bind fun _ h => h.elim

/-- Messages are delivered unchanged, altered and to the wrong device, all of them answered. -/
theorem transfersResistReplayAndTampering_quiet :
    Quiet (transfersResistReplayAndTampering (R := R) cfg fuel) (fun _ => True)
      (Hangs R cfg fuel) := by
  refine (openWorld_ends hSize hEven hIssuer (by simp [Config.setUps])).bind fun w h => ?_
  refine (World.helper_ends h.1 (by decide)).bind fun answer h => ?_
  refine (orFail_quiet _ answer.1).bind fun _ _ => ?_
  refine (World.onDevice_ends h (by decide) _).bind fun answer h => ?_
  refine (orFail_quiet _ answer.1).bind fun _ _ => ?_
  refine (World.onDevice_ends h (by decide) _).bind fun answer h => ?_
  refine (orFail_quiet _ answer.1).bind fun _ _ => ?_
  refine (World.onDevice_ends h (by decide) _).bind fun answer h => ?_
  refine (ensure_quiet _ _).bind fun _ _ => ?_
  refine (World.deviceAt_ends h (by decide)).bind fun _ _ => ?_
  refine (World.onDevice_ends h (by decide) _).bind fun answer h => ?_
  refine (ensure_quiet _ _).bind fun _ _ => ?_
  refine (World.onDevice_ends h (by decide) _).bind fun answer h => ?_
  refine (ensure_quiet _ _).bind fun _ _ => ?_
  refine (World.onDevice_ends h (by decide) _).bind fun answer h => ?_
  refine (ensure_quiet _ _).bind fun _ _ => ?_
  refine (World.deviceAt_ends h (by decide)).bind fun _ _ => ?_
  exact (ensure_quiet _ _).mono (fun _ _ => trivial) fun _ h => h

/-- One device and its account are enough. -/
theorem defundingRoundTrip_quiet :
    Quiet (defundingRoundTrip (R := R) cfg fuel) (fun _ => True) (Hangs R cfg fuel) := by
  refine (openWorld_ends hSize hEven hIssuer (by simp [Config.setUps])).bind fun w h => ?_
  refine (World.accountAt_ends h.1 (by decide)).bind fun _ _ => ?_
  refine (World.helper_ends h.1 (by decide)).bind fun answer h => ?_
  refine (orFail_quiet _ answer.1).bind fun _ _ => ?_
  refine (World.onDevice_ends h (by decide) _).bind fun answer h => ?_
  refine (orFail_quiet _ answer.1).bind fun _ _ => ?_
  refine (ensure_quiet _ _).bind fun _ _ => ?_
  refine (ensure_quiet _ _).bind fun _ _ => ?_
  refine (ensure_quiet _ _).bind fun _ _ => ?_
  exact (ensure_quiet _ _).mono (fun _ _ => trivial) fun _ h => h

/-- What is lost stays in the float, and nothing is asked of the device again. -/
theorem lostDeviceStrandsItsBalance_quiet :
    Quiet (lostDeviceStrandsItsBalance (R := R) cfg fuel) (fun _ => True) (Hangs R cfg fuel) := by
  refine (openWorld_ends hSize hEven hIssuer (by simp [Config.setUps])).bind fun w h => ?_
  refine (World.accountAt_ends h.1 (by decide)).bind fun _ _ => ?_
  refine (World.helper_ends h.1 (by decide)).bind fun answer h => ?_
  refine (orFail_quiet _ answer.1).bind fun _ _ => ?_
  refine (ensure_quiet _ _).bind fun _ _ => ?_
  exact (ensure_quiet _ _).mono (fun _ _ => trivial) fun _ h => h

/-- The two rounds of payments and of defundings go over the same payees. -/
theorem crackedElementCounterfeits_quiet :
    Quiet (crackedElementCounterfeits (R := R) cfg fuel) (fun _ => True) (Hangs R cfg fuel) := by
  refine (openWorld_ends hSize hEven hIssuer (by simp [Config.setUps])).bind fun w h => ?_
  refine (World.helper_ends h.1 (by decide)).bind fun answer h => ?_
  refine (orFail_quiet _ answer.1).bind fun _ _ => ?_
  refine (World.onDevice_ends h (by decide) _).bind fun answer h => ?_
  have hRound (w : World R) (h : w.Sized 3) {op : FuzzOp} (hBounds : op.InBounds 3)
      (why : Error → String) : Quiet (do
        let answer ← w.helper op
        let _ ← orFail why answer.1
        pure answer.2) (fun w => w.Sized 3) (Hangs R cfg fuel) := by
    refine (World.helper_ends h hBounds).bind fun answer h => ?_
    exact (orFail_quiet _ answer.1).bind fun _ _ => .pure h
  have hBelow : ∀ payee ∈ [1, 2], payee < 3 := by decide
  have hOther : ∀ payee ∈ [1, 2], 0 ≠ payee := by decide
  refine (Ends.foldlM (fun payee hMem w h =>
    hRound w h (by exact ⟨by decide, hBelow payee hMem, hOther payee hMem⟩) _) _ h).bind
      fun w h => ?_
  refine (World.deviceAt_ends h (by decide)).bind fun _ _ => ?_
  refine (World.deviceAt_ends h (by decide)).bind fun _ _ => ?_
  refine (ensure_quiet _ _).bind fun _ _ => ?_
  refine (Ends.foldlM (fun payee hMem w h =>
    hRound w h (by exact hBelow payee hMem) _) w h).bind fun w h => ?_
  refine (ensure_quiet _ _).bind fun _ _ => ?_
  refine (World.deviceAt_ends h (by decide)).bind fun _ _ => ?_
  exact (ensure_quiet _ _).mono (fun _ _ => trivial) fun _ h => h

omit hSize hEven hIssuer in
/-- More than the limit cannot be funded. -/
theorem World.Blank.fund_ends {w : World R} {n i : ℕ} {amount : UInt64} {early : Halt → Prop}
    {hangs : Prop} (h : w.Blank cfg) (hSized : w.Sized n) (hIndex : i < n)
    (hOver : cfg.limit < amount) :
    Ends (w.helper (.fund i amount))
      (fun answer => answer.1 = .error (.holdingLimitExceeded amount cfg.limit)) early hangs := by
  obtain ⟨device, hDevice⟩ := hSized.device hIndex
  have hBlank := h.devices device (List.mem_of_getElem? hDevice)
  have hHeadroom : device.headroom = cfg.limit := hBlank.headroom_eq.trans hBlank.limit_eq
  have hPos : amount ≠ 0 := fun hZero => UInt64.not_lt_zero (hZero ▸ hOver)
  have hFund := fund_noRoom device w.issuer hPos (hHeadroom.symm ▸ hOver)
  rw [World.helper, World.call, hDevice]
  dsimp only
  rw [hFund, hHeadroom]
  exact .pure rfl

/-- The text of a funding beyond the limit. -/
def overLimit (cfg : Config) (amount : UInt64) : Halt :=
  .failed (Error.display (.holdingLimitExceeded amount cfg.limit))

/-- Defunding is tried with 30 €. -/
theorem defundingRoundTrip_below (hBelow : cfg.limit < 3000) :
    Ends (defundingRoundTrip (R := R) cfg fuel) (fun _ => False) (· = overLimit cfg 3000)
      (Hangs R cfg fuel) := by
  refine (openWorld_ends hSize hEven hIssuer
    (by simp [Config.setUps])).bind fun w ⟨hSized, hBlank⟩ => ?_
  refine (World.accountAt_ends hSized (by decide)).bind fun _ _ => ?_
  refine (hBlank.fund_ends hSized (by decide) hBelow).bind fun answer hAnswer => ?_
  show Ends (orFail Error.display answer.1 >>= _) _ _ _
  rw [hAnswer]
  exact .stopped rfl

/-- What is lost is 40 €. -/
theorem lostDeviceStrandsItsBalance_below (hBelow : cfg.limit < 4000) :
    Ends (lostDeviceStrandsItsBalance (R := R) cfg fuel) (fun _ => False)
      (· = overLimit cfg 4000) (Hangs R cfg fuel) := by
  refine (openWorld_ends hSize hEven hIssuer
    (by simp [Config.setUps])).bind fun w ⟨hSized, hBlank⟩ => ?_
  refine (World.accountAt_ends hSized (by decide)).bind fun _ _ => ?_
  refine (hBlank.fund_ends hSized (by decide) hBelow).bind fun answer hAnswer => ?_
  show Ends (orFail Error.display answer.1 >>= _) _ _ _
  rw [hAnswer]
  exact .stopped rfl

end Scenarios

-- ---------------------------------------------------------------------------
-- The check and the fuzz run
-- ---------------------------------------------------------------------------

/-- What a verdict reports: the scenario ran to its end, or it failed with this text. -/
def reported (verdict : Except String Unit) : Except Halt Unit := verdict.mapError .failed

/-- The verdicts are those of the scenarios, in their order. -/
def Reports (scenarios : List (String × Harness Unit)) (verdicts : Verdicts) : Prop :=
  List.Forall₂ (fun scenario verdict => verdict.1 = scenario.1 ∧
    scenario.2.run = some (reported verdict.2)) scenarios verdicts

/-- Each scenario gets its verdict, and the loop goes on. -/
theorem checkLoop_reports {hangs : Prop} {scenarios : List (String × Harness Unit)}
    (hQuiet : ∀ scenario ∈ scenarios, Harness.Quiet scenario.2 (fun _ => True) hangs) :
    (checkLoop scenarios = none ∧ hangs) ∨
      ∃ verdicts, checkLoop scenarios = some (.ok verdicts) ∧ Reports scenarios verdicts := by
  induction scenarios with
  | nil => exact .inr ⟨[], rfl, .nil⟩
  | cons scenario rest ih =>
    obtain ⟨name, scenario⟩ := scenario
    have hLater := ih fun other hMem => hQuiet other (List.mem_cons_of_mem _ hMem)
    have hNext (verdict : Except String Unit) (hRun : scenario.run = some (reported verdict))
        (hLoop : checkLoop ((name, scenario) :: rest) =
          (checkLoop rest).map fun outcome => outcome.map ((name, verdict) :: ·)) :
        (checkLoop ((name, scenario) :: rest) = none ∧ hangs) ∨
          ∃ verdicts, checkLoop ((name, scenario) :: rest) = some (.ok verdicts) ∧
            Reports ((name, scenario) :: rest) verdicts := by
      rw [hLoop]
      rcases hLater with ⟨hNone, hHangs⟩ | ⟨verdicts, hSome, hReports⟩
      · rw [hNone]
        exact .inl ⟨rfl, hHangs⟩
      · rw [hSome]
        exact .inr ⟨_, rfl, .cons ⟨rfl, hRun⟩ hReports⟩
    have hFirst := hQuiet _ List.mem_cons_self
    cases hRun : scenario.run with
    | none => exact .inl ⟨by rw [checkLoop, hRun], hFirst.waits hRun⟩
    | some outcome =>
      rcases outcome with halt | ok
      · obtain ⟨why, rfl⟩ := hFirst.stops hRun
        exact hNext (.error why) hRun (by rw [checkLoop, hRun])
      · exact hNext (.ok ok) hRun (by rw [checkLoop, hRun])

/-- Nothing failed exactly when every scenario ran to its end. -/
theorem Reports.failed_eq_zero_iff {scenarios : List (String × Harness Unit)} {verdicts : Verdicts}
    (h : Reports scenarios verdicts) :
    verdicts.failed = 0 ↔ ∀ scenario ∈ scenarios, scenario.2.run = some (.ok ()) := by
  induction h with
  | nil => exact iff_of_true rfl fun _ hMem => absurd hMem List.not_mem_nil
  | @cons scenario verdict _ _ hRun _ ih =>
    rw [List.forall_mem_cons, ← ih, hRun.2]
    obtain ⟨name, why | -⟩ := verdict
    · refine iff_of_false ?_ fun h => absurd h.1 (by simp [reported, Except.mapError])
      rw [Verdicts.failed, List.filter_cons_of_pos rfl, List.length_cons]
      exact Nat.succ_ne_zero _
    · rw [Verdicts.failed, List.filter_cons_of_neg Bool.false_ne_true]
      exact (and_iff_right rfl).symm

/-- A scenario that can only fail with one text has it as its verdict. -/
theorem Reports.verdict_mem {scenarios : List (String × Harness Unit)} {verdicts : Verdicts}
    (h : Reports scenarios verdicts) {name why : String} {scenario : Harness Unit}
    (hMem : (name, scenario) ∈ scenarios)
    {hangs : Prop} (hEnds : Ends scenario (fun _ => False) (· = .failed why) hangs) :
    (name, .error why) ∈ verdicts := by
  induction h with
  | nil => cases hMem
  | @cons first verdict _ _ hVerdict _ ih =>
    rcases List.mem_cons.mp hMem with rfl | hLater
    · obtain ⟨name', why' | ok⟩ := verdict
      · obtain rfl : name' = name := hVerdict.1
        obtain rfl : why' = why := Halt.failed.inj (hEnds.stops hVerdict.2)
        exact List.mem_cons_self
      · exact (hEnds.returns hVerdict.2).elim
    · exact List.mem_cons_of_mem _ (ih hLater)

section Runs

variable [Sha256] {R : Type} [StdRng R] {cfg : Config} {fuel : ℕ}

section Check

variable (hSize : 512 ≤ cfg.keyBits) (hEven : cfg.keyBits % 2 = 0)
  (hIssuer : cfg.issuerKey.Generated)

include hSize hEven hIssuer

theorem scenarios_quiet :
    ∀ scenario ∈ scenarios R cfg fuel,
      Harness.Quiet scenario.2 (fun _ => True) (Hangs R cfg fuel) := by
  simp only [scenarios, List.forall_mem_cons, List.not_mem_nil, false_implies, implies_true,
    and_true]
  exact ⟨partialPaymentKeepsTheRest_quiet hSize hEven hIssuer,
    receivedValueIsRespendable_quiet hSize hEven hIssuer,
    refusedPaymentCostsNothing_quiet hSize hEven hIssuer,
    holdingLimitCheckedBeforeDebit_quiet hSize hEven hIssuer,
    transfersResistReplayAndTampering_quiet hSize hEven hIssuer,
    defundingRoundTrip_quiet hSize hEven hIssuer,
    lostDeviceStrandsItsBalance_quiet hSize hEven hIssuer,
    crackedElementCounterfeits_quiet hSize hEven hIssuer⟩

/-- **What the check says.** It does not panic, and it returns when the keys it needs are
found. Each verdict is that of its scenario, and it passes when all of them ran to their
end. With a limit below 40 € it does not: one scenario funds 40 € and fails, and below 30 €
so does the one that funds 30 €. -/
theorem check_verdicts :
    (runCheck R cfg fuel = none ∧ Hangs R cfg fuel) ∨
      ∃ verdicts passed, runCheck R cfg fuel = some (.ok (verdicts, passed)) ∧
        Reports (scenarios R cfg fuel) verdicts ∧
        (passed = true ↔ ∀ scenario ∈ scenarios R cfg fuel, scenario.2.run = some (.ok ())) ∧
        (cfg.limit < 4000 → passed = false ∧ ("lost device strands its balance",
          .error (Error.display (.holdingLimitExceeded 4000 cfg.limit))) ∈ verdicts) ∧
        (cfg.limit < 3000 → ("defunding round trip",
          .error (Error.display (.holdingLimitExceeded 3000 cfg.limit))) ∈ verdicts) := by
  rw [runCheck]
  have hQuiet : ∀ scenario ∈ scenarios R cfg fuel, _ := scenarios_quiet hSize hEven hIssuer
  rcases checkLoop_reports hQuiet with ⟨hNone, hHangs⟩ | ⟨verdicts, hSome, hReports⟩
  · rw [hNone]
    exact .inl ⟨rfl, hHangs⟩
  · rw [hSome]
    have hPasses : (verdicts.failed == 0) = true ↔
        ∀ scenario ∈ scenarios R cfg fuel, scenario.2.run = some (.ok ()) :=
      beq_iff_eq.trans hReports.failed_eq_zero_iff
    refine .inr ⟨verdicts, _, rfl, hReports, hPasses, fun hBelow => ?_, fun hBelow => ?_⟩
    · have hEnds : Ends (lostDeviceStrandsItsBalance (R := R) cfg fuel) _ _ _ :=
        lostDeviceStrandsItsBalance_below hSize hEven hIssuer hBelow
      have hMem : ("lost device strands its balance",
          lostDeviceStrandsItsBalance (R := R) cfg fuel) ∈ scenarios R cfg fuel := by
        simp [scenarios]
      refine ⟨?_, hReports.verdict_mem hMem hEnds⟩
      exact Bool.eq_false_iff.mpr fun hPassed => hEnds.returns (hPasses.mp hPassed _ hMem)
    · have hMem : ("defunding round trip", defundingRoundTrip (R := R) cfg fuel) ∈
          scenarios R cfg fuel := by
        simp [scenarios]
      exact hReports.verdict_mem hMem (defundingRoundTrip_below hSize hEven hIssuer hBelow)

end Check

/-- Drawn operations are in bounds and ranges are not empty. -/
theorem fuzzLoop_quiet (hDevices : 2 ≤ cfg.devices) (hLimit : 2 ≤ cfg.limit) {money : ℕ}
    {panic : HarnessPanic} (left : ℕ) : ∀ (step : ℕ) {w : World R} (rng : R) (outcomes : Outcomes),
      w.Sized cfg.devices.toNat →
      fuzzLoop cfg money left step w rng outcomes ≠ .error (.panicked panic) := by
  induction left with
  | zero =>
    exact fun _ _ _ _ _ h => absurd h (by simp [fuzzLoop])
  | succ left ih =>
    intro step w rng outcomes hSized h
    obtain ⟨op, rng', hDraw, hProper⟩ :=
      drawOp_proper (UInt64.le_iff_toNat_le.mp hDevices) hLimit rng
    obtain ⟨result, w', hCall, hSized'⟩ := hSized.call hProper.inBounds
    rw [fuzzLoop, hDraw] at h
    dsimp only at h
    rw [hCall] at h
    dsimp only at h
    cases hRefusal : checkRefusal step op w w' result with
    | error stop =>
      rw [hRefusal] at h
      obtain rfl : stop = _ := Except.error.inj h
      unfold checkRefusal at hRefusal
      split at hRefusal
      next => simp at hRefusal
      next => split at hRefusal <;> simp at hRefusal
    | ok =>
      rw [hRefusal] at h
      cases hInvariants : w'.checkInvariants cfg.limit money with
      | error violation =>
        rw [hInvariants] at h
        cases h
      | ok =>
        rw [hInvariants] at h
        exact ih _ _ _ hSized' h

/-- **The fuzz run does not panic**, whatever it draws, unless its opening balances make
too long a vector. -/
theorem runFuzz_quiet (hAccepted : cfg.Accepted) (hIssuer : cfg.issuerKey.Generated)
    {panic : HarnessPanic} (h : runFuzz (R := R) cfg fuel = some (.error (.panicked panic))) :
    panic = .capacity ∧ cfg.Overlong := by
  rw [runFuzz] at h
  split at h
  next => cases h
  next hWorld =>
    obtain rfl := FuzzStop.panicked.inj (Except.error.inj (Option.some.inj h))
    unfold fuzzWorld at hWorld
    split_ifs at hWorld with hOverlong
    · exact ⟨(Except.error.inj (Option.some.inj hWorld)).symm, hOverlong⟩
    · obtain ⟨w, hReturned, -⟩ :=
        World.world_spec hAccepted.size hAccepted.even hIssuer hWorld
      cases hReturned
  next w hWorld =>
    exfalso
    obtain ⟨w', hReturned, hBlank, hLength, -⟩ :=
      World.world_spec hAccepted.size hAccepted.even hIssuer (world_of_fuzzWorld hWorld)
    obtain rfl := Except.ok.inj hReturned
    rw [List.length_replicate] at hLength
    refine fuzzLoop_quiet hAccepted.devices ?_ _ 0 _ ∅ ⟨hLength, hBlank.one_each.trans hLength⟩
      (Option.some.inj h)
    exact UInt64.le_trans (by decide) hAccepted.limit

end Runs

-- ---------------------------------------------------------------------------
-- A check that returns
-- ---------------------------------------------------------------------------

/-- A generator that draws two primes in turn, and counts. -/
structure PairRng where
  second : Bool
  next : ℕ

def PairRng.prime (rng : PairRng) : ℕ :=
  if rng.second then samplePrime 52455 else samplePrime 51975

instance : StdRng PairRng where
  gen rng := ((Rng.gen (⟨rng.next⟩ : CountingRng)).1, { rng with next := rng.next + 1 })
  genBiguint rng bits := (rng.prime % 2 ^ bits, { rng with second := !rng.second })
  genBiguintRange rng lbound _ := (lbound, rng)
  genBiguint_lt _ bits := Nat.mod_lt _ (Nat.two_pow_pos bits)
  le_genBiguintRange _ _ _ _ := Nat.le_refl _
  genBiguintRange_lt _ _ _ hRange := hRange
  seedFromU64 _ := ⟨false, 0⟩
  genRange rng _ low _ := (low, rng)
  le_genRange _ _ _ _ _ := Nat.le_refl _
  genRange_lt _ _ _ _ h := h

theorem PairRng.generatePrime_eq (rng : PairRng) {bits : ℕ} (hBits : 0 < bits)
    (h : GeneratedPrime bits rng.prime) (fuel : ℕ) :
    generatePrime bits (fuel + 1) rng = some (rng.prime, { rng with second := !rng.second }) := by
  obtain ⟨⟨drawn, hDrawn, hPrime⟩, hIsPrime⟩ := h
  have hDraw : RandBigInt.genBiguint rng bits =
      (candidate bits drawn, { rng with second := !rng.second }) := by
    refine Prod.ext ?_ rfl
    show rng.prime % 2 ^ bits = _
    rw [hPrime, Nat.mod_eq_of_lt (candidate_lt hBits hDrawn)]
  rw [generatePrime, hDraw]
  dsimp only
  rw [candidate_candidate, isProbablePrime_silent fun _ _ => rfl, ← hPrime,
    if_pos (Primality.isProbablePrime_of_prime hIsPrime 40 _)]

/-- Alice's keys, every time. -/
theorem PairRng.generate_eq (next : ℕ) :
    Keypair.generate 512 2 (⟨false, next⟩ : PairRng) = some (.ok aliceKeys, ⟨false, next⟩) := by
  have h := aliceKeys_generatedFrom
  have hReturned : attempt 512 (samplePrime 51975) (samplePrime 52455) = .returned aliceKeys :=
    attempt_eq_returned_iff.mpr ⟨h.p_ne_q, h.n_eq, h.n_bits, h.e_eq, h.d_eq⟩
  have hFirst : generatePrime (UInt64.toNat 512 / 2) 1 (⟨false, next⟩ : PairRng) =
      some (samplePrime 51975, ⟨true, next⟩) :=
    PairRng.generatePrime_eq ⟨false, next⟩ (by decide) h.p_generated 0
  have hSecond : generatePrime (UInt64.toNat 512 / 2) 1 (⟨true, next⟩ : PairRng) =
      some (samplePrime 52455, ⟨false, next⟩) :=
    PairRng.generatePrime_eq ⟨true, next⟩ (by decide) h.q_generated 0
  rw [Keypair.generate, if_pos (by decide), generateLoop, size_half, hFirst, Option.bind_eq_bind,
    Option.bind_some]
  dsimp only
  rw [hSecond, Option.bind_some]
  dsimp only
  rw [hReturned]

section Sample

open scoped Fips

theorem pair_returns {cfg : Config} (hBits : cfg.keyBits = 512)
    (hIssuer : cfg.issuerKey.Generated) : ¬ Hangs PairRng cfg 2 := by
  have hLoop : ∀ (seed : UInt64) (balances : List UInt64) (index next : ℕ) (w : World PairRng),
      w.issuer.keypair.Generated →
      worldLoop cfg seed 2 index balances w ⟨false, next⟩ ≠ none := by
    intro seed balances
    induction balances with
    | nil =>
      exact fun _ _ _ _ hNone => absurd hNone (by simp [worldLoop])
    | cons balance balances ih =>
      intro index next w hKeypair hNone
      have hKeys : Keypair.generate cfg.keyBits 2 (Rng.gen (⟨false, next⟩ : PairRng)).2 =
          some (.ok aliceKeys, ⟨false, next + 1⟩) := hBits ▸ PairRng.generate_eq (next + 1)
      rw [World.worldLoop_joined w seed index balance balances hKeypair hKeys] at hNone
      refine ih (index + 1) (next + 2) _ ?_ hNone
      exact hKeypair
  rintro (⟨setUp, -, hWorld⟩ | hRogue)
  · exact hLoop setUp.1 setUp.2 0 0 _ hIssuer hWorld
  · have hGenerate (next : ℕ) : rogueCertificate.generate 2 512 (⟨false, next⟩ : PairRng) =
        pure (aliceKeys, ⟨false, next⟩) := by
      rw [rogueCertificate.generate, PairRng.generate_eq]
    rw [rogueCertificate, show (StdRng.seedFromU64 (cfg.seed ^^^ 0x0bad) : PairRng) = ⟨false, 0⟩
      from rfl, hGenerate, pure_bind] at hRogue
    dsimp only at hRogue
    rw [hGenerate, pure_bind, Issuer.certifyDevice_eq] at hRogue
    · cases hRogue
    · rw [Issuer.openAccount, Finmap.lookup_insert]
      rfl

/-- A check with a limit of 20 €. -/
theorem check_verdicts_sample :
    ∃ verdicts, runCheck PairRng sampleConfig 2 = some (.ok (verdicts, false)) ∧
      ("lost device strands its balance",
        .error (Error.display (.holdingLimitExceeded 4000 2000))) ∈ verdicts ∧
      ("defunding round trip",
        .error (Error.display (.holdingLimitExceeded 3000 2000))) ∈ verdicts := by
  have h : (runCheck PairRng sampleConfig 2 = none ∧ Hangs PairRng sampleConfig 2) ∨ _ :=
    check_verdicts (by decide) (by decide) issuerKeys_generated
  obtain ⟨-, hHangs⟩ | ⟨verdicts, passed, hRun, -, -, hForty, hThirty⟩ := h
  · exact absurd hHangs (pair_returns rfl issuerKeys_generated)
  · obtain ⟨rfl, hLost⟩ := hForty (by decide)
    exact ⟨verdicts, hRun, hLost, hThirty (by decide)⟩

end Sample

end DigitalEuro
