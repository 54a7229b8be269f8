import DigitalEuro.Model.Acceptance
import DigitalEuro.Model.Args

/-!
# Digital euro — the harness as a whole (`main.rs`)

`main` reads its arguments, checks the settings, generates the Eurosystem's key and runs
the check, the fuzz run or both. What it prints and how long it takes are left out.

* `main_exits` — when it returns, when it panics, and with which arguments it succeeds.
-/

namespace DigitalEuro

inductive ExitCode where
  | success
  | failure
  deriving DecidableEq

/-- Why settings are not accepted. -/
def Settings.refusal? (settings : Settings) : Option String :=
  if settings.keyBits < 512 ∨ settings.keyBits % 2 ≠ 0 then
    some "--key-bits must be even and at least 512"
  else if settings.limit < 2000 then
    some "--limit must be at least 2000 cents (the scenarios pay up to 20 €)"
  else if settings.devices < 2 then
    some "--devices must be at least 2"
  else none

def Settings.config (settings : Settings) (issuerKey : Keypair) : Config where
  issuerKey
  keyBits := settings.keyBits
  seed := settings.seed
  limit := settings.limit
  devices := settings.devices
  ops := settings.ops

section Main

variable [Sha256] (R : Type) [StdRng R] (cfg : Config) (fuel : ℕ)

/-- Whether the check passes. -/
def checked : Option (Except HarnessPanic Bool) :=
  (runCheck R cfg fuel).map fun outcome => outcome.map Prod.snd

/-- Whether the fuzz run returns without a failure. -/
def fuzzed : Option (Except HarnessPanic Bool) :=
  (runFuzz (R := R) cfg fuel).map fun
    | .ok _ => .ok true
    | .error (.panicked panic) => .error panic
    | .error _ => .ok false

def runCommand : Command → Option (Except HarnessPanic Bool)
  | .check => checked R cfg fuel
  | .fuzz => fuzzed R cfg fuel
  | .all =>
    match checked R cfg fuel with
    | none => none
    | some (.error panic) => some (.error panic)
    | some (.ok ok) => (fuzzed R cfg fuel).map fun outcome => outcome.map (ok && ·)

def main (args : List String) : Option (Except HarnessPanic ExitCode) :=
  match readArgs .initial args with
  | .error .help => some (.ok .success)
  | .error (.error _) => some (.ok .failure)
  | .ok settings =>
    match settings.refusal? with
    | some _ => some (.ok .failure)
    | none =>
      match Keypair.generate settings.keyBits fuel (StdRng.seedFromU64 settings.seed : R) with
      | none => none
      | some (.error panic, _) => some (.error (.keygen panic))
      | some (.ok issuerKey, _) =>
        (runCommand R (settings.config issuerKey) fuel settings.command).map fun outcome =>
          outcome.map fun ok => if ok then .success else .failure

end Main

/-- What `main` goes on with. -/
theorem Settings.refusal?_eq_none_iff {settings : Settings} :
    settings.refusal? = none ↔ (512 ≤ settings.keyBits ∧ settings.keyBits % 2 = 0) ∧
      2000 ≤ settings.limit ∧ 2 ≤ settings.devices := by
  unfold refusal?
  constructor
  · intro h
    split_ifs at h with hBits hLimit hDevices
    obtain ⟨hSize, hEven⟩ := not_or.mp hBits
    exact ⟨⟨UInt64.not_lt.mp hSize, of_not_not hEven⟩, UInt64.not_lt.mp hLimit,
      UInt64.not_lt.mp hDevices⟩
  · rintro ⟨⟨hSize, hEven⟩, hLimit, hDevices⟩
    rw [if_neg (not_or.mpr ⟨UInt64.not_lt.mpr hSize, not_not.mpr hEven⟩),
      if_neg (UInt64.not_lt.mpr hLimit), if_neg (UInt64.not_lt.mpr hDevices)]

theorem Settings.accepted_iff {settings : Settings} (issuerKey : Keypair) :
    (settings.config issuerKey).Accepted ↔ settings.refusal? = none := by
  rw [refusal?_eq_none_iff]
  exact ⟨fun h => ⟨⟨h.size, h.even⟩, h.limit, h.devices⟩, fun h => ⟨h.1.1, h.1.2, h.2.1, h.2.2⟩⟩

-- ---------------------------------------------------------------------------
-- What the commands say
-- ---------------------------------------------------------------------------

section Commands

variable [Sha256] {R : Type} [StdRng R] {cfg : Config} {fuel : ℕ}

/-- A command passes when all that it runs goes through. -/
structure Passes (R : Type) [StdRng R] (cfg : Config) (fuel : ℕ) (command : Command) : Prop where
  check : command ≠ .fuzz → ∀ scenario ∈ scenarios R cfg fuel, scenario.2.run = some (.ok ())
  fuzz : command ≠ .check → ∃ ended, runFuzz (R := R) cfg fuel = some (.ok ended)

/-- What keeps a command from returning: the keys that its worlds need. -/
def Stalls (R : Type) [StdRng R] (cfg : Config) (fuel : ℕ) (command : Command) : Prop :=
  (command ≠ .fuzz ∧ Hangs R cfg fuel) ∨ (command ≠ .check ∧ fuzzWorld (R := R) cfg fuel = none)

variable (hAccepted : cfg.Accepted) (hIssuer : cfg.issuerKey.Generated)

include hAccepted hIssuer

theorem checked_spec :
    (checked R cfg fuel = none ∧ Hangs R cfg fuel) ∨
      ∃ ok, checked R cfg fuel = some (.ok ok) ∧
        (ok = true ↔ ∀ scenario ∈ scenarios R cfg fuel, scenario.2.run = some (.ok ())) ∧
        (ok = true → 4000 ≤ cfg.limit) := by
  have hVerdicts : (runCheck R cfg fuel = none ∧ _) ∨ _ :=
    check_verdicts hAccepted.size hAccepted.even hIssuer
  rcases hVerdicts with
    ⟨hNone, hHangs⟩ | ⟨verdicts, passed, hRun, -, hPassed, hForty, -⟩
  · exact .inl ⟨by rw [checked, hNone]; rfl, hHangs⟩
  · refine .inr ⟨passed, by rw [checked, hRun]; rfl, hPassed, fun hOk => ?_⟩
    rw [← UInt64.not_lt]
    intro hBelow
    exact absurd ((hForty hBelow).1.symm.trans hOk) Bool.false_ne_true

/-- What the fuzz run returns; the only panic is that of a vector that is too long. -/
theorem fuzzed_spec :
    (fuzzed R cfg fuel = none ∧ fuzzWorld (R := R) cfg fuel = none) ∨
      (fuzzed R cfg fuel = some (.error .capacity) ∧ cfg.Overlong) ∨
      ∃ ok, fuzzed R cfg fuel = some (.ok ok) ∧
        (ok = true ↔ ∃ ended, runFuzz (R := R) cfg fuel = some (.ok ended)) := by
  cases hRun : runFuzz (R := R) cfg fuel with
  | none =>
    refine .inl ⟨by rw [fuzzed, hRun]; rfl, ?_⟩
    rw [runFuzz] at hRun
    split at hRun
    next hWorld => exact hWorld
    next => cases hRun
    next => cases hRun
  | some outcome =>
    right
    rcases outcome with stop | ended
    · have hStopped : fuzzed R cfg fuel = some (.error .capacity) ∧ cfg.Overlong ∨
          fuzzed R cfg fuel = some (.ok false) := by
        rw [fuzzed, hRun]
        cases stop with
        | panicked panic =>
          obtain ⟨rfl, hOverlong⟩ := runFuzz_quiet hAccepted hIssuer hRun
          exact .inl ⟨rfl, hOverlong⟩
        | changedState step kind error => exact .inr rfl
        | violated step kind violation => exact .inr rfl
      refine hStopped.imp id fun hFailed => ⟨false, hFailed, iff_of_false Bool.false_ne_true ?_⟩
      rintro ⟨ended, hEnded⟩
      exact absurd hEnded (by simp)
    · exact .inr ⟨true, by rw [fuzzed, hRun]; rfl, iff_of_true rfl ⟨ended, rfl⟩⟩

/-- What a command returns tells whether it passes. -/
theorem runCommand_spec (command : Command) :
    (runCommand R cfg fuel command = none ∧ Stalls R cfg fuel command) ∨
      (runCommand R cfg fuel command = some (.error .capacity) ∧ command ≠ .check ∧
        cfg.Overlong) ∨
      ∃ ok, runCommand R cfg fuel command = some (.ok ok) ∧
        (ok = true ↔ Passes R cfg fuel command) ∧
        (ok = true → command = .fuzz ∨ 4000 ≤ cfg.limit) := by
  have hCheck : (checked R cfg fuel = none ∧ _) ∨ _ := checked_spec hAccepted hIssuer
  have hFuzz : (fuzzed R cfg fuel = none ∧ _) ∨ _ := fuzzed_spec hAccepted hIssuer
  cases command with
  | check =>
    rcases hCheck with ⟨hNone, hHangs⟩ | ⟨ok, hRun, hOk, hLimit⟩
    · exact .inl ⟨hNone, .inl ⟨by decide, hHangs⟩⟩
    · refine .inr (.inr ⟨ok, hRun, hOk.trans ⟨fun h => ⟨fun _ => h, ?_⟩, fun h => h.check ?_⟩,
        fun h => .inr (hLimit h)⟩)
      · exact fun h => absurd rfl h
      · decide
  | fuzz =>
    rcases hFuzz with ⟨hNone, hWorld⟩ | ⟨hPanic, hOverlong⟩ | ⟨ok, hRun, hOk⟩
    · exact .inl ⟨hNone, .inr ⟨by decide, hWorld⟩⟩
    · exact .inr (.inl ⟨hPanic, by decide, hOverlong⟩)
    · refine .inr (.inr ⟨ok, hRun, hOk.trans ⟨fun h => ⟨?_, fun _ => h⟩, fun h => h.fuzz ?_⟩,
        fun _ => .inl rfl⟩)
      · exact fun h => absurd rfl h
      · decide
  | all =>
    rw [runCommand]
    rcases hCheck with ⟨hNone, hHangs⟩ | ⟨checkOk, hChecked, hCheckOk, hLimit⟩
    · rw [hNone]
      exact .inl ⟨rfl, .inl ⟨by decide, hHangs⟩⟩
    rw [hChecked]
    rcases hFuzz with ⟨hNone, hWorld⟩ | ⟨hPanic, hOverlong⟩ | ⟨fuzzOk, hFuzzed, hFuzzOk⟩
    · rw [hNone]
      exact .inl ⟨rfl, .inr ⟨by decide, hWorld⟩⟩
    · rw [hPanic]
      exact .inr (.inl ⟨rfl, by decide, hOverlong⟩)
    rw [hFuzzed]
    refine .inr (.inr ⟨checkOk && fuzzOk, rfl, ?_, fun hOk => ?_⟩)
    · rw [Bool.and_eq_true, hCheckOk, hFuzzOk]
      exact ⟨fun h => ⟨fun _ => h.1, fun _ => h.2⟩,
        fun h => ⟨h.check (by decide), h.fuzz (by decide)⟩⟩
    · exact .inr (hLimit (Bool.and_eq_true_iff.mp hOk).1)

end Commands

-- ---------------------------------------------------------------------------
-- The exit code
-- ---------------------------------------------------------------------------

section Exits

variable [Sha256] {R : Type} [StdRng R] {fuel : ℕ} {args : List String}

/-- What can keep `main` from exiting: the Eurosystem's key, and those of the worlds that
its command sets up. -/
def Waits (R : Type) [StdRng R] (fuel : ℕ) (settings : Settings) : Prop :=
  let keys := Keypair.generate settings.keyBits fuel (StdRng.seedFromU64 settings.seed : R)
  keys = none ∨ ∃ issuerKey rng, keys = some (.ok issuerKey, rng) ∧
    Stalls R (settings.config issuerKey) fuel settings.command

/-- **How the harness exits.** When the Eurosystem's modulus is a product of two primes, it
exits unless the keys its command needs are not found, and the only panic is that of a fuzz
run over 2^60 devices or more, whose opening balances make too long a vector. It succeeds
when it is asked for help, and when the settings are accepted and what the command runs goes
through. That takes a limit of 40 € for any command but `fuzz`, although 20 € are
accepted. -/
theorem main_exits
    (hPrimes : ∀ settings keypair rng, readArgs .initial args = .ok settings →
      Keypair.generate settings.keyBits fuel (StdRng.seedFromU64 settings.seed : R) =
        some (.ok keypair, rng) →
      ∃ p q, p.Prime ∧ q.Prime ∧ keypair.publicKey.n = p * q) :
    (main R fuel args = none ∧
      ∃ settings, readArgs .initial args = .ok settings ∧ Waits R fuel settings) ∨
    (main R fuel args = some (.error .capacity) ∧
      ∃ settings, readArgs .initial args = .ok settings ∧ settings.command ≠ .check ∧
        2 ^ 63 ≤ 8 * settings.devices.toNat) ∨
    ∃ code, main R fuel args = some (.ok code) ∧
      (code = .success ↔ readArgs .initial args = .error .help ∨
        ∃ settings issuerKey rng, readArgs .initial args = .ok settings ∧
          Keypair.generate settings.keyBits fuel (StdRng.seedFromU64 settings.seed : R) =
            some (.ok issuerKey, rng) ∧
          (settings.config issuerKey).Accepted ∧
          Passes R (settings.config issuerKey) fuel settings.command) ∧
      (code = .success → ∀ settings, readArgs .initial args = .ok settings →
        settings.command = .fuzz ∨ 4000 ≤ settings.limit) := by
  cases hRead : readArgs .initial args with
  | error early =>
    right
    right
    cases early with
    | help =>
      exact ⟨.success, by rw [main, hRead], iff_of_true rfl (.inl rfl),
        fun _ _ h => absurd h (by simp)⟩
    | error why =>
      refine ⟨.failure, by rw [main, hRead], iff_of_false (by decide) ?_,
        fun _ _ h => absurd h (by simp)⟩
      rintro (h | ⟨settings, _, _, h, -⟩)
      · exact absurd h (by simp)
      · exact absurd h (by simp)
  | ok settings =>
    cases hRefusal : settings.refusal? with
    | some why =>
      refine .inr (.inr ⟨.failure, by rw [main, hRead]; dsimp only; rw [hRefusal],
        iff_of_false (by decide) ?_, fun h => absurd h (by decide)⟩)
      rintro (h | ⟨_, issuerKey, _, h, -, hAccepted, -⟩)
      · exact absurd h (by simp)
      · obtain rfl := Except.ok.inj h
        exact absurd (hRefusal.symm.trans ((Settings.accepted_iff issuerKey).mp hAccepted))
          (by simp)
    | none =>
      cases hKeys : Keypair.generate settings.keyBits fuel
          (StdRng.seedFromU64 settings.seed : R) with
      | none =>
        refine .inl ⟨?_, settings, rfl, .inl hKeys⟩
        rw [main, hRead]
        dsimp only
        rw [hRefusal, hKeys]
      | some returned =>
        obtain ⟨result, rng⟩ := returned
        have hAccepted (issuerKey : Keypair) : (settings.config issuerKey).Accepted :=
          (Settings.accepted_iff issuerKey).mpr hRefusal
        obtain ⟨⟨hSize, hEven⟩, -⟩ := Settings.refusal?_eq_none_iff.mp hRefusal
        obtain ⟨issuerKey, _, _, rfl, -⟩ := generate_spec hSize hEven hKeys
        have hIssuer : (settings.config issuerKey).issuerKey.Generated :=
          System.generated_of_primes hSize hEven hKeys
            (hPrimes settings issuerKey rng hRead hKeys)
        have hMain : main R fuel args =
            (runCommand R (settings.config issuerKey) fuel settings.command).map fun outcome =>
              outcome.map fun ok => if ok then .success else .failure := by
          rw [main, hRead]
          dsimp only
          rw [hRefusal, hKeys]
        have hRun : (runCommand R (settings.config issuerKey) fuel settings.command = none ∧ _) ∨
            _ := runCommand_spec (hAccepted issuerKey) hIssuer settings.command
        rcases hRun with ⟨hNone, hStalls⟩ | ⟨hPanic, hCommand, hOverlong⟩ | ⟨ok, hRun, hOk, hLimit⟩
        · exact .inl ⟨by rw [hMain, hNone]; rfl, settings, rfl,
            .inr ⟨issuerKey, rng, hKeys, hStalls⟩⟩
        · exact .inr (.inl ⟨by rw [hMain, hPanic]; rfl, settings, rfl, hCommand, hOverlong⟩)
        have hCode : (if ok then ExitCode.success else .failure) = .success ↔ ok = true := by
          cases ok <;> decide
        refine .inr (.inr ⟨if ok then .success else .failure, by rw [hMain, hRun]; rfl, ?_, ?_⟩)
        · rw [hCode, hOk]
          constructor
          · exact fun hPasses =>
              .inr ⟨settings, issuerKey, rng, rfl, hKeys, hAccepted issuerKey, hPasses⟩
          · rintro (h | ⟨_, _, _, h, hSame, -, hPasses⟩)
            · exact absurd h (by simp)
            · obtain rfl := Except.ok.inj h
              obtain ⟨hKey, -⟩ := Prod.mk.inj (Option.some.inj (hKeys.symm.trans hSame))
              obtain rfl := Except.ok.inj hKey
              exact hPasses
        · intro hSuccess _ h
          obtain rfl := Except.ok.inj h
          exact hLimit (hCode.mp hSuccess)

end Exits

section Sample

open scoped Fips

/-- A limit of 25 € is accepted, and the check fails. -/
theorem main_exits_sample :
    main PairRng 2 ["--limit", "2500", "--key-bits", "512"] = some (.ok .failure) := by
  let settings : Settings := { Settings.initial with keyBits := 512, limit := 2500 }
  have hRead : readArgs .initial ["--limit", "2500", "--key-bits", "512"] = .ok settings := rfl
  have hKeys : Keypair.generate settings.keyBits 2
      (StdRng.seedFromU64 settings.seed : PairRng) = some (.ok aliceKeys, ⟨false, 0⟩) :=
    PairRng.generate_eq 0
  have hAlice := aliceKeys_generatedFrom
  have hExits : (main PairRng 2 ["--limit", "2500", "--key-bits", "512"] = none ∧ _) ∨ _ :=
    main_exits fun settings' keypair rng hRead' hKeys' => by
      obtain rfl := Except.ok.inj (hRead.symm.trans hRead')
      obtain ⟨hKey, -⟩ := Prod.mk.inj (Option.some.inj (hKeys.symm.trans hKeys'))
      obtain rfl := Except.ok.inj hKey
      exact ⟨_, _, hAlice.p_generated.prime, hAlice.q_generated.prime, rfl⟩
  rcases hExits with ⟨-, settings', hRead', hNone | ⟨issuerKey, rng, hKeys', hStalls⟩⟩ |
    ⟨-, settings', hRead', hCommand, -⟩ | ⟨code, hMain, -, hLimit⟩
  · obtain rfl := Except.ok.inj (hRead.symm.trans hRead')
    exact absurd (hKeys.symm.trans hNone) (by simp)
  · obtain rfl := Except.ok.inj (hRead.symm.trans hRead')
    obtain ⟨hKey, -⟩ := Prod.mk.inj (Option.some.inj (hKeys.symm.trans hKeys'))
    obtain rfl := Except.ok.inj hKey
    rcases hStalls with ⟨-, hHangs⟩ | ⟨hFuzz, -⟩
    · exact absurd hHangs (pair_returns rfl ⟨512, _, _, hAlice⟩)
    · exact absurd rfl hFuzz
  · obtain rfl := Except.ok.inj (hRead.symm.trans hRead')
    exact absurd rfl hCommand
  · cases code with
    | failure => exact hMain
    | success =>
      rcases hLimit rfl settings hRead with hFuzz | hForty
      · exact absurd hFuzz (by decide)
      · exact absurd hForty (by decide)

end Sample

end DigitalEuro
