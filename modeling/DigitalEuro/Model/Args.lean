import DigitalEuro.Model.Fuzz

/-!
# Digital euro — the command line (`main.rs`)

`main` reads its arguments from left to right into a command and five numbers, and stops
at the first one it cannot read. What an argument list means is written down beside it as
a grammar.

* `parseU64_eq_some_iff` — which texts are numbers;
* `readArgs_spec` — what is read is what is spelled, and what stops it is the first
  argument that does not belong.
-/

namespace DigitalEuro

-- ---------------------------------------------------------------------------
-- Numbers
-- ---------------------------------------------------------------------------

def parseDigits : ℕ → List Char → Option UInt64
  | n, [] => some (.ofNat n)
  | n, digit :: rest =>
    if digit.isDigit then
      let next := 10 * n + (digit.toNat - '0'.toNat)
      if next < 2 ^ 64 then parseDigits next rest else none
    else none

/-- `str::parse` of a `u64`, which takes a plus sign but no other. -/
def parseU64 (raw : String) : Option UInt64 :=
  match raw.toList with
  | [] => none
  | '+' :: digits => if digits = [] then none else parseDigits 0 digits
  | digits => parseDigits 0 digits

theorem le_ofDigitChars (digits : List Char) : ∀ n, n ≤ Nat.ofDigitChars 10 digits n := by
  induction digits with
  | nil =>
    intro n
    rw [Nat.ofDigitChars_nil]
  | cons digit rest ih =>
    intro n
    rw [Nat.ofDigitChars_cons]
    exact le_trans (by omega) (ih _)

/-- The digits read so far are the leading ones of the number. -/
theorem parseDigits_eq_some_iff {digits : List Char} {m : UInt64} : ∀ {n : ℕ}, n < 2 ^ 64 →
    (parseDigits n digits = some m ↔
      (∀ digit ∈ digits, digit.isDigit = true) ∧ Nat.ofDigitChars 10 digits n = m.toNat) := by
  induction digits with
  | nil =>
    intro n hn
    rw [parseDigits, Nat.ofDigitChars_nil, Option.some.injEq]
    constructor
    · rintro rfl
      exact ⟨fun _ h => absurd h List.not_mem_nil, (UInt64.toNat_ofNat_of_lt' hn).symm⟩
    · rintro ⟨-, rfl⟩
      exact UInt64.ofNat_toNat
  | cons digit rest ih =>
    intro n hn
    rw [parseDigits, Nat.ofDigitChars_cons, List.forall_mem_cons]
    by_cases hDigit : digit.isDigit = true
    · rw [if_pos hDigit]
      dsimp only
      by_cases hNext : 10 * n + (digit.toNat - '0'.toNat) < 2 ^ 64
      · rw [if_pos hNext, ih hNext, and_iff_right hDigit]
      · -- what has overflowed stays too large
        have hLe := le_ofDigitChars rest (10 * n + (digit.toNat - '0'.toNat))
        have hBound := m.toNat_lt
        rw [if_neg hNext]
        refine iff_of_false (Option.some_ne_none m).symm ?_
        rintro ⟨-, hValue⟩
        omega
    · rw [if_neg hDigit]
      exact iff_of_false (Option.some_ne_none m).symm fun h => hDigit h.1.1

/-- A text that stands for a number: one or more digits, with a plus sign or none before
them. -/
def Numeral (raw : String) (m : UInt64) : Prop :=
  ∃ digits, (raw.toList = digits ∨ raw.toList = '+' :: digits) ∧ digits ≠ [] ∧
    (∀ digit ∈ digits, digit.isDigit = true) ∧ Nat.ofDigitChars 10 digits 0 = m.toNat

/-- **The texts that are parsed are the numerals** whose value fits a `u64`. -/
theorem parseU64_eq_some_iff {raw : String} {m : UInt64} :
    parseU64 raw = some m ↔ Numeral raw m := by
  have hDigits := fun digits : List Char =>
    @parseDigits_eq_some_iff digits m 0 (by decide)
  rw [parseU64]
  split
  next hNil =>
    refine iff_of_false (Option.some_ne_none m).symm ?_
    rintro ⟨digits, hDigits | hPlus, hSome, -⟩
    · exact hSome (hDigits.symm.trans hNil)
    · exact absurd (hNil.symm.trans hPlus) (by simp)
  next digits hPlus =>
    constructor
    · intro h
      split at h
      next => cases h
      next hSome => exact ⟨digits, .inr hPlus, hSome, (hDigits digits).mp h⟩
    · rintro ⟨digits', hSame | hSame, hSome, hAll, hValue⟩
      · -- a plus sign is not a digit
        rw [← hSame, hPlus] at hAll
        exact absurd (hAll '+' List.mem_cons_self) (by decide)
      · obtain rfl := (List.cons.inj (hPlus.symm.trans hSame)).2
        rw [if_neg hSome]
        exact (hDigits digits).mpr ⟨hAll, hValue⟩
  next hSome hPlus =>
    constructor
    · intro h
      exact ⟨raw.toList, .inl rfl, hSome, (hDigits _).mp h⟩
    · rintro ⟨digits, rfl | hSame, -, hRest⟩
      · exact (hDigits _).mpr hRest
      · exact absurd hSame (hPlus digits)

theorem parseU64_eq_none_iff {raw : String} :
    parseU64 raw = none ↔ ∀ m, ¬ Numeral raw m := by
  rw [Option.eq_none_iff_forall_ne_some]
  exact forall_congr' fun m => not_congr parseU64_eq_some_iff

-- ---------------------------------------------------------------------------
-- Arguments
-- ---------------------------------------------------------------------------

inductive Command where
  | check
  | fuzz
  | all
  deriving DecidableEq

/-- The options that take a number. -/
inductive Setting where
  | seed
  | keyBits
  | limit
  | devices
  | ops
  deriving DecidableEq

def Command.text : Command → String
  | .check => "check"
  | .fuzz => "fuzz"
  | .all => "all"

def Setting.text : Setting → String
  | .seed => "--seed"
  | .keyBits => "--key-bits"
  | .limit => "--limit"
  | .devices => "--devices"
  | .ops => "--ops"

/-- What an argument asks for. -/
inductive Arg where
  | help
  | command (command : Command)
  | setting (setting : Setting)
  | other

def Arg.ofString : String → Arg
  | "-h" | "--help" => .help
  | "check" => .command .check
  | "fuzz" => .command .fuzz
  | "all" => .command .all
  | "--seed" => .setting .seed
  | "--key-bits" => .setting .keyBits
  | "--limit" => .setting .limit
  | "--devices" => .setting .devices
  | "--ops" => .setting .ops
  | _ => .other

/-- The variables of `main`. `usize` is `UInt64`. -/
structure Settings where
  command : Command
  seed : UInt64
  keyBits : UInt64
  limit : UInt64
  devices : UInt64
  ops : UInt64

def Settings.initial : Settings where
  command := .check
  seed := 2026
  keyBits := 2048
  limit := 50000
  devices := 6
  ops := 400

def Settings.set (settings : Settings) (parsed : UInt64) : Setting → Settings
  | .seed => { settings with seed := parsed }
  | .keyBits => { settings with keyBits := parsed }
  | .limit => { settings with limit := parsed }
  | .devices => { settings with devices := parsed }
  | .ops => { settings with ops := parsed }

/-- How reading ends before the arguments do: the help text, or an error. -/
inductive Early where
  | help
  | error (why : String)

def readArgs (settings : Settings) : List String → Except Early Settings
  | [] => .ok settings
  | arg :: rest =>
    match Arg.ofString arg with
    | .help => .error .help
    | .command command => readArgs { settings with command } rest
    | .setting setting =>
      match rest with
      | [] => .error (.error (arg ++ " needs a value"))
      | raw :: rest =>
        match parseU64 raw with
        | none => .error (.error (arg ++ " expects a number, got '" ++ raw ++ "'"))
        | some parsed => readArgs (settings.set parsed setting) rest
    | .other => .error (.error ("unrecognised argument '" ++ arg ++ "'"))

-- ---------------------------------------------------------------------------
-- What an argument list means
-- ---------------------------------------------------------------------------

@[simp] theorem Arg.ofString_command (command : Command) :
    ofString command.text = .command command := by
  cases command <;> rfl

@[simp] theorem Arg.ofString_setting (setting : Setting) :
    ofString setting.text = .setting setting := by
  cases setting <;> rfl

theorem Arg.eq_command {arg : String} {command : Command} (h : ofString arg = .command command) :
    arg = command.text := by
  unfold ofString at h
  split at h <;> cases h <;> rfl

theorem Arg.eq_setting {arg : String} {setting : Setting} (h : ofString arg = .setting setting) :
    arg = setting.text := by
  unfold ofString at h
  split at h <;> cases h <;> rfl

theorem Arg.ofString_help_iff {arg : String} :
    ofString arg = .help ↔ arg = "-h" ∨ arg = "--help" := by
  constructor
  · intro h
    unfold ofString at h
    split at h <;> cases h
    · exact .inl rfl
    · exact .inr rfl
  · rintro (rfl | rfl) <;> rfl

/-- A command, or an option with its number. -/
inductive Item where
  | command (command : Command)
  | setting (setting : Setting) (parsed : UInt64)

/-- The arguments that spell an item. -/
inductive Item.Spelled : Item → List String → Prop
  | command (command : Command) : Spelled (.command command) [command.text]
  | setting (setting : Setting) {raw : String} {parsed : UInt64} :
    Numeral raw parsed → Spelled (.setting setting parsed) [setting.text, raw]

/-- The argument lists that spell a list of items. -/
inductive Spelled : List Item → List String → Prop
  | nil : Spelled [] []
  | cons {item : Item} {items : List Item} {words args : List String} :
    item.Spelled words → Spelled items args → Spelled (item :: items) (words ++ args)

/-- What stops the reading at the first of some arguments. -/
inductive Stops : List String → Early → Prop
  | help {arg : String} (rest : List String) : arg = "-h" ∨ arg = "--help" →
    Stops (arg :: rest) .help
  | noValue (setting : Setting) : Stops [setting.text] (.error (setting.text ++ " needs a value"))
  | notNumber (setting : Setting) {raw : String} (rest : List String) :
    (∀ parsed, ¬ Numeral raw parsed) → Stops (setting.text :: raw :: rest)
      (.error (setting.text ++ " expects a number, got '" ++ raw ++ "'"))
  | unrecognised {arg : String} (rest : List String) : arg ≠ "-h" → arg ≠ "--help" →
    (∀ command : Command, arg ≠ command.text) → (∀ setting : Setting, arg ≠ setting.text) →
    Stops (arg :: rest) (.error ("unrecognised argument '" ++ arg ++ "'"))

def Item.apply (settings : Settings) : Item → Settings
  | .command asked => { settings with command := asked }
  | .setting option parsed => settings.set parsed option

/-- What is read of an item and what follows it. -/
theorem readArgs_spelled {item : Item} {words : List String} (h : item.Spelled words)
    (settings : Settings) (args : List String) :
    readArgs settings (words ++ args) = readArgs (item.apply settings) args := by
  cases h with
  | command command =>
    rw [List.singleton_append, readArgs, Arg.ofString_command]
    rfl
  | setting setting hRaw =>
    rw [List.cons_append, List.singleton_append, readArgs, Arg.ofString_setting]
    dsimp only
    rw [parseU64_eq_some_iff.mpr hRaw]
    rfl

theorem readArgs_items {items : List Item} {args : List String} (h : Spelled items args) :
    ∀ (settings : Settings) (after : List String),
      readArgs settings (args ++ after) = readArgs (items.foldl Item.apply settings) after := by
  induction h with
  | nil =>
    intro settings after
    rfl
  | cons hItem _ ih =>
    intro settings after
    rw [List.append_assoc, readArgs_spelled hItem, ih]
    rfl

theorem readArgs_stops {args : List String} {early : Early} (h : Stops args early)
    (settings : Settings) : readArgs settings args = .error early := by
  cases h with
  | help rest hHelp => rw [readArgs, Arg.ofString_help_iff.mpr hHelp]
  | noValue setting =>
    rw [readArgs, Arg.ofString_setting]
  | notNumber setting rest hRaw =>
    rw [readArgs, Arg.ofString_setting]
    dsimp only
    rw [parseU64_eq_none_iff.mpr hRaw]
  | unrecognised rest hShort hLong hCommand hSetting =>
    rw [readArgs]
    split
    next h => exact absurd (Arg.ofString_help_iff.mp h) (not_or.mpr ⟨hShort, hLong⟩)
    next command h => exact absurd (Arg.eq_command h) (hCommand command)
    next setting h => exact absurd (Arg.eq_setting h) (hSetting setting)
    next => rfl

/-- Every argument list spells items up to its end, or up to something that stops it. -/
theorem spelled_or_stops (args : List String) :
    (∃ items, Spelled items args) ∨
      ∃ items before after early, args = before ++ after ∧ Spelled items before ∧
        Stops after early := by
  -- an option with its number takes two arguments
  induction hLength : args.length using Nat.strong_induction_on generalizing args with
  | _ length ih =>
    subst hLength
    have hMore {item : Item} {words rest : List String} (hItem : item.Spelled words)
        (hArgs : args = words ++ rest) (hWords : words ≠ []) :
        (∃ items, Spelled items args) ∨
          ∃ items before after early, args = before ++ after ∧ Spelled items before ∧
            Stops after early := by
      have hShorter : rest.length < args.length := by
        rw [hArgs, List.length_append]
        exact Nat.lt_add_of_pos_left (List.length_pos_iff.mpr hWords)
      rcases ih _ hShorter rest rfl with ⟨items, h⟩ | ⟨items, before, after, early, rfl, h, hStops⟩
      · exact .inl ⟨_ :: items, hArgs ▸ Spelled.cons hItem h⟩
      · exact .inr ⟨_ :: items, words ++ before, after, early, by rw [hArgs, List.append_assoc],
          .cons hItem h, hStops⟩
    cases args with
    | nil => exact .inl ⟨[], .nil⟩
    | cons arg rest =>
      have hNow {early : Early} (hStops : Stops (arg :: rest) early) :
          ∃ items before after early, arg :: rest = before ++ after ∧ Spelled items before ∧
            Stops after early :=
        ⟨[], [], _, early, rfl, .nil, hStops⟩
      cases hArg : Arg.ofString arg with
      | help => exact .inr (hNow (.help rest (Arg.ofString_help_iff.mp hArg)))
      | command command =>
        obtain rfl := Arg.eq_command hArg
        exact hMore (.command command) rfl (List.cons_ne_nil _ _)
      | setting setting =>
        obtain rfl := Arg.eq_setting hArg
        cases rest with
        | nil => exact .inr (hNow (.noValue setting))
        | cons raw rest =>
          cases hRaw : parseU64 raw with
          | none => exact .inr (hNow (.notNumber setting rest (parseU64_eq_none_iff.mp hRaw)))
          | some parsed =>
            exact hMore (.setting setting (parseU64_eq_some_iff.mp hRaw)) rfl
              (List.cons_ne_nil _ _)
      | other =>
        have hNothing {asked : Arg} (h : Arg.ofString arg = asked) : asked = .other :=
          h.symm.trans hArg
        refine .inr (hNow (.unrecognised rest (fun h => ?_) (fun h => ?_) (fun command h => ?_)
          fun setting h => ?_))
        · exact absurd (hNothing (Arg.ofString_help_iff.mpr (.inl h))) (by simp)
        · exact absurd (hNothing (Arg.ofString_help_iff.mpr (.inr h))) (by simp)
        · subst h
          exact absurd (hNothing (Arg.ofString_command command)) (by simp)
        · subst h
          exact absurd (hNothing (Arg.ofString_setting setting)) (by simp)

-- ---------------------------------------------------------------------------
-- The last one counts
-- ---------------------------------------------------------------------------

def Settings.get (settings : Settings) : Setting → UInt64
  | .seed => settings.seed
  | .keyBits => settings.keyBits
  | .limit => settings.limit
  | .devices => settings.devices
  | .ops => settings.ops

/-- The command an item gives. -/
def Item.command? : Item → Option Command
  | .command asked => some asked
  | .setting .. => none

/-- The number an item gives for an option. -/
def Item.value? (wanted : Setting) : Item → Option UInt64
  | .command _ => none
  | .setting option parsed => if option = wanted then some parsed else none

theorem Settings.get_set (settings : Settings) (parsed : UInt64) (setting wanted : Setting) :
    (settings.set parsed setting).get wanted =
      if setting = wanted then parsed else settings.get wanted := by
  cases setting <;> cases wanted <;> rfl

/-- Each item overrides what stood there. -/
theorem getLast?_filterMap_cons {α β : Type} (f : α → Option β) (a : α) (l : List α) (b : β) :
    (((a :: l).filterMap f).getLast?).getD b = ((l.filterMap f).getLast?).getD ((f a).getD b) := by
  cases h : f a with
  | none => rw [List.filterMap_cons_none h, Option.getD_none]
  | some x =>
    rw [List.filterMap_cons_some h, Option.getD_some, List.getLast?_cons, Option.getD_some]

theorem command_of_items (items : List Item) : ∀ settings : Settings,
    (items.foldl Item.apply settings).command =
      ((items.filterMap Item.command?).getLast?).getD settings.command := by
  induction items with
  | nil =>
    intro settings
    rfl
  | cons item items ih =>
    intro settings
    rw [List.foldl_cons, ih, getLast?_filterMap_cons]
    cases item with
    | command asked => rfl
    | setting option parsed => cases option <;> rfl

theorem get_of_items (wanted : Setting) (items : List Item) : ∀ settings : Settings,
    (items.foldl Item.apply settings).get wanted =
      ((items.filterMap (Item.value? wanted)).getLast?).getD (settings.get wanted) := by
  induction items with
  | nil =>
    intro settings
    rfl
  | cons item items ih =>
    intro settings
    rw [List.foldl_cons, ih, getLast?_filterMap_cons]
    congr 1
    cases item with
    | command asked => cases wanted <;> rfl
    | setting option parsed =>
      rw [Item.apply, Settings.get_set, Item.value?]
      split <;> rfl

theorem Settings.eq_of_get {settings settings' : Settings}
    (hCommand : settings.command = settings'.command)
    (hGet : ∀ wanted, settings.get wanted = settings'.get wanted) : settings = settings' := by
  obtain ⟨command, seed, keyBits, limit, devices, ops⟩ := settings
  obtain rfl : command = _ := hCommand
  obtain rfl : seed = _ := hGet .seed
  obtain rfl : keyBits = _ := hGet .keyBits
  obtain rfl : limit = _ := hGet .limit
  obtain rfl : devices = _ := hGet .devices
  obtain rfl : ops = _ := hGet .ops
  rfl

/-- **What is read is what is spelled.** Reading succeeds on the lists that spell items,
with numerals for the numbers, and on no others. It gives the last command and for each
option the last number, or what stood there before. It fails with what stops it at the
first argument after the items. -/
theorem readArgs_spec (settings : Settings) (args : List String) :
    (∀ settings', readArgs settings args = .ok settings' ↔
      ∃ items, Spelled items args ∧
        settings'.command =
          ((items.filterMap Item.command?).getLast?).getD settings.command ∧
        ∀ wanted, settings'.get wanted =
          ((items.filterMap (Item.value? wanted)).getLast?).getD (settings.get wanted)) ∧
    (∀ early, readArgs settings args = .error early ↔
      ∃ items before after, args = before ++ after ∧ Spelled items before ∧ Stops after early) := by
  have hSpelled {items : List Item} (h : Spelled items args) :
      readArgs settings args = .ok (items.foldl Item.apply settings) := by
    rw [← List.append_nil args, readArgs_items h, readArgs]
  have hStopped {items : List Item} {before after : List String} {early : Early}
      (hArgs : args = before ++ after) (h : Spelled items before) (hStops : Stops after early) :
      readArgs settings args = .error early := by
    rw [hArgs, readArgs_items h, readArgs_stops hStops]
  refine ⟨fun settings' => ⟨fun h => ?_, ?_⟩, fun early => ⟨fun h => ?_, ?_⟩⟩
  · rcases spelled_or_stops args with ⟨items, hItems⟩ | ⟨_, _, _, _, hArgs, hItems, hStops⟩
    · obtain rfl := Except.ok.inj (h.symm.trans (hSpelled hItems))
      exact ⟨items, hItems, command_of_items items settings,
        fun wanted => get_of_items wanted items settings⟩
    · exact absurd (h.symm.trans (hStopped hArgs hItems hStops)) (by simp)
  · rintro ⟨items, hItems, hCommand, hGet⟩
    rw [hSpelled hItems]
    refine congrArg Except.ok (Settings.eq_of_get ?_ fun wanted => ?_)
    · rw [command_of_items, hCommand]
    · rw [get_of_items, hGet]
  · rcases spelled_or_stops args with ⟨items, hItems⟩ | ⟨items, _, _, _, hArgs, hItems, hStops⟩
    · exact absurd (h.symm.trans (hSpelled hItems)) (by simp)
    · obtain rfl := Except.error.inj (h.symm.trans (hStopped hArgs hItems hStops))
      exact ⟨items, _, _, hArgs, hItems, hStops⟩
  · rintro ⟨items, before, after, hArgs, hItems, hStops⟩
    exact hStopped hArgs hItems hStops

end DigitalEuro
