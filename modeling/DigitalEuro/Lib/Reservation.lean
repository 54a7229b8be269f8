import Mathlib

/-!
# Reservations read off a history

A table of reservations is a finite map that events insert into and erase from.
`held` reads what is held under a key directly off the history, newest event
first: the last event that touched the key decides.

* `lookup_apply` — a table that follows the events holds what the history says;
* `held_eq_some_iff` — something is held exactly when it was opened and nothing
  touched its key since;
* `held_of_opened` — what was opened under a key of its own is held until it is
  closed.
-/

namespace Reservation

variable {ε K V : Type*} [DecidableEq K]

/-- What an event does to a table of reservations. -/
inductive Effect (K V : Type*) where
  | opens (key : K) (value : V)
  | closes (key : K)
  | none

/-- The key an effect touches. -/
def Effect.touched : Effect K V → Option K
  | .opens key _ => some key
  | .closes key => some key
  | .none => Option.none

def Effect.apply (effect : Effect K V) (table : Finmap fun _ : K => V) : Finmap fun _ : K => V :=
  match effect with
  | .opens key value => table.insert key value
  | .closes key => table.erase key
  | .none => table

/-- What a history holds under a key. -/
def held (effect : ε → Effect K V) (key : K) : List ε → Option V
  | [] => Option.none
  | e :: older =>
    match effect e with
    | .opens key' value => if key' = key then some value else held effect key older
    | .closes key' => if key' = key then Option.none else held effect key older
    | .none => held effect key older

variable {effect : ε → Effect K V} {key : K} {value : V} {history : List ε}

theorem held_cons (e : ε) : held effect key (e :: history) =
    match effect e with
    | .opens key' value => if key' = key then some value else held effect key history
    | .closes key' => if key' = key then Option.none else held effect key history
    | .none => held effect key history := rfl

/-- Events that leave the key alone change nothing under it. -/
theorem held_cons_of_untouched {e : ε} (h : (effect e).touched ≠ some key) :
    held effect key (e :: history) = held effect key history := by
  rw [held_cons]
  cases hEffect : effect e with
  | opens key' value' =>
    rw [hEffect] at h
    exact if_neg fun hSame => h (congrArg some hSame)
  | closes key' =>
    rw [hEffect] at h
    exact if_neg fun hSame => h (congrArg some hSame)
  | none => rfl

/-- **A table that follows the events holds what the history says.** -/
theorem lookup_apply {table : Finmap fun _ : K => V} {e : ε}
    (h : table.lookup key = held effect key history) :
    ((effect e).apply table).lookup key = held effect key (e :: history) := by
  rw [held_cons]
  cases effect e with
  | opens key' value' =>
    show (table.insert key' value').lookup key =
      if key' = key then some value' else held effect key history
    by_cases hSame : key' = key
    · rw [if_pos hSame, hSame, Finmap.lookup_insert]
    · rw [if_neg hSame, Finmap.lookup_insert_of_ne _ (Ne.symm hSame), h]
  | closes key' =>
    show (table.erase key').lookup key =
      if key' = key then Option.none else held effect key history
    by_cases hSame : key' = key
    · rw [if_pos hSame, hSame, Finmap.lookup_erase]
    · rw [if_neg hSame, Finmap.lookup_erase_ne (Ne.symm hSame), h]
  | none => exact h

/-- **What is held was opened, and its key was left alone since.** -/
theorem held_eq_some_iff :
    held effect key history = some value ↔
      ∃ newer e older, history = newer ++ e :: older ∧ effect e = .opens key value ∧
        ∀ e' ∈ newer, (effect e').touched ≠ some key := by
  constructor
  · intro h
    induction history with
    | nil => exact absurd h (Option.some_ne_none value).symm
    | cons e older ih =>
      by_cases hTouched : (effect e).touched = some key
      · refine ⟨[], e, older, rfl, ?_, fun e' hMem => absurd hMem List.not_mem_nil⟩
        rw [held_cons] at h
        cases hEffect : effect e with
        | opens key' value' =>
          rw [hEffect] at h hTouched
          have hKey : key' = key := Option.some.inj hTouched
          simp only [hKey, if_true, Option.some.injEq] at h
          rw [hKey, h]
        | closes key' =>
          rw [hEffect] at h hTouched
          have hKey : key' = key := Option.some.inj hTouched
          simp only [hKey, if_true] at h
          exact absurd h (Option.some_ne_none value).symm
        | none =>
          rw [hEffect] at hTouched
          exact absurd hTouched (Option.some_ne_none key).symm
      · rw [held_cons_of_untouched hTouched] at h
        obtain ⟨newer, e', older', rfl, hOpens, hQuiet⟩ := ih h
        refine ⟨e :: newer, e', older', rfl, hOpens, fun x hMem => ?_⟩
        rcases List.mem_cons.mp hMem with rfl | hNewer
        · exact hTouched
        · exact hQuiet x hNewer
  · rintro ⟨newer, e, older, rfl, hOpens, hQuiet⟩
    induction newer with
    | nil =>
      show held effect key (e :: older) = some value
      simp only [held_cons, hOpens, if_true]
    | cons e' newer ih =>
      show held effect key (e' :: (newer ++ e :: older)) = some value
      rw [held_cons_of_untouched (hQuiet e' List.mem_cons_self)]
      exact ih fun x hMem => hQuiet x (List.mem_cons_of_mem e' hMem)

/-- What was opened under a key nobody else opens is held until it is closed. -/
theorem held_of_opened {e : ε} (hMem : e ∈ history) (hOpens : effect e = .opens key value)
    (hOnce : ∀ e' ∈ history, ∀ value', effect e' = .opens key value' → value' = value)
    (hOpen : ∀ e' ∈ history, effect e' ≠ .closes key) :
    held effect key history = some value := by
  induction history with
  | nil => exact absurd hMem List.not_mem_nil
  | cons e' older ih =>
    have hRest : e ∈ older → held effect key older = some value := fun hOlder =>
      ih hOlder (fun x hx => hOnce x (List.mem_cons_of_mem e' hx))
        (fun x hx => hOpen x (List.mem_cons_of_mem e' hx))
    by_cases hTouched : (effect e').touched = some key
    · -- the newest event that touches the key opens it, with this value
      cases hEffect : effect e' with
      | opens key' value' =>
        rw [hEffect] at hTouched
        have hKey : key' = key := Option.some.inj hTouched
        rw [hKey] at hEffect
        have hValue := hOnce e' List.mem_cons_self value' hEffect
        simp only [held_cons, hEffect, if_true, hValue]
      | closes key' =>
        rw [hEffect] at hTouched
        have hKey : key' = key := Option.some.inj hTouched
        exact absurd (hKey ▸ hEffect) (hOpen e' List.mem_cons_self)
      | none =>
        rw [hEffect] at hTouched
        exact absurd hTouched (Option.some_ne_none key).symm
    · rw [held_cons_of_untouched hTouched]
      refine hRest ?_
      rcases List.mem_cons.mp hMem with rfl | hOlder
      · rw [hOpens] at hTouched
        exact absurd rfl hTouched
      · exact hOlder

end Reservation
