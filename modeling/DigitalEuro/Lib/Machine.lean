import Mathlib

/-!
# Machines that record events

A machine executes one action at a time: `exec s a` is the next state together
with the event the action left behind, or `none` when it was refused. A run
collects the events into a history, newest first. Which actions a run may take
is a relation between the history, the state and the action, so an assumption
about the environment is an `allowed` predicate and nothing in the machine.

* `Reaches.invariant` — what the start satisfies and every step preserves holds
  in every reachable state, with its history;
* `Reaches.transition` — every event of a history is what an allowed action left
  behind in a state reached with the events before it;
* `eq_of_observed` — an observation that never repeats tells events apart;
* `Covers` — a step relation that says everything an answered action can do; its
  run rule `Covers.induction` is how invariants are proved;
* `Reaches.mono` — a weaker environment reaches at least as much;
* `run` — the run on a given list of actions, which `Reaches.run_concat` places
  among the reachable states.
-/

namespace Machine

variable {σ α ε : Type*}

/-- The history after an action: its event, if it left one, on top. -/
def record (event : Option ε) (history : List ε) : List ε :=
  event.toList ++ history

@[simp] theorem record_none (history : List ε) : record none history = history := rfl

@[simp] theorem record_some (event : ε) (history : List ε) :
    record (some event) history = event :: history := rfl

/-- The states a machine reaches from `start`, each with the history that led
there. -/
inductive Reaches (exec : σ → α → Option ε × σ) (allowed : List ε → σ → α → Prop)
    (start : σ) : List ε → σ → Prop
  | start : Reaches exec allowed start [] start
  | step {history : List ε} {s : σ} (a : α) :
      Reaches exec allowed start history s → allowed history s a →
      Reaches exec allowed start (record (exec s a).1 history) (exec s a).2

variable {exec : σ → α → Option ε × σ} {allowed : List ε → σ → α → Prop} {start : σ}
  {history : List ε} {s : σ}

/-- **Invariants over whole runs.** -/
theorem Reaches.invariant {P : List ε → σ → Prop}
    (hReach : Reaches exec allowed start history s) (hStart : P [] start)
    (hStep : ∀ {history s} a, Reaches exec allowed start history s → allowed history s a →
      P history s → P (record (exec s a).1 history) (exec s a).2) :
    P history s := by
  induction hReach with
  | start => exact hStart
  | step a hReach hAllowed ih => exact hStep a hReach hAllowed ih

/-- **Every event of a history happened**: it is what one allowed action left
behind, in a state reached with the events before it. -/
theorem Reaches.transition (hReach : Reaches exec allowed start history s) {older : List ε}
    {e : ε} (hSuffix : (e :: older) <:+ history) :
    ∃ s' a, Reaches exec allowed start older s' ∧ allowed older s' a ∧
      (exec s' a).1 = some e := by
  induction hReach with
  | start => exact absurd (List.suffix_nil.mp hSuffix) (List.cons_ne_nil _ _)
  | @step history s a hReach hAllowed ih =>
    cases hEvent : (exec s a).1 with
    | none =>
      rw [hEvent, record_none] at hSuffix
      exact ih hSuffix
    | some e' =>
      rw [hEvent, record_some] at hSuffix
      rcases List.suffix_cons_iff.mp hSuffix with hNew | hOld
      · obtain ⟨rfl, rfl⟩ := List.cons.inj hNew
        exact ⟨s, a, hReach, hAllowed, hEvent⟩
      · exact ih hOld

/-- A run in a stricter environment is a run in a weaker one. -/
theorem Reaches.mono {allowed' : List ε → σ → α → Prop}
    (hReach : Reaches exec allowed start history s)
    (hWeaker : ∀ {history s a}, Reaches exec allowed start history s →
      allowed history s a → allowed' history s a) :
    Reaches exec allowed' start history s := by
  induction hReach with
  | start => exact .start
  | step a hReach hAllowed ih => exact .step a ih (hWeaker hReach hAllowed)

/-- An observation that never repeats tells events apart: two events of a history
that show the same are one. -/
theorem eq_of_observed {κ : Type*} {observe : ε → Option κ} {history : List ε}
    (hUnique : (history.filterMap observe).Nodup) {e e' : ε} (hMem : e ∈ history)
    (hMem' : e' ∈ history) {k : κ} (hSeen : observe e = some k) (hSeen' : observe e' = some k) :
    e = e' := by
  induction history with
  | nil => exact absurd hMem List.not_mem_nil
  | cons newest older ih =>
    have hOlder : (older.filterMap observe).Nodup :=
      hUnique.sublist ((List.sublist_cons_self newest older).filterMap _)
    -- what the newest event shows, no older event shows
    have hNewest : observe newest = some k → ∀ x ∈ older, observe x ≠ some k := by
      intro hShown x hx hAgain
      rw [List.filterMap_cons_some hShown] at hUnique
      exact (List.nodup_cons.mp hUnique).1 (List.mem_filterMap.mpr ⟨x, hx, hAgain⟩)
    rcases List.mem_cons.mp hMem with rfl | hOld
    · rcases List.mem_cons.mp hMem' with rfl | hOld'
      · rfl
      · exact absurd hSeen' (hNewest hSeen e' hOld')
    · rcases List.mem_cons.mp hMem' with rfl | hOld'
      · exact absurd hSeen (hNewest hSeen' e hOld)
      · exact ih hOlder hOld hOld'

-- ---------------------------------------------------------------------------
-- Step relations
-- ---------------------------------------------------------------------------

/-- A step relation covers a machine: every action is refused and changes nothing,
or it is one of the steps. -/
def Covers (exec : σ → α → Option ε × σ) (Step : σ → α → ε → σ → Prop) : Prop :=
  ∀ s a, exec s a = (none, s) ∨ ∃ e s', exec s a = (some e, s') ∧ Step s a e s'

section Covers

variable {Step : σ → α → ε → σ → Prop}

/-- **Refusals are atomic.** -/
theorem Covers.refused (hCovers : Covers exec Step) {s : σ} {a : α}
    (h : (exec s a).1 = none) : (exec s a).2 = s := by
  rcases hCovers s a with hEq | ⟨e, s', hEq, -⟩
  · rw [hEq]
  · rw [hEq] at h
    exact absurd h (Option.some_ne_none e)

theorem Covers.step (hCovers : Covers exec Step) {s : σ} {a : α} {e : ε}
    (h : (exec s a).1 = some e) : Step s a e (exec s a).2 := by
  rcases hCovers s a with hEq | ⟨e', s', hEq, hStep⟩
  · rw [hEq] at h
    exact absurd h (Option.some_ne_none e).symm
  · rw [hEq] at h ⊢
    obtain rfl := Option.some.inj h
    exact hStep

/-- **The run rule.** What holds at the start and is preserved by each step holds
along every run. -/
theorem Covers.induction (hCovers : Covers exec Step) {P : List ε → σ → Prop}
    (hReach : Reaches exec allowed start history s) (hStart : P [] start)
    (hStep : ∀ {history s a e s'}, Reaches exec allowed start history s →
      allowed history s a → P history s → Step s a e s' → P (e :: history) s') :
    P history s := by
  refine hReach.invariant hStart fun {history s} a hReach hAllowed hP => ?_
  cases hEvent : (exec s a).1 with
  | none => rwa [record_none, hCovers.refused hEvent]
  | some e =>
    rw [record_some]
    exact hStep hReach hAllowed hP (hCovers.step hEvent)

/-- Every event of a history is a step from a state reached with the events
before it. -/
theorem Covers.transition (hCovers : Covers exec Step)
    (hReach : Reaches exec allowed start history s) {older : List ε} {e : ε}
    (hSuffix : (e :: older) <:+ history) :
    ∃ s₁ a s₂, Reaches exec allowed start older s₁ ∧ allowed older s₁ a ∧ Step s₁ a e s₂ := by
  obtain ⟨s₁, a, hOlder, hAllowed, hEvent⟩ := hReach.transition hSuffix
  exact ⟨s₁, a, (exec s₁ a).2, hOlder, hAllowed, hCovers.step hEvent⟩

end Covers

/-- One more allowed action that is answered. -/
theorem Reaches.next (hReach : Reaches exec allowed start history s) {a : α} {e : ε} {s' : σ}
    (hAllowed : allowed history s a) (hExec : exec s a = (some e, s')) :
    Reaches exec allowed start (e :: history) s' := by
  have hNext := Reaches.step a hReach hAllowed
  rwa [hExec, record_some] at hNext

-- ---------------------------------------------------------------------------
-- Runs on given actions
-- ---------------------------------------------------------------------------

/-- Executes the actions in order. -/
def run (exec : σ → α → Option ε × σ) (start : σ) (actions : List α) : List ε × σ :=
  actions.foldl (fun c a => (record (exec c.2 a).1 c.1, (exec c.2 a).2)) ([], start)

@[simp] theorem run_append_singleton (exec : σ → α → Option ε × σ) (start : σ)
    (actions : List α) (a : α) :
    run exec start (actions ++ [a]) =
      (record (exec (run exec start actions).2 a).1 (run exec start actions).1,
        (exec (run exec start actions).2 a).2) := by
  rw [run, List.foldl_append]
  rfl

/-- A run whose every action is allowed is a run of the environment. -/
theorem Reaches.run_concat (actions : List α) {a : α}
    (hReach : Reaches exec allowed start (run exec start actions).1 (run exec start actions).2)
    (hAllowed : allowed (run exec start actions).1 (run exec start actions).2 a) :
    Reaches exec allowed start (run exec start (actions ++ [a])).1
      (run exec start (actions ++ [a])).2 := by
  rw [run_append_singleton]
  exact .step a hReach hAllowed

end Machine
