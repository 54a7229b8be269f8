import Mathlib

/-!
# Services that answer calls

A service answers one call at a time: the answer and the state after it, or `none`
where there is nobody to answer. `answers` is a run of calls. Two services run side
by side when related states give related answers and lead to related states; what
relates them may depend on the calls still to come, so that a run can be given a
budget at its start.

* `answers_invariant` — what every answered call preserves holds after a run;
* `answers_simulates` — calls that are simulated one by one are simulated in runs of
  any length, with the same answers.
-/

namespace Service

variable {σ τ κ μ α β : Type*}

/-- The answers to the calls in order, and the last state; `none` when one of them
finds nobody. -/
def answers (call : σ → κ → Option (α × σ)) : σ → List κ → Option (List α × σ)
  | s, [] => some ([], s)
  | s, c :: later =>
    match call s c with
    | none => none
    | some (a, s) => (answers call s later).map fun rest => (a :: rest.1, rest.2)

variable {call : σ → κ → Option (α × σ)} {call' : τ → μ → Option (β × τ)}

theorem answers_cons {s s' : σ} {c : κ} {a : α} (later : List κ) (h : call s c = some (a, s')) :
    answers call s (c :: later) =
      (answers call s' later).map fun rest => (a :: rest.1, rest.2) := by
  rw [answers, h]

/-- A run that is answered begins with a call that is answered. -/
theorem answers_cons_eq_some {s s' : σ} {c : κ} {later : List κ} {results : List α}
    (h : answers call s (c :: later) = some (results, s')) :
    ∃ a s₁ rest, call s c = some (a, s₁) ∧ answers call s₁ later = some (rest, s') ∧
      results = a :: rest := by
  cases hCall : call s c with
  | none =>
    rw [answers, hCall] at h
    cases h
  | some answer =>
    obtain ⟨a, s₁⟩ := answer
    rw [answers_cons later hCall] at h
    obtain ⟨⟨rest, s₂⟩, hRest, hSame⟩ := Option.map_eq_some_iff.mp h
    obtain ⟨rfl, rfl⟩ := Prod.mk.inj hSame
    exact ⟨a, s₁, rest, rfl, hRest, rfl⟩

/-- A run can be taken in two parts. -/
theorem answers_append {calls : List κ} (later : List κ) : ∀ {s s' : σ} {results : List α},
    answers call s calls = some (results, s') →
      answers call s (calls ++ later) =
        (answers call s' later).map fun rest => (results ++ rest.1, rest.2) := by
  induction calls with
  | nil =>
    intro s s' results h
    obtain ⟨rfl, rfl⟩ := Prod.mk.inj (Option.some.inj h)
    exact Option.map_id'.symm
  | cons c calls ih =>
    intro s s' results h
    obtain ⟨a, s₁, rest, hCall, hRest, rfl⟩ := answers_cons_eq_some h
    rw [List.cons_append, answers_cons _ hCall, ih hRest, Option.map_map]
    rfl

/-- Every call has its answer. -/
theorem answers_length : ∀ {calls : List κ} {s s' : σ} {results : List α},
    answers call s calls = some (results, s') → results.length = calls.length := by
  intro calls
  induction calls with
  | nil =>
    intro s s' results h
    obtain ⟨rfl, -⟩ := Prod.mk.inj (Option.some.inj h)
    rfl
  | cons c later ih =>
    intro s s' results h
    obtain ⟨a, s₁, rest, -, hRest, rfl⟩ := answers_cons_eq_some h
    rw [List.length_cons, List.length_cons, ih hRest]

/-- **Invariants over runs of calls.** -/
theorem answers_invariant {P : σ → Prop} {proper : κ → Prop}
    (hStep : ∀ {s c a s'}, proper c → P s → call s c = some (a, s') → P s') :
    ∀ {calls : List κ} {s s' : σ} {results : List α}, (∀ c ∈ calls, proper c) → P s →
      answers call s calls = some (results, s') → P s' := by
  intro calls
  induction calls with
  | nil =>
    intro s s' results _ hStart h
    obtain ⟨-, rfl⟩ := Prod.mk.inj (Option.some.inj h)
    exact hStart
  | cons c later ih =>
    intro s s' results hProper hStart h
    obtain ⟨a, s₁, rest, hCall, hRest, -⟩ := answers_cons_eq_some h
    obtain ⟨hFirst, hLater⟩ := List.forall_mem_cons.mp hProper
    exact ih hLater (hStep hFirst hStart hCall) hRest

/-- **Simulation of runs.** `related later s t` relates two states while the calls
`later` are still to come. -/
theorem answers_simulates (related : List κ → σ → τ → Prop) {agree : α → β → Prop} {f : κ → μ}
    (hStep : ∀ {c later s t}, related (c :: later) s t → ∃ a s' b t', call s c = some (a, s') ∧
      call' t (f c) = some (b, t') ∧ agree a b ∧ related later s' t') :
    ∀ (calls later : List κ) {s : σ} {t : τ}, related (calls ++ later) s t →
      ∃ results s' results' t', answers call s calls = some (results, s') ∧
        answers call' t (calls.map f) = some (results', t') ∧
        List.Forall₂ agree results results' ∧ related later s' t' := by
  intro calls
  induction calls with
  | nil =>
    intro later s t h
    exact ⟨[], s, [], t, rfl, rfl, .nil, h⟩
  | cons c calls ih =>
    intro later s t h
    obtain ⟨a, s₁, b, t₁, hCall, hCall', hAgree, hNext⟩ := hStep h
    obtain ⟨results, s', results', t', hRun, hRun', hResults, hLast⟩ := ih later hNext
    refine ⟨a :: results, s', b :: results', t', ?_, ?_, .cons hAgree hResults, hLast⟩
    · rw [answers_cons calls hCall, hRun, Option.map_some]
    · rw [List.map_cons, answers_cons _ hCall', hRun', Option.map_some]

end Service
