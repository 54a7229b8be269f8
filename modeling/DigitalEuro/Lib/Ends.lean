import Mathlib.Control.Monad.Basic

/-!
# Programs that may end early

A program in `ExceptT ε Option` returns a value, ends early with an error, or does not
return. `Ends` says what holds of the value, of the error, and when it does not return.

* `Ends.bind` — one program after another;
* `Ends.foldlM` — a loop over a list, with an invariant.
-/

/-- What is returned satisfies `post`, an early end satisfies `early`, and the program
returns unless it `hangs`. -/
structure Ends {ε α : Type} (x : ExceptT ε Option α) (post : α → Prop) (early : ε → Prop)
    (hangs : Prop) : Prop where
  returns : ∀ {a}, x.run = some (.ok a) → post a
  stops : ∀ {e}, x.run = some (.error e) → early e
  waits : x.run = none → hangs

namespace Ends

variable {ε α β : Type} {x : ExceptT ε Option α} {post post' : α → Prop} {early early' : ε → Prop}
  {hangs : Prop}

theorem mono (h : Ends x post early hangs) (hPost : ∀ a, post a → post' a)
    (hEarly : ∀ e, early e → early' e) : Ends x post' early' hangs :=
  ⟨fun hRun => hPost _ (h.returns hRun), fun hRun => hEarly _ (h.stops hRun), h.waits⟩

theorem pure {a : α} (h : post a) : Ends (pure a : ExceptT ε Option α) post early hangs where
  returns hRun := Except.ok.inj (Option.some.inj hRun) ▸ h
  stops hRun := nomatch hRun
  waits hRun := nomatch hRun

theorem stopped {e : ε} (h : early e) :
    Ends (ExceptT.mk (some (.error e))) post early hangs where
  returns hRun := nomatch hRun
  stops hRun := Except.error.inj (Option.some.inj hRun) ▸ h
  waits hRun := nomatch hRun

theorem waiting (h : hangs) : Ends (ExceptT.mk none) post early hangs where
  returns hRun := nomatch hRun
  stops hRun := nomatch hRun
  waits _ := h

/-- What the second program ends with holds from wherever the first one leads. -/
theorem bind {f : α → ExceptT ε Option β} {post' : β → Prop} (h : Ends x post early hangs)
    (hNext : ∀ a, post a → Ends (f a) post' early hangs) : Ends (x >>= f) post' early hangs := by
  constructor
  · intro b hReturns
    rw [ExceptT.run_bind] at hReturns
    obtain ⟨outcome, hFirst, hSecond⟩ := Option.bind_eq_some_iff.mp hReturns
    cases outcome with
    | error e => cases hSecond
    | ok a => exact (hNext a (h.returns hFirst)).returns hSecond
  · intro e hStops
    rw [ExceptT.run_bind] at hStops
    obtain ⟨outcome, hFirst, hSecond⟩ := Option.bind_eq_some_iff.mp hStops
    cases outcome with
    | error e' =>
      obtain rfl := Except.error.inj (Option.some.inj hSecond)
      exact h.stops hFirst
    | ok a => exact (hNext a (h.returns hFirst)).stops hSecond
  · intro hWaits
    rw [ExceptT.run_bind] at hWaits
    cases hFirst : x.run with
    | none => exact h.waits hFirst
    | some outcome =>
      rw [hFirst] at hWaits
      cases outcome with
      | error e => cases hWaits
      | ok a => exact (hNext a (h.returns hFirst)).waits hWaits

/-- What each round keeps holds after the loop. -/
theorem foldlM {f : α → β → ExceptT ε Option α} {l : List β}
    (hRound : ∀ b ∈ l, ∀ a, post a → Ends (f a b) post early hangs) :
    ∀ a, post a → Ends (l.foldlM f a) post early hangs := by
  induction l with
  | nil =>
    intro a hStart
    exact .pure hStart
  | cons b l ih =>
    intro a hStart
    rw [List.foldlM_cons]
    exact (hRound b List.mem_cons_self a hStart).bind
      (ih fun b' hMem => hRound b' (List.mem_cons_of_mem b hMem))

end Ends
