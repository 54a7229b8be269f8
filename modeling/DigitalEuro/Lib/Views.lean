import DigitalEuro.Lib.Machine

/-!
# What one machine shows of another

A view of a machine keeps some of its actions and of its events, and may rewrite them.
When each step of the machine is a step of the view, or is not seen, a run of the
machine is a run of the view: the view's history is what it shows of the machine's.

* `Shows` — one step;
* `Shows.run` — whole runs.
-/

namespace Machine

variable {σ α ε σ' α' ε' : Type*} {exec : σ → α → Option ε × σ}
  {exec' : σ' → α' → Option ε' × σ'} {Rel : σ → σ' → Prop} {act : α → Option α'}
  {obs : ε → Option ε'}

/-- Each step of the machine is one of the view, with what is shown of its event, or
shows nothing and leaves the view where it is. -/
structure Shows (exec : σ → α → Option ε × σ) (exec' : σ' → α' → Option ε' × σ')
    (Rel : σ → σ' → Prop) (act : α → Option α') (obs : ε → Option ε') : Prop where
  seen : ∀ {s s' a a'}, Rel s s' → act a = some a' →
    (exec' s' a').1 = (exec s a).1.bind obs ∧ Rel (exec s a).2 (exec' s' a').2
  unseen : ∀ {s s' a}, Rel s s' → act a = none →
    (exec s a).1.bind obs = none ∧ Rel (exec s a).2 s'

theorem filterMap_record (obs : ε → Option ε') (event : Option ε) (history : List ε) :
    (record event history).filterMap obs = record (event.bind obs) (history.filterMap obs) := by
  cases event with
  | none => rfl
  | some e =>
    rw [record_some, Option.bind_some]
    cases hSeen : obs e with
    | none => rw [List.filterMap_cons_none hSeen, record_none]
    | some e' => rw [List.filterMap_cons_some hSeen, record_some]

/-- **What a run shows is a run.** -/
theorem Shows.run (h : Shows exec exec' Rel act obs) {start : σ} {start' : σ'}
    (hStart : Rel start start') (actions : List α) :
    (Machine.run exec' start' (actions.filterMap act)).1 =
        (Machine.run exec start actions).1.filterMap obs ∧
      Rel (Machine.run exec start actions).2
        (Machine.run exec' start' (actions.filterMap act)).2 := by
  induction actions using List.reverseRecOn with
  | nil => exact ⟨rfl, hStart⟩
  | append_singleton actions a ih =>
    obtain ⟨hHistory, hRel⟩ := ih
    rw [run_append_singleton, List.filterMap_append]
    cases hSeen : act a with
    | none =>
      obtain ⟨hNothing, hStay⟩ := h.unseen hRel hSeen
      rw [List.filterMap_cons_none hSeen, List.filterMap_nil, List.append_nil, filterMap_record,
        hNothing, record_none]
      exact ⟨hHistory, hStay⟩
    | some a' =>
      obtain ⟨hEvent, hNext⟩ := h.seen hRel hSeen
      rw [List.filterMap_cons_some hSeen, List.filterMap_nil, run_append_singleton,
        filterMap_record, hEvent, hHistory]
      exact ⟨rfl, hNext⟩

end Machine
