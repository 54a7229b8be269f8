import Mathlib

/-!
# Deliveries that settle

A receiver that processes messages one by one *settles* when two messages can be
processed in either order and a message processed again changes nothing. What it
ends up with is then decided by the set of messages it was sent: neither their
order nor how often each arrives matters.

* `Settles.foldl_absorb` — a message already processed changes nothing later;
* `Settles.foldl_congr` — lists with the same members end in the same state.
-/

namespace Delivery

variable {σ μ : Type*} {process : σ → μ → σ}

/-- Messages can be processed in any order and any number of times. -/
structure Settles (process : σ → μ → σ) : Prop where
  comm : ∀ s m m', process (process s m) m' = process (process s m') m
  again : ∀ s m, process (process s m) m = process s m

/-- A message can be processed before all others. -/
theorem Settles.foldl_comm (h : Settles process) (m : μ) (messages : List μ) (s : σ) :
    messages.foldl process (process s m) = process (messages.foldl process s) m := by
  induction messages generalizing s with
  | nil => rfl
  | cons m' rest ih => rw [List.foldl_cons, List.foldl_cons, h.comm, ih]

/-- Processing a message of the list once more changes nothing. -/
theorem Settles.foldl_absorb (h : Settles process) {m : μ} {messages : List μ} (hMem : m ∈ messages)
    (s : σ) : process (messages.foldl process s) m = messages.foldl process s := by
  induction messages generalizing s with
  | nil => exact absurd hMem List.not_mem_nil
  | cons m' rest ih =>
    rw [List.foldl_cons]
    rcases List.mem_cons.mp hMem with rfl | hRest
    · rw [← h.foldl_comm, h.again]
    · exact ih hRest _

/-- Repetitions can be left out. -/
theorem Settles.foldl_dedup [DecidableEq μ] (h : Settles process) (messages : List μ) (s : σ) :
    messages.dedup.foldl process s = messages.foldl process s := by
  induction messages generalizing s with
  | nil => rfl
  | cons m rest ih =>
    by_cases hMem : m ∈ rest
    · rw [List.dedup_cons_of_mem hMem, ih, List.foldl_cons, h.foldl_comm, h.foldl_absorb hMem]
    · rw [List.dedup_cons_of_notMem hMem, List.foldl_cons, List.foldl_cons, ih]

/-- **Order and repetition do not matter.** Lists with the same members lead to the
same state. -/
theorem Settles.foldl_congr (h : Settles process) {messages messages' : List μ}
    (hSame : ∀ m, m ∈ messages ↔ m ∈ messages') (s : σ) :
    messages.foldl process s = messages'.foldl process s := by
  classical
  have : RightCommutative process := ⟨h.comm⟩
  have hPerm : messages.dedup.Perm messages'.dedup := by
    refine (List.perm_ext_iff_of_nodup (List.nodup_dedup _) (List.nodup_dedup _)).mpr fun m => ?_
    rw [List.mem_dedup, List.mem_dedup, hSame]
  rw [← h.foldl_dedup messages, ← h.foldl_dedup messages', hPerm.foldl_eq]

end Delivery
