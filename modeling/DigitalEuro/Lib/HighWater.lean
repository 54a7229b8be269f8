import Mathlib

/-!
# Receivers that keep a high-water mark

A receiver guards against replays with one number per sender: it takes a message
if its counter is above every counter it has seen from this sender. Messages are
presented one after another; the list of them has the newest first.

* `above_iff` — the mark is all the receiver needs to keep;
* `taken_nodup` — nothing is taken twice;
* `mem_taken` — what is presented in ascending order is taken, repeats aside;
* `taken_perm` — then the order makes no difference to what is taken.
-/

namespace HighWater

variable {K M C : Type*} [DecidableEq K] [LinearOrder C] (key : M → K)
  (counter : M → C) (start : K → C)

/-- The highest counter of each sender. -/
def mark : List M → K → C
  | [] => start
  | m :: older => Function.update (mark older) (key m) (max (mark older (key m)) (counter m))

/-- The counter is above the start and every counter presented before. -/
def Above (older : List M) (m : M) : Prop :=
  start (key m) < counter m ∧ ∀ m' ∈ older, key m' = key m → counter m' < counter m

/-- The messages the receiver takes. -/
def taken : List M → List M
  | [] => []
  | m :: older => if mark key counter start older (key m) < counter m then m :: taken older
    else taken older

/-- Every message is above what was presented before, or was presented before. -/
def Ascending : List M → Prop
  | [] => True
  | m :: older => (m ∈ older ∨ Above key counter start older m) ∧ Ascending older

variable {key counter start} {older : List M} {m : M}

theorem mark_lt_iff (older : List M) (k : K) (c : C) :
    mark key counter start older k < c ↔
      start k < c ∧ ∀ m' ∈ older, key m' = k → counter m' < c := by
  induction older with
  | nil => simp [mark]
  | cons m older ih =>
    rw [mark]
    by_cases hSame : k = key m
    · subst hSame
      rw [Function.update_self, max_lt_iff, ih]
      simp only [List.mem_cons, forall_eq_or_imp, true_imp_iff]
      tauto
    · rw [Function.update_of_ne hSame, ih]
      simp only [List.mem_cons, forall_eq_or_imp, Ne.symm hSame, false_imp_iff, true_and]

/-- **The mark decides.** -/
theorem above_iff : Above key counter start older m ↔
    mark key counter start older (key m) < counter m := (mark_lt_iff older (key m) _).symm

omit [DecidableEq K] in
/-- What was presented before is not above itself. -/
theorem not_above_of_mem (h : m ∈ older) : ¬ Above key counter start older m :=
  fun hAbove => lt_irrefl _ (hAbove.2 m h rfl)

theorem taken_subset (messages : List M) : taken key counter start messages ⊆ messages := by
  induction messages with
  | nil => exact List.Subset.refl _
  | cons m older ih =>
    rw [taken]
    split
    · exact List.cons_subset_cons m ih
    · exact fun m' hMem => List.mem_cons_of_mem m (ih hMem)

/-- **Nothing is taken twice.** -/
theorem taken_nodup (messages : List M) : (taken key counter start messages).Nodup := by
  induction messages with
  | nil => exact List.nodup_nil
  | cons m older ih =>
    rw [taken]
    split
    · next hMark =>
      refine List.nodup_cons.mpr ⟨fun hMem => ?_, ih⟩
      exact not_above_of_mem (taken_subset older hMem) (above_iff.mpr hMark)
    · exact ih

/-- **Nothing is lost in ascending order.** -/
theorem mem_taken {messages : List M} (h : Ascending key counter start messages) (m : M) :
    m ∈ taken key counter start messages ↔ m ∈ messages := by
  refine ⟨fun hMem => taken_subset messages hMem, fun hMem => ?_⟩
  induction messages with
  | nil => exact hMem
  | cons newest older ih =>
    obtain ⟨hNewest, hOlder⟩ := h
    rw [taken]
    rcases List.mem_cons.mp hMem with rfl | hOld
    · split
      · exact List.mem_cons_self
      · next hMark =>
        rcases hNewest with hRepeat | hAbove
        · exact ih hOlder hRepeat
        · exact absurd (above_iff.mp hAbove) hMark
    · split
      · exact List.mem_cons_of_mem _ (ih hOlder hOld)
      · exact ih hOlder hOld

/-- **Order makes no difference** between ascending presentations of one set. -/
theorem taken_perm {messages messages' : List M} (h : Ascending key counter start messages)
    (h' : Ascending key counter start messages') (hSame : ∀ m, m ∈ messages ↔ m ∈ messages') :
    (taken key counter start messages).Perm (taken key counter start messages') := by
  refine (List.perm_ext_iff_of_nodup (taken_nodup _) (taken_nodup _)).mpr fun m => ?_
  rw [mem_taken h, mem_taken h', hSame]

omit [DecidableEq K] in
/-- Ascending lists, split at a message. -/
theorem ascending_iff {messages : List M} : Ascending key counter start messages ↔
    ∀ newer m older, messages = newer ++ m :: older → m ∉ older →
      Above key counter start older m := by
  induction messages with
  | nil =>
    refine iff_of_true trivial fun newer m older hSplit => ?_
    exact absurd hSplit (by simp)
  | cons newest older ih =>
    rw [Ascending, ih]
    constructor
    · rintro ⟨hNewest, hOlder⟩ newer m rest hSplit hFirst
      cases newer with
      | nil =>
        obtain ⟨rfl, rfl⟩ := List.cons.inj hSplit
        exact hNewest.resolve_left hFirst
      | cons _ newer =>
        obtain ⟨-, hSplit⟩ := List.cons.inj hSplit
        exact hOlder newer m rest hSplit hFirst
    · intro hAll
      refine ⟨or_iff_not_imp_left.mpr (hAll [] newest older rfl), ?_⟩
      intro newer m rest hSplit
      exact hAll (newest :: newer) m rest (by rw [hSplit, List.cons_append])

end HighWater
