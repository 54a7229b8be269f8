import DigitalEuro.Lib.FinmapTotal

/-!
# Lists as maps

A list whose records have distinct keys is a map from the keys to the records, and
writing a record in place is writing its entry. A list of keys is a map to the numbers
of their occurrences.

* `byKey_lookup`, `byKey_lookup_none` — reading the map;
* `byKey_set`, `byKey_append` — writing a record in place, and adding one;
* `byKey_total` — a total over the map is a sum over the list;
* `mem_tally`, `tally_total` — the keys of a tally, and what it counts in all.
-/

namespace Finmap

variable {K V : Type*} [DecidableEq K] {key : V → K} {records : List V}

/-- The records by their keys; of two with one key the first counts. -/
def byKey (key : V → K) (records : List V) : Finmap fun _ : K => V :=
  (records.map fun v => (⟨key v, v⟩ : Sigma fun _ : K => V)).toFinmap

theorem byKey_cons (key : V → K) (v : V) (records : List V) :
    byKey key (v :: records) = (byKey key records).insert (key v) v :=
  toFinmap_cons _ _ _

theorem byKey_lookup_none {k : K} (h : k ∉ records.map key) :
    (byKey key records).lookup k = none := by
  induction records with
  | nil => rfl
  | cons v records ih =>
    rw [List.map_cons, List.mem_cons, not_or] at h
    rw [byKey_cons, lookup_insert_of_ne _ h.1, ih h.2]

theorem byKey_lookup (hDistinct : (records.map key).Nodup) {v : V} (hMem : v ∈ records) :
    (byKey key records).lookup (key v) = some v := by
  induction records with
  | nil => exact absurd hMem List.not_mem_nil
  | cons first records ih =>
    rw [List.map_cons, List.nodup_cons] at hDistinct
    rcases List.mem_cons.mp hMem with rfl | hMem
    · rw [byKey_cons, lookup_insert]
    · have hNe : key v ≠ key first := fun hSame =>
        hDistinct.1 (hSame ▸ List.mem_map_of_mem hMem)
      rw [byKey_cons, lookup_insert_of_ne _ hNe, ih hDistinct.2 hMem]

/-- What the map finds is in the list, under its own key. -/
theorem mem_of_byKey_lookup {k : K} {v : V} (h : (byKey key records).lookup k = some v) :
    v ∈ records ∧ key v = k := by
  induction records with
  | nil => exact absurd h (Option.some_ne_none v).symm
  | cons first records ih =>
    by_cases hSame : k = key first
    · rw [byKey_cons, hSame, lookup_insert, Option.some.injEq] at h
      exact ⟨h ▸ List.mem_cons_self, by rw [hSame, h]⟩
    · rw [byKey_cons, lookup_insert_of_ne _ hSame] at h
      exact ⟨List.mem_cons_of_mem _ (ih h).1, (ih h).2⟩

theorem byKey_keys (key : V → K) (records : List V) :
    (byKey key records).keys = (records.map key).toFinset := by
  induction records with
  | nil => rfl
  | cons first records ih =>
    rw [byKey_cons, List.map_cons, List.toFinset_cons, ← ih]
    ext k
    rw [mem_keys, mem_insert, Finset.mem_insert, mem_keys]

theorem byKey_append {v : V} (hNew : key v ∉ records.map key) :
    byKey key (records ++ [v]) = (byKey key records).insert (key v) v := by
  induction records with
  | nil => rw [List.nil_append, byKey_cons]
  | cons first records ih =>
    rw [List.map_cons, List.mem_cons, not_or] at hNew
    rw [List.cons_append, byKey_cons, ih hNew.2, byKey_cons,
      insert_insert_of_ne _ hNew.1]

/-- **Writing a record in place** writes its entry. -/
theorem byKey_set (hDistinct : (records.map key).Nodup) {i : ℕ} {v v' : V}
    (hAt : records[i]? = some v) (hKey : key v' = key v) :
    byKey key (records.set i v') = (byKey key records).insert (key v) v' := by
  induction records generalizing i with
  | nil => exact absurd hAt (by simp)
  | cons first records ih =>
    rw [List.map_cons, List.nodup_cons] at hDistinct
    cases i with
    | zero =>
      obtain rfl := Option.some.inj hAt
      rw [List.set_cons_zero, byKey_cons, byKey_cons, hKey, insert_insert]
    | succ i =>
      rw [List.getElem?_cons_succ] at hAt
      have hNe : key first ≠ key v := fun hSame =>
        hDistinct.1 (hSame ▸ List.mem_map_of_mem (List.mem_of_getElem? hAt))
      rw [List.set_cons_succ, byKey_cons, byKey_cons, ih hDistinct.2 hAt,
        insert_insert_of_ne _ hNe]

theorem byKey_total {M : Type*} [AddCommMonoid M] (f : V → M)
    (hDistinct : (records.map key).Nodup) :
    (byKey key records).total f = (records.map f).sum := by
  induction records with
  | nil => rfl
  | cons first records ih =>
    rw [List.map_cons, List.nodup_cons] at hDistinct
    rw [byKey_cons, total_insert_of_lookup_none f (byKey_lookup_none hDistinct.1), ih hDistinct.2,
      List.map_cons, List.sum_cons]

-- ---------------------------------------------------------------------------
-- Tallies
-- ---------------------------------------------------------------------------

/-- One more occurrence of a key. -/
def count (counts : Finmap fun _ : K => ℕ) (k : K) : Finmap fun _ : K => ℕ :=
  counts.insert k ((counts.lookup k).getD 0 + 1)

/-- The occurrences in a list, on top of those counted before. -/
def tally (counts : Finmap fun _ : K => ℕ) (ks : List K) : Finmap fun _ : K => ℕ :=
  ks.foldl count counts

theorem mem_tally (ks : List K) : ∀ {counts : Finmap fun _ : K => ℕ} {k : K},
    k ∈ tally counts ks ↔ k ∈ counts ∨ k ∈ ks := by
  induction ks with
  | nil => exact fun {_ _} => ⟨.inl, fun h => h.resolve_right List.not_mem_nil⟩
  | cons first rest ih =>
    intro counts k
    show k ∈ tally (count counts first) rest ↔ _
    rw [ih, count, mem_insert, List.mem_cons]
    tauto

/-- Every key of the list is counted once. -/
theorem tally_total (ks : List K) : ∀ counts : Finmap fun _ : K => ℕ,
    (tally counts ks).total id = counts.total id + ks.length := by
  induction ks with
  | nil => exact fun _ => rfl
  | cons first rest ih =>
    intro counts
    have hCount : (count counts first).total id = counts.total id + 1 := by
      cases hLookup : counts.lookup first with
      | none =>
        rw [count, total_insert_of_lookup_none id hLookup, hLookup]
        exact Nat.add_comm 1 _
      | some n =>
        have hReplace := total_replace id (n + 1) hLookup
        rw [count, hLookup, Option.getD_some]
        simp only [id_eq] at hReplace
        omega
    show (tally (count counts first) rest).total id = _
    rw [ih, hCount, List.length_cons]
    omega

end Finmap
