import Mathlib

/-!
# Totals over the values of a finite map

`Finmap.total f m` adds up `f v` over the entries `k ↦ v` of `m`, in any
additive commutative monoid: machine words that wrap, or the numbers they
denote. The lemmas say how the total moves when an entry is inserted, replaced
or erased.
-/

namespace Finmap

variable {K V M : Type*}

/-- The sum of `f` over the values of the map. -/
def total [AddCommMonoid M] (f : V → M) (m : Finmap fun _ : K => V) : M :=
  (m.entries.map fun entry => f entry.2).sum

@[simp] theorem total_empty [AddCommMonoid M] (f : V → M) :
    total f (∅ : Finmap fun _ : K => V) = 0 := rfl

/-- A map of a sum is the sum of the maps. -/
theorem map_total {N : Type*} [AddCommMonoid M] [AddCommMonoid N] (g : M →+ N) (f : V → M)
    (m : Finmap fun _ : K => V) : g (total f m) = total (fun v => g (f v)) m := by
  rw [total, map_multiset_sum, Multiset.map_map]
  rfl

variable [DecidableEq K]

/-- Erasing an absent key changes nothing. -/
theorem erase_of_lookup_none {m : Finmap fun _ : K => V} {k : K}
    (h : m.lookup k = none) : m.erase k = m := by
  apply ext_lookup
  intro x
  by_cases hx : x = k
  · rw [hx, lookup_erase, h]
  · exact lookup_erase_ne hx

/-- Erasing what was just inserted under a key leaves the other entries. -/
theorem erase_insert {m : Finmap fun _ : K => V} {k : K} {v : V} :
    (m.insert k v).erase k = m.erase k := by
  apply ext_lookup
  intro x
  by_cases hx : x = k
  · rw [hx, lookup_erase, lookup_erase]
  · rw [lookup_erase_ne hx, lookup_erase_ne hx, lookup_insert_of_ne m hx]

/-- Erasing what was just inserted under a fresh key gives the map back. -/
theorem erase_insert_of_lookup_none {m : Finmap fun _ : K => V} {k : K} {v : V}
    (h : m.lookup k = none) : (m.insert k v).erase k = m := by
  rw [erase_insert, erase_of_lookup_none h]

/-- A present entry can be taken out and put back. -/
theorem insert_erase_of_lookup {m : Finmap fun _ : K => V} {k : K} {v : V}
    (h : m.lookup k = some v) : (m.erase k).insert k v = m := by
  apply ext_lookup
  intro x
  by_cases hx : x = k
  · rw [hx, lookup_insert, h]
  · rw [lookup_insert_of_ne _ hx, lookup_erase_ne hx]

/-- Writing what is there changes nothing. -/
theorem insert_of_lookup {m : Finmap fun _ : K => V} {k : K} {v : V}
    (h : m.lookup k = some v) : m.insert k v = m := by
  apply ext_lookup
  intro x
  by_cases hx : x = k
  · rw [hx, lookup_insert, h]
  · exact lookup_insert_of_ne _ hx

/-- Inserting overwrites: what was under the key before does not matter. -/
theorem insert_erase {m : Finmap fun _ : K => V} {k : K} {v : V} :
    (m.erase k).insert k v = m.insert k v := by
  apply ext_lookup
  intro x
  by_cases hx : x = k
  · rw [hx, lookup_insert, lookup_insert]
  · rw [lookup_insert_of_ne _ hx, lookup_insert_of_ne _ hx, lookup_erase_ne hx]

section Total

variable [AddCommMonoid M] (f : V → M)

theorem total_insert_of_lookup_none {m : Finmap fun _ : K => V} {k : K} {v : V}
    (h : m.lookup k = none) : total f (m.insert k v) = f v + total f m := by
  have hNotMem : k ∉ m := lookup_eq_none.mp h
  rw [total, entries_insert_of_notMem hNotMem, Multiset.map_cons, Multiset.sum_cons]
  rfl

theorem total_erase {m : Finmap fun _ : K => V} {k : K} {v : V}
    (h : m.lookup k = some v) : f v + total f (m.erase k) = total f m := by
  rw [← total_insert_of_lookup_none f (lookup_erase k m), insert_erase_of_lookup h]

/-- After an insertion the total is that of the other entries and the new value. -/
theorem total_insert (m : Finmap fun _ : K => V) (k : K) (v : V) :
    total f (m.insert k v) = f v + total f (m.erase k) := by
  rw [← total_insert_of_lookup_none f (lookup_erase k m), insert_erase]

end Total

/-- A total as a sum over the keys. -/
theorem total_eq_sum_keys (f : V → ℕ) (m : Finmap fun _ : K => V) :
    total f m = ∑ k ∈ m.keys, ((m.lookup k).map f).getD 0 := by
  show _ = ((m.entries.map Sigma.fst).map fun k => ((m.lookup k).map f).getD 0).sum
  rw [total, Multiset.map_map]
  refine congrArg Multiset.sum (Multiset.map_congr rfl fun entry hEntry => ?_)
  have hLookup : m.lookup entry.1 = some entry.2 := mem_lookup_iff.mpr hEntry
  rw [Function.comp_apply, hLookup, Option.map_some, Option.getD_some]

/-- Erasing never raises a total of numbers. -/
theorem total_erase_le (f : V → ℕ) (m : Finmap fun _ : K => V) (k : K) :
    total f (m.erase k) ≤ total f m := by
  cases h : m.lookup k with
  | none => rw [erase_of_lookup_none h]
  | some v => rw [← total_erase f h]; exact Nat.le_add_left ..

/-- No single value exceeds the total. -/
theorem le_total {f : V → ℕ} {m : Finmap fun _ : K => V} {k : K} {v : V}
    (h : m.lookup k = some v) : f v ≤ total f m := by
  rw [← total_erase f h]
  exact Nat.le_add_right ..

/-- Replacing a value moves the total by the difference. -/
theorem total_replace (f : V → ℕ) {m : Finmap fun _ : K => V} {k : K} {v : V} (v' : V)
    (h : m.lookup k = some v) : total f (m.insert k v') + f v = total f m + f v' := by
  have hErase := total_erase f h
  have hInsert := total_insert f m k v'
  omega

end Finmap
