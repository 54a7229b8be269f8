import Mathlib

/-!
# The Miller-Rabin test and how often it errs

A number `n` with `n - 1 = odd * 2 ^ shift` is tested with a base `b`: the power
`b ^ odd` is squared up to `shift` times, and `b` passes when the powers are `1` from
the start or come to `-1`.

* `passes_of_prime` — every base passes for a prime;
* `Subgroup.four_mul_card_le` — four elements in different cosets make a subgroup a
  quarter at most;
* `four_mul_card_liars_le` — for a composite number the bases that pass lie in such a
  subgroup of the units: a square of a prime factor, three coprime factors and two
  prime factors each give four cosets;
* `four_mul_card_passing_lt` — so fewer than a quarter of the bases from `2` to
  `n - 2` pass.
-/

namespace MillerRabin

/-- The base passes the test: its power is one, or one of the squares is minus one. -/
def Passes (n odd shift : ℕ) (b : ZMod n) : Prop :=
  b ^ odd = 1 ∨ ∃ r < shift, b ^ (odd * 2 ^ r) = -1

-- ---------------------------------------------------------------------------
-- Primes
-- ---------------------------------------------------------------------------

/-- In a field only `1` and `-1` square to `1`, so going back from a power that is one
by square roots ends at `-1` or at the first power. -/
theorem passes_of_pow_eq_one {p odd : ℕ} [Fact p.Prime] {b : ZMod p} :
    ∀ {shift : ℕ}, b ^ (odd * 2 ^ shift) = 1 → Passes p odd shift b := by
  intro shift
  induction shift with
  | zero =>
    intro hOne
    left
    rwa [pow_zero, mul_one] at hOne
  | succ shift ih =>
    intro hOne
    have hSquare : b ^ (odd * 2 ^ shift) * b ^ (odd * 2 ^ shift) = 1 := by
      rw [← pow_add, ← two_mul, ← hOne]
      ring_nf
    rcases mul_self_eq_one_iff.mp hSquare with hPlus | hMinus
    · rcases ih hPlus with hFirst | ⟨r, hr, hPower⟩
      · exact Or.inl hFirst
      · exact Or.inr ⟨r, Nat.lt_succ_of_lt hr, hPower⟩
    · exact Or.inr ⟨shift, Nat.lt_succ_self shift, hMinus⟩

/-- **A prime passes with every base** that it does not divide. -/
theorem passes_of_prime {p odd shift : ℕ} [Fact p.Prime] (hSplit : p - 1 = odd * 2 ^ shift)
    {b : ZMod p} (hb : b ≠ 0) : Passes p odd shift b := by
  refine passes_of_pow_eq_one ?_
  rw [← hSplit]
  exact ZMod.pow_card_sub_one_eq_one hb

-- ---------------------------------------------------------------------------
-- Cosets
-- ---------------------------------------------------------------------------

/-- A subgroup with four different cosets is a quarter of the group at most. -/
theorem four_mul_card_le {G : Type*} [Group G] [Finite G] (H : Subgroup G) {x y z : G}
    (hx : x ∉ H) (hy : y ∉ H) (hz : z ∉ H) (hxy : x⁻¹ * y ∉ H) (hxz : x⁻¹ * z ∉ H)
    (hyz : y⁻¹ * z ∉ H) : 4 * Nat.card H ≤ Nat.card G := by
  have hApart : ([(1 : G), x, y, z].Pairwise fun g g' => g⁻¹ * g' ∉ H) := by
    simp only [List.pairwise_cons, List.mem_cons, List.not_mem_nil, or_false, forall_eq_or_imp,
      forall_eq, inv_one, one_mul, List.Pairwise.nil, and_true, false_implies, implies_true]
    exact ⟨⟨hx, hy, hz⟩, ⟨hxy, hxz⟩, hyz⟩
  have hCosets : ([(1 : G), x, y, z].map (QuotientGroup.mk (s := H))).Nodup := by
    refine List.pairwise_map.mpr (hApart.imp ?_)
    intro g g' hDiffer hSame
    exact hDiffer (QuotientGroup.eq.mp hSame)
  have hIndex : 4 ≤ H.index := by
    classical
    have := Fintype.ofFinite (G ⧸ H)
    rw [Subgroup.index, Nat.card_eq_fintype_card]
    exact hCosets.length_le_card
  calc 4 * Nat.card H ≤ H.index * Nat.card H := Nat.mul_le_mul_right _ hIndex
    _ = Nat.card G := H.index_mul_card

-- ---------------------------------------------------------------------------
-- The units that can pass
-- ---------------------------------------------------------------------------

/-- The units whose power is one or minus one. -/
def liars (n power : ℕ) : Subgroup (ZMod n)ˣ where
  carrier := {u | u ^ power = 1 ∨ u ^ power = -1}
  one_mem' := Or.inl (one_pow power)
  mul_mem' := by
    rintro u v (hu | hu) (hv | hv) <;> simp [mul_pow, hu, hv]
  inv_mem' := by
    rintro u (hu | hu) <;> simp [inv_pow, hu]

/-- A number and the largest exponent `2 ^ depth` below `2 ^ shift` of which `-1` is a
power. -/
structure Depth (n shift depth : ℕ) : Prop where
  lt_shift : depth < shift
  root : ∃ x : (ZMod n)ˣ, x ^ 2 ^ depth = -1
  deepest : ∀ r < shift, ∀ x : (ZMod n)ˣ, x ^ 2 ^ r = -1 → r ≤ depth

theorem exists_depth (n : ℕ) {shift : ℕ} (hShift : 0 < shift) : ∃ depth, Depth n shift depth := by
  classical
  let IsRoot : ℕ → Prop := fun r => ∃ x : (ZMod n)ˣ, x ^ 2 ^ r = -1
  have hZero : IsRoot 0 := ⟨-1, by rw [pow_zero, pow_one]⟩
  refine ⟨Nat.findGreatest IsRoot (shift - 1), ?_, ?_, ?_⟩
  · have hLe := Nat.findGreatest_le (P := IsRoot) (shift - 1)
    omega
  · exact Nat.findGreatest_spec (P := IsRoot) (Nat.zero_le _) hZero
  · intro r hr x hx
    exact Nat.le_findGreatest (by omega) ⟨x, hx⟩

section Liars

variable {n odd shift depth : ℕ}

/-- **What passes lies in one subgroup.** -/
theorem Depth.mem_liars (h : Depth n shift depth) {u : (ZMod n)ˣ}
    (hPasses : Passes n odd shift (u : ZMod n)) : u ∈ liars n (odd * 2 ^ depth) := by
  rcases hPasses with hOne | ⟨r, hr, hMinus⟩
  · left
    have hUnit : u ^ odd = 1 := Units.ext (by push_cast; exact hOne)
    rw [pow_mul, hUnit, one_pow]
  · have hUnit : u ^ (odd * 2 ^ r) = -1 := Units.ext (by push_cast; exact hMinus)
    have hLe : r ≤ depth := by
      refine h.deepest r hr (u ^ odd) ?_
      rw [← pow_mul, hUnit]
    rcases hLe.eq_or_lt with rfl | hLt
    · exact Or.inr hUnit
    · -- squaring at least once more gives one
      left
      have hSplit : odd * 2 ^ depth = odd * 2 ^ r * 2 ^ (depth - r) := by
        rw [mul_assoc, ← pow_add, Nat.add_sub_cancel' hLe]
      have hEven : Even (2 ^ (depth - r)) :=
        (even_two).pow_of_ne_zero (by omega)
      rw [hSplit, pow_mul, hUnit, hEven.neg_one_pow]

/-- There is a unit of which the power itself is minus one. -/
theorem Depth.exists_root (h : Depth n shift depth) (hOdd : Odd odd) :
    ∃ x : (ZMod n)ˣ, x ^ (odd * 2 ^ depth) = -1 := by
  obtain ⟨x, hx⟩ := h.root
  exact ⟨x, by rw [mul_comm, pow_mul, hx, hOdd.neg_one_pow]⟩

end Liars

-- ---------------------------------------------------------------------------
-- A square of a prime factor
-- ---------------------------------------------------------------------------

section Square

variable {n p : ℕ}

/-- `1 + n / p` has order `p`, as the square of `n / p` is a multiple of `n`. -/
theorem one_add_pow_eq_one_iff (hp : 0 < p) (hn : 0 < n) (hSquare : p * p ∣ n) (m : ℕ) :
    (1 + ((n / p : ℕ) : ZMod n)) ^ m = 1 ↔ p ∣ m := by
  obtain ⟨k, rfl⟩ := hSquare
  have hDiv : p * p * k / p = p * k := by
    rw [mul_assoc, Nat.mul_div_cancel_left _ hp]
  rw [hDiv]
  set t : ZMod (p * p * k) := ((p * k : ℕ) : ZMod (p * p * k)) with ht
  have hNilpotent : t * t = 0 := by
    rw [ht, ← Nat.cast_mul, ZMod.natCast_eq_zero_iff]
    exact ⟨k, by ring⟩
  have hPow : (1 + t) ^ m = 1 + m * t := by
    induction m with
    | zero => rw [pow_zero, Nat.cast_zero, zero_mul, add_zero]
    | succ m ih =>
      rw [pow_succ, ih]
      push_cast
      linear_combination (m : ZMod (p * p * k)) * hNilpotent
  have hPos : 0 < p * k := by
    refine Nat.pos_of_ne_zero fun hZero => ?_
    rw [mul_assoc, hZero, mul_zero] at hn
    exact absurd hn (lt_irrefl 0)
  rw [hPow, add_eq_left, ht, ← Nat.cast_mul, ZMod.natCast_eq_zero_iff, mul_assoc]
  exact Nat.mul_dvd_mul_iff_right hPos

/-- **A square of a prime factor gives four cosets**: the powers of a unit of order
`p`, which does not divide the power. -/
theorem four_mul_card_liars_le_of_square {power : ℕ} [Fact p.Prime] (hFive : 5 ≤ p) (hn : 0 < n)
    (hSquare : p * p ∣ n) (hPower : power ∣ n - 1) :
    4 * Nat.card (liars n power) ≤ Nat.card (ZMod n)ˣ := by
  have hp := Fact.out (p := p.Prime)
  have hOrder := one_add_pow_eq_one_iff hp.pos hn hSquare
  have : NeZero n := ⟨hn.ne'⟩
  obtain ⟨c, hc⟩ : ∃ c : (ZMod n)ˣ, ∀ m, c ^ m = 1 ↔ p ∣ m := by
    refine ⟨Units.ofPowEqOne _ p ((hOrder p).mpr (dvd_refl p)) hp.ne_zero, fun m => ?_⟩
    rw [← hOrder m, Units.ext_iff]
    push_cast
    rw [Units.val_ofPowEqOne]
  have hCoprime : ¬ p ∣ power := by
    intro hDvd
    have hOne : p ∣ 1 := by
      have hPrev := hDvd.trans hPower
      have hSelf : p ∣ n := (Dvd.intro p rfl).trans hSquare
      exact (Nat.dvd_sub_iff_right hn hSelf).mp hPrev
    exact hp.one_lt.ne' (Nat.dvd_one.mp hOne)
  -- c, c ^ 2 and c ^ 3 are not in the subgroup
  have hApart : ∀ j, 0 < j → j < p → c ^ j ∉ liars n power := by
    intro j hPos hLt hMem
    have hTwice : (c ^ j) ^ (power * 2) = 1 := by
      rcases hMem with hOne | hMinus
      · rw [pow_mul, hOne, one_pow]
      · rw [pow_mul, hMinus, neg_one_sq]
    rw [← pow_mul, hc] at hTwice
    rcases hp.dvd_mul.mp hTwice with hj | hRest
    · exact absurd (Nat.le_of_dvd hPos hj) (by omega)
    rcases hp.dvd_mul.mp hRest with hDvd | hTwo
    · exact hCoprime hDvd
    · exact absurd (Nat.le_of_dvd (by norm_num) hTwo) (by omega)
  have hOnce : c ∉ liars n power := by
    have hFirst := hApart 1 (by norm_num) (by omega)
    rwa [pow_one] at hFirst
  refine four_mul_card_le (liars n power) hOnce (hApart 2 (by norm_num) (by omega))
    (hApart 3 (by norm_num) (by omega)) ?_ ?_ ?_
  · rwa [pow_two, inv_mul_cancel_left]
  · rw [pow_succ', inv_mul_cancel_left]
    exact hApart 2 (by norm_num) (by omega)
  · rwa [pow_succ c 2, inv_mul_cancel_left]

end Square

-- ---------------------------------------------------------------------------
-- Coprime factors
-- ---------------------------------------------------------------------------

section Coprime

variable {n d d' power : ℕ}

theorem unitsMap_neg_one (hd : d ∣ n) : ZMod.unitsMap hd (-1) = -1 :=
  Units.ext (by simp [ZMod.unitsMap_def])

theorem neg_one_ne_one_of_two_lt (hd : 2 < d) : (-1 : (ZMod d)ˣ) ≠ 1 := by
  have : Fact (2 < d) := ⟨hd⟩
  intro hSame
  exact ZMod.neg_one_ne_one (congrArg Units.val hSame)

/-- A unit whose power is minus one at one factor and one at another is no liar. -/
theorem notMem_liars_of_mixed (hd : d ∣ n) (hd' : d' ∣ n) (hLarge : 2 < d) (hLarge' : 2 < d')
    {u : (ZMod n)ˣ} (hMinus : ZMod.unitsMap hd u ^ power = -1)
    (hPlus : ZMod.unitsMap hd' u ^ power = 1) : u ∉ liars n power := by
  rintro (hOne | hNeg)
  · rw [← map_pow, hOne, map_one] at hMinus
    exact neg_one_ne_one_of_two_lt hLarge hMinus.symm
  · rw [← map_pow, hNeg, unitsMap_neg_one] at hPlus
    exact neg_one_ne_one_of_two_lt hLarge' hPlus

/-- Chinese remainders for units. -/
theorem exists_unitsMap (hn : d * d' = n) (hCop : d.Coprime d') (a : (ZMod d)ˣ)
    (b : (ZMod d')ˣ) : ∃ u : (ZMod n)ˣ,
      ZMod.unitsMap (Dvd.intro d' hn) u = a ∧ ZMod.unitsMap (Dvd.intro_left d hn) u = b := by
  subst hn
  let e := ZMod.chineseRemainder hCop
  have hFst : (RingHom.fst (ZMod d) (ZMod d')).comp e.toRingHom =
      ZMod.castHom (Dvd.intro d' rfl) (ZMod d) := RingHom.ext_zmod _ _
  have hSnd : (RingHom.snd (ZMod d) (ZMod d')).comp e.toRingHom =
      ZMod.castHom (Dvd.intro_left d rfl) (ZMod d') := RingHom.ext_zmod _ _
  refine ⟨Units.mapEquiv e.symm.toMulEquiv (MulEquiv.prodUnits.symm (a, b)), ?_, ?_⟩
  · refine Units.ext ?_
    rw [ZMod.unitsMap_def, ← hFst]
    exact congrArg Prod.fst (e.apply_symm_apply ((a : ZMod d), (b : ZMod d')))
  · refine Units.ext ?_
    rw [ZMod.unitsMap_def, ← hSnd]
    exact congrArg Prod.snd (e.apply_symm_apply ((a : ZMod d), (b : ZMod d')))

/-- A unit whose power is minus one at a factor and one at whatever divides the
cofactor. -/
structure Flips (power d d' : ℕ) (u : (ZMod n)ˣ) : Prop where
  minus : ∀ hd : d ∣ n, ZMod.unitsMap hd u ^ power = -1
  plus : ∀ e, e ∣ d' → ∀ he : e ∣ n, ZMod.unitsMap he u ^ power = 1

theorem exists_flips (hn : d * d' = n) (hCop : d.Coprime d') {x : (ZMod n)ˣ}
    (hx : x ^ power = -1) : ∃ u : (ZMod n)ˣ, Flips power d d' u := by
  obtain ⟨u, hd, hd'⟩ := exists_unitsMap hn hCop (ZMod.unitsMap (Dvd.intro d' hn) x) 1
  refine ⟨u, fun hDvd => ?_, fun e hDvd he => ?_⟩
  · rw [hd, ← map_pow, hx, unitsMap_neg_one]
  · have hCompose := ZMod.unitsMap_comp hDvd (Dvd.intro_left d hn)
    rw [← hCompose, MonoidHom.comp_apply, hd', map_one, one_pow]

/-- **Three coprime factors give four cosets**: the units that flip one factor each. -/
theorem four_mul_card_liars_le_of_three [NeZero n] {d₁ d₂ d₃ : ℕ} (hn : d₁ * (d₂ * d₃) = n)
    (h₁ : 2 < d₁) (h₂ : 2 < d₂) (h₃ : 2 < d₃) (h₁₂ : d₁.Coprime d₂) (h₁₃ : d₁.Coprime d₃)
    (h₂₃ : d₂.Coprime d₃) {x : (ZMod n)ˣ} (hx : x ^ power = -1) :
    4 * Nat.card (liars n power) ≤ Nat.card (ZMod n)ˣ := by
  have hn₂ : d₂ * (d₁ * d₃) = n := by rw [← hn]; ring
  have hn₃ : d₃ * (d₁ * d₂) = n := by rw [← hn]; ring
  have hd₁ : d₁ ∣ n := Dvd.intro _ hn
  have hd₂ : d₂ ∣ n := Dvd.intro _ hn₂
  have hd₃ : d₃ ∣ n := Dvd.intro _ hn₃
  obtain ⟨u₁, hu₁⟩ := exists_flips hn (h₁₂.mul_right h₁₃) hx
  obtain ⟨u₂, hu₂⟩ := exists_flips hn₂ (h₁₂.symm.mul_right h₂₃) hx
  obtain ⟨u₃, hu₃⟩ := exists_flips hn₃ (h₁₃.symm.mul_right h₂₃.symm) hx
  have hPlus₁₂ := hu₁.plus d₂ (Dvd.intro _ rfl) hd₂
  have hPlus₁₃ := hu₁.plus d₃ (Dvd.intro_left _ rfl) hd₃
  have hPlus₂₁ := hu₂.plus d₁ (Dvd.intro _ rfl) hd₁
  have hPlus₂₃ := hu₂.plus d₃ (Dvd.intro_left _ rfl) hd₃
  have hPlus₃₁ := hu₃.plus d₁ (Dvd.intro _ rfl) hd₁
  have hPlus₃₂ := hu₃.plus d₂ (Dvd.intro_left _ rfl) hd₂
  refine four_mul_card_le (liars n power)
    (notMem_liars_of_mixed hd₁ hd₂ h₁ h₂ (hu₁.minus hd₁) hPlus₁₂)
    (notMem_liars_of_mixed hd₂ hd₁ h₂ h₁ (hu₂.minus hd₂) hPlus₂₁)
    (notMem_liars_of_mixed hd₃ hd₁ h₃ h₁ (hu₃.minus hd₃) hPlus₃₁)
    (notMem_liars_of_mixed hd₁ hd₃ h₁ h₃ ?_ ?_) (notMem_liars_of_mixed hd₁ hd₂ h₁ h₂ ?_ ?_)
    (notMem_liars_of_mixed hd₂ hd₁ h₂ h₁ ?_ ?_)
  · simp [mul_pow, hu₁.minus hd₁, hPlus₂₁]
  · simp [mul_pow, hPlus₁₃, hPlus₂₃]
  · simp [mul_pow, hu₁.minus hd₁, hPlus₃₁]
  · simp [mul_pow, hPlus₁₂, hPlus₃₂]
  · simp [mul_pow, hu₂.minus hd₂, hPlus₃₂]
  · simp [mul_pow, hPlus₂₁, hPlus₃₁]

-- ---------------------------------------------------------------------------
-- Two primes
-- ---------------------------------------------------------------------------

/-- The larger of two primes has a unit that the Fermat test with their product finds. -/
theorem exists_pow_ne_one {p q : ℕ} [Fact p.Prime] (hq : 1 < q) (hLt : q < p) :
    ∃ g : (ZMod p)ˣ, g ^ (p * q - 1) ≠ 1 := by
  obtain ⟨g, hg⟩ := IsCyclic.exists_generator (α := (ZMod p)ˣ)
  refine ⟨g, fun hOne => ?_⟩
  have hOrder : orderOf g = p - 1 := by
    rw [orderOf_eq_card_of_forall_mem_zpowers hg, Nat.card_eq_fintype_card, ZMod.card_units]
  have hDvd : p - 1 ∣ p * q - 1 := by
    rw [← hOrder]
    exact orderOf_dvd_of_pow_eq_one hOne
  -- p * q - 1 is q - 1 modulo p - 1
  have hSplit : p * q - 1 = (p - 1) * q + (q - 1) := by
    obtain ⟨k, rfl⟩ : ∃ k, p = k + 1 := ⟨p - 1, by omega⟩
    rw [Nat.add_sub_cancel, add_mul, one_mul]
    omega
  rw [hSplit] at hDvd
  have hRest : p - 1 ∣ q - 1 := (Nat.dvd_add_right (Dvd.intro q rfl)).mp hDvd
  have hLe := Nat.le_of_dvd (by omega) hRest
  omega

/-- **Two primes give four cosets**: a unit that flips one of them, one that fails the
Fermat test, and their product. -/
theorem four_mul_card_liars_le_of_two {p q : ℕ} [Fact p.Prime] (hq : q.Prime) (hn : p * q = n)
    (hTwo : 2 < q) (hLt : q < p) (hPower : power * 2 ∣ n - 1) {x : (ZMod n)ˣ}
    (hx : x ^ power = -1) : 4 * Nat.card (liars n power) ≤ Nat.card (ZMod n)ˣ := by
  have hp := Fact.out (p := p.Prime)
  have : NeZero n := ⟨by rw [← hn]; exact Nat.mul_ne_zero hp.ne_zero hq.ne_zero⟩
  have hCop : p.Coprime q := (Nat.coprime_primes hp hq).mpr hLt.ne'
  have hdp : p ∣ n := Dvd.intro q hn
  have hdq : q ∣ n := Dvd.intro_left p hn
  obtain ⟨g, hg⟩ := exists_flips hn hCop hx
  obtain ⟨a, ha⟩ := exists_pow_ne_one (p := p) hq.one_lt hLt
  obtain ⟨w, hw, -⟩ := exists_unitsMap hn hCop a 1
  rw [hn, ← hw] at ha
  -- at p, the liars and the flip pass the Fermat test
  have hTest : ∀ {u : (ZMod n)ˣ}, ZMod.unitsMap hdp u ^ power = 1 ∨
      ZMod.unitsMap hdp u ^ power = -1 → ZMod.unitsMap hdp u ^ (n - 1) = 1 := by
    intro u hu
    obtain ⟨k, hk⟩ := hPower
    rw [hk, mul_assoc, pow_mul]
    rcases hu with hOne | hMinus
    · rw [hOne, one_pow]
    · rw [hMinus, pow_mul, neg_one_sq, one_pow]
  have hLiar : ∀ {u}, u ∈ liars n power → ZMod.unitsMap hdp u ^ (n - 1) = 1 := by
    rintro u (hOne | hMinus)
    · exact hTest (Or.inl (by rw [← map_pow, hOne, map_one]))
    · exact hTest (Or.inr (by rw [← map_pow, hMinus, unitsMap_neg_one]))
  have hFlip : ZMod.unitsMap hdp g ^ (n - 1) = 1 := hTest (Or.inr (hg.minus hdp))
  have hgOut : g ∉ liars n power :=
    notMem_liars_of_mixed hdp hdq (hTwo.trans hLt) hTwo (hg.minus hdp)
      (hg.plus q (dvd_refl q) hdq)
  have hwOut : w ∉ liars n power := fun hMem => ha (hLiar hMem)
  refine four_mul_card_le (liars n power) hgOut hwOut (z := g * w) ?_ ?_ ?_ ?_
  · intro hMem
    have hOne := hLiar hMem
    rw [map_mul, mul_pow, hFlip, one_mul] at hOne
    exact ha hOne
  · intro hMem
    have hOne := hLiar hMem
    rw [map_mul, map_inv, mul_pow, inv_pow, hFlip, inv_one, one_mul] at hOne
    exact ha hOne
  · rwa [inv_mul_cancel_left]
  · rwa [mul_comm g w, inv_mul_cancel_left]

end Coprime

-- ---------------------------------------------------------------------------
-- Composite numbers
-- ---------------------------------------------------------------------------

section Composite

variable {n odd shift depth : ℕ}

/-- **A quarter of the units at most are liars**, for every composite number without
the factors two and three. -/
theorem four_mul_card_liars_le (hn : 1 < n) (hComposite : ¬ n.Prime)
    (hFactors : ∀ p, p.Prime → p ∣ n → 5 ≤ p) (hSplit : n - 1 = odd * 2 ^ shift)
    (hOdd : Odd odd) (hDepth : Depth n shift depth) :
    4 * Nat.card (liars n (odd * 2 ^ depth)) ≤ Nat.card (ZMod n)ˣ := by
  have : NeZero n := ⟨by omega⟩
  obtain ⟨x, hx⟩ := hDepth.exists_root hOdd
  have hPower : odd * 2 ^ depth * 2 ∣ n - 1 := by
    rw [hSplit, mul_assoc, ← pow_succ]
    exact Nat.mul_dvd_mul_left odd (Nat.pow_dvd_pow 2 hDepth.lt_shift)
  by_cases hSquare : ∃ p, p.Prime ∧ p * p ∣ n
  · obtain ⟨p, hp, hDvd⟩ := hSquare
    have := Fact.mk hp
    exact four_mul_card_liars_le_of_square (hFactors p hp ((Dvd.intro p rfl).trans hDvd))
      (by omega) hDvd ((Dvd.intro 2 rfl).trans hPower)
  have hSquarefree : ∀ p, p.Prime → ¬ p * p ∣ n := fun p hp hDvd => hSquare ⟨p, hp, hDvd⟩
  -- the smallest prime factor, and what is left
  obtain ⟨p, hp, m, rfl⟩ : ∃ p, p.Prime ∧ p ∣ n := Nat.exists_prime_and_dvd (by omega)
  have hm : 1 < m := by
    rcases Nat.lt_trichotomy m 1 with hZero | rfl | hMore
    · rw [Nat.lt_one_iff.mp hZero, mul_zero] at hn
      omega
    · rw [mul_one] at hComposite
      exact absurd hp hComposite
    · exact hMore
  have hpm : ¬ p ∣ m := fun hDvd => hSquarefree p hp (Nat.mul_dvd_mul_left p hDvd)
  have hpLarge := hFactors p hp (Dvd.intro m rfl)
  have hFactorsM : ∀ q, q.Prime → q ∣ m → 5 ≤ q := fun q hq hDvd =>
    hFactors q hq (hDvd.mul_left p)
  by_cases hPrime : m.Prime
  · -- two primes, in whichever order
    have hmLarge := hFactorsM m hPrime (dvd_refl m)
    have hne : p ≠ m := fun hSame => hpm (hSame ▸ dvd_refl p)
    rcases Nat.lt_or_gt_of_ne hne with hLt | hLt
    · have := Fact.mk hPrime
      exact four_mul_card_liars_le_of_two hp (mul_comm m p) (by omega) hLt hPower hx
    · have := Fact.mk hp
      exact four_mul_card_liars_le_of_two hPrime rfl (by omega) hLt hPower hx
  · obtain ⟨q, hq, k, rfl⟩ : ∃ q, q.Prime ∧ q ∣ m := Nat.exists_prime_and_dvd (by omega)
    have hqk : ¬ q ∣ k := fun hDvd =>
      hSquarefree q hq ((Nat.mul_dvd_mul_left q hDvd).mul_left p)
    have hk : 2 < k := by
      have hkOne : k ≠ 1 := by
        rintro rfl
        rw [mul_one] at hPrime
        exact hPrime hq
      have hkZero : k ≠ 0 := by
        rintro rfl
        rw [mul_zero] at hm
        omega
      obtain ⟨r, hr, hDvd⟩ := Nat.exists_prime_and_dvd hkOne
      have hrLarge := hFactorsM r hr (hDvd.mul_left q)
      have hLe := Nat.le_of_dvd (Nat.pos_of_ne_zero hkZero) hDvd
      omega
    have hqLarge := hFactorsM q hq (Dvd.intro k rfl)
    have hpq : p.Coprime q := (Nat.Prime.coprime_iff_not_dvd hp).mpr fun hDvd =>
      hpm (hDvd.mul_right k)
    have hpk : p.Coprime k := (Nat.Prime.coprime_iff_not_dvd hp).mpr fun hDvd =>
      hpm (hDvd.mul_left q)
    exact four_mul_card_liars_le_of_three rfl (by omega) (by omega) hk hpq hpk
      ((Nat.Prime.coprime_iff_not_dvd hq).mpr hqk) hx

/-- What passes is a unit. -/
theorem Passes.isUnit {b : ZMod n} (hOdd : Odd odd) (h : Passes n odd shift b) : IsUnit b := by
  rcases h with hOne | ⟨r, -, hMinus⟩
  · exact IsUnit.of_pow_eq_one hOne hOdd.pos.ne'
  · have hPos : odd * 2 ^ r ≠ 0 := Nat.mul_ne_zero hOdd.pos.ne' (Nat.two_pow_pos r).ne'
    refine (isUnit_pow_iff hPos).mp ?_
    rw [hMinus]
    exact isUnit_one.neg

/-- **Fewer than a quarter of the bases pass**, of those that are neither `1` nor `-1`. -/
theorem four_mul_card_passing_lt (hComposite : ¬ n.Prime) (hn : 1 < n)
    (hFactors : ∀ p, p.Prime → p ∣ n → 5 ≤ p) (hSplit : n - 1 = odd * 2 ^ shift)
    (hOdd : Odd odd) (hShift : 0 < shift) (passing : Finset ℕ)
    (hPassing : ∀ b ∈ passing, 2 ≤ b ∧ b < n - 1 ∧ Passes n odd shift (b : ZMod n)) :
    4 * passing.card < n - 3 := by
  have : NeZero n := ⟨by omega⟩
  obtain ⟨depth, hDepth⟩ := exists_depth n hShift
  -- 1 and -1 pass as well
  have hEnds : ∀ b ∈ insert 1 (insert (n - 1) passing),
      b < n ∧ Passes n odd shift (b : ZMod n) := by
    intro b hb
    rcases Finset.mem_insert.mp hb with rfl | hb
    · exact ⟨hn, Or.inl (by rw [Nat.cast_one, one_pow])⟩
    rcases Finset.mem_insert.mp hb with rfl | hb
    · refine ⟨by omega, Or.inr ⟨0, hShift, ?_⟩⟩
      rw [pow_zero, mul_one, Nat.cast_sub hn.le, Nat.cast_one, ZMod.natCast_self, zero_sub,
        hOdd.neg_one_pow]
    · exact ⟨by have := hPassing b hb; omega, (hPassing b hb).2.2⟩
  have hCard : (insert 1 (insert (n - 1) passing)).card = passing.card + 2 := by
    have hTop : n - 1 ∉ passing := fun hMem => absurd (hPassing _ hMem).2.1 (lt_irrefl _)
    have hOne : 1 ∉ insert (n - 1) passing := by
      intro hMem
      rcases Finset.mem_insert.mp hMem with hSame | hMem
      · exact hComposite ((show n = 2 by omega) ▸ Nat.prime_two)
      · exact absurd (hPassing 1 hMem).1 (by omega)
    rw [Finset.card_insert_of_notMem hOne, Finset.card_insert_of_notMem hTop]
  let toLiar : {b // b ∈ insert 1 (insert (n - 1) passing)} → liars n (odd * 2 ^ depth) :=
    fun b => ⟨((hEnds b b.2).2.isUnit hOdd).unit, hDepth.mem_liars (hEnds b b.2).2⟩
  have hInjective : Function.Injective toLiar := by
    intro b b' hSame
    have hCast : ((b : ℕ) : ZMod n) = ((b' : ℕ) : ZMod n) :=
      congrArg (fun u : liars n (odd * 2 ^ depth) => ((u : (ZMod n)ˣ) : ZMod n)) hSame
    rw [ZMod.natCast_eq_natCast_iff', Nat.mod_eq_of_lt (hEnds b b.2).1,
      Nat.mod_eq_of_lt (hEnds b' b'.2).1] at hCast
    exact Subtype.ext hCast
  have hLiars : passing.card + 2 ≤ Nat.card (liars n (odd * 2 ^ depth)) := by
    have hLe := Nat.card_le_card_of_injective toLiar hInjective
    rwa [Nat.card_eq_fintype_card, Fintype.card_coe, hCard] at hLe
  have hQuarter := four_mul_card_liars_le hn hComposite hFactors hSplit hOdd hDepth
  have hUnits : Nat.card (ZMod n)ˣ < n := by
    rw [Nat.card_eq_fintype_card, ZMod.card_units_eq_totient]
    exact Nat.totient_lt n hn
  omega

end Composite

end MillerRabin
