import DigitalEuro.Lib.MillerRabin
import DigitalEuro.Lib.Rsa

/-!
# Digital euro — the primality test of key generation (`signature.rs`)

`is_probable_prime` divides by the primes up to 73 and then runs Miller-Rabin with
bases drawn from an RNG. The big numbers an RNG draws are a parameter, of which the
ranges are known and nothing else.

* `accepts_iff` — when a round accepts a base, read off the loops;
* `isProbablePrime_iff` — the test accepts what no drawn base rejects;
* `never_rejects_a_prime` — primes are accepted, whatever is drawn;
* `error_bound` — for a composite number fewer than a quarter of the bases are
  accepted, so fewer than a `4 ^ -rounds` part of the sequences.
-/

namespace DigitalEuro

/-- The big numbers an RNG draws, `gen_biguint` and `gen_biguint_range`. The range
must not be empty. -/
class RandBigInt (R : Type) where
  genBiguint : R → ℕ → ℕ × R
  genBiguintRange : R → ℕ → ℕ → ℕ × R
  genBiguint_lt : ∀ rng bits, (genBiguint rng bits).1 < 2 ^ bits
  le_genBiguintRange : ∀ rng {lbound ubound}, lbound < ubound →
    lbound ≤ (genBiguintRange rng lbound ubound).1
  genBiguintRange_lt : ∀ rng {lbound ubound}, lbound < ubound →
    (genBiguintRange rng lbound ubound).1 < ubound

/-- An RNG that returns given numbers, as far as they are in range. -/
structure ScriptedRng where
  numbers : List ℕ
  bases : List ℕ
deriving DecidableEq

instance : RandBigInt ScriptedRng where
  genBiguint rng bits := (rng.numbers.headD 0 % 2 ^ bits, { rng with numbers := rng.numbers.tail })
  genBiguintRange rng lbound ubound :=
    let base := rng.bases.headD 0
    (if lbound ≤ base ∧ base < ubound then base else lbound, { rng with bases := rng.bases.tail })
  genBiguint_lt _ bits := Nat.mod_lt _ (Nat.two_pow_pos bits)
  le_genBiguintRange _ _ _ _ := by
    dsimp only
    split
    · next h => exact h.1
    · exact Nat.le_refl _
  genBiguintRange_lt _ _ _ hRange := by
    dsimp only
    split
    · next h => exact h.2
    · exact hRange

namespace Primality

-- ---------------------------------------------------------------------------
-- The test
-- ---------------------------------------------------------------------------

/-- `SMALL_PRIMES`. -/
def smallPrimes : List ℕ :=
  [3, 5, 7, 11, 13, 17, 19, 23, 29, 31, 37, 41, 43, 47, 53, 59, 61, 67, 71, 73]

/-- The loop over the small primes; `none` when it runs to its end. -/
def trialDivision (n : ℕ) : List ℕ → Option Bool
  | [] => none
  | small :: rest =>
    if n = small then some true
    else if n % small = 0 then some false
    else trialDivision n rest

def trailingZerosLoop : ℕ → ℕ → ℕ
  | 0, _ => 0
  | fuel + 1, m => if m % 2 = 0 then trailingZerosLoop fuel (m / 2) + 1 else 0

/-- `BigUint::trailing_zeros`. -/
def trailingZeros (m : ℕ) : Option ℕ :=
  if m = 0 then none else some (trailingZerosLoop (m.log2 + 1) m)

def shift (n : ℕ) : ℕ := (trailingZeros (n - 1)).getD 0

def oddPart (n : ℕ) : ℕ := (n - 1) >>> shift n

/-- The loop `for _ in 1..shift`: whether a square comes to `n - 1`. -/
def squaringLoop (n : ℕ) : ℕ → ℕ → Bool
  | 0, _ => false
  | count + 1, x =>
    let x := Rsa.modpow x 2 n
    if x = n - 1 then true else squaringLoop n count x

/-- Whether one round goes on to the next. -/
def accepts (n base : ℕ) : Bool :=
  let x := Rsa.modpow base (oddPart n) n
  if x = 1 ∨ x = n - 1 then true else squaringLoop n (shift n - 1) x

variable {R : Type} [RandBigInt R]

/-- The rounds. -/
def roundsLoop (n : ℕ) : ℕ → R → Bool × R
  | 0, rng => (true, rng)
  | rounds + 1, rng =>
    let (base, rng) := RandBigInt.genBiguintRange rng 2 (n - 1)
    if accepts n base then roundsLoop n rounds rng else (false, rng)

/-- Miller-Rabin with `rounds` random bases, after trial division. -/
def isProbablePrime (n rounds : ℕ) (rng : R) : Bool × R :=
  if n < 2 then (false, rng)
  else if n = 2 then (true, rng)
  else if n % 2 = 0 then (false, rng)
  else
    match trialDivision n smallPrimes with
    | some result => (result, rng)
    | none => roundsLoop n rounds rng

-- ---------------------------------------------------------------------------
-- Trial division
-- ---------------------------------------------------------------------------

theorem smallPrimes_prime : ∀ small ∈ smallPrimes, small.Prime := by
  norm_num [smallPrimes]

theorem trialDivision_none {n : ℕ} {primes : List ℕ} :
    trialDivision n primes = none ↔ ∀ small ∈ primes, n ≠ small ∧ ¬ small ∣ n := by
  induction primes with
  | nil => simp [trialDivision]
  | cons small rest ih =>
    rw [trialDivision, List.forall_mem_cons, ← ih, Nat.dvd_iff_mod_eq_zero]
    split
    · next hSame => simp [hSame]
    · next hOther =>
      split
      · next hDvd => simp [hDvd]
      · next hNot => simp [hOther, hNot]

/-- A number is refused for a proper divisor only. -/
theorem trialDivision_false {n : ℕ} {primes : List ℕ} (h : trialDivision n primes = some false) :
    ∃ small ∈ primes, n ≠ small ∧ small ∣ n := by
  induction primes with
  | nil => exact absurd h (by simp [trialDivision])
  | cons small rest ih =>
    rw [trialDivision] at h
    split at h
    · exact absurd h (by simp)
    · next hOther =>
      split at h
      · next hDvd =>
        exact ⟨small, List.mem_cons_self, hOther, Nat.dvd_of_mod_eq_zero hDvd⟩
      · obtain ⟨small', hMem, hRest⟩ := ih h
        exact ⟨small', List.mem_cons_of_mem _ hMem, hRest⟩

/-- The numbers that reach the rounds. -/
structure Sifted (n : ℕ) : Prop where
  two_lt : 2 < n
  odd : n % 2 = 1
  undivided : trialDivision n smallPrimes = none

theorem Sifted.isProbablePrime_eq {n : ℕ} (h : Sifted n) (rounds : ℕ) (rng : R) :
    isProbablePrime n rounds rng = roundsLoop n rounds rng := by
  have hLarge := h.two_lt
  have hOdd := h.odd
  rw [isProbablePrime, if_neg (by omega), if_neg (by omega), if_neg (by omega), h.undivided]

/-- **The bases are drawn from a range that is not empty.** -/
theorem Sifted.range_nonempty {n : ℕ} (h : Sifted n) : 2 < n - 1 := by
  have hLarge := h.two_lt
  have hOdd := h.odd
  have hThree : n ≠ 3 := (trialDivision_none.mp h.undivided 3 (by decide)).1
  omega

-- ---------------------------------------------------------------------------
-- The split of n - 1
-- ---------------------------------------------------------------------------

theorem trailingZerosLoop_spec : ∀ {fuel m : ℕ}, m ≠ 0 → m < 2 ^ fuel →
    ∃ k, m = k * 2 ^ trailingZerosLoop fuel m ∧ Odd k := by
  intro fuel
  induction fuel with
  | zero =>
    intro m hPos hFuel
    rw [pow_zero] at hFuel
    omega
  | succ fuel ih =>
    intro m hPos hFuel
    rw [trailingZerosLoop]
    split
    · next hEven =>
      rw [pow_succ] at hFuel
      obtain ⟨k, hSplit, hOdd⟩ := ih (show m / 2 ≠ 0 by omega) (by omega)
      refine ⟨k, ?_, hOdd⟩
      rw [pow_succ, ← mul_assoc, ← hSplit]
      omega
    · next hOdd =>
      exact ⟨m, by rw [pow_zero, mul_one], Nat.odd_iff.mpr (by omega)⟩

/-- The odd part and the shift make up `n - 1`. -/
theorem split_eq {n : ℕ} (hn : 1 < n) : n - 1 = oddPart n * 2 ^ shift n ∧ Odd (oddPart n) := by
  have hPos : n - 1 ≠ 0 := by omega
  have hShift : shift n = trailingZerosLoop ((n - 1).log2 + 1) (n - 1) := by
    rw [shift, trailingZeros, if_neg hPos, Option.getD_some]
  obtain ⟨k, hSplit, hOdd⟩ := trailingZerosLoop_spec hPos Nat.lt_log2_self
  rw [← hShift] at hSplit
  have hPart : oddPart n = k := by
    rw [oddPart, Nat.shiftRight_eq_div_pow, hSplit]
    exact Nat.mul_div_cancel _ (Nat.two_pow_pos _)
  rw [hPart]
  exact ⟨hSplit, hOdd⟩

theorem Sifted.shift_pos {n : ℕ} (h : Sifted n) : 0 < shift n := by
  have hLarge := h.two_lt
  have hOddN := h.odd
  obtain ⟨hSplit, hOdd⟩ := split_eq (n := n) (by omega)
  refine Nat.pos_of_ne_zero fun hZero => ?_
  rw [hZero, pow_zero, mul_one] at hSplit
  rw [← hSplit, Nat.odd_iff] at hOdd
  omega

-- ---------------------------------------------------------------------------
-- One round
-- ---------------------------------------------------------------------------

/-- The loop looks for `n - 1` among the squares after the first power. -/
theorem squaringLoop_iff (n : ℕ) : ∀ count x : ℕ,
    squaringLoop n count x = true ↔ ∃ i < count, x ^ 2 ^ (i + 1) % n = n - 1 := by
  intro count
  induction count with
  | zero => simp [squaringLoop]
  | succ count ih =>
    intro x
    have hNext : ∀ i, Rsa.modpow x 2 n ^ 2 ^ (i + 1) % n = x ^ 2 ^ (i + 1 + 1) % n := by
      intro i
      rw [Rsa.modpow_eq, ← Nat.pow_mod, ← pow_mul, pow_succ' 2 (i + 1)]
    rw [squaringLoop]
    split
    · next hHit =>
      refine iff_of_true rfl ⟨0, Nat.succ_pos count, ?_⟩
      rw [zero_add, pow_one, ← Rsa.modpow_eq, hHit]
    · next hMiss =>
      rw [ih]
      constructor
      · rintro ⟨i, hi, hSquare⟩
        exact ⟨i + 1, Nat.succ_lt_succ hi, by rw [← hNext, hSquare]⟩
      · rintro ⟨i, hi, hSquare⟩
        cases i with
        | zero =>
          rw [zero_add, pow_one, ← Rsa.modpow_eq] at hSquare
          exact absurd hSquare hMiss
        | succ i => exact ⟨i, Nat.lt_of_succ_lt_succ hi, by rw [hNext, hSquare]⟩

/-- **When a round accepts.** -/
theorem Sifted.accepts_iff {n : ℕ} (h : Sifted n) (base : ℕ) :
    accepts n base = true ↔
      base ^ oddPart n % n = 1 ∨ ∃ r < shift n, base ^ (oddPart n * 2 ^ r) % n = n - 1 := by
  have hShift := h.shift_pos
  have hPower : ∀ i, (base ^ oddPart n % n) ^ 2 ^ i % n = base ^ (oddPart n * 2 ^ i) % n := by
    intro i
    rw [← Nat.pow_mod, ← pow_mul]
  have hFirst : base ^ oddPart n % n % n = base ^ oddPart n % n := Nat.mod_mod _ _
  simp only [accepts, Rsa.modpow_eq]
  split
  · next hEnd =>
    refine iff_of_true rfl (hEnd.imp_right fun hMinus => ⟨0, hShift, ?_⟩)
    rw [pow_zero, mul_one, hMinus]
  · next hGo =>
    rw [squaringLoop_iff]
    constructor
    · rintro ⟨i, hi, hSquare⟩
      exact Or.inr ⟨i + 1, by omega, by rw [← hPower, hSquare]⟩
    · rintro (hOne | ⟨r, hr, hMinus⟩)
      · exact absurd (Or.inl hOne) hGo
      · -- the first power was not n - 1, so the exponent is a square's
        cases r with
        | zero =>
          rw [pow_zero, mul_one] at hMinus
          exact absurd (Or.inr hMinus) hGo
        | succ i => exact ⟨i, by omega, by rw [hPower, hMinus]⟩

/-- A round is the test of `Lib/MillerRabin.lean`. -/
theorem Sifted.accepts_iff_passes {n : ℕ} (h : Sifted n) (base : ℕ) :
    accepts n base = true ↔ MillerRabin.Passes n (oddPart n) (shift n) (base : ZMod n) := by
  have hLarge := h.two_lt
  have hOne : ∀ m, (base : ZMod n) ^ m = 1 ↔ base ^ m % n = 1 := by
    intro m
    rw [← Nat.cast_pow, ← Nat.cast_one, ZMod.natCast_eq_natCast_iff',
      Nat.mod_eq_of_lt (show 1 < n by omega)]
  have hMinus : ∀ m, (base : ZMod n) ^ m = -1 ↔ base ^ m % n = n - 1 := by
    intro m
    have hCast : (-1 : ZMod n) = ((n - 1 : ℕ) : ZMod n) := by
      rw [Nat.cast_sub (by omega), ZMod.natCast_self, Nat.cast_one, zero_sub]
    rw [hCast, ← Nat.cast_pow, ZMod.natCast_eq_natCast_iff', Nat.mod_eq_of_lt (by omega : n - 1 < n)]
  simp only [h.accepts_iff, MillerRabin.Passes, hOne, hMinus]

-- ---------------------------------------------------------------------------
-- All rounds
-- ---------------------------------------------------------------------------

/-- The bases that the rounds draw one after another. -/
def bases (n : ℕ) : ℕ → R → List ℕ
  | 0, _ => []
  | rounds + 1, rng =>
    (RandBigInt.genBiguintRange rng 2 (n - 1)).1 ::
      bases n rounds (RandBigInt.genBiguintRange rng 2 (n - 1)).2

theorem roundsLoop_iff (n : ℕ) : ∀ (rounds : ℕ) (rng : R),
    (roundsLoop n rounds rng).1 = true ↔ ∀ base ∈ bases n rounds rng, accepts n base = true := by
  intro rounds
  induction rounds with
  | zero => simp [roundsLoop, bases]
  | succ rounds ih =>
    intro rng
    rw [roundsLoop, bases, List.forall_mem_cons, ← ih]
    dsimp only
    split
    · next hAccepts => simp [hAccepts]
    · next hRejects => simp [hRejects]

/-- **The test accepts what no base rejects.** -/
theorem Sifted.isProbablePrime_iff {n : ℕ} (h : Sifted n) (rounds : ℕ) (rng : R) :
    (isProbablePrime n rounds rng).1 = true ↔
      ∀ base ∈ bases n rounds rng, accepts n base = true := by
  rw [h.isProbablePrime_eq, roundsLoop_iff]

theorem Sifted.mem_bases {n : ℕ} (h : Sifted n) : ∀ (rounds : ℕ) (rng : R),
    ∀ base ∈ bases n rounds rng, 2 ≤ base ∧ base < n - 1 := by
  have hRange := h.range_nonempty
  intro rounds
  induction rounds with
  | zero => simp [bases]
  | succ rounds ih =>
    intro rng base hMem
    rcases List.mem_cons.mp hMem with rfl | hMem
    · exact ⟨RandBigInt.le_genBiguintRange rng hRange, RandBigInt.genBiguintRange_lt rng hRange⟩
    · exact ih _ base hMem

-- ---------------------------------------------------------------------------
-- Primes
-- ---------------------------------------------------------------------------

/-- A prime that reaches the rounds is accepted with every base from the range. -/
theorem Sifted.accepts_of_prime {n : ℕ} (h : Sifted n) (hPrime : n.Prime) {base : ℕ}
    (hLow : 2 ≤ base) (hHigh : base < n - 1) : accepts n base = true := by
  have := Fact.mk hPrime
  rw [h.accepts_iff_passes]
  refine MillerRabin.passes_of_prime (split_eq hPrime.one_lt).1 ?_
  rw [Ne, ZMod.natCast_eq_zero_iff]
  exact Nat.not_dvd_of_pos_of_lt (by omega) (by omega)

theorem isProbablePrime_of_prime {n : ℕ} (hPrime : n.Prime) (rounds : ℕ) (rng : R) :
    (isProbablePrime n rounds rng).1 = true := by
  have hTwo := hPrime.two_le
  by_cases hEven : n = 2
  · rw [hEven, isProbablePrime, if_neg (by norm_num), if_pos rfl]
  have hOdd : n % 2 = 1 := hPrime.eq_two_or_odd.resolve_left hEven
  cases hTrial : trialDivision n smallPrimes with
  | none =>
    have hSifted : Sifted n := ⟨by omega, hOdd, hTrial⟩
    rw [hSifted.isProbablePrime_iff]
    intro base hMem
    obtain ⟨hLow, hHigh⟩ := hSifted.mem_bases rounds rng base hMem
    exact hSifted.accepts_of_prime hPrime hLow hHigh
  | some result =>
    have hResult : result = true := by
      by_contra hFalse
      rw [Bool.not_eq_true] at hFalse
      subst hFalse
      obtain ⟨small, hMem, hOther, hDvd⟩ := trialDivision_false hTrial
      rcases (Nat.dvd_prime hPrime).mp hDvd with hOne | hSame
      · exact (smallPrimes_prime small hMem).one_lt.ne' hOne
      · exact hOther hSame.symm
    rw [isProbablePrime, if_neg (by omega), if_neg hEven, if_neg (by omega), hTrial]
    exact hResult

/-- **Miller-Rabin never rejects a prime**, for any number of rounds and whatever the
RNG draws: a number that is rejected is not prime. The numbers that reach the rounds
leave a range to draw from, and there a round accepts a base exactly when its power to
the odd part of `n - 1` is `1`, or one of the squares before the last is `-1`. -/
theorem never_rejects_a_prime :
    (∀ {R : Type} [RandBigInt R] (n rounds : ℕ) (rng : R),
      (n.Prime → (isProbablePrime n rounds rng).1 = true) ∧
        ((isProbablePrime n rounds rng).1 = false → ¬ n.Prime)) ∧
    ∀ n, Sifted n → 2 < n - 1 ∧ n - 1 = oddPart n * 2 ^ shift n ∧ Odd (oddPart n) ∧
      ∀ base, accepts n base = true ↔
        base ^ oddPart n % n = 1 ∨ ∃ r < shift n, base ^ (oddPart n * 2 ^ r) % n = n - 1 := by
  refine ⟨fun n rounds rng => ⟨fun hPrime => isProbablePrime_of_prime hPrime rounds rng,
    fun hRejected hPrime => ?_⟩, fun n hSifted => ?_⟩
  · rw [isProbablePrime_of_prime hPrime rounds rng] at hRejected
    exact absurd hRejected (by simp)
  · have hLarge := hSifted.two_lt
    obtain ⟨hSplit, hOdd⟩ := split_eq (n := n) (by omega)
    exact ⟨hSifted.range_nonempty, hSplit, hOdd, hSifted.accepts_iff⟩

/-- 2^31 - 1 is accepted, and reaches the rounds. -/
theorem never_rejects_a_prime_sample :
    (isProbablePrime 2147483647 20 (⟨[], [2, 3, 5]⟩ : ScriptedRng)).1 = true ∧
      2 < 2147483647 - 1 := by
  have hPrime : Nat.Prime 2147483647 :=
    Rsa.prime_of_witness 7 [(2, 1), (3, 2), (7, 1), (11, 1), (31, 1), (151, 1), (331, 1)]
      (by norm_num) (by norm_num) (by decide +kernel) (by decide +kernel) (by decide +kernel)
  have hSifted : Sifted 2147483647 := ⟨by norm_num, by norm_num, by decide +kernel⟩
  exact ⟨(never_rejects_a_prime.1 2147483647 20 _).1 hPrime,
    (never_rejects_a_prime.2 2147483647 hSifted).1⟩

-- ---------------------------------------------------------------------------
-- Composite numbers
-- ---------------------------------------------------------------------------

/-- A composite number without the small primes reaches the rounds. -/
theorem sifted_of_composite {n : ℕ} (hn : 1 < n)
    (hFactors : ∀ p, p.Prime → p ∣ n → 73 < p) : Sifted n := by
  have hOdd : n % 2 = 1 := by
    by_contra hEven
    have hTwo := hFactors 2 Nat.prime_two (Nat.dvd_of_mod_eq_zero (by omega))
    omega
  have hLarge : 2 < n := by omega
  refine ⟨hLarge, hOdd, trialDivision_none.mpr fun small hSmall => ?_⟩
  have hPrime := smallPrimes_prime small hSmall
  have hNot : ¬ small ∣ n := fun hDvd => by
    have hBig := hFactors small hPrime hDvd
    have hAll : ∀ small ∈ smallPrimes, small ≤ 73 := by decide
    have hBound := hAll small hSmall
    omega
  exact ⟨fun hSame => hNot (hSame ▸ dvd_refl n), hNot⟩

/-- The bases that `gen_biguint_range` draws from. -/
def baseRange (n : ℕ) : Finset ℕ := Finset.Ico 2 (n - 1)

@[simp] theorem mem_baseRange {n base : ℕ} : base ∈ baseRange n ↔ 2 ≤ base ∧ base < n - 1 :=
  Finset.mem_Ico

theorem baseRange_card (n : ℕ) : (baseRange n).card = n - 3 := by
  rw [baseRange, Nat.card_Ico]
  omega

/-- The sequences of bases. -/
def sequences (n rounds : ℕ) : Finset (Fin rounds → ℕ) :=
  Fintype.piFinset fun _ => baseRange n

/-- The RNG that returns a sequence of bases. -/
def scripted {rounds : ℕ} (sequence : Fin rounds → ℕ) : ScriptedRng where
  numbers := []
  bases := List.ofFn sequence

/-- A script of bases from the range is drawn as it stands. -/
theorem bases_scripted {n : ℕ} (script : List ℕ) (hScript : ∀ base ∈ script, base ∈ baseRange n) :
    bases n script.length (⟨[], script⟩ : ScriptedRng) = script := by
  induction script with
  | nil => rfl
  | cons base rest ih =>
    have hBase := mem_baseRange.mp (hScript base List.mem_cons_self)
    have hDraw : RandBigInt.genBiguintRange (⟨[], base :: rest⟩ : ScriptedRng) 2 (n - 1) =
        (base, ⟨[], rest⟩) := Prod.ext (if_pos hBase) rfl
    rw [List.length_cons, bases, hDraw, ih fun b hb => hScript b (List.mem_cons_of_mem base hb)]

/-- A sequence is accepted when each of its bases is. -/
theorem Sifted.accepts_sequence {n rounds : ℕ} (h : Sifted n) {sequence : Fin rounds → ℕ}
    (hSequence : sequence ∈ sequences n rounds) :
    (isProbablePrime n rounds (scripted sequence)).1 = true ↔
      ∀ i, accepts n (sequence i) = true := by
  have hRange : ∀ base ∈ List.ofFn sequence, base ∈ baseRange n := by
    intro base hMem
    obtain ⟨i, rfl⟩ := (List.mem_ofFn' ..).mp hMem
    exact Fintype.mem_piFinset.mp hSequence i
  have hDrawn := bases_scripted (List.ofFn sequence) hRange
  rw [List.length_ofFn] at hDrawn
  rw [h.isProbablePrime_iff, scripted, hDrawn, List.forall_mem_ofFn_iff]

/-- The bases of which a round accepts a number. -/
def acceptedBases (n : ℕ) : Finset ℕ := (baseRange n).filter fun base => accepts n base = true

/-- The sequences with which a number is accepted. -/
def acceptedSequences (n rounds : ℕ) : Finset (Fin rounds → ℕ) :=
  (sequences n rounds).filter fun sequence =>
    (isProbablePrime n rounds (scripted sequence)).1 = true

theorem Sifted.acceptedSequences_card {n : ℕ} (h : Sifted n) (rounds : ℕ) :
    (acceptedSequences n rounds).card = (acceptedBases n).card ^ rounds := by
  have hAll : acceptedSequences n rounds = Fintype.piFinset fun _ => acceptedBases n := by
    ext sequence
    rw [acceptedSequences, Finset.mem_filter, Fintype.mem_piFinset]
    constructor
    · rintro ⟨hMem, hAccepted⟩ i
      exact Finset.mem_filter.mpr
        ⟨Fintype.mem_piFinset.mp hMem i, (h.accepts_sequence hMem).mp hAccepted i⟩
    · intro hEach
      have hMem : sequence ∈ sequences n rounds :=
        Fintype.mem_piFinset.mpr fun i => (Finset.mem_filter.mp (hEach i)).1
      exact ⟨hMem, (h.accepts_sequence hMem).mpr fun i => (Finset.mem_filter.mp (hEach i)).2⟩
  rw [hAll, Fintype.card_piFinset_const]

/-- **The error bound.** For every composite number without a prime factor up to 73,
Carmichael numbers and prime powers included, fewer than a quarter of the bases in the
range are accepted, any other base that is drawn makes the test reject, and the
sequences of `rounds` bases with which the number is accepted are fewer than a
`4 ^ -rounds` part of all. -/
theorem error_bound {n : ℕ} (hn : 1 < n) (hComposite : ¬ n.Prime)
    (hFactors : ∀ p, p.Prime → p ∣ n → 73 < p) :
    4 * (acceptedBases n).card < (baseRange n).card ∧
      (∀ {R : Type} [RandBigInt R] (rounds : ℕ) (rng : R) (base : ℕ),
        base ∈ bases n rounds rng → base ∉ acceptedBases n →
          (isProbablePrime n rounds rng).1 = false) ∧
      ∀ rounds, 0 < rounds →
        (acceptedSequences n rounds).card * 4 ^ rounds < (sequences n rounds).card := by
  have hSifted := sifted_of_composite hn hFactors
  obtain ⟨hSplit, hOdd⟩ := split_eq hn
  have hQuarter : 4 * (acceptedBases n).card < (baseRange n).card := by
    rw [baseRange_card]
    refine MillerRabin.four_mul_card_passing_lt hComposite hn
      (fun p hp hDvd => by have := hFactors p hp hDvd; omega) hSplit hOdd hSifted.shift_pos _ ?_
    intro base hMem
    obtain ⟨hRange, hAccepts⟩ := Finset.mem_filter.mp hMem
    obtain ⟨hLow, hHigh⟩ := mem_baseRange.mp hRange
    exact ⟨hLow, hHigh, (hSifted.accepts_iff_passes base).mp hAccepts⟩
  refine ⟨hQuarter, fun rounds rng base hDrawn hOut => ?_, fun rounds hRounds => ?_⟩
  · by_contra hAccepted
    rw [Bool.not_eq_false] at hAccepted
    exact hOut (Finset.mem_filter.mpr ⟨mem_baseRange.mpr (hSifted.mem_bases rounds rng base hDrawn),
      (hSifted.isProbablePrime_iff rounds rng).mp hAccepted base hDrawn⟩)
  · rw [hSifted.acceptedSequences_card, sequences, Fintype.card_piFinset_const, ← mul_pow,
      mul_comm]
    exact Nat.pow_lt_pow_left hQuarter hRounds.ne'

/-- 79 * 83, with no prime factor up to 73. -/
theorem error_bound_sample :
    4 * (acceptedBases 6557).card < 6554 ∧
      (acceptedSequences 6557 2).card * 4 ^ 2 < (sequences 6557 2).card := by
  have hFactors : ∀ p, p.Prime → p ∣ 6557 → 73 < p := by
    intro p hp hDvd
    rw [show 6557 = 79 * 83 by norm_num] at hDvd
    rcases (Nat.Prime.dvd_mul hp).mp hDvd with h | h
    · rw [(Nat.prime_dvd_prime_iff_eq hp (by norm_num)).mp h]
      norm_num
    · rw [(Nat.prime_dvd_prime_iff_eq hp (by norm_num)).mp h]
      norm_num
  obtain ⟨hQuarter, -, hSequences⟩ :=
    error_bound (n := 6557) (by norm_num) (by norm_num) hFactors
  have hCard : (baseRange 6557).card = 6554 := baseRange_card 6557
  rw [hCard] at hQuarter
  exact ⟨hQuarter, hSequences 2 (by norm_num)⟩

end Primality

end DigitalEuro
