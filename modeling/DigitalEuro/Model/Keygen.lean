import DigitalEuro.Model.Primality
import DigitalEuro.Model.Signature

/-!
# Digital euro — key generation (`signature.rs`)

`generate_prime` draws candidates until one passes the primality test, and
`Keypair::generate` draws pairs until one fits. Both loop until they are lucky, so
they take fuel and return `none` when it runs out; what follows is about the runs
that return.

* `generate_spec` — a run that returns was given two drawn numbers that fit, and
  never fails on the inverse;
* `ReturnedFrom.generated` — when the two numbers are primes, the keypair is one
  that `Model/Signature.lean` calls generated, and `generate_scripted` is the converse;
* `generate_verifies_own_signature_only` — such a key accepts what it signs;
* `generate_hits_width` — no pair is drawn again for its width.
-/

namespace DigitalEuro

-- ---------------------------------------------------------------------------
-- The loops
-- ---------------------------------------------------------------------------

/-- How `Keypair::generate` can panic: on its assertion, and on its `expect`. -/
inductive KeygenPanic where
  | modulusSize
  | notCoprime
deriving DecidableEq

/-- A modulus of a size that fits a `u64` fits a slice. -/
theorem natBytes_length_of_bits {n : ℕ} {size : UInt64} (h : bits n = size.toNat) :
    (Bytes.natBytes n).length < 2 ^ 64 := by
  have hSize := size.toNat_lt
  cases hZero : size.toNat with
  | zero =>
    have hBelow : n < 256 ^ 1 := by
      have hOne := lt_two_pow_bits n
      rw [h, hZero] at hOne
      omega
    exact lt_of_le_of_lt (Bytes.natBytes_length_le Nat.one_pos hBelow) (by norm_num)
  | succ width =>
    have hBelow : n < 256 ^ size.toNat :=
      calc n < 2 ^ size.toNat := h ▸ lt_two_pow_bits n
        _ ≤ 256 ^ size.toNat := Nat.pow_le_pow_left (by norm_num) _
    exact lt_of_le_of_lt (Bytes.natBytes_length_le (by omega) hBelow) hSize

theorem publicExponent_fits : (Bytes.natBytes 65537).length < 2 ^ 64 := by
  decide +kernel

/-- What comes of one pair of primes in `Keypair::generate`. -/
inductive Attempt where
  | retry
  | expectFailed
  | returned (keypair : Keypair)

/-- One pass of the loop, once `p` and `q` are drawn. -/
def attempt (size : UInt64) (p q : ℕ) : Attempt :=
  if p = q then .retry
  else if hBits : bits (p * q) = size.toNat then
    let phi := (p - 1) * (q - 1)
    if phi.gcd 65537 = 1 then
      match Rsa.modInverse 65537 phi with
      | none => .expectFailed
      | some d => .returned
        { publicKey :=
            { n := p * q
              e := 65537
              nFits := natBytes_length_of_bits hBits
              eFits := publicExponent_fits }
          d := d }
    else .retry
  else .retry

section Loops

variable {R : Type} [RandBigInt R]

def generatePrime (bits : ℕ) : ℕ → R → Option (ℕ × R)
  | 0, _ => none
  | fuel + 1, rng =>
    let (drawn, rng) := RandBigInt.genBiguint rng bits
    let p := candidate bits drawn
    let (prime, rng) := Primality.isProbablePrime p 40 rng
    if prime then some (p, rng) else generatePrime bits fuel rng

def generateLoop (size : UInt64) : ℕ → R → Option (Except KeygenPanic Keypair × R)
  | 0, _ => none
  | fuel + 1, rng => do
    let (p, rng) ← generatePrime (size / 2).toNat fuel rng
    let (q, rng) ← generatePrime (size / 2).toNat fuel rng
    match attempt size p q with
    | .retry => generateLoop size fuel rng
    | .expectFailed => some (.error .notCoprime, rng)
    | .returned keypair => some (.ok keypair, rng)

/-- Generates a fresh RSA keypair with public exponent 65537. -/
def Keypair.generate (size : UInt64) (fuel : ℕ) (rng : R) :
    Option (Except KeygenPanic Keypair × R) :=
  if 512 ≤ size ∧ size % 2 = 0 then generateLoop size fuel rng
  else some (.error .modulusSize, rng)

-- ---------------------------------------------------------------------------
-- What a run returns
-- ---------------------------------------------------------------------------

/-- The checks that a pair passes when the loop returns. -/
structure Keypair.ReturnedFrom (size : UInt64) (p q : ℕ) (keypair : Keypair) : Prop where
  p_ne_q : p ≠ q
  n_eq : keypair.publicKey.n = p * q
  n_bits : bits keypair.publicKey.n = size.toNat
  e_eq : keypair.publicKey.e = 65537
  d_eq : Rsa.modInverse keypair.publicKey.e ((p - 1) * (q - 1)) = some keypair.d

/-- **The `expect` is never reached**: the greatest common divisor was checked before. -/
theorem attempt_ne_expectFailed (size : UInt64) (p q : ℕ) : attempt size p q ≠ .expectFailed := by
  intro h
  unfold attempt at h
  split at h
  · cases h
  · split at h
    · dsimp only at h
      split at h
      · next hGcd =>
        split at h
        · next hNone =>
          rw [Rsa.modInverse_eq_none_iff, Nat.gcd_comm] at hNone
          exact hNone hGcd
        · cases h
      · cases h
    · cases h

theorem attempt_eq_returned_iff {size : UInt64} {p q : ℕ} {keypair : Keypair} :
    attempt size p q = .returned keypair ↔ keypair.ReturnedFrom size p q := by
  constructor
  · intro h
    unfold attempt at h
    split at h
    · cases h
    · next hNe =>
      split at h
      · next hBits =>
        dsimp only at h
        split at h
        · split at h
          · cases h
          · next hInverse =>
            obtain rfl := Attempt.returned.inj h
            exact ⟨hNe, rfl, hBits, rfl, hInverse⟩
        · cases h
      · cases h
  · rintro ⟨hNe, hN, hBits, hE, hInverse⟩
    obtain ⟨⟨n, e, nFits, eFits⟩, d⟩ := keypair
    dsimp only at hN hBits hE hInverse
    subst hN hE
    have hGcd : ((p - 1) * (q - 1)).gcd 65537 = 1 := by
      by_contra hShared
      rw [Nat.gcd_comm, ← Ne, ← Rsa.modInverse_eq_none_iff, hInverse] at hShared
      cases hShared
    rw [attempt, if_neg hNe, dif_pos hBits]
    dsimp only
    rw [if_pos hGcd, hInverse]

/-- What `generate_prime(bits)` returns: a candidate that passed the primality test. -/
structure DrawnPrime (R : Type) [RandBigInt R] (bits p : ℕ) : Prop where
  drawn : ∃ r < 2 ^ bits, p = candidate bits r
  passed : ∃ rng : R, (Primality.isProbablePrime p 40 rng).1 = true

theorem generatePrime_spec {bits : ℕ} : ∀ {fuel : ℕ} {rng : R} {p : ℕ} {rng' : R},
    generatePrime bits fuel rng = some (p, rng') → DrawnPrime R bits p := by
  intro fuel
  induction fuel with
  | zero =>
    intro rng p rng' h
    cases h
  | succ fuel ih =>
    intro rng p rng' h
    rw [generatePrime] at h
    dsimp only at h
    split at h
    · next hPassed =>
      obtain ⟨rfl, -⟩ := Prod.mk.inj (Option.some.inj h)
      exact ⟨⟨_, RandBigInt.genBiguint_lt rng bits, rfl⟩, ⟨_, hPassed⟩⟩
    · exact ih h

/-- A run of the loop that returns gives the keypair of two drawn numbers that fit. -/
theorem generateLoop_spec {size : UInt64} : ∀ {fuel : ℕ} {rng rng' : R}
    {result : Except KeygenPanic Keypair}, generateLoop size fuel rng = some (result, rng') →
    ∃ keypair p q, result = .ok keypair ∧ DrawnPrime R (size / 2).toNat p ∧
      DrawnPrime R (size / 2).toNat q ∧ keypair.ReturnedFrom size p q := by
  intro fuel
  induction fuel with
  | zero =>
    intro rng rng' result h
    cases h
  | succ fuel ih =>
    intro rng rng' result h
    rw [generateLoop] at h
    obtain ⟨⟨p, rngP⟩, hp, h⟩ := Option.bind_eq_some_iff.mp h
    obtain ⟨⟨q, rngQ⟩, hq, h⟩ := Option.bind_eq_some_iff.mp h
    dsimp only at h
    split at h
    · exact ih h
    · next hFailed => exact absurd hFailed (attempt_ne_expectFailed size p q)
    · next keypair hReturned =>
      obtain ⟨rfl, -⟩ := Prod.mk.inj (Option.some.inj h)
      exact ⟨keypair, p, q, rfl, generatePrime_spec hp, generatePrime_spec hq,
        attempt_eq_returned_iff.mp hReturned⟩

/-- **What `generate` returns.** For a size it accepts it does not panic. -/
theorem generate_spec {size : UInt64} {fuel : ℕ} {rng rng' : R}
    {result : Except KeygenPanic Keypair} (hSize : 512 ≤ size) (hEven : size % 2 = 0)
    (h : Keypair.generate size fuel rng = some (result, rng')) :
    ∃ keypair p q, result = .ok keypair ∧ DrawnPrime R (size / 2).toNat p ∧
      DrawnPrime R (size / 2).toNat q ∧ keypair.ReturnedFrom size p q := by
  rw [Keypair.generate, if_pos ⟨hSize, hEven⟩] at h
  exact generateLoop_spec h

end Loops

-- ---------------------------------------------------------------------------
-- Candidates
-- ---------------------------------------------------------------------------

/-- Setting the bits once more changes nothing. -/
theorem candidate_candidate (bits drawn : ℕ) :
    candidate bits (candidate bits drawn) = candidate bits drawn := by
  refine Nat.eq_of_testBit_eq fun i => ?_
  simp only [candidate, Nat.testBit_or]
  cases drawn.testBit i <;> cases (2 ^ (bits - 1)).testBit i <;>
    cases (2 ^ (bits - 2)).testBit i <;> cases Nat.testBit 1 i <;> rfl

theorem candidate_lt {bits drawn : ℕ} (hBits : 0 < bits) (hDrawn : drawn < 2 ^ bits) :
    candidate bits drawn < 2 ^ bits := by
  have hTop : ∀ i, i ≤ bits - 1 → 2 ^ i < 2 ^ bits := fun i hi =>
    Nat.pow_lt_pow_right (by norm_num) (by omega)
  exact Nat.or_lt_two_pow
    (Nat.or_lt_two_pow (Nat.or_lt_two_pow hDrawn (hTop _ le_rfl)) (hTop _ (by omega)))
    (Nat.one_lt_two_pow hBits.ne')

theorem candidate_odd (bits drawn : ℕ) : Odd (candidate bits drawn) :=
  Nat.odd_iff.mpr (Nat.or_mod_two_eq_one.mpr (Or.inr rfl))

/-- The two top bits keep a candidate at three quarters of its range at least. -/
theorem le_candidate {bits : ℕ} (hBits : 1 < bits) (drawn : ℕ) :
    3 * 2 ^ (bits - 2) ≤ candidate bits drawn := by
  obtain ⟨k, rfl⟩ : ∃ k, bits = k + 2 := ⟨bits - 2, by omega⟩
  have hBelow : 2 ^ k < 2 ^ (k + 1) := Nat.pow_lt_pow_right Nat.one_lt_two (Nat.lt_succ_self k)
  have hTop : 3 * 2 ^ k = 2 ^ (k + 1) ||| 2 ^ k := by
    have hJoin := Nat.two_pow_add_eq_or_of_lt hBelow 1
    rw [mul_one] at hJoin
    rw [← hJoin, pow_succ]
    ring
  calc 3 * 2 ^ k = 2 ^ (k + 1) ||| 2 ^ k := hTop
    _ ≤ drawn ||| (2 ^ (k + 1) ||| 2 ^ k) := Nat.right_le_or
    _ = drawn ||| 2 ^ (k + 1) ||| 2 ^ k := (Nat.or_assoc ..).symm
    _ ≤ candidate (k + 2) drawn := Nat.left_le_or

theorem one_lt_candidate {bits : ℕ} (hBits : 1 < bits) (drawn : ℕ) : 1 < candidate bits drawn := by
  have hLow := le_candidate hBits drawn
  have hPos := Nat.two_pow_pos (bits - 2)
  omega

theorem bits_candidate {width drawn : ℕ} (hWidth : 1 < width) (hDrawn : drawn < 2 ^ width) :
    bits (candidate width drawn) = width := by
  have hLow := le_candidate hWidth drawn
  have hHigh := candidate_lt (Nat.zero_lt_of_lt hWidth) hDrawn
  obtain ⟨k, rfl⟩ : ∃ k, width = k + 2 := ⟨width - 2, by omega⟩
  refine bits_eq_succ_iff.mpr ⟨?_, hHigh⟩
  rw [Nat.add_sub_cancel] at hLow
  rw [pow_succ]
  omega

/-- **Two top bits are enough**: three quarters of three quarters are more than a half. -/
theorem bits_mul {width p q : ℕ} (hWidth : 1 < width) (hp : 3 * 2 ^ (width - 2) ≤ p)
    (hq : 3 * 2 ^ (width - 2) ≤ q) (hp' : p < 2 ^ width) (hq' : q < 2 ^ width) :
    bits (p * q) = 2 * width := by
  obtain ⟨k, rfl⟩ : ∃ k, width = k + 2 := ⟨width - 2, by omega⟩
  rw [Nat.add_sub_cancel] at hp hq
  rw [show 2 * (k + 2) = 2 * k + 3 + 1 by ring]
  refine bits_eq_succ_iff.mpr ⟨?_, ?_⟩
  · calc 2 ^ (2 * k + 3) = 8 * (2 ^ k * 2 ^ k) := by ring
      _ ≤ 9 * (2 ^ k * 2 ^ k) := Nat.mul_le_mul_right _ (by norm_num)
      _ = 3 * 2 ^ k * (3 * 2 ^ k) := by ring
      _ ≤ p * q := Nat.mul_le_mul hp hq
  · calc p * q < 2 ^ (k + 2) * 2 ^ (k + 2) := Nat.mul_lt_mul'' hp' hq'
      _ = 2 ^ (2 * k + 3 + 1) := by ring

section Drawn

variable {R : Type} [RandBigInt R] {width p q : ℕ}

theorem DrawnPrime.odd (h : DrawnPrime R width p) : Odd p := by
  obtain ⟨drawn, -, rfl⟩ := h.drawn
  exact candidate_odd width drawn

theorem DrawnPrime.bits_eq (h : DrawnPrime R width p) (hWidth : 1 < width) : bits p = width := by
  obtain ⟨drawn, hDrawn, rfl⟩ := h.drawn
  exact bits_candidate hWidth hDrawn

theorem DrawnPrime.bits_mul (hp : DrawnPrime R width p) (hq : DrawnPrime R width q)
    (hWidth : 1 < width) : bits (p * q) = 2 * width := by
  obtain ⟨drawn, hDrawn, rfl⟩ := hp.drawn
  obtain ⟨drawn', hDrawn', rfl⟩ := hq.drawn
  have hPos := Nat.zero_lt_of_lt hWidth
  exact DigitalEuro.bits_mul hWidth (le_candidate hWidth drawn) (le_candidate hWidth drawn')
    (candidate_lt hPos hDrawn) (candidate_lt hPos hDrawn')

end Drawn

-- ---------------------------------------------------------------------------
-- Generated keypairs
-- ---------------------------------------------------------------------------

theorem size_half (size : UInt64) : (size / 2).toNat = size.toNat / 2 := UInt64.toNat_div ..

theorem size_ge {size : UInt64} (h : 512 ≤ size) : 512 ≤ size.toNat := UInt64.le_iff_toNat_le.mp h

theorem size_even {size : UInt64} (h : size % 2 = 0) : size.toNat % 2 = 0 :=
  (UInt64.toNat_mod size 2).symm.trans (congrArg UInt64.toNat h)

/-- A product of two primes splits into primes only. -/
theorem primes_of_mul_eq {a b p q : ℕ} (ha : 1 < a) (hb : 1 < b) (hp : p.Prime) (hq : q.Prime)
    (h : a * b = p * q) : a.Prime ∧ b.Prime := by
  have hSplit : ∀ {c d}, 1 < d → p ∣ c → c * d = p * q → c.Prime ∧ d.Prime := by
    rintro c d hd ⟨k, rfl⟩ hEq
    rw [mul_assoc] at hEq
    have hRest : (k * d).Prime := Nat.eq_of_mul_eq_mul_left hp.pos hEq ▸ hq
    rcases Nat.prime_mul_iff.mp hRest with ⟨-, hOne⟩ | ⟨hPrime, rfl⟩
    · exact absurd hOne hd.ne'
    · rw [mul_one]
      exact ⟨hp, hPrime⟩
  rcases hp.dvd_mul.mp (Dvd.intro q h.symm) with hLeft | hRight
  · exact hSplit hb hLeft h
  · exact (hSplit ha hRight (mul_comm b a ▸ h)).symm

/-- When the modulus is a product of two primes, the drawn numbers are these primes,
and the keypair is a generated one. -/
theorem Keypair.ReturnedFrom.generated {R : Type} [RandBigInt R] {size : UInt64} {p q : ℕ}
    {keypair : Keypair} (h : keypair.ReturnedFrom size p q) (hSize : 512 ≤ size)
    (hEven : size % 2 = 0) (hp : DrawnPrime R (size / 2).toNat p)
    (hq : DrawnPrime R (size / 2).toNat q) {p' q' : ℕ} (hp' : p'.Prime) (hq' : q'.Prime)
    (hN : keypair.publicKey.n = p' * q') : keypair.Generated := by
  have hGe := size_ge hSize
  have hOne : ∀ {r}, DrawnPrime R (size / 2).toNat r → 1 < r := by
    intro r hr
    obtain ⟨drawn, -, rfl⟩ := hr.drawn
    rw [size_half]
    exact one_lt_candidate (by omega) drawn
  obtain ⟨hPrimeP, hPrimeQ⟩ :=
    primes_of_mul_eq (hOne hp) (hOne hq) hp' hq' (h.n_eq.symm.trans hN)
  exact ⟨size.toNat, p, q,
    { size_ge := hGe
      size_even := size_even hEven
      p_generated := ⟨size_half size ▸ hp.drawn, hPrimeP⟩
      q_generated := ⟨size_half size ▸ hq.drawn, hPrimeQ⟩
      p_ne_q := h.p_ne_q
      n_eq := h.n_eq
      n_bits := h.n_bits
      e_eq := h.e_eq
      d_eq := h.d_eq }⟩

-- ---------------------------------------------------------------------------
-- Scripted runs
-- ---------------------------------------------------------------------------

/-- A generator that bases do not change is not changed by the test. -/
theorem isProbablePrime_silent {R : Type} [RandBigInt R] {rng : R}
    (hSilent : ∀ lbound ubound, (RandBigInt.genBiguintRange rng lbound ubound).2 = rng)
    (n rounds : ℕ) : (Primality.isProbablePrime n rounds rng).2 = rng := by
  have hRounds : ∀ rounds, (Primality.roundsLoop n rounds rng).2 = rng := by
    intro rounds
    induction rounds with
    | zero => rfl
    | succ rounds ih =>
      rw [Primality.roundsLoop]
      dsimp only
      split
      · rw [hSilent]
        exact ih
      · exact hSilent 2 (n - 1)
  unfold Primality.isProbablePrime
  split_ifs
  · rfl
  · rfl
  · rfl
  · split
    · rfl
    · exact hRounds rounds

/-- Rounds without a script leave none behind. -/
theorem isProbablePrime_scripted (n rounds : ℕ) (numbers : List ℕ) :
    (Primality.isProbablePrime n rounds (⟨numbers, []⟩ : ScriptedRng)).2 = ⟨numbers, []⟩ :=
  isProbablePrime_silent (fun _ _ => rfl) n rounds

/-- A prime with its bits set is drawn as it stands. -/
theorem generatePrime_scripted {bits p : ℕ} (hBits : 0 < bits) (h : GeneratedPrime bits p)
    (fuel : ℕ) (rest : List ℕ) :
    generatePrime bits (fuel + 1) (⟨p :: rest, []⟩ : ScriptedRng) = some (p, ⟨rest, []⟩) := by
  obtain ⟨⟨drawn, hDrawn, rfl⟩, hPrime⟩ := h
  have hDraw : RandBigInt.genBiguint (⟨candidate bits drawn :: rest, []⟩ : ScriptedRng) bits =
      (candidate bits drawn, ⟨rest, []⟩) :=
    Prod.ext (Nat.mod_eq_of_lt (candidate_lt hBits hDrawn)) rfl
  rw [generatePrime, hDraw]
  dsimp only
  rw [candidate_candidate, isProbablePrime_scripted,
    if_pos (Primality.isProbablePrime_of_prime hPrime 40 _)]

/-- **Every generated keypair is the result of a run**, whatever is drawn after it. -/
theorem Keypair.GeneratedFrom.generate_scripted_append (size : UInt64) {p q : ℕ}
    {keypair : Keypair} (h : keypair.GeneratedFrom size.toNat p q) (rest : List ℕ) :
    Keypair.generate size 2 (⟨p :: q :: rest, []⟩ : ScriptedRng) =
      some (.ok keypair, ⟨rest, []⟩) := by
  have hGe := h.size_ge
  have hSize : 512 ≤ size := UInt64.le_iff_toNat_le.mpr h.size_ge
  have hEven : size % 2 = 0 := UInt64.toNat_inj.mp (by simpa using h.size_even)
  have hHalf : 0 < size.toNat / 2 := by omega
  have hReturned : attempt size p q = .returned keypair :=
    attempt_eq_returned_iff.mpr ⟨h.p_ne_q, h.n_eq, h.n_bits, h.e_eq, h.d_eq⟩
  rw [Keypair.generate, if_pos ⟨hSize, hEven⟩, generateLoop, size_half,
    generatePrime_scripted hHalf h.p_generated, Option.bind_eq_bind, Option.bind_some]
  dsimp only
  rw [generatePrime_scripted hHalf h.q_generated, Option.bind_some]
  dsimp only
  rw [hReturned]

theorem Keypair.GeneratedFrom.generate_scripted (size : UInt64) {p q : ℕ} {keypair : Keypair}
    (h : keypair.GeneratedFrom size.toNat p q) :
    Keypair.generate size 2 (⟨[p, q], []⟩ : ScriptedRng) = some (.ok keypair, ⟨[], []⟩) :=
  h.generate_scripted_append size []

-- ---------------------------------------------------------------------------
-- The keypairs there are
-- ---------------------------------------------------------------------------

/-- A keypair that some run returned. The field `d` is private, so there are no others. -/
def Keypair.Returned (keypair : Keypair) : Prop :=
  ∃ (R : Type) (_ : RandBigInt R) (size : UInt64) (fuel : ℕ) (rng rng' : R),
    Keypair.generate size fuel rng = some (.ok keypair, rng')

theorem Keypair.Generated.returned {keypair : Keypair} (h : keypair.Generated)
    (hFits : bits keypair.publicKey.n < 2 ^ 64) : keypair.Returned := by
  obtain ⟨size, p, q, hFrom⟩ := h
  rw [hFrom.n_bits] at hFits
  have hSize : (UInt64.ofNat size).toNat = size := UInt64.toNat_ofNat_of_lt' hFits
  exact ⟨ScriptedRng, inferInstance, UInt64.ofNat size, 2, _, _,
    Keypair.GeneratedFrom.generate_scripted _ (hSize.symm ▸ hFrom)⟩

theorem Keypair.Returned.modulus_ne_zero {keypair : Keypair} (h : keypair.Returned) :
    keypair.publicKey.n ≠ 0 := by
  obtain ⟨R, _, size, fuel, rng, rng', hRun⟩ := h
  by_cases hAccepted : 512 ≤ size ∧ size % 2 = 0
  · obtain ⟨_, p, q, hOk, -, -, hReturned⟩ := generate_spec hAccepted.1 hAccepted.2 hRun
    obtain rfl := Except.ok.inj hOk
    intro hZero
    have hBits := hReturned.n_bits
    have hSize := size_ge hAccepted.1
    rw [hZero, bits, if_pos rfl] at hBits
    omega
  · rw [Keypair.generate, if_neg hAccepted] at hRun
    cases hRun

-- ---------------------------------------------------------------------------
-- Signatures of returned keypairs
-- ---------------------------------------------------------------------------

/-- **A returned keypair accepts its own signatures and nothing else.** A run for an
even size from 512 on that returns does not panic, and when the modulus is a product of
two primes then for every digest the one number that verifies is the one that is
signed. -/
theorem generate_verifies_own_signature_only [Sha256] {R : Type} [RandBigInt R] {size : UInt64}
    {fuel : ℕ} {rng rng' : R} {result : Except KeygenPanic Keypair} (hSize : 512 ≤ size)
    (hEven : size % 2 = 0) (h : Keypair.generate size fuel rng = some (result, rng')) :
    ∃ keypair, result = .ok keypair ∧
      ∀ p q, p.Prime → q.Prime → keypair.publicKey.n = p * q → ∀ digest signature,
        keypair.publicKey.verify digest signature = true ↔ signature = keypair.sign digest := by
  obtain ⟨keypair, p, q, rfl, hp, hq, hReturned⟩ := generate_spec hSize hEven h
  refine ⟨keypair, rfl, fun p' q' hp' hq' hN digest signature => ?_⟩
  exact (hReturned.generated hSize hEven hp hq hp' hq' hN).verify_iff digest signature

section

open scoped Fips

/-- The run that returns the issuer's key. -/
theorem generate_verifies_own_signature_only_sample :
    Keypair.generate 512 2 (⟨[samplePrime 49437, samplePrime 50325], []⟩ : ScriptedRng) =
        some (.ok issuerKeys, ⟨[], []⟩) ∧
      ∀ digest signature, issuerKeys.publicKey.verify digest signature = true ↔
        signature = issuerKeys.sign digest := by
  have hFrom := issuerKeys_generatedFrom
  have hRun : Keypair.generate 512 2 (⟨[samplePrime 49437, samplePrime 50325], []⟩ : ScriptedRng) =
      some (.ok issuerKeys, ⟨[], []⟩) := Keypair.GeneratedFrom.generate_scripted 512 hFrom
  obtain ⟨keypair, hOk, hVerifies⟩ :=
    generate_verifies_own_signature_only (by decide) (by decide) hRun
  obtain rfl := Except.ok.inj hOk
  exact ⟨hRun, hVerifies _ _ hFrom.p_generated.prime hFrom.q_generated.prime hFrom.n_eq⟩

end

-- ---------------------------------------------------------------------------
-- The target width
-- ---------------------------------------------------------------------------

/-- A pair whose product has the target width is drawn again for the other reasons only. -/
theorem attempt_eq_retry_iff {size : UInt64} {p q : ℕ} (hBits : bits (p * q) = size.toNat) :
    attempt size p q = .retry ↔ p = q ∨ ((p - 1) * (q - 1)).gcd 65537 ≠ 1 := by
  unfold attempt
  split
  · next hSame => exact iff_of_true rfl (Or.inl hSame)
  · next hOther =>
    dsimp only
    split
    · next hGcd =>
      refine iff_of_false (fun hRetry => ?_) fun h => h.elim hOther fun hShared => hShared hGcd
      split at hRetry <;> cases hRetry
    · next hShared => exact iff_of_true rfl (Or.inr hShared)

/-- **Key generation hits the target width.** For an even size from 512 on, whatever the
RNG draws: what `generate_prime` returns is odd and has half the bits, the product of
two such numbers has all of them, so that a pair is drawn again only when its numbers are
equal or `phi` shares a factor with 65537, and a returned modulus takes the bytes of
the size. -/
theorem generate_hits_width {R : Type} [RandBigInt R] {size : UInt64} (hSize : 512 ≤ size)
    (hEven : size % 2 = 0) :
    (∀ (fuel fuel' : ℕ) (rng rng₁ rng' rng₁' : R) (p q : ℕ),
      generatePrime (size / 2).toNat fuel rng = some (p, rng₁) →
      generatePrime (size / 2).toNat fuel' rng' = some (q, rng₁') →
      (Odd p ∧ bits p = size.toNat / 2) ∧ (Odd q ∧ bits q = size.toNat / 2) ∧
        bits (p * q) = size.toNat ∧
        (attempt size p q = .retry ↔ p = q ∨ ((p - 1) * (q - 1)).gcd 65537 ≠ 1)) ∧
    ∀ (fuel : ℕ) (rng rng' : R) (keypair : Keypair),
      Keypair.generate size fuel rng = some (.ok keypair, rng') →
      keypair.publicKey.modulusBytes = size.toNat ⌈/⌉ 8 := by
  have hGe := size_ge hSize
  have hTwo := size_even hEven
  have hWidth : 1 < (size / 2).toNat := by
    rw [size_half]
    omega
  refine ⟨fun fuel fuel' rng rng₁ rng' rng₁' p q hDrawP hDrawQ => ?_,
    fun fuel rng rng' keypair hRun => ?_⟩
  · have hp := generatePrime_spec hDrawP
    have hq := generatePrime_spec hDrawQ
    have hBits : bits (p * q) = size.toNat := by
      rw [hp.bits_mul hq hWidth, size_half]
      omega
    rw [← size_half]
    exact ⟨⟨hp.odd, hp.bits_eq hWidth⟩, ⟨hq.odd, hq.bits_eq hWidth⟩, hBits,
      attempt_eq_retry_iff hBits⟩
  · obtain ⟨_, p, q, hOk, -, -, hReturned⟩ := generate_spec hSize hEven hRun
    obtain rfl := Except.ok.inj hOk
    rw [PublicKey.modulusBytes, hReturned.n_bits]
    rfl

/-- The draws behind the issuer's key, of 512 bits. -/
theorem generate_hits_width_sample :
    (Odd (samplePrime 49437) ∧ bits (samplePrime 49437) = 256) ∧
      bits (samplePrime 49437 * samplePrime 50325) = 512 ∧
      issuerKeys.publicKey.modulusBytes = 64 := by
  have hFrom := issuerKeys_generatedFrom
  obtain ⟨hDraws, hKeys⟩ := @generate_hits_width ScriptedRng _ 512 (by decide) (by decide)
  obtain ⟨hp, -, hProduct, -⟩ := hDraws 1 1 _ _ _ _ _ _
    (generatePrime_scripted (by decide) hFrom.p_generated 0 [])
    (generatePrime_scripted (by decide) hFrom.q_generated 0 [])
  exact ⟨hp, hProduct, hKeys 2 _ _ _ (Keypair.GeneratedFrom.generate_scripted 512 hFrom)⟩

end DigitalEuro
