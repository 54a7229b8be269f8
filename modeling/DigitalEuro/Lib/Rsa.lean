import Mathlib

/-!
# Modular powers, inverses and the RSA identity

* `modpow` — square-and-multiply, with `modpow_eq`: it computes `b ^ e % n`;
* `modInverse` — the inverse from a Bézout coefficient, brought into range;
* `rsa_pow_modEq` — for distinct primes and inverse exponents every residue,
  also one that shares a factor with the modulus, comes back from the two powers;
* `prime_of_witness` — a primality certificate that `modpow` can check.
-/

namespace Rsa

-- ---------------------------------------------------------------------------
-- Modular power
-- ---------------------------------------------------------------------------

/-- The loop of square-and-multiply: `acc` holds the product of the powers
already taken. One unit of fuel is spent per exponent bit. -/
def modpowLoop (n : ℕ) : ℕ → ℕ → ℕ → ℕ → ℕ
  | 0, _, _, acc => acc
  | fuel + 1, base, exponent, acc =>
    modpowLoop n fuel (base * base % n) (exponent / 2)
      (if exponent % 2 = 1 then acc * base % n else acc)

/-- `base ^ exponent mod n` by repeated squaring. -/
def modpow (base exponent n : ℕ) : ℕ :=
  modpowLoop n (exponent.log2 + 1) (base % n) exponent (1 % n)

theorem modpowLoop_eq (n : ℕ) :
    ∀ fuel base exponent acc : ℕ, exponent < 2 ^ fuel → acc % n = acc →
      modpowLoop n fuel base exponent acc = acc * base ^ exponent % n := by
  intro fuel
  induction fuel with
  | zero =>
    intro base exponent acc hFuel hAcc
    have hZero : exponent = 0 := by simpa using hFuel
    rw [modpowLoop, hZero, pow_zero, mul_one, hAcc]
  | succ fuel ih =>
    intro base exponent acc hFuel hAcc
    have hHalf : exponent / 2 < 2 ^ fuel := by
      rw [pow_succ] at hFuel
      omega
    rw [modpowLoop]
    split
    · next hOdd =>
      rw [ih _ _ _ hHalf (Nat.mod_mod _ _)]
      have hExp : exponent = 2 * (exponent / 2) + 1 := by omega
      have hPow : acc * base ^ exponent = acc * base * (base * base) ^ (exponent / 2) := by
        conv_lhs => rw [hExp]
        rw [pow_add, pow_mul, pow_one, pow_two]
        ring
      rw [hPow, Nat.mul_mod, Nat.mod_mod, Nat.pow_mod, Nat.mod_mod, ← Nat.pow_mod, ← Nat.mul_mod]
    · next hEven =>
      rw [ih _ _ _ hHalf hAcc]
      have hExp : exponent = 2 * (exponent / 2) := by omega
      have hPow : acc * base ^ exponent = acc * (base * base) ^ (exponent / 2) := by
        conv_lhs => rw [hExp]
        rw [pow_mul, pow_two]
      rw [hPow, Nat.mul_mod, Nat.pow_mod, Nat.mod_mod, ← Nat.pow_mod, ← Nat.mul_mod]

/-- **Square-and-multiply computes the power.** -/
theorem modpow_eq (base exponent n : ℕ) : modpow base exponent n = base ^ exponent % n := by
  rw [modpow, modpowLoop_eq n _ _ _ _ Nat.lt_log2_self (Nat.mod_mod _ _),
    Nat.mul_mod, Nat.mod_mod, ← Nat.mul_mod, one_mul, ← Nat.pow_mod]

-- ---------------------------------------------------------------------------
-- Modular inverse
-- ---------------------------------------------------------------------------

/-- The inverse of `a` modulo `m`: the Bézout coefficient of `a`, taken modulo
`m` because it may be negative. `none` when `a` and `m` share a factor. -/
def modInverse (a m : ℕ) : Option ℕ :=
  if a.gcd m = 1 then some ((a.gcdA m) % (m : ℤ)).toNat else none

theorem modInverse_eq_none_iff {a m : ℕ} : modInverse a m = none ↔ a.gcd m ≠ 1 := by
  unfold modInverse
  split
  · next hGcd => exact iff_of_false (Option.some_ne_none _) (not_not_intro hGcd)
  · next hShared => exact iff_of_true rfl hShared

theorem modInverse_spec {a m d : ℕ} (hm : 0 < m) (h : modInverse a m = some d) :
    a * d ≡ 1 [MOD m] ∧ d < m := by
  unfold modInverse at h
  split at h
  · next hGcd =>
    obtain rfl := Option.some.inj h
    have hmz : (m : ℤ) ≠ 0 := by exact_mod_cast hm.ne'
    have hNonneg : 0 ≤ a.gcdA m % (m : ℤ) := Int.emod_nonneg _ hmz
    have hBezout : (1 : ℤ) = a * a.gcdA m + m * a.gcdB m := by
      rw [← Nat.gcd_eq_gcd_ab, hGcd, Nat.cast_one]
    constructor
    · rw [← Int.natCast_modEq_iff]
      push_cast
      rw [Int.toNat_of_nonneg hNonneg]
      calc (a : ℤ) * (a.gcdA m % m) ≡ a * a.gcdA m [ZMOD m] :=
            (Int.mod_modEq _ _).mul_left _
        _ ≡ a * a.gcdA m + m * a.gcdB m [ZMOD m] := by simp [Int.ModEq]
        _ = 1 := hBezout.symm
    · have hLt := Int.emod_lt_of_pos (a.gcdA m) (b := (m : ℤ)) (by exact_mod_cast hm)
      omega
  · exact absurd h (by simp)

/-- The inverse is the only one in range, so a candidate can be checked. -/
theorem modInverse_eq_some {a m d : ℕ} (h : a * d ≡ 1 [MOD m]) (hd : d < m) :
    modInverse a m = some d := by
  have hm : 0 < m := by omega
  have hCopMul : (a * d).Coprime m := by
    rw [Nat.Coprime, Nat.ModEq.gcd_eq h, Nat.gcd_one_left]
  have hCop : a.Coprime m := hCopMul.coprime_dvd_left (Dvd.intro d rfl)
  obtain ⟨d', hd'⟩ : ∃ d', modInverse a m = some d' := ⟨_, by rw [modInverse, if_pos hCop]⟩
  obtain ⟨hInv, hLt⟩ := modInverse_spec hm hd'
  have hEq : d' ≡ d [MOD m] :=
    Nat.ModEq.cancel_left_of_coprime (c := a) (Nat.coprime_comm.mp hCop) (hInv.trans h.symm)
  rw [hd', Nat.ModEq.eq_of_lt_of_lt hEq hLt hd]

-- ---------------------------------------------------------------------------
-- The RSA identity
-- ---------------------------------------------------------------------------

/-- Fermat for every residue: an exponent that is `1` modulo `p - 1` fixes all
of them, the multiples of `p` included. -/
theorem pow_modEq_self {p k : ℕ} (hp : p.Prime) (hk : 0 < k) (h : k ≡ 1 [MOD p - 1]) (m : ℕ) :
    m ^ k ≡ m [MOD p] := by
  by_cases hDvd : p ∣ m
  · have hZero : m ≡ 0 [MOD p] := (Nat.modEq_zero_iff_dvd).mpr hDvd
    calc m ^ k ≡ 0 ^ k [MOD p] := hZero.pow k
      _ = 0 := zero_pow hk.ne'
      _ ≡ m [MOD p] := hZero.symm
  · have hCop : m.Coprime p := ((Nat.Prime.coprime_iff_not_dvd hp).mpr hDvd).symm
    obtain ⟨c, hc⟩ : p - 1 ∣ k - 1 := (Nat.modEq_iff_dvd' hk).mp h.symm
    have hExp : k = (p - 1) * c + 1 := by omega
    have hFermat : m ^ (p - 1) ≡ 1 [MOD p] := by
      rw [← Nat.totient_prime hp]
      exact Nat.ModEq.pow_totient hCop
    calc m ^ k = (m ^ (p - 1)) ^ c * m := by rw [hExp, pow_add, pow_mul, pow_one]
      _ ≡ 1 ^ c * m [MOD p] := (hFermat.pow c).mul_right m
      _ = m := by rw [one_pow, one_mul]

/-- **The RSA identity.** Raising to `e` and to its inverse `d` modulo
`(p - 1) * (q - 1)` gives every residue modulo `p * q` back. -/
theorem rsa_pow_modEq {p q e d : ℕ} (hp : p.Prime) (hq : q.Prime) (hne : p ≠ q)
    (hInv : e * d ≡ 1 [MOD (p - 1) * (q - 1)]) (hpos : 0 < e * d) (m : ℕ) :
    m ^ (e * d) ≡ m [MOD p * q] := by
  have hCop : p.Coprime q := (Nat.coprime_primes hp hq).mpr hne
  rw [← Nat.modEq_and_modEq_iff_modEq_mul hCop]
  exact ⟨pow_modEq_self hp hpos (hInv.of_mul_right _) m,
    pow_modEq_self hq hpos (hInv.of_mul_left _) m⟩

-- ---------------------------------------------------------------------------
-- Primality certificates
-- ---------------------------------------------------------------------------

/-- **Lucas certificate.** `g` has order exactly `p - 1` modulo `p`: the power
`p - 1` is `1`, and no power `(p - 1) / r` is, for the primes `r` of the
factorisation of `p - 1`, listed with their exponents. -/
theorem prime_of_witness {p : ℕ} (g : ℕ) (factors : List (ℕ × ℕ)) (hp : 1 < p)
    (hPrimes : ∀ f ∈ factors, f.1.Prime)
    (hProd : (factors.map fun f => f.1 ^ f.2).prod = p - 1)
    (hOne : modpow g (p - 1) p = 1)
    (hOrder : ∀ f ∈ factors, modpow g ((p - 1) / f.1) p ≠ 1) : p.Prime := by
  have hCast : ∀ k : ℕ, (g : ZMod p) ^ k = 1 ↔ modpow g k p = 1 := by
    intro k
    rw [modpow_eq, ← Nat.cast_pow, ← Nat.cast_one, ZMod.natCast_eq_natCast_iff',
      Nat.mod_eq_of_lt hp]
  refine lucas_primality p (g : ZMod p) ((hCast _).mpr hOne) fun r hr hDvd => ?_
  rw [Ne, hCast]
  -- a prime divisor of p - 1 is one of the listed primes
  rw [← hProd] at hDvd
  obtain ⟨power, hMem, hDvdPower⟩ := (Prime.dvd_prod_iff hr.prime).mp hDvd
  obtain ⟨f, hf, rfl⟩ := List.mem_map.mp hMem
  have hEq : r = f.1 :=
    (Nat.prime_dvd_prime_iff_eq hr (hPrimes f hf)).mp (hr.dvd_of_dvd_pow hDvdPower)
  rw [hEq]
  exact hOrder f hf

end Rsa
