import DigitalEuro.Lib.Rsa
import DigitalEuro.Model.Hash

/-!
# Digital euro — RSA signatures with a full-domain hash (`signature.rs`)

`sign(m) = FDH(m)^d mod n`, `verify(m, s) <=> s^e == FDH(m) mod n`. A `BigUint`
is a natural number; the two that are hashed into certificates carry the fact
that their bytes fit a Rust slice.

`Keypair.Generated` is what `Keypair::generate` returns when its Miller-Rabin
test accepts primes only; `Keypair.Generated.verify_iff` shows that such a key
accepts exactly its own signatures, whatever the hash value.
-/

namespace DigitalEuro

/-- A verification key: the Eurosystem's, or a certified device's. -/
structure PublicKey where
  n : ℕ
  e : ℕ
  nFits : (Bytes.natBytes n).length < 2 ^ 64
  eFits : (Bytes.natBytes e).length < 2 ^ 64
deriving DecidableEq

/-- `BigUint::bits`: the position of the highest bit set, zero for zero. -/
def bits (n : ℕ) : ℕ := if n = 0 then 0 else n.log2 + 1

theorem lt_two_pow_bits (n : ℕ) : n < 2 ^ bits n := by
  unfold bits
  split
  · next hZero => rw [hZero]; exact Nat.one_pos
  · exact Nat.lt_log2_self

/-- The bit length in terms of the powers around a number. -/
theorem bits_eq_succ_iff {n k : ℕ} : bits n = k + 1 ↔ 2 ^ k ≤ n ∧ n < 2 ^ (k + 1) := by
  unfold bits
  split
  · next hZero =>
    rw [hZero]
    exact iff_of_false (Nat.succ_ne_zero k).symm fun h => absurd h.1 (by simp)
  · next hPos => rw [Nat.succ_inj, Nat.log2_eq_iff hPos]

theorem two_pow_le_of_bits {n size : ℕ} (h : bits n = size + 1) : 2 ^ size ≤ n :=
  (bits_eq_succ_iff.mp h).1

theorem bits_two_pow (k : ℕ) : bits (2 ^ k) = k + 1 :=
  bits_eq_succ_iff.mpr ⟨le_refl _, Nat.pow_lt_pow_right Nat.one_lt_two (Nat.lt_succ_self k)⟩

section Verification

variable [Sha256]

/-- Size of the modulus in bytes. -/
def PublicKey.modulusBytes (key : PublicKey) : ℕ := (bits key.n + 7) / 8

omit [Sha256] in
/-- A modulus that is not zero takes a byte. -/
theorem PublicKey.modulusBytes_pos {key : PublicKey} (h : key.n ≠ 0) : 0 < key.modulusBytes := by
  rw [modulusBytes, bits, if_neg h]
  omega

/-- The part list of one block of the full-domain hash. -/
def fdhParts (digest : Digest) (counter : UInt32) : List (List UInt8) :=
  [digest.toList, u32Bytes counter]

/-- The loop `while expanded.len() < width`. Every round adds 32 bytes, so
`width` rounds of fuel are enough. -/
def expandLoop (digest : Digest) (width : ℕ) : ℕ → UInt32 → List UInt8 → List UInt8
  | 0, _, expanded => expanded
  | fuel + 1, counter, expanded =>
    if expanded.length < width then
      expandLoop digest width fuel (counter + 1)
        (expanded ++ (tagged "euro/fdh" (fdhParts digest counter)).toList)
    else expanded

/-- The loop returns as many bytes as it is asked for. -/
theorem le_expandLoop_length (digest : Digest) (width : ℕ) :
    ∀ (fuel : ℕ) (counter : UInt32) (expanded : List UInt8),
      width ≤ fuel + expanded.length →
      width ≤ (expandLoop digest width fuel counter expanded).length := by
  intro fuel
  induction fuel with
  | zero =>
    intro counter expanded hFuel
    rw [expandLoop]
    omega
  | succ fuel ih =>
    intro counter expanded hFuel
    rw [expandLoop]
    split
    · refine ih _ _ ?_
      rw [List.length_append, Vector.length_toList]
      omega
    · omega

/-- `expanded[0] &= 0x3f`. -/
def maskTop : List UInt8 → List UInt8
  | [] => []
  | byte :: rest => (byte &&& 0x3f) :: rest

/-- Full-domain hash: expand the 32-byte message digest to the width of the
modulus and reduce. -/
def PublicKey.fullDomainHash (key : PublicKey) (digest : Digest) : ℕ :=
  let width := key.modulusBytes
  let expanded := (expandLoop digest width width 0 []).take width
  Bytes.ofBytes (maskTop expanded) % key.n

/-- `s^e == FDH(m) mod n`. -/
def PublicKey.verify (key : PublicKey) (digest : Digest) (signature : ℕ) : Bool :=
  if key.n ≤ signature then false
  else Rsa.modpow signature key.e key.n == key.fullDomainHash digest

end Verification

/-- A signing key. -/
structure Keypair where
  publicKey : PublicKey
  d : ℕ
deriving DecidableEq

def Keypair.sign [Sha256] (keypair : Keypair) (digest : Digest) : ℕ :=
  Rsa.modpow (keypair.publicKey.fullDomainHash digest) keypair.d keypair.publicKey.n

-- ---------------------------------------------------------------------------
-- Key generation
-- ---------------------------------------------------------------------------

/-- A drawn number with its two top bits and its lowest bit set. -/
def candidate (bits drawn : ℕ) : ℕ :=
  drawn ||| 2 ^ (bits - 1) ||| 2 ^ (bits - 2) ||| 1

/-- What `generate_prime(bits)` returns: a candidate that passed the primality
test, which is assumed to let primes only through. -/
structure GeneratedPrime (bits p : ℕ) : Prop where
  drawn : ∃ r < 2 ^ bits, p = candidate bits r
  prime : p.Prime

/-- The checks of one round of `Keypair::generate` that returns. -/
structure Keypair.GeneratedFrom (size p q : ℕ) (keypair : Keypair) : Prop where
  size_ge : 512 ≤ size
  size_even : size % 2 = 0
  p_generated : GeneratedPrime (size / 2) p
  q_generated : GeneratedPrime (size / 2) q
  p_ne_q : p ≠ q
  n_eq : keypair.publicKey.n = p * q
  n_bits : bits keypair.publicKey.n = size
  e_eq : keypair.publicKey.e = 65537
  d_eq : Rsa.modInverse keypair.publicKey.e ((p - 1) * (q - 1)) = some keypair.d

/-- The keypairs `Keypair::generate` returns, for any size it accepts. -/
def Keypair.Generated (keypair : Keypair) : Prop :=
  ∃ size p q, keypair.GeneratedFrom size p q

theorem Keypair.GeneratedFrom.inverse {size p q : ℕ} {keypair : Keypair}
    (h : keypair.GeneratedFrom size p q) :
    keypair.publicKey.e * keypair.d ≡ 1 [MOD (p - 1) * (q - 1)] := by
  have hp := h.p_generated.prime.one_lt
  have hq := h.q_generated.prime.one_lt
  have hPhi : 0 < (p - 1) * (q - 1) := Nat.mul_pos (by omega) (by omega)
  exact (Rsa.modInverse_spec hPhi h.d_eq).1

/-- The product of the exponents is not zero: that would make φ(n) divide 1, and then
both primes were 2. -/
theorem Keypair.GeneratedFrom.exponents_pos {size p q : ℕ} {keypair : Keypair}
    (h : keypair.GeneratedFrom size p q) : 0 < keypair.publicKey.e * keypair.d := by
  have hp := h.p_generated.prime.one_lt
  have hq := h.q_generated.prime.one_lt
  rcases Nat.eq_zero_or_pos (keypair.publicKey.e * keypair.d) with hZero | hPos
  · have hPhi : (p - 1) * (q - 1) ∣ 1 := by
      have hOne := h.inverse
      rw [hZero] at hOne
      exact Nat.modEq_zero_iff_dvd.mp hOne.symm
    obtain ⟨hp2, hq2⟩ := mul_eq_one.mp (Nat.dvd_one.mp hPhi)
    exact absurd (show p = q by omega) h.p_ne_q
  · exact hPos

/-- Raising to both exponents gives every residue back. -/
theorem Keypair.GeneratedFrom.pow_exponents {size p q : ℕ} {keypair : Keypair}
    (h : keypair.GeneratedFrom size p q) {m : ℕ} (hm : m < keypair.publicKey.n) :
    m ^ (keypair.publicKey.e * keypair.d) % keypair.publicKey.n = m := by
  rw [h.n_eq] at hm ⊢
  exact Nat.mod_eq_of_modEq
    (Rsa.rsa_pow_modEq h.p_generated.prime h.q_generated.prime h.p_ne_q h.inverse
      h.exponents_pos m) hm

theorem PublicKey.verify_eq_true_iff [Sha256] {key : PublicKey} {digest : Digest}
    {signature : ℕ} : key.verify digest signature = true ↔
      signature < key.n ∧ signature ^ key.e % key.n = key.fullDomainHash digest := by
  unfold verify
  by_cases hLarge : key.n ≤ signature
  · rw [if_pos hLarge]
    exact iff_of_false Bool.false_ne_true fun hSmall => absurd hSmall.1 (by omega)
  · rw [if_neg hLarge, beq_iff_eq, Rsa.modpow_eq]
    exact ⟨fun hPow => ⟨by omega, hPow⟩, fun hPow => hPow.2⟩

/-- **Signing and verifying are inverse.** For a generated key and any digest exactly
one number verifies, the one the key signs: also when the hash value shares a factor
with the modulus. -/
theorem Keypair.Generated.verify_iff [Sha256] {keypair : Keypair} (h : keypair.Generated)
    (digest : Digest) (signature : ℕ) :
    keypair.publicKey.verify digest signature = true ↔ signature = keypair.sign digest := by
  obtain ⟨size, p, q, hFrom⟩ := h
  have hNPos : 0 < keypair.publicKey.n := by
    rw [hFrom.n_eq]
    exact Nat.mul_pos hFrom.p_generated.prime.pos hFrom.q_generated.prime.pos
  set hash := keypair.publicKey.fullDomainHash digest with hHash
  have hHashLt : hash < keypair.publicKey.n := Nat.mod_lt _ hNPos
  have hSign : keypair.sign digest = hash ^ keypair.d % keypair.publicKey.n := Rsa.modpow_eq ..
  rw [PublicKey.verify_eq_true_iff, ← hHash]
  constructor
  · rintro ⟨hSmall, hPow⟩
    rw [hSign, ← hPow, ← Nat.pow_mod, ← pow_mul, hFrom.pow_exponents hSmall]
  · rintro rfl
    rw [hSign]
    refine ⟨Nat.mod_lt _ hNPos, ?_⟩
    rw [← Nat.pow_mod, ← pow_mul, Nat.mul_comm, hFrom.pow_exponents hHashLt]

theorem Keypair.Generated.verify_sign [Sha256] {keypair : Keypair} (h : keypair.Generated)
    (digest : Digest) : keypair.publicKey.verify digest (keypair.sign digest) = true :=
  (h.verify_iff digest _).mpr rfl

-- the elaborator is not to compute signatures of concrete keys
attribute [irreducible] Keypair.sign PublicKey.verify

-- ---------------------------------------------------------------------------
-- Keys of the size the test-suite uses
-- ---------------------------------------------------------------------------

/-- Primes `k * 2^240 + 1` have small certificates. Those with a 16-bit `k` whose two
top bits are set can be drawn by `generate_prime(256)` as they are. -/
def samplePrime (k : ℕ) : ℕ := k * 2 ^ 240 + 1

/-- The second hypothesis is one closed computation: the bits of the number, and a
certificate for it from the factors of `k`. -/
theorem samplePrime_generated {bits k : ℕ} (g : ℕ) (factors : List (ℕ × ℕ))
    (hPrimes : ∀ f ∈ factors, f.1.Prime)
    (hCheck : 0 < k ∧ samplePrime k < 2 ^ bits ∧ candidate bits (samplePrime k) = samplePrime k ∧
      2 ^ 240 * (factors.map fun f => f.1 ^ f.2).prod = samplePrime k - 1 ∧
      Rsa.modpow g (samplePrime k - 1) (samplePrime k) = 1 ∧
      ∀ f ∈ (2, 240) :: factors,
        Rsa.modpow g ((samplePrime k - 1) / f.1) (samplePrime k) ≠ 1) :
    GeneratedPrime bits (samplePrime k) := by
  obtain ⟨hk, hSize, hBits, hProd, hOne, hOrder⟩ := hCheck
  have hPos : 1 < samplePrime k := by
    unfold samplePrime
    omega
  refine ⟨⟨samplePrime k, hSize, hBits.symm⟩, ?_⟩
  refine Rsa.prime_of_witness g ((2, 240) :: factors) hPos ?_ ?_ hOne hOrder
  · intro f hf
    rcases List.mem_cons.mp hf with rfl | hf
    · exact Nat.prime_two
    · exact hPrimes f hf
  · rw [List.map_cons, List.prod_cons, hProd]

/-- A keypair from two sample primes. -/
def sampleKeypair (k l d : ℕ)
    (hFits : (Bytes.natBytes (samplePrime k * samplePrime l)).length < 2 ^ 64) : Keypair where
  publicKey :=
    { n := samplePrime k * samplePrime l
      e := 65537
      nFits := hFits
      eFits := by decide +kernel }
  d := d

/-- The issuer's key. -/
def issuerKeys : Keypair :=
  sampleKeypair 49437 50325
    6100430480076008120783414974271826245889349874920425421824500862047207179231435303245884499379608244516122948119297319435171972924314898989594842033487873
    (by decide +kernel)

/-- The key of one device. -/
def aliceKeys : Keypair :=
  sampleKeypair 51975 52455
    2662106501884463727814690952964365372682993406617149479296619595851162361258065838507145196511583624783167873852294743404214631438181476421293636486889473
    (by decide +kernel)

/-- The key of another device. -/
def bakeryKeys : Keypair :=
  sampleKeypair 54525 53823
    1115241619652006932560857747415994267409844675454547928276472983247263281966191020126265539670903095534929084614711690422892973092793883823910454252470273
    (by decide +kernel)

theorem sampleKeypair_generatedFrom {size k l d : ℕ}
    {hFits : (Bytes.natBytes (samplePrime k * samplePrime l)).length < 2 ^ 64}
    (hp : GeneratedPrime (size / 2) (samplePrime k))
    (hq : GeneratedPrime (size / 2) (samplePrime l))
    (hCheck : 512 ≤ size ∧ size % 2 = 0 ∧ samplePrime k ≠ samplePrime l ∧
      bits (samplePrime k * samplePrime l) = size ∧
      65537 * d ≡ 1 [MOD (samplePrime k - 1) * (samplePrime l - 1)] ∧
      d < (samplePrime k - 1) * (samplePrime l - 1)) :
    (sampleKeypair k l d hFits).GeneratedFrom size (samplePrime k) (samplePrime l) := by
  obtain ⟨hSize, hEven, hne, hBits, hInverse, hRange⟩ := hCheck
  exact
    { size_ge := hSize
      size_even := hEven
      p_generated := hp
      q_generated := hq
      p_ne_q := hne
      n_eq := rfl
      n_bits := hBits
      e_eq := rfl
      d_eq := Rsa.modInverse_eq_some hInverse hRange }

theorem issuerKeys_generatedFrom :
    issuerKeys.GeneratedFrom 512 (samplePrime 49437) (samplePrime 50325) :=
  sampleKeypair_generatedFrom
    (samplePrime_generated 5 [(3, 3), (1831, 1)] (by norm_num) (by decide +kernel))
    (samplePrime_generated 7 [(3, 1), (5, 2), (11, 1), (61, 1)] (by norm_num) (by decide +kernel))
    (by decide +kernel)

theorem issuerKeys_generated : issuerKeys.Generated := ⟨512, _, _, issuerKeys_generatedFrom⟩

theorem aliceKeys_generatedFrom :
    aliceKeys.GeneratedFrom 512 (samplePrime 51975) (samplePrime 52455) :=
  sampleKeypair_generatedFrom
    (samplePrime_generated 19 [(3, 3), (5, 2), (7, 1), (11, 1)] (by norm_num) (by decide +kernel))
    (samplePrime_generated 11 [(3, 1), (5, 1), (13, 1), (269, 1)] (by norm_num) (by decide +kernel))
    (by decide +kernel)

theorem aliceKeys_generated : aliceKeys.Generated := ⟨512, _, _, aliceKeys_generatedFrom⟩

theorem bakeryKeys_generatedFrom :
    bakeryKeys.GeneratedFrom 512 (samplePrime 54525) (samplePrime 53823) :=
  sampleKeypair_generatedFrom
    (samplePrime_generated 14 [(3, 1), (5, 2), (727, 1)] (by norm_num) (by decide +kernel))
    (samplePrime_generated 23 [(3, 1), (7, 1), (11, 1), (233, 1)] (by norm_num) (by decide +kernel))
    (by decide +kernel)

theorem bakeryKeys_generated : bakeryKeys.Generated := ⟨512, _, _, bakeryKeys_generatedFrom⟩

end DigitalEuro
