import DigitalEuro.Model.Keygen

/-!
# Digital euro — the full-domain hash and the modulus (`signature.rs`)

`full_domain_hash` expands a digest to the bytes of the modulus, clears two bits and
reduces. The two bits are cleared in the first byte, which is a full byte of the
modulus only when its size is a multiple of 8.

* `expandedHash_lt` — the bound that masking gives, by the number of bytes;
* `expandedHash_allOnes` — the bound is reached;
* `reduction_is_identity_iff` — the keys for which nothing is reduced.
-/

namespace DigitalEuro

/-- The number that is formed before the reduction. -/
def PublicKey.expandedHash [Sha256] (key : PublicKey) (digest : Digest) : ℕ :=
  let width := key.modulusBytes
  let expanded := (expandLoop digest width width 0 []).take width
  Bytes.ofBytes (maskTop expanded)

theorem PublicKey.fullDomainHash_eq [Sha256] (key : PublicKey) (digest : Digest) :
    key.fullDomainHash digest = key.expandedHash digest % key.n := rfl

-- ---------------------------------------------------------------------------
-- Masking
-- ---------------------------------------------------------------------------

/-- Two bits less than the bytes have. -/
theorem ofBytes_maskTop_lt {bytes : List UInt8} (h : bytes ≠ []) :
    Bytes.ofBytes (maskTop bytes) < 2 ^ (8 * bytes.length - 2) := by
  obtain ⟨byte, rest, rfl⟩ := List.exists_cons_of_ne_nil h
  have hByte : (byte &&& 0x3f).toNat + 1 ≤ 64 := by
    rw [UInt8.toNat_and]
    exact Nat.lt_succ_of_le Nat.and_le_right
  calc Bytes.ofBytes (maskTop (byte :: rest))
      < (byte &&& 0x3f).toNat * 256 ^ rest.length + 256 ^ rest.length := by
        rw [maskTop, Bytes.ofBytes_cons]
        exact Nat.add_lt_add_left (Bytes.ofBytes_lt rest) _
    _ = ((byte &&& 0x3f).toNat + 1) * 256 ^ rest.length := by ring
    _ ≤ 64 * 256 ^ rest.length := Nat.mul_le_mul_right _ hByte
    _ = 2 ^ (8 * (byte :: rest).length - 2) := by
        rw [show 8 * (byte :: rest).length - 2 = 6 + 8 * rest.length by
          rw [List.length_cons]; omega, pow_add, pow_mul]
        norm_num

theorem ofBytes_maskTop_replicate {width : ℕ} (h : 0 < width) :
    Bytes.ofBytes (maskTop (List.replicate width 0xff)) + 1 = 2 ^ (8 * width - 2) := by
  obtain ⟨rest, rfl⟩ := Nat.exists_eq_add_of_lt h
  rw [Nat.zero_add, List.replicate_succ, maskTop, Bytes.ofBytes_cons, List.length_replicate,
    add_assoc, Bytes.ofBytes_replicate, show ((0xff : UInt8) &&& 0x3f).toNat = 63 from rfl,
    show 8 * (rest + 1) - 2 = 6 + 8 * rest by omega, pow_add, pow_mul]
  norm_num
  ring

-- ---------------------------------------------------------------------------
-- The expanded hash
-- ---------------------------------------------------------------------------

/-- **What masking guarantees**, for any hash function. -/
theorem PublicKey.expandedHash_lt [Sha256] {key : PublicKey} (h : key.n ≠ 0) (digest : Digest) :
    key.expandedHash digest < 2 ^ (8 * key.modulusBytes - 2) := by
  set width := key.modulusBytes with hWidth
  have hEnough : width ≤ (expandLoop digest width width 0 []).length :=
    le_expandLoop_length digest width width 0 [] (Nat.le_add_right ..)
  have hLength : ((expandLoop digest width width 0 []).take width).length = width := by
    rw [List.length_take, Nat.min_eq_left hEnough]
  have hPos : 0 < width := key.modulusBytes_pos h
  have hBound := ofBytes_maskTop_lt (List.ne_nil_of_length_pos (hLength.symm ▸ hPos))
  rw [hLength] at hBound
  exact hBound

section AllOnes

-- a hash function that returns nothing but ones
variable [Sha256] (hOnes : ∀ message, Sha256.sha256 message = Vector.replicate 32 0xff)

include hOnes

theorem expandLoop_allOnes (digest : Digest) (width : ℕ) :
    ∀ (fuel : ℕ) (counter : UInt32) (expanded : List UInt8), (∀ byte ∈ expanded, byte = 0xff) →
      ∀ byte ∈ expandLoop digest width fuel counter expanded, byte = 0xff := by
  intro fuel
  induction fuel with
  | zero =>
    intro counter expanded hExpanded
    exact hExpanded
  | succ fuel ih =>
    intro counter expanded hExpanded
    rw [expandLoop]
    split
    · refine ih _ _ fun byte hMem => ?_
      rcases List.mem_append.mp hMem with hOld | hNew
      · exact hExpanded byte hOld
      · rw [tagged, hOnes, Vector.toList_replicate] at hNew
        exact List.eq_of_mem_replicate hNew
    · exact hExpanded

/-- **The bound is reached.** -/
theorem PublicKey.expandedHash_allOnes {key : PublicKey} (h : key.n ≠ 0) (digest : Digest) :
    key.expandedHash digest + 1 = 2 ^ (8 * key.modulusBytes - 2) := by
  have hEnough := le_expandLoop_length digest key.modulusBytes key.modulusBytes 0 []
    (Nat.le_add_right ..)
  have hReplicate : (expandLoop digest key.modulusBytes key.modulusBytes 0 []).take
      key.modulusBytes = List.replicate key.modulusBytes 0xff := by
    refine List.eq_replicate_iff.mpr ⟨?_, fun byte hMem => ?_⟩
    · rw [List.length_take, Nat.min_eq_left hEnough]
    · exact expandLoop_allOnes hOnes digest _ _ 0 [] (fun _ hNone => by cases hNone) byte
        (List.mem_of_mem_take hMem)
  rw [expandedHash, hReplicate, ofBytes_maskTop_replicate (key.modulusBytes_pos h)]

end AllOnes

-- ---------------------------------------------------------------------------
-- Returned keys
-- ---------------------------------------------------------------------------

/-- **When nothing is reduced.** A key that is generated for a size has every expanded
hash below its modulus, whatever the hash function, exactly when the size is a multiple
of 8; the last reduction then changes nothing. -/
theorem reduction_is_identity_iff {R : Type} [RandBigInt R] {size : UInt64} {fuel : ℕ}
    {rng rng' : R} {keypair : Keypair} (hSize : 512 ≤ size) (hEven : size % 2 = 0)
    (h : Keypair.generate size fuel rng = some (.ok keypair, rng')) :
    (∀ [Sha256] (digest : Digest),
        keypair.publicKey.expandedHash digest < keypair.publicKey.n ∧
          keypair.publicKey.fullDomainHash digest = keypair.publicKey.expandedHash digest) ↔
      8 ∣ size.toNat := by
  obtain ⟨_, p, q, hOk, -, -, hReturned⟩ := generate_spec hSize hEven h
  obtain rfl := Except.ok.inj hOk
  have hGe := size_ge hSize
  have hEven := size_even hEven
  have hBits := hReturned.n_bits
  have hLow : 2 ^ (size.toNat - 1) ≤ keypair.publicKey.n :=
    two_pow_le_of_bits (hBits.trans (by omega))
  have hHigh : keypair.publicKey.n < 2 ^ size.toNat := hBits ▸ lt_two_pow_bits keypair.publicKey.n
  have hNonzero : keypair.publicKey.n ≠ 0 := by
    have hPos := Nat.two_pow_pos (size.toNat - 1)
    omega
  have hWidth : keypair.publicKey.modulusBytes = (size.toNat + 7) / 8 := by
    rw [PublicKey.modulusBytes, hBits]
  constructor
  · intro hAll
    by_contra hNot
    -- the bytes have at least two bits more than the modulus, so clearing two leaves
    -- room for a number as large as the modulus
    have hRoom : 2 ^ size.toNat ≤ 2 ^ (8 * keypair.publicKey.modulusBytes - 2) :=
      Nat.pow_le_pow_right (by norm_num) (by omega)
    let _ : Sha256 := ⟨fun _ => Vector.replicate 32 0xff⟩
    have hTop := PublicKey.expandedHash_allOnes (fun _ => rfl) hNonzero (Vector.replicate 32 0)
    have hBelow := (hAll (Vector.replicate 32 0)).1
    omega
  · intro hDvd _ digest
    have hBound := PublicKey.expandedHash_lt hNonzero digest
    have hFits : 2 ^ (8 * keypair.publicKey.modulusBytes - 2) ≤ 2 ^ (size.toNat - 1) :=
      Nat.pow_le_pow_right (by norm_num) (by omega)
    have hBelow : keypair.publicKey.expandedHash digest < keypair.publicKey.n := by omega
    refine ⟨hBelow, ?_⟩
    rw [PublicKey.fullDomainHash_eq, Nat.mod_eq_of_lt hBelow]

/-- The run that returns the issuer's key, of 512 bits. -/
theorem reduction_is_identity_iff_sample :
    (∀ [Sha256] (digest : Digest),
        issuerKeys.publicKey.expandedHash digest < issuerKeys.publicKey.n ∧
          issuerKeys.publicKey.fullDomainHash digest =
            issuerKeys.publicKey.expandedHash digest) ↔
      8 ∣ (512 : UInt64).toNat :=
  reduction_is_identity_iff (by decide) (by decide)
    (Keypair.GeneratedFrom.generate_scripted 512 issuerKeys_generatedFrom)

-- ---------------------------------------------------------------------------
-- A key of 514 bits
-- ---------------------------------------------------------------------------

/-- A key of 514 bits, which takes 65 bytes. -/
def wideKeys : Keypair :=
  sampleKeypair 98931 99337
    26499658881614897505406074410017471124282443875692397689521948837275575145649686272001614472261885397071078783163201490445824969649550208995951330734309377
    (by decide +kernel)

theorem wideKeys_generatedFrom :
    wideKeys.GeneratedFrom 514 (samplePrime 98931) (samplePrime 99337) :=
  sampleKeypair_generatedFrom
    (samplePrime_generated 20 [(3, 1), (7, 2), (673, 1)] (by norm_num) (by decide +kernel))
    (samplePrime_generated 3 [(7, 1), (23, 1), (617, 1)] (by norm_num) (by decide +kernel))
    (by decide +kernel)

section

open scoped Fips

/-- The expanded hash of 32 zero bytes is above the modulus of this key. -/
theorem expanded_hash_above_modulus :
    Keypair.generate 514 2 (⟨[samplePrime 98931, samplePrime 99337], []⟩ : ScriptedRng) =
        some (.ok wideKeys, ⟨[], []⟩) ∧
      wideKeys.publicKey.n ≤ wideKeys.publicKey.expandedHash (Vector.replicate 32 0) ∧
      wideKeys.publicKey.fullDomainHash (Vector.replicate 32 0) ≠
        wideKeys.publicKey.expandedHash (Vector.replicate 32 0) := by
  refine ⟨Keypair.GeneratedFrom.generate_scripted 514 wideKeys_generatedFrom, ?_, ?_⟩
  · decide +kernel
  · decide +kernel

end

end DigitalEuro
