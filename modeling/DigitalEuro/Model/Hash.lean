import DigitalEuro.Lib.Bytes
import DigitalEuro.Lib.Sha256

/-!
# Digital euro — domain-separated hashing (`hash.rs`)

SHA-256 itself is a library function, so it is a parameter: any map from byte
strings to 32 bytes. What the protocol decides is the byte string it hashes,
`tagged.preimage`.
-/

namespace DigitalEuro

/-- `[u8; 32]`, what `tagged` returns. -/
abbrev Digest := Vector UInt8 32

/-- The `sha2` crate's hash function. -/
class Sha256 where
  sha256 : List UInt8 → Digest

namespace Fips

/-- The hash function itself, in scope where `Fips` is opened. -/
scoped instance sha256 : Sha256 := ⟨Fips180.sha256⟩

end Fips

/-- `str::as_bytes`. -/
def strBytes (s : String) : List UInt8 := s.toByteArray.data.toList

@[simp] theorem strBytes_length (s : String) : (strBytes s).length = s.utf8ByteSize := by
  simp [strBytes]

theorem strBytes_injective : Function.Injective strBytes := by
  intro s t h
  exact String.toByteArray_inj.mp (ByteArray.ext (Array.toList_inj.mp h))

/-- The byte string `tagged` feeds to SHA-256: the tag behind its length as a
`u32`, then every part behind its length as a `u64`. -/
def tagged.preimage (tag : String) (parts : List (List UInt8)) : List UInt8 :=
  Bytes.frame 4 (strBytes tag) ++ parts.flatMap (Bytes.frame 8)

/-- `SHA-256(tag || len(part) || part ...)`. -/
def tagged [Sha256] (tag : String) (parts : List (List UInt8)) : Digest :=
  Sha256.sha256 (tagged.preimage tag parts)

/-- `u32::to_be_bytes`. -/
def u32Bytes (x : UInt32) : List UInt8 := Bytes.beBytes 4 x.toNat

/-- `u64::to_be_bytes`. -/
def u64Bytes (x : UInt64) : List UInt8 := Bytes.beBytes 8 x.toNat

@[simp] theorem u32Bytes_length (x : UInt32) : (u32Bytes x).length = 4 :=
  Bytes.beBytes_length ..

@[simp] theorem u64Bytes_length (x : UInt64) : (u64Bytes x).length = 8 :=
  Bytes.beBytes_length ..

theorem u64Bytes_injective : Function.Injective u64Bytes := by
  intro x y h
  exact UInt64.toNat_inj.mp (Bytes.beBytes_inj x.toNat_lt y.toNat_lt h)

/-- **`tagged` hashes an unambiguous string.** Equal preimages have the same tag
and the same list of parts, as long as every length fits its prefix. -/
theorem tagged.preimage_inj {tag tag' : String} {parts parts' : List (List UInt8)}
    (hTag : tag.utf8ByteSize < 2 ^ 32) (hTag' : tag'.utf8ByteSize < 2 ^ 32)
    (hParts : ∀ part ∈ parts, part.length < 2 ^ 64)
    (hParts' : ∀ part ∈ parts', part.length < 2 ^ 64)
    (h : tagged.preimage tag parts = tagged.preimage tag' parts') :
    tag = tag' ∧ parts = parts' := by
  obtain ⟨hTags, hRest⟩ := Bytes.frame_append_inj 4
    (by rw [strBytes_length]; exact hTag) (by rw [strBytes_length]; exact hTag') h
  constructor
  · exact strBytes_injective hTags
  · exact Bytes.flatMap_frame_inj 8 (by norm_num) hParts hParts' hRest

end DigitalEuro
