import DigitalEuro.Lib.Bytes

/-!
# SHA-256

The FIPS 180-4 hash function, executable, for evaluating protocols that take
their hash as a parameter on concrete inputs.

* `sha256` — pads, splits into 64-byte blocks and folds the compression
  function over them.
-/

namespace Fips180

/-- The first 32 bits of the fractional parts of the cube roots of the first 64
primes. -/
def roundConstants : List UInt32 := [
  0x428a2f98, 0x71374491, 0xb5c0fbcf, 0xe9b5dba5, 0x3956c25b, 0x59f111f1, 0x923f82a4, 0xab1c5ed5,
  0xd807aa98, 0x12835b01, 0x243185be, 0x550c7dc3, 0x72be5d74, 0x80deb1fe, 0x9bdc06a7, 0xc19bf174,
  0xe49b69c1, 0xefbe4786, 0x0fc19dc6, 0x240ca1cc, 0x2de92c6f, 0x4a7484aa, 0x5cb0a9dc, 0x76f988da,
  0x983e5152, 0xa831c66d, 0xb00327c8, 0xbf597fc7, 0xc6e00bf3, 0xd5a79147, 0x06ca6351, 0x14292967,
  0x27b70a85, 0x2e1b2138, 0x4d2c6dfc, 0x53380d13, 0x650a7354, 0x766a0abb, 0x81c2c92e, 0x92722c85,
  0xa2bfe8a1, 0xa81a664b, 0xc24b8b70, 0xc76c51a3, 0xd192e819, 0xd6990624, 0xf40e3585, 0x106aa070,
  0x19a4c116, 0x1e376c08, 0x2748774c, 0x34b0bcb5, 0x391c0cb3, 0x4ed8aa4a, 0x5b9cca4f, 0x682e6ff3,
  0x748f82ee, 0x78a5636f, 0x84c87814, 0x8cc70208, 0x90befffa, 0xa4506ceb, 0xbef9a3f7, 0xc67178f2]

/-- The eight working variables. -/
structure State where
  a : UInt32
  b : UInt32
  c : UInt32
  d : UInt32
  e : UInt32
  f : UInt32
  g : UInt32
  h : UInt32

def initial : State where
  a := 0x6a09e667
  b := 0xbb67ae85
  c := 0x3c6ef372
  d := 0xa54ff53a
  e := 0x510e527f
  f := 0x9b05688c
  g := 0x1f83d9ab
  h := 0x5be0cd19

def rotr (x k : UInt32) : UInt32 := (x >>> k) ||| (x <<< (32 - k))

def bigSigma0 (x : UInt32) : UInt32 := rotr x 2 ^^^ rotr x 13 ^^^ rotr x 22
def bigSigma1 (x : UInt32) : UInt32 := rotr x 6 ^^^ rotr x 11 ^^^ rotr x 25
def smallSigma0 (x : UInt32) : UInt32 := rotr x 7 ^^^ rotr x 18 ^^^ (x >>> 3)
def smallSigma1 (x : UInt32) : UInt32 := rotr x 17 ^^^ rotr x 19 ^^^ (x >>> 10)
def choose (x y z : UInt32) : UInt32 := (x &&& y) ^^^ (~~~x &&& z)
def majority (x y z : UInt32) : UInt32 := (x &&& y) ^^^ (x &&& z) ^^^ (y &&& z)

/-- Extends the message schedule by `k` words. The schedule is kept newest word
first, so the word sixteen places back is at index 15. -/
def extend : ℕ → List UInt32 → List UInt32
  | 0, w => w
  | k + 1, w =>
    extend k ((smallSigma1 (w.getD 1 0) + w.getD 6 0 + smallSigma0 (w.getD 14 0) +
      w.getD 15 0) :: w)

def round (s : State) (constantAndWord : UInt32 × UInt32) : State :=
  let t1 := s.h + bigSigma1 s.e + choose s.e s.f s.g + constantAndWord.1 + constantAndWord.2
  let t2 := bigSigma0 s.a + majority s.a s.b s.c
  ⟨t1 + t2, s.a, s.b, s.c, s.d + t1, s.e, s.f, s.g⟩

/-- The compression function on one block of sixteen words. -/
def compress (s : State) (block : List UInt32) : State :=
  let r := (roundConstants.zip (extend 48 block.reverse).reverse).foldl round s
  ⟨s.a + r.a, s.b + r.b, s.c + r.c, s.d + r.d, s.e + r.e, s.f + r.f, s.g + r.g, s.h + r.h⟩

/-- A one bit, zeros, and the length in bits, up to a multiple of 64 bytes. -/
def pad (message : List UInt8) : List UInt8 :=
  message ++ 0x80 :: List.replicate ((119 - message.length % 64) % 64) 0 ++
    Bytes.beBytes 8 (8 * message.length)

/-- Groups bytes into big-endian words. -/
def words : List UInt8 → List UInt32
  | a :: b :: c :: d :: rest =>
    ((a.toUInt32 <<< 24) ||| (b.toUInt32 <<< 16) ||| (c.toUInt32 <<< 8) ||| d.toUInt32) ::
      words rest
  | _ => []

/-- Folds the compression function over `k` blocks. -/
def absorb : ℕ → State → List UInt32 → State
  | 0, s, _ => s
  | k + 1, s, w => absorb k (compress s (w.take 16)) (w.drop 16)

def State.toBytes (s : State) : List UInt8 :=
  [s.a, s.b, s.c, s.d, s.e, s.f, s.g, s.h].flatMap fun w => Bytes.beBytes 4 w.toNat

theorem State.toBytes_length (s : State) : s.toBytes.length = 32 := by
  simp [State.toBytes]

/-- The hash of a byte string. -/
def sha256 (message : List UInt8) : Vector UInt8 32 :=
  let s := absorb ((pad message).length / 64) initial (words (pad message))
  ⟨s.toBytes.toArray, by rw [List.size_toArray, State.toBytes_length]⟩

-- The one-block test vector of the standard, the message "abc".
example : (sha256 [0x61, 0x62, 0x63]).toList =
    Bytes.beBytes 32 0xba7816bf8f01cfea414140de5dae2223b00361a396177a9cb410ff61f20015ad := by
  decide +kernel

end Fips180
