import Mathlib

/-!
# Big-endian bytes and length-prefixed framing

Byte strings are `List UInt8`. Two integer encodings (fixed width, and the
shortest one, where zero takes one byte), one decoder for both, and the framing
that writes a string behind its own length.

* `ofBytes_beBytes` / `ofBytes_natBytes` — the decoder inverts both encodings;
* `frame_append_inj` — a frame can be split off the front of a longer string;
* `flatMap_frame_inj` — a run of frames determines the framed strings, their
  number included, although the run carries no count.
-/

namespace Bytes

-- ---------------------------------------------------------------------------
-- Integers as bytes
-- ---------------------------------------------------------------------------

/-- The `width` low-order bytes of `n`, most significant first. -/
def beBytes : ℕ → ℕ → List UInt8
  | 0, _ => []
  | width + 1, n => beBytes width (n / 256) ++ [UInt8.ofNat n]

/-- The shortest big-endian form of `n`; zero is the single byte `0`. -/
def natBytes (n : ℕ) : List UInt8 :=
  if n = 0 then [0] else ((Nat.digits 256 n).map UInt8.ofNat).reverse

/-- The number a big-endian byte string denotes. -/
def ofBytes (bytes : List UInt8) : ℕ :=
  bytes.foldl (fun acc byte => acc * 256 + byte.toNat) 0

@[simp] theorem beBytes_length (width n : ℕ) : (beBytes width n).length = width := by
  induction width generalizing n with
  | zero => rfl
  | succ width ih => simp [beBytes, ih]

@[simp] theorem ofBytes_nil : ofBytes [] = 0 := rfl

@[simp] theorem ofBytes_append_singleton (bytes : List UInt8) (byte : UInt8) :
    ofBytes (bytes ++ [byte]) = ofBytes bytes * 256 + byte.toNat := by
  simp [ofBytes, List.foldl_append]

theorem ofBytes_append (front rest : List UInt8) :
    ofBytes (front ++ rest) = ofBytes front * 256 ^ rest.length + ofBytes rest := by
  induction rest using List.reverseRecOn with
  | nil => simp
  | append_singleton rest byte ih =>
    rw [← List.append_assoc, ofBytes_append_singleton, ih, ofBytes_append_singleton,
      List.length_append, List.length_singleton, pow_succ]
    ring

theorem ofBytes_cons (byte : UInt8) (rest : List UInt8) :
    ofBytes (byte :: rest) = byte.toNat * 256 ^ rest.length + ofBytes rest := by
  have hSplit := ofBytes_append [byte] rest
  rwa [List.singleton_append, show ofBytes [byte] = byte.toNat by simp [ofBytes]] at hSplit

theorem ofBytes_lt (bytes : List UInt8) : ofBytes bytes < 256 ^ bytes.length := by
  induction bytes with
  | nil => simp
  | cons byte rest ih =>
    have hByte : byte.toNat + 1 ≤ 256 := byte.toNat_lt
    calc ofBytes (byte :: rest) < byte.toNat * 256 ^ rest.length + 256 ^ rest.length := by
          rw [ofBytes_cons]
          exact Nat.add_lt_add_left ih _
      _ = (byte.toNat + 1) * 256 ^ rest.length := by ring
      _ ≤ 256 * 256 ^ rest.length := Nat.mul_le_mul_right _ hByte
      _ = 256 ^ (byte :: rest).length := by rw [List.length_cons, pow_succ']

/-- Strings of one length denote different numbers. -/
theorem ofBytes_inj : ∀ {bytes bytes' : List UInt8}, bytes.length = bytes'.length →
    ofBytes bytes = ofBytes bytes' → bytes = bytes' := by
  intro bytes
  induction bytes with
  | nil => exact fun {_} hLength _ => (List.length_eq_zero_iff.mp hLength.symm).symm
  | cons byte rest ih =>
    intro bytes' hLength h
    obtain ⟨byte', rest', rfl⟩ := List.exists_cons_of_length_eq_add_one hLength.symm
    have hRest : rest.length = rest'.length := Nat.succ.inj hLength
    have hLt := ofBytes_lt rest
    have hLt' := ofBytes_lt rest'
    rw [← hRest] at hLt'
    rw [ofBytes_cons, ofBytes_cons, ← hRest] at h
    have hPos : 0 < 256 ^ rest.length := Nat.pow_pos (by norm_num)
    have hTop := congrArg (· / 256 ^ rest.length) h
    have hLow := congrArg (· % 256 ^ rest.length) h
    simp only [Nat.mul_comm _ (256 ^ rest.length), Nat.mul_add_div hPos,
      Nat.div_eq_of_lt hLt, Nat.div_eq_of_lt hLt', Nat.mul_add_mod, Nat.mod_eq_of_lt hLt,
      Nat.mod_eq_of_lt hLt', Nat.add_zero] at hTop hLow
    rw [UInt8.toNat_inj.mp hTop, ih hRest hLow]

/-- Nothing but ones is the largest number of its width. -/
theorem ofBytes_replicate (width : ℕ) : ofBytes (List.replicate width 0xff) + 1 = 256 ^ width := by
  induction width with
  | zero => rfl
  | succ width ih =>
    rw [List.replicate_succ, ofBytes_cons, List.length_replicate, add_assoc, ih, pow_succ',
      show (0xff : UInt8).toNat = 255 from rfl]
    ring

theorem ofBytes_beBytes (width n : ℕ) : ofBytes (beBytes width n) = n % 256 ^ width := by
  induction width generalizing n with
  | zero => simp [beBytes, Nat.mod_one]
  | succ width ih =>
    have hByte : (UInt8.ofNat n).toNat = n % 256 := UInt8.toNat_ofNat'
    rw [beBytes, ofBytes_append_singleton, ih, hByte, pow_succ', Nat.mod_mul]
    ring

/-- Numbers that fit the width are determined by their bytes. -/
theorem beBytes_inj {width n m : ℕ} (hn : n < 256 ^ width) (hm : m < 256 ^ width)
    (h : beBytes width n = beBytes width m) : n = m := by
  have hDecoded := congrArg ofBytes h
  rwa [ofBytes_beBytes, ofBytes_beBytes, Nat.mod_eq_of_lt hn, Nat.mod_eq_of_lt hm] at hDecoded

/-- Decoding reversed little-endian digits is evaluation in base 256. -/
theorem ofBytes_reverse_map (digits : List ℕ) (hDigits : ∀ d ∈ digits, d < 256) :
    ofBytes (digits.map UInt8.ofNat).reverse = Nat.ofDigits 256 digits := by
  induction digits with
  | nil => rfl
  | cons d digits ih =>
    have hd : (UInt8.ofNat d).toNat = d :=
      UInt8.toNat_ofNat_of_lt' (hDigits d (List.mem_cons_self ..))
    rw [List.map_cons, List.reverse_cons, ofBytes_append_singleton, hd,
      ih fun x hx => hDigits x (List.mem_cons_of_mem _ hx), Nat.ofDigits_cons]
    ring

theorem ofBytes_natBytes (n : ℕ) : ofBytes (natBytes n) = n := by
  unfold natBytes
  split
  · next h => simp [h, ofBytes]
  · rw [ofBytes_reverse_map _ fun d hd => Nat.digits_lt_base (by norm_num) hd,
      Nat.ofDigits_digits]

theorem natBytes_length_le {n width : ℕ} (hWidth : 0 < width) (h : n < 256 ^ width) :
    (natBytes n).length ≤ width := by
  unfold natBytes
  split
  · exact hWidth
  · rw [List.length_reverse, List.length_map]
    exact (Nat.digits_length_le_iff (by norm_num) n).mpr h

theorem natBytes_injective : Function.Injective natBytes :=
  Function.LeftInverse.injective ofBytes_natBytes

-- ---------------------------------------------------------------------------
-- Framing
-- ---------------------------------------------------------------------------

/-- A byte string behind its own length, the length written in `width` bytes. -/
def frame (width : ℕ) (part : List UInt8) : List UInt8 :=
  beBytes width part.length ++ part

/-- **Frames are prefix-free.** Two strings that start with a frame start with
the same frame, as long as the framed lengths fit the prefix. -/
theorem frame_append_inj (width : ℕ) {a b s t : List UInt8}
    (ha : a.length < 256 ^ width) (hb : b.length < 256 ^ width)
    (h : frame width a ++ s = frame width b ++ t) : a = b ∧ s = t := by
  unfold frame at h
  rw [List.append_assoc, List.append_assoc] at h
  obtain ⟨hPrefix, hRest⟩ := List.append_inj h (by simp)
  have hLen : a.length = b.length := beBytes_inj ha hb hPrefix
  exact List.append_inj hRest hLen

/-- A frame with a non-empty prefix is never empty. -/
theorem frame_ne_nil {width : ℕ} (hWidth : 0 < width) (part : List UInt8) :
    frame width part ≠ [] := by
  intro h
  have hLen := congrArg List.length h
  simp [frame] at hLen
  omega

/-- **A run of frames is unambiguous.** The encoding carries no count: the
strings are read back one frame at a time until nothing is left. -/
theorem flatMap_frame_inj (width : ℕ) (hWidth : 0 < width) :
    ∀ {parts parts' : List (List UInt8)},
      (∀ part ∈ parts, part.length < 256 ^ width) →
      (∀ part ∈ parts', part.length < 256 ^ width) →
      parts.flatMap (frame width) = parts'.flatMap (frame width) →
      parts = parts' := by
  intro parts
  induction parts with
  | nil =>
    intro parts' _ _ h
    cases parts' with
    | nil => rfl
    | cons part' rest' =>
      rw [List.flatMap_nil, List.flatMap_cons] at h
      exact absurd (List.append_eq_nil_iff.mp h.symm).1 (frame_ne_nil hWidth part')
  | cons part rest ih =>
    intro parts' hFit hFit' h
    cases parts' with
    | nil =>
      rw [List.flatMap_nil, List.flatMap_cons] at h
      exact absurd (List.append_eq_nil_iff.mp h).1 (frame_ne_nil hWidth part)
    | cons part' rest' =>
      rw [List.flatMap_cons, List.flatMap_cons] at h
      obtain ⟨hPart, hRest⟩ := frame_append_inj width (hFit part (List.mem_cons_self ..))
        (hFit' part' (List.mem_cons_self ..)) h
      rw [hPart, ih (fun x hx => hFit x (List.mem_cons_of_mem _ hx))
        (fun x hx => hFit' x (List.mem_cons_of_mem _ hx)) hRest]

end Bytes
