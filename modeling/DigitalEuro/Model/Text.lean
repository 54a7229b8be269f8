import DigitalEuro.Model.Error

/-!
# Digital euro — texts (`id.rs`, `error.rs`, `main.rs`)

What an error says to its reader, and how amounts are shown.

* `Error.display_eq_iff` — the text of an error tells it apart from every other, but for
  the end of an identifier.
-/

namespace DigitalEuro

/-- `{:02x}` of a byte. -/
def hexByte (byte : UInt8) : List Char :=
  [Nat.digitChar (byte.toNat / 16), Nat.digitChar (byte.toNat % 16)]

/-- The short form of an identifier, for logs. -/
def Bytes16.short (bytes : Bytes16) : String :=
  String.ofList ((bytes.toList.take 4).flatMap hexByte)

def AccountId.short (account : AccountId) : String := Bytes16.short account.bytes

def DeviceId.short (device : DeviceId) : String := Bytes16.short device.bytes

/-- An amount in decimal digits. -/
def cents (amountCents : UInt64) : String := Nat.repr amountCents.toNat

def Error.display : Error → String
  | .invalidCertificate => "device certificate not issued by the Eurosystem"
  | .invalidSignature => "signature does not verify"
  | .notForThisDevice => "message is addressed to another device"
  | .selfPayment => "a device cannot pay itself"
  | .zeroAmount => "amount must be non-zero"
  | .insufficientFunds requested available =>
    "insufficient funds: need " ++ cents requested ++ " cents, have " ++ cents available
  | .holdingLimitExceeded requested headroom =>
    "holding limit: " ++ cents requested ++ " cents requested, only " ++ cents headroom ++
      " of room left"
  | .unknownRequest => "no open request matches this message"
  | .alreadyCredited => "already credited"
  | .amountMismatch expected found =>
    "amount mismatch: requested " ++ cents expected ++ " cents, got " ++ cents found
  | .replay => "message already processed"
  | .unknownAccount account => "unknown account " ++ account.short
  | .unknownDevice device => "unknown device " ++ device.short

/-- `{:02}` of the cents beside the euros. -/
def euros (amountCents : UInt64) : String :=
  cents (amountCents / 100) ++ "." ++
    (if amountCents % 100 < 10 then "0" else "") ++ cents (amountCents % 100) ++ " €"

-- ---------------------------------------------------------------------------
-- Identifiers
-- ---------------------------------------------------------------------------

theorem digitChar_inj : ∀ m < 16, ∀ n < 16, Nat.digitChar m = Nat.digitChar n → m = n := by
  decide

theorem hexByte_injective : Function.Injective hexByte := by
  intro byte byte' h
  have hByte := byte.toNat_lt
  have hByte' := byte'.toNat_lt
  obtain ⟨hHigh, hLow⟩ := List.cons.inj h
  have hHighNat := digitChar_inj _ (by omega) _ (by omega) hHigh
  have hLowNat := digitChar_inj _ (by omega) _ (by omega) (List.cons.inj hLow).1
  exact UInt8.toNat_inj.mp (by omega)

theorem hexBytes_injective :
    Function.Injective fun bytes : List UInt8 => bytes.flatMap hexByte := by
  intro bytes
  induction bytes with
  | nil =>
    intro bytes' h
    cases bytes' with
    | nil => rfl
    | cons byte' rest' => cases h
  | cons byte rest ih =>
    intro bytes' h
    cases bytes' with
    | nil => cases h
    | cons byte' rest' =>
      have hSplit : hexByte byte ++ rest.flatMap hexByte =
          hexByte byte' ++ rest'.flatMap hexByte := h
      obtain ⟨hByte, hRest⟩ := List.append_inj hSplit rfl
      rw [hexByte_injective hByte, ih hRest]

theorem Bytes16.short_eq_iff {bytes bytes' : Bytes16} :
    Bytes16.short bytes = Bytes16.short bytes' ↔ bytes.toList.take 4 = bytes'.toList.take 4 := by
  constructor
  · intro h
    have hChars := congrArg String.toList h
    rw [short, short, String.toList_ofList, String.toList_ofList] at hChars
    exact hexBytes_injective hChars
  · intro h
    rw [short, short, h]

-- ---------------------------------------------------------------------------
-- Errors
-- ---------------------------------------------------------------------------

/-- The place of an error in `Error`. -/
def Error.index : Error → ℕ
  | .invalidCertificate => 0
  | .invalidSignature => 1
  | .notForThisDevice => 2
  | .selfPayment => 3
  | .zeroAmount => 4
  | .insufficientFunds .. => 5
  | .holdingLimitExceeded .. => 6
  | .unknownRequest => 7
  | .alreadyCredited => 8
  | .amountMismatch .. => 9
  | .replay => 10
  | .unknownAccount .. => 11
  | .unknownDevice .. => 12

/-- What the texts begin with, in the order of `Error`. -/
def headings : List String :=
  ["device ce", "signature", "message i", "a device ", "amount mu", "insuffici", "holding l",
    "no open r", "already c", "amount mi", "message a", "unknown a", "unknown d"]

theorem take_heading {text heading : String} (rest : String)
    (h : 9 ≤ text.toList.length ∧ text.toList.take 9 = heading.toList) :
    (text ++ rest).toList.take 9 = heading.toList := by
  rw [String.toList_append, List.take_append_of_le_length h.1, h.2]

theorem Error.display_take (e : Error) :
    e.display.toList.take 9 = (headings.getD e.index "").toList := by
  cases e with
  | insufficientFunds requested available =>
    show ("insufficient funds: need " ++ cents requested ++ " cents, have " ++
      cents available).toList.take 9 = "insuffici".toList
    rw [String.append_assoc, String.append_assoc]
    exact take_heading _ (by decide +kernel)
  | holdingLimitExceeded requested headroom =>
    show ("holding limit: " ++ cents requested ++ " cents requested, only " ++ cents headroom ++
      " of room left").toList.take 9 = "holding l".toList
    rw [String.append_assoc, String.append_assoc, String.append_assoc]
    exact take_heading _ (by decide +kernel)
  | amountMismatch expected found =>
    show ("amount mismatch: requested " ++ cents expected ++ " cents, got " ++
      cents found).toList.take 9 = "amount mi".toList
    rw [String.append_assoc, String.append_assoc]
    exact take_heading _ (by decide +kernel)
  | unknownAccount account =>
    show ("unknown account " ++ account.short).toList.take 9 = "unknown a".toList
    exact take_heading _ (by decide +kernel)
  | unknownDevice device =>
    show ("unknown device " ++ device.short).toList.take 9 = "unknown d".toList
    exact take_heading _ (by decide +kernel)
  | _ => decide +kernel

theorem headings_inj : ∀ i < 13, ∀ j < 13,
    (headings.getD i "").toList = (headings.getD j "").toList → i = j := by
  decide +kernel

/-- What an error's text begins with tells its kind. -/
theorem Error.index_eq_of_display {e e' : Error} (h : e.display = e'.display) :
    e.index = e'.index := by
  have hIndex : ∀ e : Error, e.index < 13 := fun e => by cases e <;> simp only [index] <;> decide
  refine headings_inj _ (hIndex e) _ (hIndex e') ?_
  rw [← e.display_take, ← e'.display_take, h]

/-- An amount ends where its digits end. -/
theorem digits_append_inj {x y : UInt64} {separator : String} {rest rest' : List Char}
    (hSeparator : ∃ c cs, separator.toList = c :: cs ∧ c.isDigit = false)
    (h : (cents x).toList ++ (separator.toList ++ rest) =
      (cents y).toList ++ (separator.toList ++ rest')) : x = y ∧ rest = rest' := by
  obtain ⟨c, cs, hHead, hNot⟩ := hSeparator
  have hDigits : ∀ z : UInt64, ∀ d ∈ (cents z).toList, d.isDigit = true := by
    intro z d hd
    rw [cents, Nat.toList_repr] at hd
    exact Nat.isDigit_of_mem_toDigits (by decide) (by decide) hd
  have hSpan : ∀ (z : UInt64) (rest : List Char),
      ((cents z).toList ++ (separator.toList ++ rest)).takeWhile Char.isDigit = (cents z).toList := by
    intro z rest
    rw [List.takeWhile_append_of_pos (hDigits z), hHead, List.cons_append,
      List.takeWhile_cons_of_neg (by rw [hNot]; decide), List.append_nil]
  have hSame : (cents x).toList = (cents y).toList := by
    rw [← hSpan x rest, h, hSpan y rest']
  rw [hSame] at h
  refine ⟨UInt64.toNat_inj.mp (Nat.repr_inj.mp (String.toList_inj.mp hSame)), ?_⟩
  exact List.append_cancel_left (List.append_cancel_left h)

/-- A text with two amounts tells both. -/
theorem two_amounts_inj {head separator : String} {x y x' y' : UInt64}
    (hSeparator : ∃ c cs, separator.toList = c :: cs ∧ c.isDigit = false)
    (h : head ++ cents x ++ separator ++ cents y = head ++ cents x' ++ separator ++ cents y') :
    x = x' ∧ y = y' := by
  have hChars := congrArg String.toList h
  simp only [String.toList_append, List.append_assoc] at hChars
  obtain ⟨hFirst, hSecond⟩ := digits_append_inj hSeparator (List.append_cancel_left hChars)
  exact ⟨hFirst, UInt64.toNat_inj.mp (Nat.repr_inj.mp (String.toList_inj.mp hSecond))⟩

/-- Errors with one text: they agree but for the end of an identifier. -/
def Error.Alike : Error → Error → Prop
  | .unknownAccount account, .unknownAccount account' =>
    account.bytes.toList.take 4 = account'.bytes.toList.take 4
  | .unknownDevice device, .unknownDevice device' =>
    device.bytes.toList.take 4 = device'.bytes.toList.take 4
  | e, e' => e = e'

/-- **The text of an error tells what happened**: the kind of the error with its amounts,
and the first four bytes of the account or device. -/
theorem Error.display_eq_iff (e e' : Error) : e.display = e'.display ↔ e.Alike e' := by
  constructor
  · intro h
    have hKind := Error.index_eq_of_display h
    cases e <;> cases e' <;> first
      | (cases hKind; done)
      | rfl
      | skip
    case insufficientFunds.insufficientFunds =>
      obtain ⟨rfl, rfl⟩ := two_amounts_inj ⟨' ', _, rfl, rfl⟩ h
      rfl
    case holdingLimitExceeded.holdingLimitExceeded =>
      obtain ⟨rfl, rfl⟩ := two_amounts_inj ⟨' ', _, rfl, rfl⟩ ((String.append_left_inj _).mp h)
      rfl
    case amountMismatch.amountMismatch =>
      obtain ⟨rfl, rfl⟩ := two_amounts_inj ⟨' ', _, rfl, rfl⟩ h
      rfl
    case unknownAccount.unknownAccount account account' =>
      exact Bytes16.short_eq_iff.mp ((String.append_right_inj _).mp h)
    case unknownDevice.unknownDevice device device' =>
      exact Bytes16.short_eq_iff.mp ((String.append_right_inj _).mp h)
  · intro h
    cases e <;> cases e' <;> first
      | exact congrArg Error.display h
      | skip
    case unknownAccount.unknownAccount account account' =>
      exact (String.append_right_inj _).mpr (Bytes16.short_eq_iff.mpr h)
    case unknownDevice.unknownDevice device device' =>
      exact (String.append_right_inj _).mpr (Bytes16.short_eq_iff.mpr h)

end DigitalEuro
