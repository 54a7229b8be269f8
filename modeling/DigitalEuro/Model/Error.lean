import DigitalEuro.Lib.Bytes

/-!
# Digital euro — identifiers, randomness and errors

The vocabulary every other module shares: the 16-byte identifiers of `id.rs`,
the random bytes the protocol draws, and the refusals of `error.rs`.
-/

namespace DigitalEuro

/-- `[u8; 16]`: the width of an identifier and of a nonce. -/
abbrev Bytes16 := Vector UInt8 16

/-- A nonce of a payment or funding request. -/
abbrev Nonce := Bytes16

/-- An online digital euro account, held with an intermediary. -/
structure AccountId where
  bytes : Bytes16
deriving DecidableEq

/-- A certified secure element: the pseudonym its counterparties see. -/
structure DeviceId where
  bytes : Bytes16
deriving DecidableEq

/-- A source of random 16-byte strings, `rng.gen()`. Nothing is assumed of the
strings it returns; they may repeat. -/
class Rng (R : Type) where
  gen : R → Bytes16 × R

/-- A generator that counts: it returns the big-endian bytes of its state. -/
structure CountingRng where
  next : ℕ

instance : Rng CountingRng where
  gen rng := (⟨(Bytes.beBytes 16 rng.next).toArray, by simp⟩, ⟨rng.next + 1⟩)

/-- Protocol errors. -/
inductive Error where
  /-- A certificate not signed by the issuer, or not for the key it comes with. -/
  | invalidCertificate
  /-- A message not signed by the key it claims. -/
  | invalidSignature
  /-- A transfer or funding addressed to another device. -/
  | notForThisDevice
  /-- Payer and payee are the same device. -/
  | selfPayment
  | zeroAmount
  | insufficientFunds (requested available : UInt64)
  | holdingLimitExceeded (requested headroom : UInt64)
  /-- A transfer or funding that answers no open request. -/
  | unknownRequest
  | alreadyCredited
  | amountMismatch (expected found : UInt64)
  /-- A defunding counter or funding nonce the issuer has already seen. -/
  | replay
  | unknownAccount (account : AccountId)
  | unknownDevice (device : DeviceId)
deriving DecidableEq

end DigitalEuro
