import DigitalEuro.Lib.FinmapTotal
import DigitalEuro.Lib.Machine
import DigitalEuro.Model.Message

/-!
# Digital euro — the applet on the secure element (`wallet.rs`)

Every operation takes the wallet and returns its result together with the wallet
afterwards, refused or not, so that what a refusal leaves behind is visible.
`u64` is `UInt64`, whose arithmetic wraps like an unchecked release build. The
hash maps are finite maps and the hash set a finite set: both compare by their
entries, and nothing here depends on an iteration order.

`Wallet.exec` runs one operation and reports what it did as an event; it makes
the element a machine in the sense of `Lib/Machine.lean`.
-/

namespace DigitalEuro

/-- Whether the element still enforces its own rules. -/
inductive ElementState where
  | «sealed»
  | cracked
deriving DecidableEq

/-- Room reserved for requests that are still open, by nonce. -/
abbrev Reservations := Finmap fun _ : Nonce => UInt64

/-- `values().sum::<u64>()`. -/
def Reservations.sum (reservations : Reservations) : UInt64 :=
  reservations.total id

/-- `u64::saturating_sub`. -/
def saturatingSub (a b : UInt64) : UInt64 := if b ≤ a then a - b else 0

structure Wallet (R : Type) where
  certificate : DeviceCertificate
  keypair : Keypair
  issuer : PublicKey
  balanceCents : UInt64
  /-- Room reserved for payment requests not yet paid. -/
  incoming : Reservations
  /-- Room reserved for funding requests not yet answered. -/
  pendingFunding : Reservations
  /-- Nonces already credited, so a replayed message credits nothing. -/
  credited : Finset Nonce
  counter : UInt64
  state : ElementState
  rng : R

namespace Wallet

variable {R : Type}

/-- A fresh element. -/
def fresh (certificate : DeviceCertificate) (keypair : Keypair) (issuer : PublicKey) (rng : R) :
    Wallet R where
  certificate := certificate
  keypair := keypair
  issuer := issuer
  balanceCents := 0
  incoming := ∅
  pendingFunding := ∅
  credited := ∅
  counter := 0
  state := .sealed
  rng := rng

/-- Installs a certified key on a fresh element. -/
def new [Sha256] (certificate : DeviceCertificate) (keypair : Keypair) (issuer : PublicKey)
    (rng : R) : Except Error (Wallet R) :=
  if !certificate.verify issuer || certificate.publicKey ≠ keypair.publicKey then
    .error .invalidCertificate
  else
    .ok (fresh certificate keypair issuer rng)

def device (w : Wallet R) : DeviceId := w.certificate.device

def holdingLimit (w : Wallet R) : UInt64 := w.certificate.holdingLimitCents

/-- Value promised to the element but not yet credited. -/
def reserved (w : Wallet R) : UInt64 := w.incoming.sum + w.pendingFunding.sum

/-- How much more the element could accept right now. -/
def headroom (w : Wallet R) : UInt64 :=
  saturatingSub (saturatingSub w.holdingLimit w.balanceCents) w.reserved

/-- Simulates a hardware attack that defeats the balance bookkeeping. -/
def crackSecureElement (w : Wallet R) : Wallet R := { w with state := .cracked }

def reserve [Rng R] (w : Wallet R) (amountCents : UInt64) : Except Error Nonce × Wallet R :=
  if amountCents = 0 then
    (.error .zeroAmount, w)
  else if w.headroom < amountCents then
    (.error (.holdingLimitExceeded amountCents w.headroom), w)
  else
    let (nonce, rng) := Rng.gen w.rng
    (.ok nonce, { w with rng })

/-- Debits the element. A cracked element signs as if it had, and keeps the
value. -/
def debit (w : Wallet R) (amountCents : UInt64) : Except Error UInt64 × Wallet R :=
  if amountCents = 0 then
    (.error .zeroAmount, w)
  else if w.balanceCents < amountCents then
    (.error (.insufficientFunds amountCents w.balanceCents), w)
  else
    let balanceCents :=
      if w.state = .sealed then w.balanceCents - amountCents else w.balanceCents
    let counter := w.counter + 1
    (.ok counter, { w with balanceCents, counter })

-- ---------------------------------------------------------------------------
-- As payee
-- ---------------------------------------------------------------------------

/-- Opens a payment request, reserving room for the amount. -/
def requestPayment [Rng R] (w : Wallet R) (amountCents : UInt64) :
    Except Error PaymentRequest × Wallet R :=
  match w.reserve amountCents with
  | (.error error, w) => (.error error, w)
  | (.ok nonce, w) =>
    (.ok { payee := w.certificate, amountCents, nonce },
      { w with incoming := w.incoming.insert nonce amountCents })

/-- Abandons an unpaid request and releases its reservation. -/
def cancelRequest (w : Wallet R) (nonce : Nonce) : Bool × Wallet R :=
  ((w.incoming.lookup nonce).isSome, { w with incoming := w.incoming.erase nonce })

/-- Verifies and credits a transfer. Returns the amount credited. -/
def receive [Sha256] (w : Wallet R) (transfer : Transfer) : Except Error UInt64 × Wallet R :=
  if transfer.payee ≠ w.device then
    (.error .notForThisDevice, w)
  else if !transfer.payer.verify w.issuer then
    (.error .invalidCertificate, w)
  else if !transfer.payer.publicKey.verify transfer.digest transfer.signature then
    (.error .invalidSignature, w)
  else if transfer.nonce ∈ w.credited then
    (.error .alreadyCredited, w)
  else
    match w.incoming.lookup transfer.nonce with
    | none => (.error .unknownRequest, w)
    | some expected =>
      if transfer.amountCents ≠ expected then
        (.error (.amountMismatch expected transfer.amountCents), w)
      else
        (.ok expected,
          { w with
            incoming := w.incoming.erase transfer.nonce
            credited := insert transfer.nonce w.credited
            balanceCents := w.balanceCents + expected })

-- ---------------------------------------------------------------------------
-- As payer
-- ---------------------------------------------------------------------------

/-- The transfer a payment signs, before the signature is filled in. -/
def unsignedTransfer (w : Wallet R) (request : PaymentRequest) (counter : UInt64) : Transfer :=
  { payer := w.certificate
    payee := request.payee.device
    amountCents := request.amountCents
    nonce := request.nonce
    counter
    signature := 0 }

/-- Pays a request out of the balance. -/
def pay [Sha256] (w : Wallet R) (request : PaymentRequest) : Except Error Transfer × Wallet R :=
  if !request.payee.verify w.issuer then
    (.error .invalidCertificate, w)
  else if request.payee.device = w.device then
    (.error .selfPayment, w)
  else
    match w.debit request.amountCents with
    | (.error error, w) => (.error error, w)
    | (.ok counter, w) =>
      let transfer := w.unsignedTransfer request counter
      (.ok { transfer with signature := w.keypair.sign transfer.digest }, w)

-- ---------------------------------------------------------------------------
-- Funding and defunding
-- ---------------------------------------------------------------------------

/-- Asks the issuer to move value from the online account onto the element,
reserving room for it first. -/
def requestFunding [Sha256] [Rng R] (w : Wallet R) (amountCents : UInt64) :
    Except Error FundingRequest × Wallet R :=
  match w.reserve amountCents with
  | (.error error, w) => (.error error, w)
  | (.ok nonce, w) =>
    let w := { w with pendingFunding := w.pendingFunding.insert nonce amountCents }
    let request : FundingRequest :=
      { device := w.device, amountCents, nonce, signature := 0 }
    (.ok { request with signature := w.keypair.sign request.digest }, w)

/-- Abandons a funding request the issuer refused. -/
def cancelFunding (w : Wallet R) (nonce : Nonce) : Bool × Wallet R :=
  ((w.pendingFunding.lookup nonce).isSome,
    { w with pendingFunding := w.pendingFunding.erase nonce })

/-- Credits the element with value the issuer has debited from the account. -/
def applyFunding [Sha256] (w : Wallet R) (funding : Funding) :
    Except Error UInt64 × Wallet R :=
  if funding.device ≠ w.device then
    (.error .notForThisDevice, w)
  else if !w.issuer.verify funding.digest funding.signature then
    (.error .invalidSignature, w)
  else if funding.nonce ∈ w.credited then
    (.error .alreadyCredited, w)
  else
    match w.pendingFunding.lookup funding.nonce with
    | none => (.error .unknownRequest, w)
    | some expected =>
      if funding.amountCents ≠ expected then
        (.error (.amountMismatch expected funding.amountCents), w)
      else
        (.ok expected,
          { w with
            pendingFunding := w.pendingFunding.erase funding.nonce
            credited := insert funding.nonce w.credited
            balanceCents := w.balanceCents + expected })

/-- Debits the element and signs an order to credit the online account. -/
def defund [Sha256] (w : Wallet R) (amountCents : UInt64) :
    Except Error Defunding × Wallet R :=
  match w.debit amountCents with
  | (.error error, w) => (.error error, w)
  | (.ok counter, w) =>
    let defunding : Defunding := { device := w.device, amountCents, counter, signature := 0 }
    (.ok { defunding with signature := w.keypair.sign defunding.digest }, w)

-- ---------------------------------------------------------------------------
-- The element as a machine
-- ---------------------------------------------------------------------------

/-- The calls a wallet answers. -/
inductive Op where
  | requestPayment (amountCents : UInt64)
  | cancelRequest (nonce : Nonce)
  | receive (transfer : Transfer)
  | pay (request : PaymentRequest)
  | requestFunding (amountCents : UInt64)
  | cancelFunding (nonce : Nonce)
  | applyFunding (funding : Funding)
  | defund (amountCents : UInt64)
  | crackSecureElement
deriving DecidableEq

/-- What a call that was not refused did. A debit records whether the element
was sealed when it signed. -/
inductive Event where
  | requested (request : PaymentRequest)
  | requestCancelled (nonce : Nonce)
  | received (transfer : Transfer)
  | paid (request : PaymentRequest) (transfer : Transfer) (state : ElementState)
  | fundingRequested (request : FundingRequest)
  | fundingCancelled (nonce : Nonce)
  | applied (funding : Funding)
  | defunded (defunding : Defunding) (state : ElementState)
  | cracked
deriving DecidableEq

/-- The event of a fallible call. -/
def eventOf {α : Type} (result : Except Error α) (event : α → Event) : Option Event :=
  match result with
  | .ok a => some (event a)
  | .error _ => none

/-- Runs one call. -/
def exec [Sha256] [Rng R] (w : Wallet R) : Op → Option Event × Wallet R
  | .requestPayment amountCents =>
    let (result, w) := w.requestPayment amountCents
    (eventOf result .requested, w)
  | .cancelRequest nonce =>
    let (removed, w) := w.cancelRequest nonce
    (if removed then some (.requestCancelled nonce) else none, w)
  | .receive transfer =>
    let (result, w) := w.receive transfer
    (eventOf result fun _ => .received transfer, w)
  | .pay request =>
    let (result, w') := w.pay request
    (eventOf result fun transfer => .paid request transfer w.state, w')
  | .requestFunding amountCents =>
    let (result, w) := w.requestFunding amountCents
    (eventOf result .fundingRequested, w)
  | .cancelFunding nonce =>
    let (removed, w) := w.cancelFunding nonce
    (if removed then some (.fundingCancelled nonce) else none, w)
  | .applyFunding funding =>
    let (result, w) := w.applyFunding funding
    (eventOf result fun _ => .applied funding, w)
  | .defund amountCents =>
    let (result, w') := w.defund amountCents
    (eventOf result fun defunding => .defunded defunding w.state, w')
  | .crackSecureElement => (some .cracked, w.crackSecureElement)

end Wallet

end DigitalEuro
