import DigitalEuro.Lib.FinmapTotal
import DigitalEuro.Lib.Machine
import DigitalEuro.Model.Message

/-!
# Digital euro — the online side (`issuer.rs`)

The Eurosystem certifying devices and intermediaries holding accounts, folded
into one `Issuer`. Operations return their result with the issuer afterwards,
as in `Model/Wallet.lean`.

The offline float is an `i128`, which only `offline_float` reads, and its arithmetic
wraps. `offlineFloat` adds up the same amounts in full, and `offlineFloatI128` is what
the `i128` holds of the sum.
-/

namespace DigitalEuro

/-- What an `i128` holds of an integer when its arithmetic wraps. -/
def i128 (x : ℤ) : ℤ := x.bmod (2 ^ 128)

structure DeviceRecord where
  account : AccountId
  publicKey : PublicKey
  lastDefundingCounter : UInt64
deriving DecidableEq

structure Issuer where
  keypair : Keypair
  accounts : Finmap fun _ : AccountId => UInt64
  devices : Finmap fun _ : DeviceId => DeviceRecord
  fundingNonces : Finset (DeviceId × Nonce)
  /-- Funded minus defunded, in full; counterfeiting can drive it below zero. -/
  offlineFloat : ℤ

namespace Issuer

def new (keypair : Keypair) : Issuer where
  keypair := keypair
  accounts := ∅
  devices := ∅
  fundingNonces := ∅
  offlineFloat := 0

def publicKey (issuer : Issuer) : PublicKey := issuer.keypair.publicKey

def openAccount (issuer : Issuer) (account : AccountId) (balanceCents : UInt64) : Issuer :=
  { issuer with accounts := issuer.accounts.insert account balanceCents }

/-- What `offline_float` returns. -/
def offlineFloatI128 (issuer : Issuer) : ℤ := i128 issuer.offlineFloat

def balanceOf (issuer : Issuer) (account : AccountId) : Option UInt64 :=
  issuer.accounts.lookup account

/-- The account a device was certified for. Only the issuer knows this. -/
def accountOf (issuer : Issuer) (device : DeviceId) : Option AccountId :=
  (issuer.devices.lookup device).map DeviceRecord.account

/-- Certifies a device key for an account and assigns the device an id, drawn
from `rng`. -/
def certifyDevice [Sha256] {G : Type} [Rng G] (issuer : Issuer) (account : AccountId)
    (publicKey : PublicKey) (holdingLimitCents : UInt64) (rng : G) :
    Except Error DeviceCertificate × Issuer × G :=
  if (issuer.accounts.lookup account).isNone then
    (.error (.unknownAccount account), issuer, rng)
  else
    let (bytes, rng) := Rng.gen rng
    let device : DeviceId := ⟨bytes⟩
    let certificate := issuer.keypair.certify device publicKey holdingLimitCents
    let record : DeviceRecord := { account, publicKey, lastDefundingCounter := 0 }
    (.ok certificate, { issuer with devices := issuer.devices.insert device record }, rng)

/-- Debits the device's account and signs the funding for the element. -/
def fund [Sha256] (issuer : Issuer) (request : FundingRequest) :
    Except Error Funding × Issuer :=
  match issuer.devices.lookup request.device with
  | none => (.error (.unknownDevice request.device), issuer)
  | some record =>
    if !record.publicKey.verify request.digest request.signature then
      (.error .invalidSignature, issuer)
    else if request.amountCents = 0 then
      (.error .zeroAmount, issuer)
    else if (request.device, request.nonce) ∈ issuer.fundingNonces then
      (.error .replay, issuer)
    else
      match issuer.accounts.lookup record.account with
      | none => (.error (.unknownAccount record.account), issuer)
      | some balance =>
        if balance < request.amountCents then
          (.error (.insufficientFunds request.amountCents balance), issuer)
        else
          let funding : Funding :=
            { device := request.device, amountCents := request.amountCents
              nonce := request.nonce, signature := 0 }
          (.ok { funding with signature := issuer.keypair.sign funding.digest },
            { issuer with
              accounts := issuer.accounts.insert record.account (balance - request.amountCents)
              offlineFloat := issuer.offlineFloat + request.amountCents.toNat
              fundingNonces := insert (request.device, request.nonce) issuer.fundingNonces })

/-- Credits the device's account with value the element has debited. -/
def defund [Sha256] (issuer : Issuer) (defunding : Defunding) :
    Except Error UInt64 × Issuer :=
  match issuer.devices.lookup defunding.device with
  | none => (.error (.unknownDevice defunding.device), issuer)
  | some record =>
    if !record.publicKey.verify defunding.digest defunding.signature then
      (.error .invalidSignature, issuer)
    else if defunding.counter ≤ record.lastDefundingCounter then
      (.error .replay, issuer)
    else
      match issuer.accounts.lookup record.account with
      | none => (.error (.unknownAccount record.account), issuer)
      | some balance =>
        let record' := { record with lastDefundingCounter := defunding.counter }
        (.ok defunding.amountCents,
          { issuer with
            accounts := issuer.accounts.insert record.account (balance + defunding.amountCents)
            offlineFloat := issuer.offlineFloat - defunding.amountCents.toNat
            devices := issuer.devices.insert defunding.device record' })

-- ---------------------------------------------------------------------------
-- The issuer as a machine
-- ---------------------------------------------------------------------------

/-- The calls an issuer answers. A certification carries the randomness its
device id is drawn from. -/
inductive Op (G : Type) where
  | openAccount (account : AccountId) (balanceCents : UInt64)
  | certifyDevice (account : AccountId) (publicKey : PublicKey) (holdingLimitCents : UInt64)
      (rng : G)
  | fund (request : FundingRequest)
  | defund (defunding : Defunding)

/-- What a call that was not refused did. -/
inductive Event where
  | opened (account : AccountId) (balanceCents : UInt64)
  | certified (account : AccountId) (certificate : DeviceCertificate)
  | funded (account : AccountId) (request : FundingRequest) (funding : Funding)
  | defunded (account : AccountId) (defunding : Defunding)
deriving DecidableEq

/-- Runs one call. -/
def exec [Sha256] {G : Type} [Rng G] (issuer : Issuer) : Op G → Option Event × Issuer
  | .openAccount account balanceCents =>
    (some (.opened account balanceCents), issuer.openAccount account balanceCents)
  | .certifyDevice account publicKey holdingLimitCents rng =>
    match issuer.certifyDevice account publicKey holdingLimitCents rng with
    | (.ok certificate, issuer, _) => (some (.certified account certificate), issuer)
    | (.error _, issuer, _) => (none, issuer)
  | .fund request =>
    match issuer.fund request, issuer.accountOf request.device with
    | (.ok funding, issuer), some account => (some (.funded account request funding), issuer)
    | (_, issuer), _ => (none, issuer)
  | .defund defunding =>
    match issuer.defund defunding, issuer.accountOf defunding.device with
    | (.ok _, issuer), some account => (some (.defunded account defunding), issuer)
    | (_, issuer), _ => (none, issuer)

end Issuer

end DigitalEuro
