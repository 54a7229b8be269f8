import DigitalEuro.Model.Fuzz
import DigitalEuro.Model.Text

/-!
# Digital euro — the acceptance scenarios (`main.rs`)

`run_check` runs eight scenarios, each in a world of its own, and passes when all do.
The lines a scenario prints under its verdict are left out, and so are the debug texts of
results it did not expect. What is proved of the check is in `Model/Acceptance.lean`.
-/

namespace DigitalEuro

/-- How a scenario ends early: it says why it fails, or it panics. -/
inductive Halt where
  | failed (why : String)
  | panicked (panic : HarnessPanic)

/-- A scenario under way, which may also not return. -/
abbrev Harness := ExceptT Halt Option

namespace Harness

def panicked {α : Type} (panic : HarnessPanic) : Harness α :=
  ExceptT.mk (some (.error (.panicked panic)))

def fail {α : Type} (why : String) : Harness α := ExceptT.mk (some (.error (.failed why)))

/-- `ensure!`. -/
def ensure (holds : Bool) (why : String) : Harness Unit :=
  if holds then pure () else fail why

/-- `map_err` and `?`. -/
def orFail {α : Type} (why : Error → String) : Except Error α → Harness α
  | .ok a => pure a
  | .error error => fail (why error)

end Harness

section Steps

variable [Sha256] {R : Type} [StdRng R]

open Harness

def openWorld (cfg : Config) (seed : UInt64) (fuel : ℕ) (balances : List UInt64) :
    Harness (World R) :=
  ExceptT.mk ((world cfg seed fuel balances).map fun outcome => outcome.mapError .panicked)

namespace World

/-- The device at an index. -/
def deviceAt (w : World R) (index : ℕ) : Harness (Wallet R) :=
  match w.devices[index]? with
  | some device => pure device
  | none => panicked .index

def accountAt (w : World R) (index : ℕ) : Harness AccountId :=
  match w.accounts[index]? with
  | some account => pure account
  | none => panicked .index

/-- A helper called on devices by index. -/
def helper (w : World R) (op : FuzzOp) : Harness (Except Error UInt64 × World R) :=
  match w.call op with
  | some answer => pure answer
  | none => panicked .index

/-- A call of one device. -/
def onDevice {α : Type} (w : World R) (index : ℕ) (call : Wallet R → α × Wallet R) :
    Harness (α × World R) :=
  match w.devices[index]? with
  | some device =>
    let (answer, device) := call device
    pure (answer, { w with devices := w.devices.set index device })
  | none => panicked .index

end World

-- ---------------------------------------------------------------------------
-- The scenarios
-- ---------------------------------------------------------------------------

variable (cfg : Config) (fuel : ℕ)

/-- Pay 6 € out of 10 €, keep the 4 €. -/
def partialPaymentKeepsTheRest : Harness Unit := do
  let w : World R ← openWorld cfg cfg.seed fuel [10000, 0, 0]
  let (result, w) ← w.helper (.fund 0 1000)
  let _ ← orFail Error.display result
  let (result, w) ← w.helper (.pay 0 1 600)
  let _ ← orFail (fun error => "6 € payment failed: " ++ error.display) result
  let alice ← w.deviceAt 0
  let bakery ← w.deviceAt 1
  ensure (alice.balanceCents = 400) ("Alice should keep 4 €, has " ++ euros alice.balanceCents)
  ensure (bakery.balanceCents = 600) "bakery should hold 6 €"
  let (result, w) ← w.helper (.pay 0 2 400)
  let _ ← orFail (fun error => "spending the 4 € left failed: " ++ error.display) result
  let alice ← w.deviceAt 0
  let kiosk ← w.deviceAt 2
  ensure (alice.balanceCents = 0) "Alice should be empty"
  ensure (kiosk.balanceCents = 400) "kiosk should hold 4 €"

/-- Money received offline can be paid on at once, still offline. -/
def receivedValueIsRespendable : Harness Unit := do
  let w : World R ← openWorld cfg (cfg.seed + 1) fuel [10000, 0, 0]
  let (result, w) ← w.helper (.fund 0 1000)
  let _ ← orFail Error.display result
  let float := w.issuer.offlineFloat
  let (result, w) ← w.helper (.pay 0 1 600)
  let _ ← orFail Error.display result
  let (result, w) ← w.helper (.pay 1 2 500)
  let _ ← orFail (fun error => "bakery could not re-spend: " ++ error.display) result
  let (result, w) ← w.helper (.pay 2 0 200)
  let _ ← orFail (fun error => "supplier could not re-spend: " ++ error.display) result
  let total := (w.devices.map Wallet.balanceCents).sum
  ensure (total = 1000) ("value not conserved: " ++ euros total ++ " on devices")
  ensure (w.issuer.offlineFloat = float) "the issuer's view changed during offline payments"

/-- A certificate from an issuer that is not the Eurosystem. -/
def rogueCertificate : Harness DeviceCertificate := do
  let rng : R := StdRng.seedFromU64 (cfg.seed ^^^ 0x0bad)
  let (rogue, rng) ← generate 512 rng
  let account : AccountId := ⟨.replicate 16 0xee⟩
  let issuer := (Issuer.new rogue).openAccount account 0
  let (keys, rng) ← generate 512 rng
  match issuer.certifyDevice account keys.publicKey cfg.limit rng with
  | (.ok certificate, _, _) => pure certificate
  | (.error error, _, _) => panicked (.enrolment error)
where
  /-- `Keypair::generate`. -/
  generate (bits : UInt64) (rng : R) : Harness (Keypair × R) :=
    match Keypair.generate bits fuel rng with
    | none => ExceptT.mk none
    | some (.error panic, _) => panicked (.keygen panic)
    | some (.ok keypair, rng) => pure (keypair, rng)

/-- A payment the payer's element refuses costs neither side anything, and a payee whose
certificate the Eurosystem never signed gets nothing. -/
def refusedPaymentCostsNothing : Harness Unit := do
  let w : World R ← openWorld cfg (cfg.seed + 2) fuel [10000, 0]
  let (result, w) ← w.helper (.fund 0 500)
  let _ ← orFail Error.display result
  let (result, w) ← w.helper (.pay 0 1 600)
  ensure (match result with | .error (.insufficientFunds ..) => true | _ => false)
    "expected InsufficientFunds"
  let alice ← w.deviceAt 0
  let bakery ← w.deviceAt 1
  ensure (alice.balanceCents = 500) "payer was debited for a refused payment"
  ensure (bakery.reserved = 0) "payee kept a reservation for a dead request"
  let (request, w) ← w.onDevice 1 fun bakery => bakery.requestPayment 100
  let request ← orFail Error.display request
  let rogue ← rogueCertificate (R := R) cfg fuel
  let (result, w) ← w.onDevice 0 fun alice => alice.pay { request with payee := rogue }
  ensure (match result with | .error .invalidCertificate => true | _ => false)
    "expected InvalidCertificate"
  let alice ← w.deviceAt 0
  ensure (alice.balanceCents = 500) "payer paid an uncertified device"

/-- The payee's holding limit is enforced before the payer is debited. -/
def holdingLimitCheckedBeforeDebit : Harness Unit := do
  let w : World R ← openWorld cfg (cfg.seed + 3) fuel [cfg.limit, cfg.limit]
  let (result, w) ← w.helper (.fund 0 cfg.limit)
  let _ ← orFail Error.display result
  let (result, w) ← w.helper (.fund 1 (cfg.limit - 100))
  let _ ← orFail Error.display result
  let (result, w) ← w.helper (.pay 0 1 200)
  match result with
  | .error (.holdingLimitExceeded _ headroom) =>
    ensure (headroom = 100) ("headroom reported as " ++ cents headroom)
  | _ => fail "expected HoldingLimitExceeded"
  let alice ← w.deviceAt 0
  ensure (alice.balanceCents = cfg.limit) "payer was debited anyway"
  let (result, w) ← w.helper (.pay 0 1 100)
  let _ ← orFail (fun error => "payment within headroom refused: " ++ error.display) result
  let bakery ← w.deviceAt 1
  ensure (bakery.balanceCents = cfg.limit) "bakery should now be exactly at its limit"

/-- Replaying or tampering with a transfer gains nothing. -/
def transfersResistReplayAndTampering : Harness Unit := do
  let w : World R ← openWorld cfg (cfg.seed + 4) fuel [10000, 0, 0]
  let (result, w) ← w.helper (.fund 0 1000)
  let _ ← orFail Error.display result
  let (request, w) ← w.onDevice 1 fun payee => payee.requestPayment 600
  let request ← orFail Error.display request
  let (transfer, w) ← w.onDevice 0 fun payer => payer.pay request
  let transfer ← orFail Error.display transfer
  let inflated := { transfer with amountCents := 6000 }
  let (result, w) ← w.onDevice 1 fun payee => payee.receive inflated
  ensure (result = .error .invalidSignature) "an inflated transfer was not rejected"
  let other ← w.deviceAt 2
  let redirected := { transfer with payee := other.device }
  let (result, w) ← w.onDevice 2 fun payee => payee.receive redirected
  ensure (result = .error .invalidSignature) "a redirected transfer was not rejected"
  let (result, w) ← w.onDevice 1 fun payee => payee.receive transfer
  ensure (result = .ok 600) "the genuine transfer was not credited"
  let (result, w) ← w.onDevice 1 fun payee => payee.receive transfer
  ensure (result = .error .alreadyCredited) "a replayed transfer was not refused"
  let payee ← w.deviceAt 1
  ensure (payee.balanceCents = 600) "payee credited more than once"

/-- Value goes back online, and a defunding order cannot be cashed twice. -/
def defundingRoundTrip : Harness Unit := do
  let w : World R ← openWorld cfg (cfg.seed + 5) fuel [10000]
  let account ← w.accountAt 0
  let (result, w) ← w.helper (.fund 0 3000)
  let _ ← orFail Error.display result
  let (order, w) ← w.onDevice 0 fun device => device.defund 1200
  let order ← orFail Error.display order
  let (result, issuer) := w.issuer.defund order
  ensure (result = .ok 1200) "defunding refused"
  let (result, issuer) := issuer.defund order
  ensure (result = .error .replay) "a defunding order was cashed twice"
  ensure (issuer.balanceOf account = some 8200) "account should hold 82 €"
  ensure (issuer.offlineFloat = 1800) "float should be 18 €"

/-- No recovery: a lost device takes its balance with it. -/
def lostDeviceStrandsItsBalance : Harness Unit := do
  let w : World R ← openWorld cfg (cfg.seed + 6) fuel [10000]
  let account ← w.accountAt 0
  let (result, w) ← w.helper (.fund 0 4000)
  let _ ← orFail Error.display result
  let w : World R := { w with devices := [] }
  ensure (w.issuer.balanceOf account = some 6000) "the account was made whole"
  ensure (w.issuer.offlineFloat = 4000) "the lost value should stay counted as offline"

/-- A cracked element pays out value it does not have. Offline nobody can tell; online
it shows up only in aggregate, with no pointer to the source. -/
def crackedElementCounterfeits : Harness Unit := do
  let w : World R ← openWorld cfg (cfg.seed + 7) fuel [10000, 0, 0]
  let (result, w) ← w.helper (.fund 0 1000)
  let _ ← orFail Error.display result
  let ((), w) ← w.onDevice 0 fun device => ((), device.crackSecureElement)
  let w ← [1, 2].foldlM (fun w payee => do
    let (result, w) ← World.helper w (.pay 0 payee 1000)
    let _ ← orFail (fun error => "payee " ++ Nat.repr payee ++
      " refused a genuine-looking transfer: " ++ error.display) result
    pure w) w
  let first ← w.deviceAt 1
  let second ← w.deviceAt 2
  ensure (first.balanceCents + second.balanceCents = 2000)
    "expected 20 € in circulation from 10 € funded"
  let w ← [1, 2].foldlM (fun w payee => do
    let (result, w) ← World.helper w (.defund payee 1000)
    let _ ← orFail (fun error => "defunding refused: " ++ error.display) result
    pure w) w
  ensure (w.issuer.offlineFloat = -1000) ("float should be -10 €, is " ++
    Int.repr w.issuer.offlineFloat)
  let mallory ← w.deviceAt 0
  ensure (mallory.balanceCents = 1000) "the cracked element should still show its 10 €"

-- ---------------------------------------------------------------------------
-- The check
-- ---------------------------------------------------------------------------

/-- What is printed for a scenario: that it passes, or why it fails. -/
abbrev Verdicts := List (String × Except String Unit)

def checkLoop : List (String × Harness Unit) → Option (Except HarnessPanic Verdicts)
  | [] => some (.ok [])
  | (name, scenario) :: rest =>
    match scenario.run with
    | none => none
    | some (.error (.panicked panic)) => some (.error panic)
    | some (.error (.failed why)) =>
      (checkLoop rest).map fun outcome => outcome.map ((name, .error why) :: ·)
    | some (.ok ()) => (checkLoop rest).map fun outcome => outcome.map ((name, .ok ()) :: ·)

/-- How many scenarios failed. -/
def Verdicts.failed (verdicts : Verdicts) : ℕ :=
  (verdicts.filter fun verdict => match verdict.2 with | .ok () => false | .error _ => true).length

variable (R)

def scenarios : List (String × Harness Unit) :=
  [("pay 6 € of 10 €, keep and spend the 4 €", partialPaymentKeepsTheRest (R := R) cfg fuel),
    ("received value is re-spendable offline", receivedValueIsRespendable (R := R) cfg fuel),
    ("refused payment costs nothing", refusedPaymentCostsNothing (R := R) cfg fuel),
    ("holding limit checked before debit", holdingLimitCheckedBeforeDebit (R := R) cfg fuel),
    ("transfers resist replay and tampering",
      transfersResistReplayAndTampering (R := R) cfg fuel),
    ("defunding round trip", defundingRoundTrip (R := R) cfg fuel),
    ("lost device strands its balance", lostDeviceStrandsItsBalance (R := R) cfg fuel),
    ("cracked element counterfeits", crackedElementCounterfeits (R := R) cfg fuel)]

/-- The verdicts, and whether the check as a whole passes. -/
def runCheck : Option (Except HarnessPanic (Verdicts × Bool)) :=
  (checkLoop (scenarios R cfg fuel)).map fun outcome =>
    outcome.map fun verdicts => (verdicts, verdicts.failed == 0)

end Steps

end DigitalEuro
