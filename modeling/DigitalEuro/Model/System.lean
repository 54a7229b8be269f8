import DigitalEuro.Model.HoldingLimit
import DigitalEuro.Model.IssuerLedger
import DigitalEuro.Model.WalletHistory

/-!
# Digital euro — one issuer and its devices

An issuer, any number of elements, and a network that delivers whatever it likes:
an operation may present any message to anyone at any time, so messages can be
dropped, duplicated, reordered, replayed, redirected and altered. What the network
cannot do is sign, which is an assumption about its operations:

* `Enrolment` — device ids do not repeat, a certificate is installed on one
  element, and that element generated its key;
* `Unforged` — what verifies under the issuer's key or a certified key was signed
  by a call that holds this key. It is unforgeable signatures and a hash without
  collisions in one.

`Reachable` are the states of runs under both.

* `Reachable.wallet_of`, `Reachable.issuer_run` — every element and the issuer are
  on runs of their own, so what was shown for these applies;
* `signed_of_verifies` — an accepted message was signed, with these fields.
-/

namespace DigitalEuro

/-- The issuer, and the elements that are installed, by device. -/
structure System (R : Type) where
  issuer : Issuer
  wallets : Finmap fun _ : DeviceId => Wallet R

namespace System

variable {R G : Type}

/-- Before anything is opened, certified or installed. -/
def start (keypair : Keypair) : System R where
  issuer := .new keypair
  wallets := ∅

/-- The calls made to the two kinds of party, and the set-up of an element. -/
inductive Op (R G : Type) where
  | issuer (op : Issuer.Op G)
  | install (certificate : DeviceCertificate) (keypair : Keypair) (rng : R)
  | wallet (device : DeviceId) (op : Wallet.Op)

/-- What an operation that was not refused did; a wallet is told apart by its
certificate. -/
inductive Event where
  | issuer (event : Issuer.Event)
  | installed (certificate : DeviceCertificate)
  | wallet (certificate : DeviceCertificate) (event : Wallet.Event)
deriving DecidableEq

/-- Runs one operation; a call of a device that has no element is refused. -/
def exec [Sha256] [Rng R] [Rng G] (s : System R) : Op R G → Option Event × System R
  | .issuer op =>
    let (event, issuer) := s.issuer.exec op
    (event.map .issuer, { s with issuer })
  | .install certificate keypair rng =>
    match Wallet.new certificate keypair s.issuer.publicKey rng with
    | .error _ => (none, s)
    | .ok w => (some (.installed certificate), { s with wallets := s.wallets.insert w.device w })
  | .wallet device op =>
    match s.wallets.lookup device with
    | none => (none, s)
    | some w =>
      let (event, w') := w.exec op
      (event.map (.wallet w.certificate), { s with wallets := s.wallets.insert device w' })

-- ---------------------------------------------------------------------------
-- Histories
-- ---------------------------------------------------------------------------

/-- The event as one of the issuer. -/
def Event.ofIssuer : Event → Option Issuer.Event
  | .issuer event => some event
  | _ => none

/-- The event as one of the element of a device. -/
def Event.ofDevice (device : DeviceId) : Event → Option Wallet.Event
  | .wallet certificate event => if certificate.device = device then some event else none
  | _ => none

/-- What the issuer did. -/
def issuerEvents (history : List Event) : List Issuer.Event :=
  history.filterMap Event.ofIssuer

/-- What the element of a device did. -/
def localEvents (device : DeviceId) (history : List Event) : List Wallet.Event :=
  history.filterMap (Event.ofDevice device)

/-- The key and the content an event signed. -/
def Event.signing (issuerKey : PublicKey) : Event → Option (PublicKey × Content)
  | .issuer (.certified _ certificate) => some (issuerKey, certificate.content)
  | .issuer (.funded _ _ funding) => some (issuerKey, funding.content)
  | .wallet certificate (.paid _ transfer _) => some (certificate.publicKey, transfer.content)
  | .wallet certificate (.fundingRequested request) =>
    some (certificate.publicKey, request.content)
  | .wallet certificate (.defunded defunding _) =>
    some (certificate.publicKey, defunding.content)
  | _ => none

@[simp] theorem issuerEvents_issuer (e : Issuer.Event) (history : List Event) :
    issuerEvents (.issuer e :: history) = e :: issuerEvents history := rfl

@[simp] theorem issuerEvents_installed (certificate : DeviceCertificate) (history : List Event) :
    issuerEvents (.installed certificate :: history) = issuerEvents history := rfl

@[simp] theorem issuerEvents_wallet (certificate : DeviceCertificate) (e : Wallet.Event)
    (history : List Event) :
    issuerEvents (.wallet certificate e :: history) = issuerEvents history := rfl

@[simp] theorem localEvents_issuer (device : DeviceId) (e : Issuer.Event)
    (history : List Event) :
    localEvents device (.issuer e :: history) = localEvents device history := rfl

@[simp] theorem localEvents_installed (device : DeviceId) (certificate : DeviceCertificate)
    (history : List Event) :
    localEvents device (.installed certificate :: history) = localEvents device history := rfl

/-- An event of a device is one of its own. -/
theorem localEvents_wallet {device : DeviceId} {certificate : DeviceCertificate}
    (h : certificate.device = device) (e : Wallet.Event) (history : List Event) :
    localEvents device (.wallet certificate e :: history) = e :: localEvents device history := by
  simp [localEvents, Event.ofDevice, h]

/-- It is not one of another device. -/
theorem localEvents_wallet_ne {device : DeviceId} {certificate : DeviceCertificate}
    (h : certificate.device ≠ device) (e : Wallet.Event) (history : List Event) :
    localEvents device (.wallet certificate e :: history) = localEvents device history := by
  simp [localEvents, Event.ofDevice, h]

/-- What an element did is in the history of its device. -/
theorem mem_localEvents {certificate : DeviceCertificate} {e : Wallet.Event}
    {history : List Event} (h : .wallet certificate e ∈ history) :
    e ∈ localEvents certificate.device history :=
  List.mem_filterMap.mpr ⟨_, h, if_pos rfl⟩

/-- What is in the history of a device was done under a certificate for it. -/
theorem exists_of_mem_localEvents {device : DeviceId} {e : Wallet.Event} {history : List Event}
    (h : e ∈ localEvents device history) :
    ∃ certificate, certificate.device = device ∧ .wallet certificate e ∈ history := by
  obtain ⟨e', hMem, hEvent⟩ := List.mem_filterMap.mp h
  cases e' with
  | wallet certificate event =>
    by_cases hDevice : certificate.device = device
    · simp only [Event.ofDevice, hDevice, if_true, Option.some.injEq] at hEvent
      subst hEvent
      exact ⟨certificate, hDevice, hMem⟩
    · simp only [Event.ofDevice, hDevice, if_false] at hEvent
      exact absurd hEvent (Option.some_ne_none e).symm
  | issuer | installed => exact absurd hEvent (Option.some_ne_none e).symm

/-- The issuer's own history has its events and no others. -/
theorem mem_issuerEvents {e : Issuer.Event} {history : List Event} :
    e ∈ issuerEvents history ↔ .issuer e ∈ history := by
  constructor
  · intro h
    obtain ⟨e', hMem, hEvent⟩ := List.mem_filterMap.mp h
    cases e' with
    | issuer event =>
      obtain rfl := Option.some.inj hEvent
      exact hMem
    | installed | wallet => exact absurd hEvent (Option.some_ne_none e).symm
  · intro h
    exact List.mem_filterMap.mpr ⟨_, h, rfl⟩

-- ---------------------------------------------------------------------------
-- Assumptions
-- ---------------------------------------------------------------------------

/-- A signature and what it is checked against. -/
structure Presented where
  key : PublicKey
  content : Content
  signature : ℕ

/-- What the party that is given the message finds. -/
def Presented.verifies [Sha256] (p : Presented) : Bool :=
  p.key.verify p.content.digest p.signature

/-- The signatures an operation has checked. -/
def Op.presented (s : System R) : Op R G → List Presented
  | .issuer (.fund request) =>
    (s.issuer.devices.lookup request.device).toList.map fun record =>
      ⟨record.publicKey, request.content, request.signature⟩
  | .issuer (.defund defunding) =>
    (s.issuer.devices.lookup defunding.device).toList.map fun record =>
      ⟨record.publicKey, defunding.content, defunding.signature⟩
  | .install certificate _ _ =>
    [⟨s.issuer.publicKey, certificate.content, certificate.signature⟩]
  | .wallet _ (.receive transfer) =>
    [⟨s.issuer.publicKey, transfer.payer.content, transfer.payer.signature⟩,
      ⟨transfer.payer.publicKey, transfer.content, transfer.signature⟩]
  | .wallet _ (.pay request) =>
    [⟨s.issuer.publicKey, request.payee.content, request.payee.signature⟩]
  | .wallet _ (.applyFunding funding) =>
    [⟨s.issuer.publicKey, funding.content, funding.signature⟩]
  | _ => []

/-- A funding request is checked under the key on record. -/
theorem presented_fund {s : System R} {request : FundingRequest} {record : DeviceRecord}
    (h : s.issuer.devices.lookup request.device = some record) :
    Op.presented s (.issuer (.fund request) : Op R G) =
      [⟨record.publicKey, request.content, request.signature⟩] := by
  rw [Op.presented, h]
  rfl

/-- And so is a defunding. -/
theorem presented_defund {s : System R} {defunding : Defunding} {record : DeviceRecord}
    (h : s.issuer.devices.lookup defunding.device = some record) :
    Op.presented s (.issuer (.defund defunding) : Op R G) =
      [⟨record.publicKey, defunding.content, defunding.signature⟩] := by
  rw [Op.presented, h]
  rfl

/-- The issuer certified this key for this device. -/
def Certified (history : List Event) (device : DeviceId) (key : PublicKey) : Prop :=
  ∃ account certificate, .issuer (.certified account certificate) ∈ history ∧
    certificate.device = device ∧ certificate.publicKey = key

/-- The keys nobody else can sign with: the issuer's and those of its devices. -/
def Honest (history : List Event) (s : System R) (key : PublicKey) : Prop :=
  key = s.issuer.publicKey ∨ ∃ device, Certified history device key

/-- What verifies under an honest key is a byte string that was signed with it. -/
def Unforged [Sha256] (history : List Event) (s : System R) (op : Op R G) : Prop :=
  ∀ p ∈ op.presented s, Honest history s p.key → p.verifies = true →
    ∃ e ∈ history, ∃ content, e.signing s.issuer.publicKey = some (p.key, content) ∧
      content.preimage = p.content.preimage

/-- Device ids do not repeat, a device id has one element, and elements generate
their keys. -/
structure Enrolment [Rng G] (s : System R) (op : Op R G) : Prop where
  freshDevice : ∀ account publicKey limit rng,
    op = .issuer (.certifyDevice account publicKey limit rng) →
    s.issuer.devices.lookup ⟨(Rng.gen rng).1⟩ = none
  oneWallet : ∀ certificate keypair rng, op = .install certificate keypair rng →
    s.wallets.lookup certificate.device = none
  generated : ∀ certificate keypair rng, op = .install certificate keypair rng →
    keypair.Generated

/-- The runs of the system in which signatures cannot be forged. -/
structure Environment [Sha256] [Rng G] (history : List Event) (s : System R) (op : Op R G) :
    Prop where
  enrolment : Enrolment s op
  unforged : Unforged history s op

variable [Sha256] [Rng R] [Rng G]

variable (R G) in
/-- The states reached when enrolment is orderly, whatever is signed by whom. -/
abbrev Enrolled (keypair : Keypair) : List Event → System R → Prop :=
  Machine.Reaches (exec (G := G)) (fun _ s op => Enrolment s op) (start keypair)

variable (R G) in
/-- The states reached when signatures cannot be forged either. -/
abbrev Reachable (keypair : Keypair) : List Event → System R → Prop :=
  Machine.Reaches (exec (G := G)) Environment (start keypair)

omit [Rng R] [Rng G] in
/-- **What verifies was signed**, with exactly these fields. -/
theorem Unforged.signed {history : List Event} {s : System R} {op : Op R G}
    (h : Unforged history s op) {p : Presented} (hp : p ∈ op.presented s)
    (hHonest : Honest history s p.key) (hVerifies : p.verifies = true) :
    ∃ e ∈ history, e.signing s.issuer.publicKey = some (p.key, p.content) := by
  obtain ⟨e, hMem, content, hSigning, hPreimage⟩ := h p hp hHonest hVerifies
  rw [Content.preimage_injective hPreimage] at hSigning
  exact ⟨e, hMem, hSigning⟩

-- ---------------------------------------------------------------------------
-- Steps
-- ---------------------------------------------------------------------------

/-- The operations that are not refused. -/
inductive Step (s : System R) : Op R G → Event → System R → Prop
  | issuer {op : Issuer.Op G} {e : Issuer.Event} {issuer' : Issuer}
      (hStep : Issuer.Step s.issuer op e issuer') :
      Step s (.issuer op) (.issuer e) { s with issuer := issuer' }
  | install (certificate : DeviceCertificate) (keypair : Keypair) (rng : R)
      (hVerify : certificate.verify s.issuer.publicKey = true)
      (hKey : certificate.publicKey = keypair.publicKey) :
      Step s (.install certificate keypair rng) (.installed certificate)
        { s with
          wallets := s.wallets.insert certificate.device
            (.fresh certificate keypair s.issuer.publicKey rng) }
  | wallet {device : DeviceId} {w w' : Wallet R} {op : Wallet.Op} {e : Wallet.Event}
      (hWallet : s.wallets.lookup device = some w) (hStep : Wallet.Step w op e w') :
      Step s (.wallet device op) (.wallet w.certificate e)
        { s with wallets := s.wallets.insert device w' }

/-- **Refused or a step**: a refused operation leaves the system exactly as it was. -/
theorem covers : Machine.Covers (exec (R := R) (G := G)) Step := by
  intro s op
  cases op with
  | issuer op =>
    rcases s.issuer.exec_cases op with hEq | ⟨e, issuer', hEq, hStep⟩
    · left
      simp only [exec, hEq, Option.map_none]
    · right
      refine ⟨.issuer e, _, ?_, .issuer hStep⟩
      simp only [exec, hEq, Option.map_some]
  | install certificate keypair rng =>
    cases hNew : Wallet.new certificate keypair s.issuer.publicKey rng with
    | error error => left; simp only [exec, hNew]
    | ok w =>
      obtain ⟨hVerify, hKey, hEq⟩ := Wallet.new_eq_ok.mp hNew
      right
      refine ⟨.installed certificate, _, ?_, .install certificate keypair rng hVerify hKey⟩
      simp only [exec, hNew, hEq]
      rfl
  | wallet device op =>
    cases hWallet : s.wallets.lookup device with
    | none => left; simp only [exec, hWallet]
    | some w =>
      rcases w.exec_cases op with hEq | ⟨e, w', hEq, hStep⟩
      · left
        simp only [exec, hWallet, hEq, Option.map_none, Finmap.insert_of_lookup hWallet]
      · right
        refine ⟨.wallet w.certificate e, _, ?_, .wallet hWallet hStep⟩
        simp only [exec, hWallet, hEq, Option.map_some]

/-- **The step relation is sound.** A step is what the operation does. -/
theorem Step.exec_eq {s s' : System R} {op : Op R G} {e : Event} (h : Step s op e s') :
    s.exec op = (some e, s') := by
  cases h with
  | issuer hStep => simp only [exec, hStep.exec_eq, Option.map_some]
  | install certificate keypair rng hVerify hKey =>
    simp only [exec, Wallet.new_eq_ok.mpr ⟨hVerify, hKey, rfl⟩]
    rfl
  | wallet hWallet hStep => simp only [exec, hWallet, hStep.exec_eq, Option.map_some]

end System

end DigitalEuro
