import DigitalEuro.Model.Error
import DigitalEuro.Model.Signature

/-!
# Digital euro — certificates and messages (`certificate.rs`, `message.rs`)

```text
  offline payment                      funding / defunding (online)
  payee ──PaymentRequest──► payer      device ──FundingRequest──► issuer
  payee ◄────Transfer────── payer      device ◄─────Funding────── issuer
                                       device ──────Defunding───► issuer
```

Everything but a `PaymentRequest` is signed. `Content` lists what a signature
can cover: the kind of the message and the fields its digest hashes.
-/

namespace DigitalEuro

/-- The Eurosystem's statement that a key belongs to a genuine element, and what
that element may hold. The owning account is deliberately left out. -/
structure DeviceCertificate where
  device : DeviceId
  publicKey : PublicKey
  holdingLimitCents : UInt64
  signature : ℕ
deriving DecidableEq

/-- Payee → payer. Not signed: it carries the payee's certificate instead. -/
structure PaymentRequest where
  payee : DeviceCertificate
  amountCents : UInt64
  nonce : Nonce
deriving DecidableEq

/-- Payer → payee. The payer's element has already debited itself. -/
structure Transfer where
  payer : DeviceCertificate
  payee : DeviceId
  amountCents : UInt64
  nonce : Nonce
  counter : UInt64
  signature : ℕ
deriving DecidableEq

/-- Device → issuer: "move this much from my account onto me". -/
structure FundingRequest where
  device : DeviceId
  amountCents : UInt64
  nonce : Nonce
  signature : ℕ
deriving DecidableEq

/-- Issuer → device: the account has been debited; credit the element. -/
structure Funding where
  device : DeviceId
  amountCents : UInt64
  nonce : Nonce
  signature : ℕ
deriving DecidableEq

/-- Device → issuer: the element has debited itself; credit the account. -/
structure Defunding where
  device : DeviceId
  amountCents : UInt64
  counter : UInt64
  signature : ℕ
deriving DecidableEq

-- ---------------------------------------------------------------------------
-- Digests
-- ---------------------------------------------------------------------------

section Digests

variable [Sha256]

def DeviceCertificate.digest (certificate : DeviceCertificate) : Digest :=
  tagged "euro/device-certificate"
    [certificate.device.bytes.toList,
      Bytes.natBytes certificate.publicKey.n,
      Bytes.natBytes certificate.publicKey.e,
      u64Bytes certificate.holdingLimitCents]

def DeviceCertificate.verify (certificate : DeviceCertificate) (issuer : PublicKey) : Bool :=
  issuer.verify certificate.digest certificate.signature

/-- The certificate an issuer with this key signs. -/
def Keypair.certify (issuer : Keypair) (device : DeviceId) (publicKey : PublicKey)
    (holdingLimitCents : UInt64) : DeviceCertificate :=
  let certificate : DeviceCertificate := { device, publicKey, holdingLimitCents, signature := 0 }
  { certificate with signature := issuer.sign certificate.digest }

def Transfer.digest (transfer : Transfer) : Digest :=
  tagged "euro/transfer"
    [transfer.payer.device.bytes.toList,
      transfer.payee.bytes.toList,
      u64Bytes transfer.amountCents,
      transfer.nonce.toList,
      u64Bytes transfer.counter]

def FundingRequest.digest (request : FundingRequest) : Digest :=
  tagged "euro/funding-request"
    [request.device.bytes.toList, u64Bytes request.amountCents, request.nonce.toList]

def Funding.digest (funding : Funding) : Digest :=
  tagged "euro/funding"
    [funding.device.bytes.toList, u64Bytes funding.amountCents, funding.nonce.toList]

def Defunding.digest (defunding : Defunding) : Digest :=
  tagged "euro/defunding"
    [defunding.device.bytes.toList, u64Bytes defunding.amountCents, u64Bytes defunding.counter]

end Digests

-- ---------------------------------------------------------------------------
-- Signed contents
-- ---------------------------------------------------------------------------

/-- What a signature covers: the kind of message and its signed fields. -/
inductive Content where
  | certificate (device : DeviceId) (publicKey : PublicKey) (holdingLimitCents : UInt64)
  | transfer (payer payee : DeviceId) (amountCents : UInt64) (nonce : Nonce) (counter : UInt64)
  | fundingRequest (device : DeviceId) (amountCents : UInt64) (nonce : Nonce)
  | funding (device : DeviceId) (amountCents : UInt64) (nonce : Nonce)
  | defunding (device : DeviceId) (amountCents counter : UInt64)
deriving DecidableEq

def DeviceCertificate.content (certificate : DeviceCertificate) : Content :=
  .certificate certificate.device certificate.publicKey certificate.holdingLimitCents

def Transfer.content (transfer : Transfer) : Content :=
  .transfer transfer.payer.device transfer.payee transfer.amountCents transfer.nonce
    transfer.counter

def FundingRequest.content (request : FundingRequest) : Content :=
  .fundingRequest request.device request.amountCents request.nonce

def Funding.content (funding : Funding) : Content :=
  .funding funding.device funding.amountCents funding.nonce

def Defunding.content (defunding : Defunding) : Content :=
  .defunding defunding.device defunding.amountCents defunding.counter

/-- The tag of a kind of message. -/
def Content.tag : Content → String
  | .certificate .. => "euro/device-certificate"
  | .transfer .. => "euro/transfer"
  | .fundingRequest .. => "euro/funding-request"
  | .funding .. => "euro/funding"
  | .defunding .. => "euro/defunding"

/-- The parts that are hashed, in their order. -/
def Content.parts : Content → List (List UInt8)
  | .certificate device publicKey limit =>
    [device.bytes.toList, Bytes.natBytes publicKey.n, Bytes.natBytes publicKey.e, u64Bytes limit]
  | .transfer payer payee amount nonce counter =>
    [payer.bytes.toList, payee.bytes.toList, u64Bytes amount, nonce.toList, u64Bytes counter]
  | .fundingRequest device amount nonce => [device.bytes.toList, u64Bytes amount, nonce.toList]
  | .funding device amount nonce => [device.bytes.toList, u64Bytes amount, nonce.toList]
  | .defunding device amount counter =>
    [device.bytes.toList, u64Bytes amount, u64Bytes counter]

/-- The byte string that is hashed for a content. -/
def Content.preimage (content : Content) : List UInt8 :=
  tagged.preimage content.tag content.parts

def Content.digest [Sha256] (content : Content) : Digest :=
  Sha256.sha256 content.preimage

/-- The amount a content moves; nothing for certificates and requests. -/
def Content.value : Content → ℕ
  | .transfer _ _ amount _ _ => amount.toNat
  | .funding _ amount _ => amount.toNat
  | .defunding _ amount _ => amount.toNat
  | _ => 0

section Digests

variable [Sha256]

theorem DeviceCertificate.digest_eq (certificate : DeviceCertificate) :
    certificate.digest = certificate.content.digest := rfl

theorem Keypair.Generated.verify_certify {issuer : Keypair} (h : issuer.Generated)
    (device : DeviceId) (publicKey : PublicKey) (limit : UInt64) :
    (issuer.certify device publicKey limit).verify issuer.publicKey = true :=
  h.verify_sign _

theorem Transfer.digest_eq (transfer : Transfer) :
    transfer.digest = transfer.content.digest := rfl

theorem FundingRequest.digest_eq (request : FundingRequest) :
    request.digest = request.content.digest := rfl

theorem Funding.digest_eq (funding : Funding) : funding.digest = funding.content.digest := rfl

theorem Defunding.digest_eq (defunding : Defunding) :
    defunding.digest = defunding.content.digest := rfl

end Digests

-- ---------------------------------------------------------------------------
-- The encoding is injective
-- ---------------------------------------------------------------------------

theorem Content.tag_size (content : Content) : content.tag.utf8ByteSize < 2 ^ 32 := by
  cases content <;> simp only [Content.tag] <;> decide

theorem Content.parts_size (content : Content) :
    ∀ part ∈ content.parts, part.length < 2 ^ 64 := by
  cases content with
  | certificate device publicKey limit =>
    simp [Content.parts]
    exact ⟨publicKey.nFits, publicKey.eFits⟩
  | transfer | fundingRequest | funding | defunding => simp [Content.parts]

theorem PublicKey.ext_of_bytes {key key' : PublicKey}
    (hn : Bytes.natBytes key.n = Bytes.natBytes key'.n)
    (he : Bytes.natBytes key.e = Bytes.natBytes key'.e) : key = key' := by
  cases key
  cases key'
  simp only [PublicKey.mk.injEq]
  exact ⟨Bytes.natBytes_injective hn, Bytes.natBytes_injective he⟩

theorem DeviceId.ext_of_bytes {device device' : DeviceId}
    (h : device.bytes.toList = device'.bytes.toList) : device = device' := by
  cases device
  cases device'
  rw [DeviceId.mk.injEq]
  exact Vector.toList_inj.mp h

/-- **What is hashed determines what is signed.** -/
theorem Content.preimage_injective : Function.Injective Content.preimage := by
  intro m m' h
  obtain ⟨hTag, hParts⟩ :=
    tagged.preimage_inj m.tag_size m'.tag_size m.parts_size m'.parts_size h
  -- the tag fixes the kind, the parts then fix every field
  cases m <;> cases m' <;> simp only [Content.tag, String.reduceEq] at hTag <;>
    simp only [Content.parts, List.cons.injEq, and_true] at hParts
  case certificate.certificate device key limit device' key' limit' =>
    obtain ⟨hDevice, hn, he, hLimit⟩ := hParts
    rw [DeviceId.ext_of_bytes hDevice, PublicKey.ext_of_bytes hn he, u64Bytes_injective hLimit]
  case transfer.transfer =>
    obtain ⟨hPayer, hPayee, hAmount, hNonce, hCounter⟩ := hParts
    rw [DeviceId.ext_of_bytes hPayer, DeviceId.ext_of_bytes hPayee, u64Bytes_injective hAmount,
      Vector.toList_inj.mp hNonce, u64Bytes_injective hCounter]
  case fundingRequest.fundingRequest =>
    obtain ⟨hDevice, hAmount, hNonce⟩ := hParts
    rw [DeviceId.ext_of_bytes hDevice, u64Bytes_injective hAmount, Vector.toList_inj.mp hNonce]
  case funding.funding =>
    obtain ⟨hDevice, hAmount, hNonce⟩ := hParts
    rw [DeviceId.ext_of_bytes hDevice, u64Bytes_injective hAmount, Vector.toList_inj.mp hNonce]
  case defunding.defunding =>
    obtain ⟨hDevice, hAmount, hCounter⟩ := hParts
    rw [DeviceId.ext_of_bytes hDevice, u64Bytes_injective hAmount, u64Bytes_injective hCounter]

-- ---------------------------------------------------------------------------
-- Domain separation
-- ---------------------------------------------------------------------------

/-- A value that is hashed to be signed. -/
inductive Message where
  | certificate (certificate : DeviceCertificate)
  | transfer (transfer : Transfer)
  | fundingRequest (request : FundingRequest)
  | funding (funding : Funding)
  | defunding (defunding : Defunding)

def Message.digest [Sha256] : Message → Digest
  | .certificate cert => cert.digest
  | .transfer t => t.digest
  | .fundingRequest q => q.digest
  | .funding f => f.digest
  | .defunding d => d.digest

def Message.content : Message → Content
  | .certificate cert => cert.content
  | .transfer t => t.content
  | .fundingRequest q => q.content
  | .funding f => f.content
  | .defunding d => d.content

theorem Message.digest_eq [Sha256] (message : Message) :
    message.digest = Sha256.sha256 message.content.preimage := by
  cases message <;> rfl

/-- No signed message is hashed as a block of the full-domain hash. -/
theorem Content.preimage_ne_fdh (content : Content) (digest : Digest) (counter : UInt32) :
    content.preimage ≠ tagged.preimage "euro/fdh" (fdhParts digest counter) := by
  intro h
  have hParts : ∀ part ∈ fdhParts digest counter, part.length < 2 ^ 64 := by
    simp [fdhParts]
  obtain ⟨hTag, -⟩ :=
    tagged.preimage_inj content.tag_size (by decide) content.parts_size hParts h
  cases content <;> simp only [Content.tag, String.reduceEq] at hTag

/-- **Signed encodings are injective and domain-separated.** What `tagged` feeds to
SHA-256 determines the tag and the list of parts; so what is hashed for a message
determines its kind and every signed field, and is never a block of the
full-domain hash. -/
theorem Message.encoding_injective :
    (∀ (tag tag' : String) (parts parts' : List (List UInt8)),
        tag.utf8ByteSize < 2 ^ 32 → tag'.utf8ByteSize < 2 ^ 32 →
        (∀ part ∈ parts, part.length < 2 ^ 64) → (∀ part ∈ parts', part.length < 2 ^ 64) →
        tagged.preimage tag parts = tagged.preimage tag' parts' → tag = tag' ∧ parts = parts') ∧
      (∀ (sha : Sha256) (message : Message),
        message.digest = sha.sha256 message.content.preimage) ∧
      (∀ message message' : Message,
        message.content.preimage = message'.content.preimage →
          message.content = message'.content) ∧
      ∀ (message : Message) (digest : Digest) (counter : UInt32),
        message.content.preimage ≠ tagged.preimage "euro/fdh" (fdhParts digest counter) := by
  refine ⟨?_, ?_, ?_, ?_⟩
  · intro tag tag' parts parts' hTag hTag' hParts hParts' h
    exact tagged.preimage_inj hTag hTag' hParts hParts' h
  · intro sha message
    exact message.digest_eq
  · intro message message' h
    exact Content.preimage_injective h
  · intro message digest counter
    exact message.content.preimage_ne_fdh digest counter

/-- Moving a byte from the tag to the part, or a part boundary, changes what is
hashed. -/
theorem Message.encoding_injective_sample :
    tagged.preimage "ab" [[1, 2]] ≠ tagged.preimage "a" [[98, 1, 2]] ∧
      tagged.preimage "ab" [[1, 2]] ≠ tagged.preimage "ab" [[1], [2]] := by
  constructor
  · intro h
    have hTag := (Message.encoding_injective.1 _ _ _ _ (by decide) (by decide) (by decide)
      (by decide) h).1
    exact absurd hTag (by decide)
  · intro h
    have hParts := (Message.encoding_injective.1 _ _ _ _ (by decide) (by decide) (by decide)
      (by decide) h).2
    exact absurd hParts (by decide)

-- ---------------------------------------------------------------------------
-- Devices to run
-- ---------------------------------------------------------------------------

/-- The limit of the test-suite, 500 €. -/
def sampleLimit : UInt64 := 50000

/-- The device id the issuer draws from a counting generator. -/
def sampleDevice (n : ℕ) : DeviceId := ⟨(Rng.gen (⟨n⟩ : CountingRng)).1⟩

/-- A certificate of the sample issuer. -/
def sampleCertificate [Sha256] (keys : Keypair) (n : ℕ) : DeviceCertificate :=
  issuerKeys.certify (sampleDevice n) keys.publicKey sampleLimit

/-- The first nonce a counting generator draws. -/
def sampleNonce : Nonce := (Rng.gen (⟨0⟩ : CountingRng)).1

/-- The first device asks for 10 €. -/
def sampleFundingRequest [Sha256] : FundingRequest :=
  let request : FundingRequest :=
    { device := sampleDevice 1, amountCents := 1000, nonce := sampleNonce, signature := 0 }
  { request with signature := aliceKeys.sign request.digest }

theorem sampleFundingRequest_verifies [Sha256] : aliceKeys.publicKey.verify
    sampleFundingRequest.digest sampleFundingRequest.signature = true :=
  aliceKeys_generated.verify_sign _

/-- The issuer's answer. -/
def sampleFunding [Sha256] : Funding :=
  let funding : Funding :=
    { device := sampleDevice 1, amountCents := 1000, nonce := sampleNonce, signature := 0 }
  { funding with signature := issuerKeys.sign funding.digest }

/-- The second device asks for 3 €. -/
def sampleRequest [Sha256] : PaymentRequest where
  payee := sampleCertificate bakeryKeys 2
  amountCents := 300
  nonce := sampleNonce

/-- The first device's payment. -/
def sampleTransfer [Sha256] : Transfer :=
  let transfer : Transfer :=
    { payer := sampleCertificate aliceKeys 1, payee := sampleDevice 2, amountCents := 300
      nonce := sampleNonce, counter := 1, signature := 0 }
  { transfer with signature := aliceKeys.sign transfer.digest }

theorem sampleTransfer_verifies [Sha256] : aliceKeys.publicKey.verify
    sampleTransfer.digest sampleTransfer.signature = true :=
  aliceKeys_generated.verify_sign _

end DigitalEuro
