import DigitalEuro.Model.FullDomainHash
import DigitalEuro.Model.Runs

/-!
# Digital euro — what a signature is bound to

A key verifies the full-domain hash of a digest of a message. `Unforged` speaks of
messages; an attacker who cannot sign may still try to find a second message for a
signature that was issued. Under a key of whole bytes this takes a collision of SHA-256,
of the two messages or of two blocks of the full-domain hash.

* `second_block_eq` — the full-domain hash shows a whole block of 32 bytes;
* `signature_binds` — one signature for two contents is a collision at a known pair;
* `reachable_of_guarded` — so it is enough that signatures come from those who can sign.
-/

namespace DigitalEuro

/-- Two byte strings that SHA-256 does not tell apart. -/
def Collision [Sha256] (message message' : List UInt8) : Prop :=
  message ≠ message' ∧ Sha256.sha256 message = Sha256.sha256 message'

/-- The byte string that is hashed for a block of the full-domain hash. -/
def fdhPreimage (digest : Digest) (counter : UInt32) : List UInt8 :=
  tagged.preimage "euro/fdh" (fdhParts digest counter)

theorem fdhPreimage_injective (counter : UInt32) :
    Function.Injective fun digest => fdhPreimage digest counter := by
  intro digest digest' h
  have hSize : ∀ digest : Digest, ∀ part ∈ fdhParts digest counter, part.length < 2 ^ 64 := by
    simp [fdhParts]
  obtain ⟨-, hParts⟩ :=
    tagged.preimage_inj (by decide) (by decide) (hSize digest) (hSize digest') h
  exact Vector.toList_inj.mp (List.cons.inj hParts).1

/-- The sizes for which the full-domain hash is not reduced, and has two blocks. -/
structure PublicKey.WholeBytes (key : PublicKey) : Prop where
  wide : 512 ≤ bits key.n
  whole : 8 ∣ bits key.n

-- ---------------------------------------------------------------------------
-- The second block
-- ---------------------------------------------------------------------------

section Blocks

variable [Sha256]

/-- The loop only appends. -/
theorem prefix_expandLoop (digest : Digest) (width : ℕ) :
    ∀ (fuel : ℕ) (counter : UInt32) (expanded : List UInt8),
      expanded <+: expandLoop digest width fuel counter expanded := by
  intro fuel
  induction fuel with
  | zero => exact fun _ expanded => List.prefix_rfl
  | succ fuel ih =>
    intro counter expanded
    rw [expandLoop]
    split
    · exact (List.prefix_append _ _).trans (ih _ _)
    · exact List.prefix_rfl

/-- The second block of an expansion. -/
theorem expandLoop_second (digest : Digest) {width : ℕ} (hWide : 64 ≤ width) :
    ((expandLoop digest width width 0 []).drop 32).take 32 =
      (Sha256.sha256 (fdhPreimage digest 1)).toList := by
  obtain ⟨fuel, rfl⟩ := Nat.exists_eq_add_of_le' (show 2 ≤ width by omega)
  have hFirst : (tagged "euro/fdh" (fdhParts digest 0)).toList.length = 32 := Vector.length_toList
  have hSecond : (tagged "euro/fdh" (fdhParts digest (0 + 1))).toList.length = 32 :=
    Vector.length_toList
  rw [expandLoop, if_pos (by rw [List.length_nil]; omega), expandLoop,
    if_pos (by rw [List.length_append, List.length_nil, hFirst]; omega), List.nil_append]
  obtain ⟨rest, hRest⟩ := prefix_expandLoop digest (fuel + 2) fuel (0 + 1 + 1)
    ((tagged "euro/fdh" (fdhParts digest 0)).toList ++
      (tagged "euro/fdh" (fdhParts digest (0 + 1))).toList)
  rw [← hRest, List.append_assoc, List.drop_left' hFirst, List.take_left' hSecond]
  rfl

omit [Sha256] in
theorem drop_maskTop (bytes : List UInt8) (n : ℕ) :
    (maskTop bytes).drop (n + 1) = bytes.drop (n + 1) := by
  cases bytes <;> rfl

omit [Sha256] in
theorem maskTop_length (bytes : List UInt8) : (maskTop bytes).length = bytes.length := by
  cases bytes <;> rfl

omit [Sha256] in
theorem PublicKey.WholeBytes.width {key : PublicKey} (h : key.WholeBytes) :
    bits key.n = 8 * key.modulusBytes := by
  obtain ⟨k, hk⟩ := h.whole
  unfold PublicKey.modulusBytes
  omega

/-- Nothing is reduced. -/
theorem PublicKey.WholeBytes.fullDomainHash_eq {key : PublicKey} (h : key.WholeBytes)
    (digest : Digest) : key.fullDomainHash digest = key.expandedHash digest := by
  have hWide := h.wide
  have hWidth := h.width
  have hLow : 2 ^ (bits key.n - 1) ≤ key.n := two_pow_le_of_bits (by omega)
  have hNonzero : key.n ≠ 0 := by
    have hPos := Nat.two_pow_pos (bits key.n - 1)
    omega
  have hBound := PublicKey.expandedHash_lt hNonzero digest
  have hFits : 2 ^ (8 * key.modulusBytes - 2) ≤ 2 ^ (bits key.n - 1) :=
    Nat.pow_le_pow_right (by norm_num) (by omega)
  rw [PublicKey.fullDomainHash_eq, Nat.mod_eq_of_lt (by omega)]

/-- **The full-domain hash shows its second block**, which is neither masked nor cut. -/
theorem second_block_eq {key : PublicKey} (h : key.WholeBytes) {digest digest' : Digest}
    (hSame : key.fullDomainHash digest = key.fullDomainHash digest') :
    Sha256.sha256 (fdhPreimage digest 1) = Sha256.sha256 (fdhPreimage digest' 1) := by
  have hWide := h.wide
  have hWidth := h.width
  rw [h.fullDomainHash_eq, h.fullDomainHash_eq] at hSame
  unfold PublicKey.expandedHash at hSame
  dsimp only at hSame
  have hLength : ∀ digest : Digest,
      ((expandLoop digest key.modulusBytes key.modulusBytes 0 []).take
        key.modulusBytes).length = key.modulusBytes := fun digest => by
    rw [List.length_take, Nat.min_eq_left (le_expandLoop_length _ _ _ _ _ (Nat.le_add_right ..))]
  have hBytes := Bytes.ofBytes_inj (by rw [maskTop_length, maskTop_length, hLength, hLength]) hSame
  have hDrop := congrArg (fun bytes => (bytes.drop 32).take 32) hBytes
  simp only [drop_maskTop, List.drop_take, List.take_take] at hDrop
  rw [Nat.min_eq_left (by omega), expandLoop_second digest (by omega),
    expandLoop_second digest' (by omega)] at hDrop
  exact Vector.toList_inj.mp hDrop

/-- **A signature is bound to its content.** Two contents that one signature verifies
for are the same, or SHA-256 has a collision: of what is hashed for them, or of the
second blocks of their full-domain hashes. -/
theorem signature_binds {key : PublicKey} (hKey : key.WholeBytes) {content content' : Content}
    {signature : ℕ} (h : key.verify content.digest signature = true)
    (h' : key.verify content'.digest signature = true) :
    content = content' ∨ Collision content.preimage content'.preimage ∨
      Collision (fdhPreimage content.digest 1) (fdhPreimage content'.digest 1) := by
  have hHash := (PublicKey.verify_eq_true_iff.mp h).2.symm.trans
    (PublicKey.verify_eq_true_iff.mp h').2
  by_cases hContent : content = content'
  · exact .inl hContent
  by_cases hDigest : content.digest = content'.digest
  · exact .inr (.inl ⟨fun hSame => hContent (Content.preimage_injective hSame), hDigest⟩)
  · refine .inr (.inr ⟨fun hSame => hDigest (fdhPreimage_injective 1 hSame), ?_⟩)
    exact second_block_eq hKey hHash

end Blocks

theorem aliceKeys_wholeBytes : aliceKeys.publicKey.WholeBytes where
  wide := aliceKeys_generatedFrom.n_bits.ge
  whole := aliceKeys_generatedFrom.n_bits ▸ by decide

theorem issuerKeys_wholeBytes : issuerKeys.publicKey.WholeBytes where
  wide := issuerKeys_generatedFrom.n_bits.ge
  whole := issuerKeys_generatedFrom.n_bits ▸ by decide

/-- A hash that is the same for everything. -/
abbrev constantHash : Sha256 := ⟨fun _ => Vector.replicate 32 0⟩

/-- Where the hash tells nothing apart, a signature for 10 € is one for 20 €, and the two
contents are the collision. -/
theorem signature_binds_sample :
    let _ := constantHash
    let other := { sampleFundingRequest with amountCents := 2000 }
    sampleFundingRequest.content ≠ other.content ∧
      aliceKeys.publicKey.verify other.content.digest sampleFundingRequest.signature = true ∧
      (Collision sampleFundingRequest.content.preimage other.content.preimage ∨
        Collision (fdhPreimage sampleFundingRequest.content.digest 1)
          (fdhPreimage other.content.digest 1)) := by
  intro _ other
  have hOther : sampleFundingRequest.content ≠ other.content := fun hSame =>
    absurd (Content.fundingRequest.inj hSame).2.1 (by decide)
  have hDigest (content content' : Content) : content.digest = content'.digest := rfl
  have hVerifies : aliceKeys.publicKey.verify sampleFundingRequest.content.digest
      sampleFundingRequest.signature = true := by
    rw [← FundingRequest.digest_eq]
    exact sampleFundingRequest_verifies
  have hAgain : aliceKeys.publicKey.verify other.content.digest
      sampleFundingRequest.signature = true := by
    rw [hDigest other.content sampleFundingRequest.content]
    exact hVerifies
  exact ⟨hOther, hAgain,
    (signature_binds aliceKeys_wholeBytes hVerifies hAgain).resolve_left hOther⟩

-- ---------------------------------------------------------------------------
-- What was put out
-- ---------------------------------------------------------------------------

namespace System

/-- The signature an event put out, with its key and its content. -/
def Event.output (issuerKey : PublicKey) : Event → Option Presented
  | .issuer (.certified _ certificate) =>
    some ⟨issuerKey, certificate.content, certificate.signature⟩
  | .issuer (.funded _ _ funding) => some ⟨issuerKey, funding.content, funding.signature⟩
  | .wallet certificate (.paid _ transfer _) =>
    some ⟨certificate.publicKey, transfer.content, transfer.signature⟩
  | .wallet certificate (.fundingRequested request) =>
    some ⟨certificate.publicKey, request.content, request.signature⟩
  | .wallet certificate (.defunded defunding _) =>
    some ⟨certificate.publicKey, defunding.content, defunding.signature⟩
  | _ => none

theorem signing_of_output {e : Event} {issuerKey : PublicKey} {p : Presented}
    (h : e.output issuerKey = some p) : e.signing issuerKey = some (p.key, p.content) := by
  unfold Event.output at h
  split at h <;> cases h <;> rfl

section Signers

variable [Sha256] {R G : Type} [Rng R] [Rng G] {keypair : Keypair} {history : List Event}
  {s : System R}

/-- **What was put out verifies**: the issuer and the elements sign with the keys of
their certificates. -/
theorem Enrolled.output_verifies (h : Enrolled R G keypair history s)
    (hIssuer : keypair.Generated) {e : Event} (hMem : e ∈ history) {p : Presented}
    (hOutput : e.output s.issuer.publicKey = some p) : p.verifies = true := by
  have hIssuerKey := h.publicKey_eq
  -- an element signs with the key its certificate names
  have hElement : ∀ {certificate : DeviceCertificate} {e' : Wallet.Event},
      .wallet certificate e' ∈ history → ∃ keypair' : Keypair, keypair'.Generated ∧
        keypair'.publicKey = certificate.publicKey ∧
          e'.Genuine certificate keypair' keypair.publicKey := by
    intro certificate e' hMem
    obtain ⟨w, hWallet, hCertificate, hGenuine⟩ := h.genuine hMem
    have hOf := h.wallet_of hWallet
    exact ⟨w.keypair, hOf.generated, by rw [← hOf.publicKey_eq, hCertificate], hGenuine⟩
  unfold Event.output at hOutput
  split at hOutput <;> cases hOutput
  case h_1 account certificate =>
    have hSignature := Issuer.certified_signature h.issuer_run (mem_issuerEvents.mpr hMem)
    rw [Presented.verifies, hIssuerKey, hSignature]
    exact hIssuer.verify_sign _
  case h_2 account request funding =>
    have hSignature := (Issuer.funded_content h.issuer_run (mem_issuerEvents.mpr hMem)).2
    rw [Presented.verifies, hIssuerKey, hSignature]
    exact hIssuer.verify_sign _
  case h_3 certificate request transfer state =>
    obtain ⟨keypair', hGenerated, hKey, -, -, -, -, -, hSignature⟩ := hElement hMem
    rw [Presented.verifies, ← hKey, hSignature]
    exact hGenerated.verify_sign _
  case h_4 certificate request =>
    obtain ⟨keypair', hGenerated, hKey, -, hSignature⟩ := hElement hMem
    rw [Presented.verifies, ← hKey, hSignature]
    exact hGenerated.verify_sign _
  case h_5 certificate defunding state =>
    obtain ⟨keypair', hGenerated, hKey, -, hSignature⟩ := hElement hMem
    rw [Presented.verifies, ← hKey, hSignature]
    exact hGenerated.verify_sign _

-- ---------------------------------------------------------------------------
-- Signatures that others cannot make
-- ---------------------------------------------------------------------------

omit [Rng R] [Rng G] in
/-- What verifies under an honest key is a number that was put out under this key, for
whatever content. -/
def OwnSignatures (history : List Event) (s : System R) (op : Op R G) : Prop :=
  ∀ p ∈ op.presented s, Honest history s p.key → p.verifies = true →
    ∃ e ∈ history, ∃ q, e.output s.issuer.publicKey = some q ∧ q.key = p.key ∧
      q.signature = p.signature

omit [Rng R] [Rng G] in
/-- Nothing that is presented collides with what was signed. -/
def CollisionFree (history : List Event) (s : System R) (op : Op R G) : Prop :=
  ∀ p ∈ op.presented s, ∀ e ∈ history, ∀ q, e.output s.issuer.publicKey = some q →
    ¬ Collision q.content.preimage p.content.preimage ∧
      ¬ Collision (fdhPreimage q.content.digest 1) (fdhPreimage p.content.digest 1)

/-- The runs in which the owner of a key alone makes signatures, and the messages that
are passed on do not collide with the signed ones. -/
structure Guarded (history : List Event) (s : System R) (op : Op R G) : Prop where
  enrolment : Enrolment s op
  wholeBytes : ∀ key, Honest history s key → key.WholeBytes
  ownSignatures : OwnSignatures history s op
  collisionFree : CollisionFree history s op

omit [Rng R] in
/-- An operation that checks no signature. -/
theorem Guarded.of_silent {op : Op R G} (hSilent : op.presented s = [])
    (hEnrolment : Enrolment s op) (hWhole : ∀ key, Honest history s key → key.WholeBytes) :
    Guarded history s op where
  enrolment := hEnrolment
  wholeBytes := hWhole
  ownSignatures := fun _ hp => absurd (hSilent ▸ hp) List.not_mem_nil
  collisionFree := fun _ hp => absurd (hSilent ▸ hp) List.not_mem_nil

/-- Under one key, a signature that was put out is for the content it was put out for. -/
theorem Guarded.unforged (hIssuer : keypair.Generated) {op : Op R G}
    (hReach : Enrolled R G keypair history s) (h : Guarded history s op) :
    Unforged history s op := by
  intro p hp hHonest hVerifies
  obtain ⟨e, hMem, q, hOutput, hKey, hSignature⟩ := h.ownSignatures p hp hHonest hVerifies
  have hBefore := hReach.output_verifies hIssuer hMem hOutput
  obtain ⟨hFree, hFreeBlock⟩ := h.collisionFree p hp e hMem q hOutput
  rw [Presented.verifies, hKey, hSignature] at hBefore
  have hSame : q.content = p.content :=
    (signature_binds (h.wholeBytes p.key hHonest) hBefore hVerifies).resolve_right
      (not_or.mpr ⟨hFree, hFreeBlock⟩)
  exact ⟨e, hMem, q.content, by rw [signing_of_output hOutput, hKey], by rw [hSame]⟩

/-- **Where nobody else signs, nothing is forged.** A run in which every accepted
signature was put out by the owner of its key, for some content, and no collision is
passed on, is a run in which signed messages cannot be forged: all that holds of the
reachable states holds in it. -/
theorem reachable_of_guarded (hIssuer : keypair.Generated)
    (h : Machine.Reaches (exec (R := R) (G := G)) Guarded (start keypair) history s) :
    Reachable R G keypair history s := by
  refine h.mono fun hReach hGuarded => ⟨hGuarded.enrolment, ?_⟩
  exact hGuarded.unforged hIssuer (hReach.mono fun _ hOlder => hOlder.enrolment)

end Signers

-- ---------------------------------------------------------------------------
-- One device
-- ---------------------------------------------------------------------------

section Sample

open scoped Fips

/-- Two keys of 64 bytes. -/
theorem sampleKeys_wholeBytes {history : List Event} {s : System CountingRng}
    (hIssuer : s.issuer.publicKey = issuerKeys.publicKey)
    (hAlice : ∀ account certificate, .issuer (.certified account certificate) ∈ history →
      certificate.publicKey = aliceKeys.publicKey) :
    ∀ key, Honest history s key → key.WholeBytes := by
  rintro key (rfl | ⟨device, account, certificate, hMem, -, rfl⟩)
  · rw [hIssuer]
    exact issuerKeys_wholeBytes
  · rw [hAlice account certificate hMem]
    exact aliceKeys_wholeBytes

/-- Alice's element is installed on the certificate that was signed for it, and asks for
10 €. -/
theorem reachable_of_guarded_sample :
    Reachable CountingRng CountingRng issuerKeys
      [.wallet (sampleCertificate aliceKeys 1) (.fundingRequested sampleFundingRequest),
        .installed (sampleCertificate aliceKeys 1),
        .issuer (.certified sampleAccount (sampleCertificate aliceKeys 1)),
        .issuer (.opened sampleAccount 5000)]
      { issuer := { Issuer.new issuerKeys with
          accounts := (∅ : Finmap _).insert sampleAccount 5000
          devices := (∅ : Finmap _).insert (sampleDevice 1)
            { account := sampleAccount, publicKey := aliceKeys.publicKey
              lastDefundingCounter := 0 } }
        wallets := ((∅ : Finmap _).insert (sampleDevice 1) (sampleWallet aliceKeys 1)).insert
          (sampleDevice 1) sampleAsked } := by
  refine reachable_of_guarded issuerKeys_generated ?_
  have hOpened : Machine.Reaches (exec (R := CountingRng) (G := CountingRng)) Guarded
      (start issuerKeys) _ _ :=
    Machine.Reaches.next (a := .issuer (.openAccount sampleAccount 5000)) .start
      (.of_silent rfl (enrolment_issuer [] fun _ _ _ _ hOp => absurd hOp (by simp))
        (sampleKeys_wholeBytes rfl fun _ _ hMem => absurd hMem (by simp)))
      (Step.issuer (Issuer.Step.openAccount sampleAccount 5000)).exec_eq
  have hCertified := hOpened.next
    (a := .issuer (.certifyDevice sampleAccount aliceKeys.publicKey sampleLimit ⟨1⟩))
    (.of_silent rfl
      (enrolment_issuer [] fun _ _ _ _ hOp => by
        obtain ⟨-, -, -, rfl⟩ := Issuer.Op.certifyDevice.inj hOp
        rfl)
      (sampleKeys_wholeBytes rfl fun _ _ hMem => absurd hMem (by simp)))
    (Step.issuer (Issuer.Step.certifyDevice sampleAccount aliceKeys.publicKey sampleLimit
      (⟨1⟩ : CountingRng) rfl)).exec_eq
  have hAlice : ∀ account certificate, Event.issuer (.certified account certificate) ∈
      [Event.issuer (.certified sampleAccount (sampleCertificate aliceKeys 1)),
        .issuer (.opened sampleAccount 5000)] →
      certificate.publicKey = aliceKeys.publicKey := by
    intro account certificate hMem
    rcases List.mem_cons.mp hMem with hEvent | hOpen
    · obtain ⟨-, rfl⟩ := Issuer.Event.certified.inj (Event.issuer.inj hEvent)
      rfl
    · exact absurd hOpen (by simp)
  have hInstalled := hCertified.next
    (a := .install (sampleCertificate aliceKeys 1) aliceKeys ⟨0⟩)
    { enrolment :=
        { freshDevice := fun _ _ _ _ hOp => absurd hOp (by simp)
          oneWallet := fun _ _ _ _ => rfl
          generated := fun _ _ _ hOp => by
            obtain ⟨-, rfl, -⟩ := Op.install.inj hOp
            exact aliceKeys_generated }
      wholeBytes := sampleKeys_wholeBytes rfl hAlice
      ownSignatures := by
        intro p hp _ _
        obtain rfl := List.mem_singleton.mp hp
        exact ⟨_, List.mem_cons_self, _, rfl, rfl, rfl⟩
      collisionFree := by
        intro p hp e hMem q hOutput
        obtain rfl := List.mem_singleton.mp hp
        rcases List.mem_cons.mp hMem with rfl | hOpen
        · obtain rfl := Option.some.inj hOutput
          exact ⟨fun hCollision => hCollision.1 rfl, fun hCollision => hCollision.1 rfl⟩
        · obtain rfl := List.mem_singleton.mp hOpen
          exact absurd hOutput (Option.some_ne_none q).symm }
    (Step.exec_eq (.install (sampleCertificate aliceKeys 1) aliceKeys (⟨0⟩ : CountingRng)
      (issuerKeys_generated.verify_certify ..) rfl))
  exact hInstalled.next (a := .wallet (sampleDevice 1) (.requestFunding 1000))
    (.of_silent rfl (enrolment_wallet _ _ _)
      (sampleKeys_wholeBytes rfl fun account certificate hMem =>
        hAlice account certificate (List.mem_of_ne_of_mem (by simp) hMem)))
    (Step.wallet (Finmap.lookup_insert _) sampleAsked_step).exec_eq

end Sample

end System

end DigitalEuro
