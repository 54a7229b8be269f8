import DigitalEuro.Model.Keygen
import DigitalEuro.Model.Runs

/-!
# Digital euro — what could panic on a message

The calls that verify a message once more, with every operation that can panic
spelled out: the index `expanded[0]`, the modulus of `modpow` and of the final
reduction, and machine arithmetic as a build with overflow checks has it. A call
that panics returns the panic and no result.

`certify_device` signs any key, so a message can carry a modulus of any kind. What
keeps a verifier alive is the order of its checks: a signature below the modulus
means that the modulus is not zero, and then it takes a byte.

* `PublicKey.checkedVerify_eq` — verifying never panics, whatever the key, as long
  as the block counter of the hash does not run out;
* `PublicKey.checkedVerify_runs_out` — with a modulus of more than 2^40 - 256 bits
  it does;
* `no_panic` — no message makes a reachable element or issuer panic.
-/

namespace DigitalEuro

/-- What makes a call panic. -/
inductive Panic where
  | indexOutOfBounds
  | zeroModulus
  | overflow
deriving DecidableEq

/-- `u64 + u64` with overflow checks. -/
def checkedAdd (a b : UInt64) : Except Panic UInt64 :=
  if a.toNat + b.toNat < 2 ^ 64 then .ok (a + b) else .error .overflow

/-- `u64 - u64` with overflow checks. -/
def checkedSub (a b : UInt64) : Except Panic UInt64 :=
  if b ≤ a then .ok (a - b) else .error .overflow

/-- `u32 + 1` with overflow checks. -/
def checkedSucc (a : UInt32) : Except Panic UInt32 :=
  if a.toNat + 1 < 2 ^ 32 then .ok (a + 1) else .error .overflow

/-- `BigUint::modpow`, which panics on modulus zero. -/
def checkedModpow (base exponent n : ℕ) : Except Panic ℕ :=
  if n = 0 then .error .zeroModulus else .ok (Rsa.modpow base exponent n)

/-- `Integer::mod_floor`, which panics on modulus zero. -/
def checkedModFloor (a n : ℕ) : Except Panic ℕ :=
  if n = 0 then .error .zeroModulus else .ok (a % n)

/-- `expanded[0] &= 0x3f` on a vector. -/
def checkedMaskTop : List UInt8 → Except Panic (List UInt8)
  | [] => .error .indexOutOfBounds
  | byte :: rest => .ok ((byte &&& 0x3f) :: rest)

section Signatures

variable [Sha256]

/-- The loop `while expanded.len() < width`; the counter is a `u32`. -/
def checkedExpandLoop (digest : Digest) (width : ℕ) :
    ℕ → UInt32 → List UInt8 → Except Panic (List UInt8)
  | 0, _, expanded => .ok expanded
  | fuel + 1, counter, expanded =>
    if expanded.length < width then do
      let expanded := expanded ++ (tagged "euro/fdh" (fdhParts digest counter)).toList
      let counter ← checkedSucc counter
      checkedExpandLoop digest width fuel counter expanded
    else .ok expanded

/-- `full_domain_hash`, with its index, its reduction and its counter. -/
def PublicKey.checkedFullDomainHash (key : PublicKey) (digest : Digest) : Except Panic ℕ := do
  let width := key.modulusBytes
  let expanded ← checkedExpandLoop digest width width 0 []
  let expanded ← checkedMaskTop (expanded.take width)
  checkedModFloor (Bytes.ofBytes expanded) key.n

/-- `PublicKey::verify`; a signature that is too large is refused first. -/
def PublicKey.checkedVerify (key : PublicKey) (digest : Digest) (signature : ℕ) :
    Except Panic Bool :=
  if key.n ≤ signature then .ok false
  else do
    let power ← checkedModpow signature key.e key.n
    let hash ← key.checkedFullDomainHash digest
    .ok (power == hash)

/-- `Keypair::sign`. -/
def Keypair.checkedSign (keypair : Keypair) (digest : Digest) : Except Panic ℕ := do
  let hash ← keypair.publicKey.checkedFullDomainHash digest
  checkedModpow hash keypair.d keypair.publicKey.n

/-- `DeviceCertificate::verify`. -/
def DeviceCertificate.checkedVerify (certificate : DeviceCertificate) (issuer : PublicKey) :
    Except Panic Bool :=
  issuer.checkedVerify certificate.digest certificate.signature

end Signatures

section Calls

variable [Sha256] {R : Type}

omit [Sha256] in
/-- `Wallet::debit`, which subtracts and counts. -/
def Wallet.checkedDebit (w : Wallet R) (amountCents : UInt64) :
    Except Panic (Except Error UInt64 × Wallet R) :=
  if amountCents = 0 then
    .ok (.error .zeroAmount, w)
  else if w.balanceCents < amountCents then
    .ok (.error (.insufficientFunds amountCents w.balanceCents), w)
  else do
    let balanceCents ←
      if w.state = .sealed then checkedSub w.balanceCents amountCents else .ok w.balanceCents
    let counter ← checkedAdd w.counter 1
    .ok (.ok counter, { w with balanceCents, counter })

/-- `Wallet::pay`. -/
def Wallet.checkedPay (w : Wallet R) (request : PaymentRequest) :
    Except Panic (Except Error Transfer × Wallet R) := do
  let certified ← request.payee.checkedVerify w.issuer
  if !certified then
    .ok (.error .invalidCertificate, w)
  else if request.payee.device = w.device then
    .ok (.error .selfPayment, w)
  else
    match ← w.checkedDebit request.amountCents with
    | (.error error, w) => .ok (.error error, w)
    | (.ok counter, w) => do
      let transfer := w.unsignedTransfer request counter
      let signature ← w.keypair.checkedSign transfer.digest
      .ok (.ok { transfer with signature }, w)

/-- `Wallet::receive`, which adds to the balance. -/
def Wallet.checkedReceive (w : Wallet R) (transfer : Transfer) :
    Except Panic (Except Error UInt64 × Wallet R) :=
  if transfer.payee ≠ w.device then
    .ok (.error .notForThisDevice, w)
  else do
    let certified ← transfer.payer.checkedVerify w.issuer
    if !certified then
      .ok (.error .invalidCertificate, w)
    else do
      let verified ← transfer.payer.publicKey.checkedVerify transfer.digest transfer.signature
      if !verified then
        .ok (.error .invalidSignature, w)
      else if transfer.nonce ∈ w.credited then
        .ok (.error .alreadyCredited, w)
      else
        match w.incoming.lookup transfer.nonce with
        | none => .ok (.error .unknownRequest, w)
        | some expected =>
          if transfer.amountCents ≠ expected then
            .ok (.error (.amountMismatch expected transfer.amountCents), w)
          else do
            let balanceCents ← checkedAdd w.balanceCents expected
            .ok (.ok expected,
              { w with
                incoming := w.incoming.erase transfer.nonce
                credited := insert transfer.nonce w.credited
                balanceCents })

/-- `Wallet::apply_funding`, which does too. -/
def Wallet.checkedApplyFunding (w : Wallet R) (funding : Funding) :
    Except Panic (Except Error UInt64 × Wallet R) :=
  if funding.device ≠ w.device then
    .ok (.error .notForThisDevice, w)
  else do
    let verified ← w.issuer.checkedVerify funding.digest funding.signature
    if !verified then
      .ok (.error .invalidSignature, w)
    else if funding.nonce ∈ w.credited then
      .ok (.error .alreadyCredited, w)
    else
      match w.pendingFunding.lookup funding.nonce with
      | none => .ok (.error .unknownRequest, w)
      | some expected =>
        if funding.amountCents ≠ expected then
          .ok (.error (.amountMismatch expected funding.amountCents), w)
        else do
          let balanceCents ← checkedAdd w.balanceCents expected
          .ok (.ok expected,
            { w with
              pendingFunding := w.pendingFunding.erase funding.nonce
              credited := insert funding.nonce w.credited
              balanceCents })

/-- `Issuer::fund`, which subtracts from the account. -/
def Issuer.checkedFund (issuer : Issuer) (request : FundingRequest) :
    Except Panic (Except Error Funding × Issuer) :=
  match issuer.devices.lookup request.device with
  | none => .ok (.error (.unknownDevice request.device), issuer)
  | some record => do
    let verified ← record.publicKey.checkedVerify request.digest request.signature
    if !verified then
      .ok (.error .invalidSignature, issuer)
    else if request.amountCents = 0 then
      .ok (.error .zeroAmount, issuer)
    else if (request.device, request.nonce) ∈ issuer.fundingNonces then
      .ok (.error .replay, issuer)
    else
      match issuer.accounts.lookup record.account with
      | none => .ok (.error (.unknownAccount record.account), issuer)
      | some balance =>
        if balance < request.amountCents then
          .ok (.error (.insufficientFunds request.amountCents balance), issuer)
        else do
          let remaining ← checkedSub balance request.amountCents
          let funding : Funding :=
            { device := request.device, amountCents := request.amountCents
              nonce := request.nonce, signature := 0 }
          let signature ← issuer.keypair.checkedSign funding.digest
          .ok (.ok { funding with signature },
            { issuer with
              accounts := issuer.accounts.insert record.account remaining
              offlineFloat := issuer.offlineFloat + request.amountCents.toNat
              fundingNonces := insert (request.device, request.nonce) issuer.fundingNonces })

end Calls

-- ---------------------------------------------------------------------------
-- Moduli
-- ---------------------------------------------------------------------------

/-- A modulus whose blocks a `u32` can count, the increment after the last included. -/
def PublicKey.Expandable (key : PublicKey) : Prop := bits key.n ≤ 2 ^ 40 - 256

instance (key : PublicKey) : Decidable key.Expandable :=
  inferInstanceAs (Decidable (bits key.n ≤ 2 ^ 40 - 256))

section Verify

variable [Sha256]

omit [Sha256] in
theorem checkedModpow_eq {base exponent n : ℕ} (h : n ≠ 0) :
    checkedModpow base exponent n = .ok (Rsa.modpow base exponent n) := if_neg h

/-- Every block is counted: as long as the counter has room for the blocks that are
missing, the loop is the one without checks. -/
theorem checkedExpandLoop_eq (digest : Digest) {width : ℕ} (hWidth : width ≤ 32 * (2 ^ 32 - 1)) :
    ∀ (fuel : ℕ) (counter : UInt32) (expanded : List UInt8),
      expanded.length = 32 * counter.toNat →
      checkedExpandLoop digest width fuel counter expanded =
        .ok (expandLoop digest width fuel counter expanded) := by
  intro fuel
  induction fuel with
  | zero => intros; rfl
  | succ fuel ih =>
    intro counter expanded hLength
    rw [checkedExpandLoop, expandLoop]
    split
    · next hShort =>
      have hRoom : counter.toNat + 1 < 2 ^ 32 := by omega
      have hNext : (counter + 1).toNat = counter.toNat + 1 := by
        rw [UInt32.toNat_add, UInt32.toNat_one, Nat.mod_eq_of_lt hRoom]
      rw [checkedSucc, if_pos hRoom]
      refine ih (counter + 1) _ ?_
      rw [List.length_append, Vector.length_toList, hLength, hNext]
      omega
    · rfl

/-- With more than 2^32 - 1 blocks to make, the counter runs out. -/
theorem checkedExpandLoop_runs_out (digest : Digest) {width : ℕ}
    (hWidth : 32 * (2 ^ 32 - 1) < width) :
    ∀ (fuel : ℕ) (counter : UInt32) (expanded : List UInt8),
      expanded.length = 32 * counter.toNat → 2 ^ 32 ≤ fuel + counter.toNat →
      checkedExpandLoop digest width fuel counter expanded = .error .overflow := by
  intro fuel
  induction fuel with
  | zero =>
    intro counter expanded _ hFuel
    have hLt := counter.toNat_lt
    omega
  | succ fuel ih =>
    intro counter expanded hLength hFuel
    have hLt := counter.toNat_lt
    rw [checkedExpandLoop, if_pos (by omega)]
    by_cases hRoom : counter.toNat + 1 < 2 ^ 32
    · have hNext : (counter + 1).toNat = counter.toNat + 1 := by
        rw [UInt32.toNat_add, UInt32.toNat_one, Nat.mod_eq_of_lt hRoom]
      rw [checkedSucc, if_pos hRoom]
      refine ih (counter + 1) _ ?_ (by omega)
      rw [List.length_append, Vector.length_toList, hLength, hNext]
      omega
    · rw [checkedSucc, if_neg hRoom]
      rfl

-- ---------------------------------------------------------------------------
-- Keys
-- ---------------------------------------------------------------------------

omit [Sha256] in
/-- There is a first byte to mask. -/
theorem checkedMaskTop_eq {expanded : List UInt8} (h : expanded ≠ []) :
    checkedMaskTop expanded = .ok (maskTop expanded) := by
  cases expanded with
  | nil => exact absurd rfl h
  | cons byte rest => rfl

/-- Any modulus but zero takes a byte. -/
theorem PublicKey.checkedFullDomainHash_eq {key : PublicKey} (hZero : key.n ≠ 0)
    (h : key.Expandable) (digest : Digest) :
    key.checkedFullDomainHash digest = .ok (key.fullDomainHash digest) := by
  have hWidth : key.modulusBytes ≤ 32 * (2 ^ 32 - 1) := by
    unfold Expandable at h
    unfold modulusBytes
    omega
  have hLoop := checkedExpandLoop_eq digest hWidth key.modulusBytes 0 [] rfl
  have hSome : (expandLoop digest key.modulusBytes key.modulusBytes 0 []).take key.modulusBytes ≠
      [] := by
    have hLength := le_expandLoop_length digest key.modulusBytes key.modulusBytes 0 []
      (Nat.le_refl _)
    have hPos := modulusBytes_pos hZero
    rw [← List.length_pos_iff, List.length_take]
    omega
  simp only [checkedFullDomainHash, hLoop, bind, Except.bind, checkedMaskTop_eq hSome,
    checkedModFloor, if_neg hZero]
  rfl

/-- **Verifying never panics**: a signature that is not refused for its size means
that the modulus is not zero. -/
theorem PublicKey.checkedVerify_eq {key : PublicKey} (h : key.Expandable) (digest : Digest)
    (signature : ℕ) :
    key.checkedVerify digest signature = .ok (key.verify digest signature) := by
  rw [checkedVerify, verify]
  split
  · rfl
  · next hSmall =>
    have hZero : key.n ≠ 0 := by omega
    simp only [checkedModpow_eq hZero, checkedFullDomainHash_eq hZero h, bind, Except.bind]

/-- A certificate is checked under the issuer's key, whatever key it is for. -/
theorem DeviceCertificate.checkedVerify_eq {issuer : PublicKey} (h : issuer.Expandable)
    (certificate : DeviceCertificate) :
    certificate.checkedVerify issuer = .ok (certificate.verify issuer) :=
  PublicKey.checkedVerify_eq h _ _

/-- The keys that sign were generated. -/
theorem Keypair.Returned.checkedSign_eq {keypair : Keypair} (hReturned : keypair.Returned)
    (h : keypair.publicKey.Expandable) (digest : Digest) :
    keypair.checkedSign digest = .ok (keypair.sign digest) := by
  have hZero := hReturned.modulus_ne_zero
  simp only [checkedSign, PublicKey.checkedFullDomainHash_eq hZero h, bind, Except.bind,
    checkedModpow_eq hZero, sign]

/-- With a modulus of more than 2^40 - 256 bits the last increment overflows, though
the block it is for is never made. -/
theorem PublicKey.checkedVerify_runs_out {key : PublicKey} (h : 2 ^ 40 - 256 < bits key.n)
    (digest : Digest) {signature : ℕ} (hSmall : signature < key.n) :
    key.checkedVerify digest signature = .error .overflow := by
  have hZero : key.n ≠ 0 := by omega
  have hWidth : 32 * (2 ^ 32 - 1) < key.modulusBytes := by
    unfold modulusBytes
    omega
  have hLoop := checkedExpandLoop_runs_out digest hWidth key.modulusBytes 0 [] rfl
    (by rw [UInt32.toNat_zero]; omega)
  rw [checkedVerify, if_neg (by omega)]
  simp only [checkedModpow_eq hZero, checkedFullDomainHash, hLoop, bind, Except.bind]

end Verify

-- ---------------------------------------------------------------------------
-- Calls
-- ---------------------------------------------------------------------------

theorem checkedAdd_eq {a b : UInt64} (h : a.toNat + b.toNat < 2 ^ 64) :
    checkedAdd a b = .ok (a + b) := if_pos h

/-- The room for an open reservation was set aside, so its credit does not overflow. -/
theorem Wallet.WithinLimit.checkedAdd_eq {R : Type} {w : Wallet R} (h : w.WithinLimit)
    {nonce : Nonce} {amountCents : UInt64}
    (hOpen : w.incoming.lookup nonce = some amountCents ∨
      w.pendingFunding.lookup nonce = some amountCents) :
    checkedAdd w.balanceCents amountCents = .ok (w.balanceCents + amountCents) := by
  have hLe := h.balance_add_le hOpen
  have hLimit := w.holdingLimit.toNat_lt
  exact DigitalEuro.checkedAdd_eq (by omega)

theorem checkedSub_eq {a b : UInt64} (h : b ≤ a) : checkedSub a b = .ok (a - b) := if_pos h

section Calls

variable [Sha256] {R : Type}

omit [Sha256] in
/-- The funds are checked before they are subtracted. -/
theorem Wallet.checkedDebit_eq {w : Wallet R} (hCounter : w.counter.toNat + 1 < 2 ^ 64)
    (amountCents : UInt64) : w.checkedDebit amountCents = .ok (w.debit amountCents) := by
  rw [checkedDebit, debit]
  split
  · rfl
  split
  · rfl
  next hFunds =>
    have hCount : checkedAdd w.counter 1 = .ok (w.counter + 1) := checkedAdd_eq hCounter
    simp only [hCount, checkedSub_eq (UInt64.not_lt.mp hFunds), bind, Except.bind]
    cases w.state <;> rfl

/-- The payee's key is not used, so nothing is asked of it. -/
theorem Wallet.checkedPay_eq {w : Wallet R} (hIssuer : w.issuer.Expandable)
    (hReturned : w.keypair.Returned) (hOwn : w.keypair.publicKey.Expandable)
    (hCounter : w.counter.toNat + 1 < 2 ^ 64) (request : PaymentRequest) :
    w.checkedPay request = .ok (w.pay request) := by
  simp only [checkedPay, pay, DeviceCertificate.checkedVerify_eq hIssuer,
    checkedDebit_eq hCounter, bind, Except.bind]
  split
  · rfl
  split
  · rfl
  -- the key is the one of the element before the debit
  rcases w.debit_cases request.amountCents with ⟨error, hError⟩ | ⟨hPos, hFunds⟩
  · rw [hError]
  · rw [w.debit_eq hPos hFunds]
    have hSign : ∀ digest, (w.debited request.amountCents).keypair.checkedSign digest = _ :=
      hReturned.checkedSign_eq hOwn
    simp only [hSign]
    rfl

/-- The payer's key is used, once its certificate is found good. -/
theorem Wallet.WithinLimit.checkedReceive_eq {w : Wallet R} (h : w.WithinLimit)
    (hIssuer : w.issuer.Expandable) {transfer : Transfer}
    (hPayer : transfer.payer.publicKey.Expandable) :
    w.checkedReceive transfer = .ok (w.receive transfer) := by
  simp only [checkedReceive, receive, DeviceCertificate.checkedVerify_eq hIssuer,
    PublicKey.checkedVerify_eq hPayer, bind, Except.bind]
  split
  · rfl
  split
  · rfl
  split
  · rfl
  split
  · rfl
  cases hOpen : w.incoming.lookup transfer.nonce with
  | none => rfl
  | some expected =>
    dsimp only
    split
    · rfl
    · rw [h.checkedAdd_eq (Or.inl hOpen)]

/-- A funding is checked under the issuer's key only. -/
theorem Wallet.WithinLimit.checkedApplyFunding_eq {w : Wallet R} (h : w.WithinLimit)
    (hIssuer : w.issuer.Expandable) (funding : Funding) :
    w.checkedApplyFunding funding = .ok (w.applyFunding funding) := by
  simp only [checkedApplyFunding, applyFunding, PublicKey.checkedVerify_eq hIssuer, bind,
    Except.bind]
  split
  · rfl
  split
  · rfl
  split
  · rfl
  cases hOpen : w.pendingFunding.lookup funding.nonce with
  | none => rfl
  | some expected =>
    dsimp only
    split
    · rfl
    · rw [h.checkedAdd_eq (Or.inr hOpen)]

/-- The request is checked under the key on record, and its amount before it is subtracted. -/
theorem Issuer.checkedFund_eq {issuer : Issuer} (hReturned : issuer.keypair.Returned)
    (hOwn : issuer.keypair.publicKey.Expandable) {request : FundingRequest}
    (hDevice : ∀ record, issuer.devices.lookup request.device = some record →
      record.publicKey.Expandable) :
    issuer.checkedFund request = .ok (issuer.fund request) := by
  rw [checkedFund, fund]
  cases hRecord : issuer.devices.lookup request.device with
  | none => rfl
  | some record =>
    simp only [PublicKey.checkedVerify_eq (hDevice record hRecord), bind, Except.bind]
    split
    · rfl
    split
    · rfl
    split
    · rfl
    cases hAccount : issuer.accounts.lookup record.account with
    | none => rfl
    | some balance =>
      dsimp only
      split
      · rfl
      · next hFunds =>
        simp only [checkedSub_eq (UInt64.not_lt.mp hFunds), hReturned.checkedSign_eq hOwn]

end Calls

-- ---------------------------------------------------------------------------
-- Reachable states
-- ---------------------------------------------------------------------------

section Reachable

variable [Sha256]

/-- **No message makes a verifier panic.** Whatever a message says, for moduli of at
most 2^40 - 256 bits: verifying returns; an element made by `Wallet::new` returns,
after any run with fewer than 2^64 debits, from `receive`, `pay` and `apply_funding`;
and an issuer returns, after any run, from `fund`. They return what the calls return
in a build without checks. -/
theorem no_panic :
    (∀ (key : PublicKey) (digest : Digest) (signature : ℕ), key.Expandable →
      key.checkedVerify digest signature = .ok (key.verify digest signature)) ∧
    (∀ {R : Type} [Rng R] {certificate : DeviceCertificate} {keypair : Keypair}
      {issuer : PublicKey} {rng : R} {w₀ w : Wallet R} {history : List Wallet.Event},
      Wallet.new certificate keypair issuer rng = .ok w₀ → keypair.Returned →
      keypair.publicKey.Expandable → issuer.Expandable → Wallet.Run w₀ history w →
      (∀ transfer : Transfer, transfer.payer.publicKey.Expandable →
        w.checkedReceive transfer = .ok (w.receive transfer)) ∧
      ((Wallet.counters history).length + 1 < 2 ^ 64 →
        ∀ request, w.checkedPay request = .ok (w.pay request)) ∧
      ∀ funding, w.checkedApplyFunding funding = .ok (w.applyFunding funding)) ∧
    ∀ {G : Type} [Rng G] {allowed : List Issuer.Event → Issuer → Issuer.Op G → Prop}
      {keypair : Keypair} {history : List Issuer.Event} {issuer : Issuer},
      keypair.Returned → keypair.publicKey.Expandable →
      Machine.Reaches Issuer.exec allowed (.new keypair) history issuer →
      ∀ request : FundingRequest, (∀ record, issuer.devices.lookup request.device = some record →
        record.publicKey.Expandable) →
      issuer.checkedFund request = .ok (issuer.fund request) := by
  refine ⟨fun key digest signature hKey => PublicKey.checkedVerify_eq hKey digest signature, ?_, ?_⟩
  · intro R _ certificate keypair issuer rng w₀ w history hNew hReturned hOwn hIssuer hRun
    have hLimit : w.WithinLimit := Wallet.within_limit (Wallet.new_withinLimit hNew) hRun
    obtain ⟨-, -, rfl⟩ := Wallet.new_eq_ok.mp hNew
    obtain ⟨-, hKeypair, hKey⟩ := Wallet.run_fixed hRun
    have hOwn' : w.keypair.publicKey.Expandable := by
      rw [hKeypair]
      exact hOwn
    have hIssuer' : w.issuer.Expandable := by
      rw [hKey]
      exact hIssuer
    have hReturned' : w.keypair.Returned := by
      rw [hKeypair]
      exact hReturned
    refine ⟨fun transfer hPayer => hLimit.checkedReceive_eq hIssuer' hPayer, fun hFew request => ?_,
      hLimit.checkedApplyFunding_eq hIssuer'⟩
    have hCounter := Wallet.counter_toNat hRun (Nat.lt_of_succ_lt hFew)
    exact Wallet.checkedPay_eq hIssuer' hReturned' hOwn' (by omega) request
  · intro G _ allowed keypair history issuer hReturned hOwn hRun request hDevice
    have hKeypair : issuer.keypair = keypair := Issuer.run_keypair hRun
    refine Issuer.checkedFund_eq ?_ ?_ hDevice
    · rw [hKeypair]
      exact hReturned
    · rw [hKeypair]
      exact hOwn

end Reachable

-- ---------------------------------------------------------------------------
-- Keys at the edges
-- ---------------------------------------------------------------------------

/-- There are keys of every size a slice can hold. -/
theorem exists_publicKey {k : ℕ} (h : k + 1 < 2 ^ 64) :
    ∃ key : PublicKey, bits key.n = k + 1 ∧ 0 < key.n := by
  have hFits : (Bytes.natBytes (2 ^ k)).length < 2 ^ 64 := by
    refine lt_of_le_of_lt (Bytes.natBytes_length_le (Nat.succ_pos k) ?_) h
    calc 2 ^ k < 2 ^ (k + 1) := Nat.pow_lt_pow_right Nat.one_lt_two (Nat.lt_succ_self k)
      _ ≤ 256 ^ (k + 1) := Nat.pow_le_pow_left (by norm_num) _
  exact ⟨{ n := 2 ^ k, e := 0, nFits := hFits, eFits := by decide }, bits_two_pow k,
    Nat.two_pow_pos k⟩

section Sample

open scoped Fips

/-- A modulus of 2^40 bits takes 2^32 blocks, and counting the last overflows. -/
theorem verify_runs_out :
    ∃ key : PublicKey, key.n < 2 ^ 2 ^ 40 ∧
      ∃ digest signature, key.checkedVerify digest signature = .error .overflow := by
  obtain ⟨key, hBits, hPos⟩ := exists_publicKey (k := 2 ^ 40 - 1) (by norm_num)
  have hSize : bits key.n = 2 ^ 40 := hBits.trans (by norm_num)
  have hBelow := lt_two_pow_bits key.n
  rw [hSize] at hBelow
  refine ⟨key, hBelow, Vector.replicate 32 0, 0, ?_⟩
  exact PublicKey.checkedVerify_runs_out (by rw [hSize]; norm_num) _ hPos

/-- The key with modulus and exponent zero. -/
def zeroKey : PublicKey where
  n := 0
  e := 0
  nFits := by decide
  eFits := by decide

/-- Verifying under the zero key; a transfer, a payment and a funding that go through; a
request of a device on record, and one of a device that is not. -/
theorem no_panic_sample :
    zeroKey.checkedVerify (Vector.replicate 32 0) 0 = .ok false ∧
      samplePayee.checkedReceive sampleTransfer = .ok (samplePayee.receive sampleTransfer) ∧
      sampleFunded.checkedPay sampleRequest = .ok (sampleFunded.pay sampleRequest) ∧
      sampleAsked.checkedApplyFunding sampleFunding =
        .ok (sampleAsked.applyFunding sampleFunding) ∧
      sampleIssuer.checkedFund sampleFundingRequest =
        .ok (sampleIssuer.fund sampleFundingRequest) ∧
      (Issuer.new issuerKeys).checkedFund sampleFundingRequest =
        .ok (.error (.unknownDevice (sampleDevice 1)), .new issuerKeys) := by
  have hIssuer : issuerKeys.publicKey.Expandable := by decide +kernel
  have hIssuerKeys : issuerKeys.Returned := issuerKeys_generated.returned (by decide +kernel)
  have hAlice : aliceKeys.publicKey.Expandable := by decide +kernel
  have hAliceKeys : aliceKeys.Returned := aliceKeys_generated.returned (by decide +kernel)
  have hAsked : Wallet.Run (sampleWallet aliceKeys 1) _ sampleAsked :=
    Machine.Reaches.next .start trivial sampleAsked_step.exec_eq
  have hFunded : Wallet.Run (sampleWallet aliceKeys 1) _ sampleFunded :=
    hAsked.next trivial sampleFunded_step.exec_eq
  have hNew := sampleWallet_new aliceKeys 1
  refine ⟨?_, ?_, ?_, ?_, ?_, ?_⟩
  · rw [no_panic.1 zeroKey _ _ (by decide +kernel), PublicKey.verify,
      if_pos (show zeroKey.n ≤ 0 from Nat.le_refl 0)]
  · have hStep : Wallet.Step (sampleWallet bakeryKeys 2) (.requestPayment 300) _ samplePayee :=
      Wallet.Step.requestPayment 300 (by decide) (by rw [sampleWallet_headroom]; decide)
    have hRun : Wallet.Run (sampleWallet bakeryKeys 2) _ samplePayee :=
      Machine.Reaches.next .start (a := .requestPayment 300) trivial hStep.exec_eq
    have hOwn : bakeryKeys.Returned := bakeryKeys_generated.returned (by decide +kernel)
    exact (no_panic.2.1 (sampleWallet_new bakeryKeys 2) hOwn (by decide +kernel) hIssuer hRun).1
      sampleTransfer hAlice
  · exact (no_panic.2.1 hNew hAliceKeys hAlice hIssuer hFunded).2.1 (by decide) sampleRequest
  · exact (no_panic.2.1 hNew hAliceKeys hAlice hIssuer hAsked).2.2 sampleFunding
  · refine no_panic.2.2 hIssuerKeys hIssuer sampleSystem_reachable.enrolled.issuer_run
      sampleFundingRequest fun record hRecord => ?_
    obtain rfl := Option.some.inj (sampleIssuer_alice.symm.trans hRecord)
    exact hAlice
  · have hRun : Machine.Reaches (Issuer.exec (G := CountingRng)) Issuer.FreshDevice
        (.new issuerKeys) [] (.new issuerKeys) := .start
    rw [no_panic.2.2 hIssuerKeys hIssuer hRun sampleFundingRequest fun _ hRecord =>
      absurd hRecord (Option.some_ne_none _).symm]
    rfl

end Sample

end DigitalEuro
