import DigitalEuro.Model.Keygen
import DigitalEuro.Model.Refinement

/-!
# Digital euro — enrolment (`lib.rs`)

`enrol` generates the element's key, has the issuer certify it and installs the
certificate. Key generation is the only part that draws big numbers, so it takes the
fuel; everything after it is decided by the account.

* `enrol_cases` — an enrolment that returns fails for an unknown account and for no
  other reason, and leaves the issuer alone when it fails;
* `enrol_joins` — otherwise the new device is a member of the system like any other:
  it can pay every installed device and be paid by it, and on the ledger it is an
  empty purse of the account.
-/

namespace DigitalEuro

/-- Gives an account a new device: generates the element's key, has the issuer certify
it, and installs the certificate. -/
def enrol [Sha256] {R G : Type} [Rng G] [RandBigInt G] (issuer : Issuer) (account : AccountId)
    (holdingLimitCents keyBits : UInt64) (fuel : ℕ) (deviceRng : R) (rng : G) :
    Option (Except KeygenPanic (Except Error (Wallet R)) × Issuer × G) :=
  match Keypair.generate keyBits fuel rng with
  | none => none
  | some (.error panic, rng) => some (.error panic, issuer, rng)
  | some (.ok keypair, rng) =>
    match issuer.certifyDevice account keypair.publicKey holdingLimitCents rng with
    | (.error error, issuer, rng) => some (.ok (.error error), issuer, rng)
    | (.ok certificate, issuer, rng) =>
      some (.ok (Wallet.new certificate keypair issuer.publicKey deviceRng), issuer, rng)

/-- A ledger with one more device, whose purse is empty. -/
def Ledger.enrol {D A N : Type*} [DecidableEq D] (ledger : Ledger D A N) (device : D) (account : A)
    (limit : ℕ) : Ledger D A N :=
  { ledger with
    purse := Function.update ledger.purse device
      (some { limit, balance := 0, incoming := 0, pendingFunding := 0, within_limit := by simp })
    owner := Function.update ledger.owner device (some account) }

/-- The record of a device that has just been certified. -/
def DeviceRecord.fresh (account : AccountId) (publicKey : PublicKey) : DeviceRecord where
  account := account
  publicKey := publicKey
  lastDefundingCounter := 0

theorem Issuer.certifyDevice_unknown [Sha256] {G : Type} [Rng G] {issuer : Issuer}
    {account : AccountId} (h : issuer.accounts.lookup account = none) (publicKey : PublicKey)
    (limit : UInt64) (rng : G) :
    issuer.certifyDevice account publicKey limit rng =
      (.error (.unknownAccount account), issuer, rng) := by
  rw [certifyDevice, h, Option.isNone_none, if_pos rfl]

theorem Issuer.certifyDevice_eq [Sha256] {G : Type} [Rng G] {issuer : Issuer} {account : AccountId}
    (h : (issuer.accounts.lookup account).isSome) (publicKey : PublicKey) (limit : UInt64)
    (rng : G) :
    issuer.certifyDevice account publicKey limit rng =
      (.ok (issuer.keypair.certify ⟨(Rng.gen rng).1⟩ publicKey limit),
        { issuer with
          devices := issuer.devices.insert ⟨(Rng.gen rng).1⟩ (.fresh account publicKey) },
        (Rng.gen rng).2) := by
  have hSome : ¬ (issuer.accounts.lookup account).isNone = true := by
    rw [Option.isNone_iff_eq_none]
    exact Option.isSome_iff_ne_none.mp h
  rw [certifyDevice, if_neg hSome]
  rfl

section Enrolment

variable [Sha256] {R G : Type} [Rng G] [RandBigInt G] {issuer issuer' : Issuer}
  {account : AccountId} {limit keyBits : UInt64} {fuel : ℕ} {deviceRng : R} {rng rng' : G}
  {result : Except KeygenPanic (Except Error (Wallet R))}

section

variable {keypair : Keypair} {rng₁ : G}
  (hKeys : Keypair.generate keyBits fuel rng = some (.ok keypair, rng₁))

include hKeys

theorem enrol_unknown (hAccount : issuer.accounts.lookup account = none) :
    enrol issuer account limit keyBits fuel deviceRng rng =
      some (.ok (.error (.unknownAccount account)), issuer, rng₁) := by
  rw [enrol, hKeys]
  dsimp only
  rw [Issuer.certifyDevice_unknown hAccount]

theorem enrol_eq (hIssuer : issuer.keypair.Generated)
    (hAccount : (issuer.accounts.lookup account).isSome) :
    enrol issuer account limit keyBits fuel deviceRng rng =
      some (.ok (.ok (.fresh (issuer.keypair.certify ⟨(Rng.gen rng₁).1⟩ keypair.publicKey limit)
          keypair issuer.publicKey deviceRng)),
        { issuer with
          devices := issuer.devices.insert ⟨(Rng.gen rng₁).1⟩ (.fresh account keypair.publicKey) },
        (Rng.gen rng₁).2) := by
  have hNew : Wallet.new (issuer.keypair.certify ⟨(Rng.gen rng₁).1⟩ keypair.publicKey limit)
      keypair issuer.publicKey deviceRng = .ok _ :=
    Wallet.new_eq_ok.mpr ⟨hIssuer.verify_certify .., rfl, rfl⟩
  rw [enrol, hKeys]
  dsimp only
  rw [Issuer.certifyDevice_eq hAccount]
  dsimp only
  rw [← hNew]
  rfl

end

/-- **An enrolment that returns**: the key is generated, and the account decides. -/
theorem enrol_cases (hSize : 512 ≤ keyBits) (hEven : keyBits % 2 = 0)
    (hIssuer : issuer.keypair.Generated)
    (h : enrol issuer account limit keyBits fuel deviceRng rng = some (result, issuer', rng')) :
    ∃ keypair rng₁, Keypair.generate keyBits fuel rng = some (.ok keypair, rng₁) ∧
      ((issuer.accounts.lookup account = none ∧ result = .ok (.error (.unknownAccount account)) ∧
          issuer' = issuer ∧ rng' = rng₁) ∨
        ((issuer.accounts.lookup account).isSome ∧
          result = .ok (.ok (.fresh
            (issuer.keypair.certify ⟨(Rng.gen rng₁).1⟩ keypair.publicKey limit) keypair
            issuer.publicKey deviceRng)) ∧
          issuer' = { issuer with
            devices :=
              issuer.devices.insert ⟨(Rng.gen rng₁).1⟩ (.fresh account keypair.publicKey) } ∧
          rng' = (Rng.gen rng₁).2)) := by
  cases hKeys : Keypair.generate keyBits fuel rng with
  | none =>
    rw [enrol, hKeys] at h
    cases h
  | some generated =>
    obtain ⟨keys, rng₁⟩ := generated
    obtain ⟨keypair, p, q, rfl, -, -, -⟩ := generate_spec hSize hEven hKeys
    refine ⟨keypair, rng₁, rfl, ?_⟩
    cases hAccount : issuer.accounts.lookup account with
    | none =>
      left
      rw [enrol_unknown hKeys hAccount] at h
      simp only [Option.some.injEq, Prod.mk.injEq] at h
      obtain ⟨rfl, rfl, rfl⟩ := h
      exact ⟨rfl, rfl, rfl, rfl⟩
    | some balance =>
      right
      rw [enrol_eq hKeys hIssuer (by rw [hAccount, Option.isSome_some])] at h
      simp only [Option.some.injEq, Prod.mk.injEq] at h
      obtain ⟨rfl, rfl, rfl⟩ := h
      exact ⟨rfl, rfl, rfl, rfl⟩

namespace System

variable [Rng R] {keypair : Keypair} {history : List Event} {s : System R}

/-- A system with one more device. -/
def enrolled (s : System R) (account : AccountId) (keypair : Keypair) (device : DeviceId)
    (limit : UInt64) (deviceRng : R) : System R where
  issuer := { s.issuer with
    devices := s.issuer.devices.insert device (.fresh account keypair.publicKey) }
  wallets := s.wallets.insert device
    (.fresh (s.issuer.keypair.certify device keypair.publicKey limit) keypair s.issuer.publicKey
      deviceRng)

omit [RandBigInt G] in
/-- A new device id has no element either. -/
theorem Reachable.uninstalled (h : Reachable R G keypair history s) {device : DeviceId}
    (hFresh : s.issuer.devices.lookup device = none) : s.wallets.lookup device = none := by
  cases hWallet : s.wallets.lookup device with
  | none => rfl
  | some w =>
    obtain ⟨record, hRecord, -⟩ := h.recorded hWallet
    exact absurd (hRecord.symm.trans hFresh) (Option.some_ne_none record)

omit [RandBigInt G] in
/-- **Enrolling leads on**: a certification and an installation. -/
theorem Reachable.enrol_next (h : Reachable R G keypair history s) (hIssuer : keypair.Generated)
    {keys : Keypair} (hKeys : keys.Generated)
    (hAccount : (s.issuer.accounts.lookup account).isSome) (rng : G)
    (hFresh : s.issuer.devices.lookup ⟨(Rng.gen rng).1⟩ = none) (limit : UInt64)
    (deviceRng : R) :
    Reachable R G keypair
      (.installed (s.issuer.keypair.certify ⟨(Rng.gen rng).1⟩ keys.publicKey limit) ::
        .issuer (.certified account
          (s.issuer.keypair.certify ⟨(Rng.gen rng).1⟩ keys.publicKey limit)) :: history)
      (s.enrolled account keys ⟨(Rng.gen rng).1⟩ limit deviceRng) := by
  have hCertified := h.issuer_next
    (Issuer.Step.certifyDevice account keys.publicKey limit rng hAccount)
    (fun _ _ _ _ hOp => by
      obtain ⟨-, -, -, rfl⟩ := Issuer.Op.certifyDevice.inj hOp
      exact hFresh)
    (fun _ hp => absurd hp List.not_mem_nil)
  have hVerify : (s.issuer.keypair.certify ⟨(Rng.gen rng).1⟩ keys.publicKey limit).verify
      s.issuer.publicKey = true := by
    rw [Issuer.publicKey, h.enrolled.issuer_key]
    exact hIssuer.verify_certify ..
  exact hCertified.install_next deviceRng List.mem_cons_self hVerify rfl hKeys
    (h.uninstalled hFresh)

omit [Rng G] [RandBigInt G] [Rng R] in
theorem enrolled_ledger (s : System R) (account : AccountId) (keys : Keypair) (device : DeviceId)
    (limit : UInt64) (deviceRng : R) :
    (s.enrolled account keys device limit deviceRng).ledger =
      s.ledger.enrol device account limit.toNat := by
  have hLimit := Wallet.fresh_withinLimit
    (s.issuer.keypair.certify device keys.publicKey limit) keys s.issuer.publicKey deviceRng
  refine Ledger.ext (funext fun device' => ?_) (funext fun device' => ?_) rfl rfl
  · show ((s.wallets.insert device _).lookup device').bind Wallet.purse? =
      Function.update s.ledger.purse device _ device'
    by_cases hSame : device' = device
    · rw [hSame, Function.update_self, Finmap.lookup_insert, Option.bind_some,
        Wallet.purse?_eq hLimit]
      rfl
    · rw [Function.update_of_ne hSame, Finmap.lookup_insert_of_ne _ hSame]
      rfl
  · show ((s.issuer.devices.insert device _).lookup device').map DeviceRecord.account =
      Function.update s.issuer.accountOf device _ device'
    by_cases hSame : device' = device
    · rw [hSame, Function.update_self, Finmap.lookup_insert]
      rfl
    · rw [Function.update_of_ne hSame, Finmap.lookup_insert_of_ne _ hSame]
      rfl

omit [Sha256] [Rng G] in
/-- A key whose modulus is a product of two primes is a generated one. -/
theorem generated_of_primes {keys : Keypair} {fuel : ℕ} {rng rng' : G} (hSize : 512 ≤ keyBits)
    (hEven : keyBits % 2 = 0) (h : Keypair.generate keyBits fuel rng = some (.ok keys, rng'))
    (hPrimes : ∃ p q, p.Prime ∧ q.Prime ∧ keys.publicKey.n = p * q) : keys.Generated := by
  obtain ⟨_, p, q, hKeys, hp, hq, hReturned⟩ := generate_spec hSize hEven h
  obtain rfl := Except.ok.inj hKeys
  obtain ⟨p', q', hp', hq', hN⟩ := hPrimes
  exact hReturned.generated hSize hEven hp hq hp' hq' hN

/-- **An enrolled device is a member like any other.** In every reachable state an
enrolment that returns fails for an unknown account and for no other reason, and then the
issuer is as before. Otherwise the device has the limit that was asked for and holds
nothing; and when its modulus is a product of two primes and its id is new, the state with
it is reachable, it can pay every installed device and be paid by it, the issuer has it
on record for the account, and the ledger has one more empty purse and no other change. -/
theorem enrol_joins (h : Reachable R G keypair history s) (hIssuer : keypair.Generated)
    (hSize : 512 ≤ keyBits) (hEven : keyBits % 2 = 0)
    (hRun : enrol s.issuer account limit keyBits fuel deviceRng rng =
      some (result, issuer', rng')) :
    (s.issuer.balanceOf account = none ∧ result = .ok (.error (.unknownAccount account)) ∧
        issuer' = s.issuer) ∨
      ∃ w balance, s.issuer.balanceOf account = some balance ∧ result = .ok (.ok w) ∧
        w.holdingLimit = limit ∧ w.balanceCents = 0 ∧ w.reserved = 0 ∧
        ((∃ p q, p.Prime ∧ q.Prime ∧ w.keypair.publicKey.n = p * q) →
          s.issuer.devices.lookup w.device = none →
          (∃ history', Reachable R G keypair history'
            { issuer := issuer', wallets := s.wallets.insert w.device w }) ∧
          (∀ other w', s.wallets.lookup other = some w' → CanPay w w' ∧ CanPay w' w) ∧
          OnRecord w issuer' (.fresh account w.keypair.publicKey) balance ∧
          ledger { issuer := issuer', wallets := s.wallets.insert w.device w } =
            s.ledger.enrol w.device account limit.toNat) := by
  have hKey : s.issuer.keypair = keypair := h.enrolled.issuer_key
  obtain ⟨keys, rng₁, hKeys, hUnknown | ⟨hAccount, hResult, hIssuer', -⟩⟩ :=
    enrol_cases hSize hEven (hKey ▸ hIssuer) hRun
  · exact .inl ⟨hUnknown.1, hUnknown.2.1, hUnknown.2.2.1⟩
  right
  obtain ⟨balance, hBalance⟩ := Option.isSome_iff_exists.mp hAccount
  refine ⟨_, balance, hBalance, hResult, rfl, rfl, rfl, fun hPrimes hFresh => ?_⟩
  have hGenerated := generated_of_primes hSize hEven hKeys hPrimes
  have hNext := h.enrol_next hIssuer hGenerated hAccount rng₁ hFresh limit deviceRng
  have hState : ∀ w : Wallet R, w = .fresh
      (s.issuer.keypair.certify ⟨(Rng.gen rng₁).1⟩ keys.publicKey limit) keys s.issuer.publicKey
        deviceRng →
      ({ issuer := issuer', wallets := s.wallets.insert w.device w } : System R) =
        s.enrolled account keys ⟨(Rng.gen rng₁).1⟩ limit deviceRng := by
    rintro w rfl
    rw [hIssuer']
    rfl
  have hAbsent : s.wallets.lookup ⟨(Rng.gen rng₁).1⟩ = none := h.uninstalled hFresh
  rw [hState _ rfl]
  refine ⟨⟨_, hNext⟩, fun other w' hOther => ?_, ?_, enrolled_ledger ..⟩
  · have hNe : other ≠ ⟨(Rng.gen rng₁).1⟩ := by
      rintro rfl
      rw [hAbsent] at hOther
      exact absurd hOther (Option.some_ne_none w').symm
    have hNew : (s.enrolled account keys ⟨(Rng.gen rng₁).1⟩ limit deviceRng).wallets.lookup
        ⟨(Rng.gen rng₁).1⟩ = some _ := Finmap.lookup_insert _
    have hOld : (s.enrolled account keys ⟨(Rng.gen rng₁).1⟩ limit deviceRng).wallets.lookup
        other = some w' := by
      rw [enrolled, Finmap.lookup_insert_of_ne _ hNe, hOther]
    exact ⟨hNext.enrolled.canPay (Ne.symm hNe) hNew hOld, hNext.enrolled.canPay hNe hOld hNew⟩
  · rw [hIssuer']
    refine ⟨rfl, ?_, hGenerated, Finmap.lookup_insert _, rfl, hBalance⟩
    rw [hKey]
    exact hIssuer

end System

end Enrolment

-- ---------------------------------------------------------------------------
-- A scripted enrolment
-- ---------------------------------------------------------------------------

/-- A script has the identifiers and nonces among its numbers. -/
instance : Rng ScriptedRng where
  gen rng := (⟨(Bytes.beBytes 16 (rng.numbers.headD 0)).toArray, by simp⟩,
    { rng with numbers := rng.numbers.tail })

section Sample

open scoped Fips

/-- The first enrolment at an issuer with one account. -/
theorem enrol_joins_sample :
    let s : System CountingRng :=
      { System.start issuerKeys with
        issuer := (Issuer.new issuerKeys).openAccount sampleAccount 5000 }
    ∃ w issuer', (enrol s.issuer sampleAccount sampleLimit 512 2 (⟨0⟩ : CountingRng)
          (⟨[samplePrime 51975, samplePrime 52455, 1], []⟩ : ScriptedRng)) =
        some (.ok (.ok w), issuer', ⟨[], []⟩) ∧
      OnRecord w issuer' (.fresh sampleAccount w.keypair.publicKey) 5000 := by
  intro s
  have hFrom := aliceKeys_generatedFrom
  have hReach : System.Reachable CountingRng ScriptedRng issuerKeys _ s :=
    System.Reachable.issuer_next .start (Issuer.Step.openAccount sampleAccount 5000)
      (fun _ _ _ _ hOp => absurd hOp (by simp)) (fun _ hp => absurd hp List.not_mem_nil)
  have hAccount : s.issuer.balanceOf sampleAccount = some 5000 := Finmap.lookup_insert _
  have hKeys : Keypair.generate 512 2
      (⟨[samplePrime 51975, samplePrime 52455, 1], []⟩ : ScriptedRng) =
        some (.ok aliceKeys, ⟨[1], []⟩) :=
    Keypair.GeneratedFrom.generate_scripted_append 512 hFrom [1]
  have hSome : (s.issuer.accounts.lookup sampleAccount).isSome := by
    rw [← Issuer.balanceOf, hAccount, Option.isSome_some]
  have hRun : enrol s.issuer sampleAccount sampleLimit 512 2 (⟨0⟩ : CountingRng)
      (⟨[samplePrime 51975, samplePrime 52455, 1], []⟩ : ScriptedRng) = _ :=
    enrol_eq hKeys issuerKeys_generated hSome
  rcases System.enrol_joins hReach issuerKeys_generated (by decide) (by decide) hRun with
    ⟨hNone, -, -⟩ | ⟨w, balance, hBalance, hResult, -, -, -, hJoins⟩
  · exact absurd (hAccount.symm.trans hNone) (Option.some_ne_none _)
  obtain rfl := Option.some.inj (hAccount.symm.trans hBalance)
  obtain rfl := Except.ok.inj (Except.ok.inj hResult)
  have hPrimes := hJoins ⟨_, _, hFrom.p_generated.prime, hFrom.q_generated.prime, rfl⟩
  exact ⟨_, _, hRun, (hPrimes rfl).2.2.1⟩

end Sample

end DigitalEuro
