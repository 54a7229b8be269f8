import DigitalEuro.Model.Issuer

/-!
# Digital euro — what an issuer call does

`Issuer.Step` lists, once, everything an issuer call that is not refused checked
and did, as `Wallet.Step` does for the element.

* `Issuer.covers` — a call is refused and leaves the issuer as it was, or it is
  one of the steps;
* `Issuer.Step.exec_eq` — a step is what the call does.
-/

namespace DigitalEuro

namespace Issuer

variable [Sha256] {G : Type} [Rng G]

/-- The funding the issuer signs for a request. -/
def fundingFor (issuer : Issuer) (request : FundingRequest) : Funding :=
  let funding : Funding :=
    { device := request.device, amountCents := request.amountCents
      nonce := request.nonce, signature := 0 }
  { funding with signature := issuer.keypair.sign funding.digest }

section Projections

variable (issuer : Issuer) (request : FundingRequest)

@[simp] theorem fundingFor_content :
    (issuer.fundingFor request).content =
      .funding request.device request.amountCents request.nonce := rfl

@[simp] theorem fundingFor_nonce : (issuer.fundingFor request).nonce = request.nonce := rfl

end Projections

/-- The issuer after a funding that went through. -/
def funded (issuer : Issuer) (request : FundingRequest) (account : AccountId)
    (balance : UInt64) : Issuer :=
  { issuer with
    accounts := issuer.accounts.insert account (balance - request.amountCents)
    offlineFloat := issuer.offlineFloat + request.amountCents.toNat
    fundingNonces := insert (request.device, request.nonce) issuer.fundingNonces }

/-- The issuer after a defunding that went through. -/
def defunded (issuer : Issuer) (defunding : Defunding) (record : DeviceRecord)
    (balance : UInt64) : Issuer :=
  { issuer with
    accounts := issuer.accounts.insert record.account (balance + defunding.amountCents)
    offlineFloat := issuer.offlineFloat - defunding.amountCents.toNat
    devices := issuer.devices.insert defunding.device
      { record with lastDefundingCounter := defunding.counter } }

-- ---------------------------------------------------------------------------
-- Calls that pass their checks
-- ---------------------------------------------------------------------------

theorem fund_eq {issuer : Issuer} {request : FundingRequest} {record : DeviceRecord}
    {balance : UInt64} (hDevice : issuer.devices.lookup request.device = some record)
    (hSignature : record.publicKey.verify request.digest request.signature = true)
    (hPos : request.amountCents ≠ 0)
    (hNew : (request.device, request.nonce) ∉ issuer.fundingNonces)
    (hAccount : issuer.accounts.lookup record.account = some balance)
    (hFunds : request.amountCents ≤ balance) :
    issuer.fund request =
      (.ok (issuer.fundingFor request), issuer.funded request record.account balance) := by
  have hCovered : ¬ balance < request.amountCents := UInt64.not_lt.mpr hFunds
  simp only [fund, hDevice, hSignature, hPos, hNew, hAccount, hCovered, Bool.not_true,
    Bool.false_eq_true, if_false]
  rfl

theorem defund_eq {issuer : Issuer} {defunding : Defunding} {record : DeviceRecord}
    {balance : UInt64} (hDevice : issuer.devices.lookup defunding.device = some record)
    (hSignature : record.publicKey.verify defunding.digest defunding.signature = true)
    (hNew : record.lastDefundingCounter < defunding.counter)
    (hAccount : issuer.accounts.lookup record.account = some balance) :
    issuer.defund defunding =
      (.ok defunding.amountCents, issuer.defunded defunding record balance) := by
  have hLater : ¬ defunding.counter ≤ record.lastDefundingCounter := UInt64.not_le.mpr hNew
  simp only [defund, hDevice, hSignature, hAccount, hLater, Bool.not_true, Bool.false_eq_true,
    if_false]
  rfl

/-- A counter that is not above the last one credited is refused. -/
theorem defund_replay {issuer : Issuer} {defunding : Defunding} {record : DeviceRecord}
    (hDevice : issuer.devices.lookup defunding.device = some record)
    (hSignature : record.publicKey.verify defunding.digest defunding.signature = true)
    (hOld : defunding.counter ≤ record.lastDefundingCounter) :
    issuer.defund defunding = (.error .replay, issuer) := by
  simp only [defund, hDevice, hSignature, hOld, Bool.not_true, Bool.false_eq_true, if_false,
    if_true]

/-- `fund` refuses and changes nothing, or its checks pass. -/
theorem fund_cases (issuer : Issuer) (request : FundingRequest) :
    (∃ error, issuer.fund request = (.error error, issuer)) ∨
      ∃ record balance, issuer.devices.lookup request.device = some record ∧
        record.publicKey.verify request.digest request.signature = true ∧
        request.amountCents ≠ 0 ∧
        (request.device, request.nonce) ∉ issuer.fundingNonces ∧
        issuer.accounts.lookup record.account = some balance ∧
        request.amountCents ≤ balance := by
  cases hDevice : issuer.devices.lookup request.device with
  | none => exact Or.inl ⟨.unknownDevice request.device, by simp only [fund, hDevice]⟩
  | some record =>
    by_cases hSignature : record.publicKey.verify request.digest request.signature = true
    case neg => exact Or.inl ⟨.invalidSignature, by simp [fund, hDevice, hSignature]⟩
    by_cases hPos : request.amountCents = 0
    case pos => exact Or.inl ⟨.zeroAmount, by simp [fund, hDevice, hSignature, hPos]⟩
    by_cases hNew : (request.device, request.nonce) ∈ issuer.fundingNonces
    case pos => exact Or.inl ⟨.replay, by simp [fund, hDevice, hSignature, hPos, hNew]⟩
    cases hAccount : issuer.accounts.lookup record.account with
    | none =>
      left
      exact ⟨.unknownAccount record.account,
        by simp [fund, hDevice, hSignature, hPos, hNew, hAccount]⟩
    | some balance =>
      by_cases hFunds : balance < request.amountCents
      case pos =>
        left
        exact ⟨.insufficientFunds request.amountCents balance,
          by simp [fund, hDevice, hSignature, hPos, hNew, hAccount, hFunds]⟩
      right
      exact ⟨record, balance, rfl, hSignature, hPos, hNew, hAccount, UInt64.not_lt.mp hFunds⟩

/-- `defund` refuses and changes nothing, or its checks pass. -/
theorem defund_cases (issuer : Issuer) (defunding : Defunding) :
    (∃ error, issuer.defund defunding = (.error error, issuer)) ∨
      ∃ record balance, issuer.devices.lookup defunding.device = some record ∧
        record.publicKey.verify defunding.digest defunding.signature = true ∧
        record.lastDefundingCounter < defunding.counter ∧
        issuer.accounts.lookup record.account = some balance := by
  cases hDevice : issuer.devices.lookup defunding.device with
  | none => exact Or.inl ⟨.unknownDevice defunding.device, by simp only [defund, hDevice]⟩
  | some record =>
    by_cases hSignature : record.publicKey.verify defunding.digest defunding.signature = true
    case neg => exact Or.inl ⟨.invalidSignature, by simp [defund, hDevice, hSignature]⟩
    by_cases hOld : defunding.counter ≤ record.lastDefundingCounter
    case pos => exact Or.inl ⟨.replay, defund_replay hDevice hSignature hOld⟩
    cases hAccount : issuer.accounts.lookup record.account with
    | none =>
      left
      exact ⟨.unknownAccount record.account, by simp [defund, hDevice, hSignature, hOld, hAccount]⟩
    | some balance =>
      right
      exact ⟨record, balance, rfl, hSignature, UInt64.not_le.mp hOld, hAccount⟩

/-- A replay has a counter at or below the one on record. -/
theorem defund_eq_replay {issuer : Issuer} {defunding : Defunding}
    (h : (issuer.defund defunding).1 = .error .replay) :
    ∃ record, issuer.devices.lookup defunding.device = some record ∧
      defunding.counter ≤ record.lastDefundingCounter := by
  cases hDevice : issuer.devices.lookup defunding.device with
  | none => exact absurd h (by simp [defund, hDevice])
  | some record =>
    by_cases hOld : defunding.counter ≤ record.lastDefundingCounter
    · exact ⟨record, rfl, hOld⟩
    · by_cases hSignature : record.publicKey.verify defunding.digest defunding.signature = true
      case neg => exact absurd h (by simp [defund, hDevice, hSignature])
      cases hAccount : issuer.accounts.lookup record.account <;>
        exact absurd h (by simp [defund, hDevice, hSignature, hOld, hAccount])

omit [Sha256] in
theorem accountOf_eq {issuer : Issuer} {device : DeviceId} {record : DeviceRecord}
    (h : issuer.devices.lookup device = some record) :
    issuer.accountOf device = some record.account := by
  rw [accountOf, h, Option.map_some]

-- ---------------------------------------------------------------------------
-- Steps
-- ---------------------------------------------------------------------------

/-- The calls that are not refused: the checks they passed, the event they left
and the issuer after them. -/
inductive Step (issuer : Issuer) : Op G → Event → Issuer → Prop
  | openAccount (account : AccountId) (balanceCents : UInt64) :
      Step issuer (.openAccount account balanceCents) (.opened account balanceCents)
        (issuer.openAccount account balanceCents)
  | certifyDevice (account : AccountId) (publicKey : PublicKey) (limit : UInt64) (rng : G)
      (hAccount : (issuer.accounts.lookup account).isSome) :
      Step issuer (.certifyDevice account publicKey limit rng)
        (.certified account (issuer.keypair.certify ⟨(Rng.gen rng).1⟩ publicKey limit))
        { issuer with
          devices := issuer.devices.insert ⟨(Rng.gen rng).1⟩
            { account, publicKey, lastDefundingCounter := 0 } }
  | fund (request : FundingRequest) (record : DeviceRecord) (balance : UInt64)
      (hDevice : issuer.devices.lookup request.device = some record)
      (hSignature : record.publicKey.verify request.digest request.signature = true)
      (hPos : request.amountCents ≠ 0)
      (hNew : (request.device, request.nonce) ∉ issuer.fundingNonces)
      (hAccount : issuer.accounts.lookup record.account = some balance)
      (hFunds : request.amountCents ≤ balance) :
      Step issuer (.fund request) (.funded record.account request (issuer.fundingFor request))
        (issuer.funded request record.account balance)
  | defund (defunding : Defunding) (record : DeviceRecord) (balance : UInt64)
      (hDevice : issuer.devices.lookup defunding.device = some record)
      (hSignature : record.publicKey.verify defunding.digest defunding.signature = true)
      (hNew : record.lastDefundingCounter < defunding.counter)
      (hAccount : issuer.accounts.lookup record.account = some balance) :
      Step issuer (.defund defunding) (.defunded record.account defunding)
        (issuer.defunded defunding record balance)

/-- **The step relation is complete.** Every call is refused, leaving the issuer
untouched, or it is one of the steps. -/
theorem exec_cases (issuer : Issuer) (op : Op G) :
    issuer.exec op = (none, issuer) ∨
      ∃ e issuer', issuer.exec op = (some e, issuer') ∧ Step issuer op e issuer' := by
  cases op with
  | openAccount account balanceCents =>
    exact Or.inr ⟨_, _, rfl, .openAccount account balanceCents⟩
  | certifyDevice account publicKey limit rng =>
    cases hAccount : issuer.accounts.lookup account with
    | none => left; simp [exec, certifyDevice, hAccount]
    | some balance =>
      right
      refine ⟨_, _, ?_, .certifyDevice account publicKey limit rng (by simp [hAccount])⟩
      simp [exec, certifyDevice, hAccount]
  | fund request =>
    rcases issuer.fund_cases request with
      ⟨error, hError⟩ | ⟨record, balance, hDevice, hSignature, hPos, hNew, hAccount, hFunds⟩
    · left
      simp only [exec, hError]
    · right
      refine ⟨_, _, ?_, .fund request record balance hDevice hSignature hPos hNew hAccount hFunds⟩
      simp only [exec, fund_eq hDevice hSignature hPos hNew hAccount hFunds,
        accountOf_eq hDevice]
  | defund defunding =>
    rcases issuer.defund_cases defunding with
      ⟨error, hError⟩ | ⟨record, balance, hDevice, hSignature, hNew, hAccount⟩
    · left
      simp only [exec, hError]
    · right
      refine ⟨_, _, ?_, .defund defunding record balance hDevice hSignature hNew hAccount⟩
      simp only [exec, defund_eq hDevice hSignature hNew hAccount, accountOf_eq hDevice]

/-- **Refusals are atomic**: a refused call leaves the issuer exactly as it was. -/
theorem covers : Machine.Covers (exec (G := G)) Step := exec_cases

/-- **The step relation is sound.** A step is what the call does. -/
theorem Step.exec_eq {issuer issuer' : Issuer} {op : Op G} {e : Event}
    (h : Step issuer op e issuer') : issuer.exec op = (some e, issuer') := by
  cases h with
  | openAccount account balanceCents => rfl
  | certifyDevice account publicKey limit rng hAccount =>
    obtain ⟨balance, hBalance⟩ := Option.isSome_iff_exists.mp hAccount
    simp [exec, Issuer.certifyDevice, hBalance]
  | fund request record balance hDevice hSignature hPos hNew hAccount hFunds =>
    simp only [exec, fund_eq hDevice hSignature hPos hNew hAccount hFunds, accountOf_eq hDevice]
  | defund defunding record balance hDevice hSignature hNew hAccount =>
    simp only [exec, defund_eq hDevice hSignature hNew hAccount, accountOf_eq hDevice]

/-- No call replaces the issuer's key. -/
theorem Step.fixed {issuer issuer' : Issuer} {op : Op G} {e : Event}
    (h : Step issuer op e issuer') : issuer'.keypair = issuer.keypair := by
  cases h <;> rfl

theorem run_keypair {allowed : List Event → Issuer → Op G → Prop} {start issuer : Issuer}
    {history : List Event} (hRun : Machine.Reaches exec allowed start history issuer) :
    issuer.keypair = start.keypair := by
  refine covers.induction (P := fun _ issuer => issuer.keypair = start.keypair) hRun rfl ?_
  intro history issuer op e issuer' _ _ ih hStep
  rw [hStep.fixed, ih]

end Issuer

end DigitalEuro
