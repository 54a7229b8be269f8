import DigitalEuro.Lib.HighWater
import DigitalEuro.Model.Agreement

/-!
# Digital euro — defundings under way

An element can sign several defundings before the issuer sees the first. The
issuer keeps one counter per device and takes only what is above it, "so a
defunding message cannot be cashed twice". So an order that is overtaken by a later
one of the same device is refused, although the element has debited itself.

* `creditsOnce_iff` — every defunding is credited at its first presentation exactly
  when each device's arrive in the order they were signed in;
* `defundings_in_order` — and then nothing else about the order matters;
* `overtaken_refused` — a defunding that is overtaken is lost.
-/

namespace DigitalEuro

namespace Issuer

variable [Sha256]

/-- The issuer after defundings were presented to it; the list has the newest
first. -/
def present (issuer : Issuer) : List Defunding → Issuer
  | [] => issuer
  | defunding :: older => ((issuer.present older).defund defunding).2

/-- Every defunding is credited when it is presented first, and refused as a replay
when it is presented again. -/
def CreditsOnce (issuer : Issuer) (messages : List Defunding) : Prop :=
  ∀ newer defunding older, messages = newer ++ defunding :: older →
    ((issuer.present older).defund defunding).1 =
      if defunding ∈ older then .error .replay else .ok defunding.amountCents

omit [Sha256] in
/-- When a defunding is presented first, its counter is above the one on record for
its device and above those of this device that were presented before. -/
def InOrder (issuer : Issuer) (messages : List Defunding) : Prop :=
  ∀ newer defunding older, messages = newer ++ defunding :: older → defunding ∉ older →
    (∀ record, issuer.devices.lookup defunding.device = some record →
      record.lastDefundingCounter < defunding.counter) ∧
    ∀ earlier ∈ older, earlier.device = defunding.device → earlier.counter < defunding.counter

/-- A defunding whose signature verifies under the key on record, for a device with
an account. -/
def Known (issuer : Issuer) (defunding : Defunding) : Prop :=
  ∃ record, issuer.devices.lookup defunding.device = some record ∧
    record.publicKey.verify defunding.digest defunding.signature = true ∧
    (issuer.accounts.lookup record.account).isSome

-- ---------------------------------------------------------------------------
-- The counter on record is a high-water mark
-- ---------------------------------------------------------------------------

omit [Sha256] in
/-- The last counter credited to a device, as a number. -/
def lastCounter (issuer : Issuer) (device : DeviceId) : ℕ :=
  ((issuer.devices.lookup device).map fun record =>
    record.lastDefundingCounter.toNat).getD 0

omit [Sha256] in
theorem lastCounter_eq {issuer : Issuer} {device : DeviceId} {record : DeviceRecord}
    (h : issuer.devices.lookup device = some record) :
    issuer.lastCounter device = record.lastDefundingCounter.toNat := by
  rw [lastCounter, h, Option.map_some, Option.getD_some]

/-- The defundings the issuer takes. -/
abbrev taken (issuer : Issuer) : List Defunding → List Defunding :=
  HighWater.taken Defunding.device (fun defunding => defunding.counter.toNat) issuer.lastCounter

/-- The last counter of a device after defundings were presented. -/
abbrev mark (issuer : Issuer) : List Defunding → DeviceId → ℕ :=
  HighWater.mark Defunding.device (fun defunding => defunding.counter.toNat) issuer.lastCounter

section Cons

variable {issuer : Issuer} {older : List Defunding} {defunding : Defunding}

omit [Sha256] in
theorem mark_cons_self : issuer.mark (defunding :: older) defunding.device =
    max (issuer.mark older defunding.device) defunding.counter.toNat :=
  Function.update_self ..

omit [Sha256] in
theorem mark_cons_of_ne {device : DeviceId} (h : device ≠ defunding.device) :
    issuer.mark (defunding :: older) device = issuer.mark older device :=
  Function.update_of_ne h ..

omit [Sha256] in
theorem taken_cons_of_above (h : issuer.mark older defunding.device < defunding.counter.toNat) :
    issuer.taken (defunding :: older) = defunding :: issuer.taken older := if_pos h

omit [Sha256] in
theorem taken_cons_of_not_above
    (h : ¬ issuer.mark older defunding.device < defunding.counter.toNat) :
    issuer.taken (defunding :: older) = issuer.taken older := if_neg h

end Cons

omit [Sha256] in
/-- What the defundings in a list credit to an account. -/
def credits (issuer : Issuer) (account : AccountId) (messages : List Defunding) : UInt64 :=
  ((messages.filter fun defunding => issuer.accountOf defunding.device = some account).map
    Defunding.amountCents).sum

omit [Sha256] in
theorem credits_cons (issuer : Issuer) (account : AccountId) (defunding : Defunding)
    (messages : List Defunding) : issuer.credits account (defunding :: messages) =
      (if issuer.accountOf defunding.device = some account then defunding.amountCents else 0) +
        issuer.credits account messages := by
  unfold credits
  by_cases hAccount : issuer.accountOf defunding.device = some account
  · rw [if_pos hAccount, List.filter_cons_of_pos (by rw [decide_eq_true_eq]; exact hAccount),
      List.map_cons, List.sum_cons]
  · rw [if_neg hAccount, List.filter_cons_of_neg (by rw [decide_eq_true_eq]; exact hAccount),
      zero_add]

omit [Sha256] in
/-- What the defundings in a list take off the float. -/
def repaid (messages : List Defunding) : ℤ :=
  (messages.map fun defunding => (defunding.amountCents.toNat : ℤ)).sum

omit [Sha256] in
theorem inOrder_iff {issuer : Issuer} {messages : List Defunding}
    (hKnown : ∀ defunding ∈ messages, ∃ record,
      issuer.devices.lookup defunding.device = some record) :
    issuer.InOrder messages ↔ HighWater.Ascending Defunding.device
      (fun defunding => defunding.counter.toNat) issuer.lastCounter messages := by
  rw [HighWater.ascending_iff]
  refine forall_congr' fun newer => forall_congr' fun defunding => forall_congr' fun older =>
    forall_congr' fun hSplit => forall_congr' fun _ => ?_
  obtain ⟨record, hRecord⟩ := hKnown defunding (by rw [hSplit]; simp)
  unfold HighWater.Above
  rw [lastCounter_eq hRecord, hRecord]
  simp only [Option.some.injEq, forall_eq', UInt64.lt_iff_toNat_lt]

/-- What is left of the issuer after defundings were presented: the records with
their marks, the accounts with what was taken, and the float without it. -/
structure Presented (issuer : Issuer) (messages : List Defunding) (issuer' : Issuer) : Prop where
  record : ∀ {device record}, issuer.devices.lookup device = some record →
    ∃ record', issuer'.devices.lookup device = some record' ∧
      record'.account = record.account ∧ record'.publicKey = record.publicKey ∧
      record'.lastDefundingCounter.toNat = issuer.mark messages device
  account : ∀ account, issuer'.accounts.lookup account =
    (issuer.accounts.lookup account).map (· + issuer.credits account (issuer.taken messages))
  float : issuer'.offlineFloat = issuer.offlineFloat - repaid (issuer.taken messages)

/-- **A counter above the mark is credited.** -/
theorem Presented.defund_ok {issuer issuer' : Issuer} {older : List Defunding}
    {defunding : Defunding} (h : Presented issuer older issuer') (hKnown : issuer.Known defunding)
    (hAbove : issuer.mark older defunding.device < defunding.counter.toNat) :
    (issuer'.defund defunding).1 = .ok defunding.amountCents ∧
      Presented issuer (defunding :: older) (issuer'.defund defunding).2 := by
  obtain ⟨record, hRecord, hSignature, hAccount⟩ := hKnown
  obtain ⟨record', hRecord', hSameAccount, hSameKey, hMark⟩ := h.record hRecord
  obtain ⟨balance, hBalance⟩ := Option.isSome_iff_exists.mp hAccount
  have hBalance' := h.account record.account
  rw [hBalance, Option.map_some, ← hSameAccount] at hBalance'
  rw [← hSameKey] at hSignature
  have hTaken := taken_cons_of_above hAbove
  have hCounter : record'.lastDefundingCounter < defunding.counter := by
    rw [UInt64.lt_iff_toNat_lt, hMark]
    exact hAbove
  rw [defund_eq hRecord' hSignature hCounter hBalance']
  refine ⟨rfl, ?_, ?_, ?_⟩
  · intro device record₁ hRecord₁
    by_cases hSame : device = defunding.device
    · subst hSame
      rw [hRecord, Option.some.injEq] at hRecord₁
      subst hRecord₁
      refine ⟨_, Finmap.lookup_insert _, hSameAccount, hSameKey, ?_⟩
      rw [mark_cons_self, max_eq_right (le_of_lt hAbove)]
    · obtain ⟨record₂, hRecord₂, hAccount₂, hKey₂, hMark₂⟩ := h.record hRecord₁
      refine ⟨record₂, ?_, hAccount₂, hKey₂, by rw [hMark₂, mark_cons_of_ne hSame]⟩
      exact (Finmap.lookup_insert_of_ne _ hSame).trans hRecord₂
  · intro account
    show (issuer'.accounts.insert record'.account _).lookup account = _
    rw [hTaken, credits_cons, accountOf_eq hRecord, hSameAccount]
    by_cases hSame : account = record.account
    · subst hSame
      rw [Finmap.lookup_insert, hBalance, Option.map_some, if_pos rfl, add_assoc,
        add_comm defunding.amountCents]
    · rw [Finmap.lookup_insert_of_ne _ hSame, h.account account,
        if_neg fun hEq => hSame (Option.some.inj hEq).symm, zero_add]
  · show issuer'.offlineFloat - defunding.amountCents.toNat = _
    rw [hTaken, h.float, repaid, repaid, List.map_cons, List.sum_cons]
    omega

/-- **Any other counter is a replay**, and nothing changes. -/
theorem Presented.defund_replay {issuer issuer' : Issuer} {older : List Defunding}
    {defunding : Defunding} (h : Presented issuer older issuer') (hKnown : issuer.Known defunding)
    (hSeen : ¬ issuer.mark older defunding.device < defunding.counter.toNat) :
    issuer'.defund defunding = (.error .replay, issuer') ∧
      Presented issuer (defunding :: older) issuer' := by
  obtain ⟨record, hRecord, hSignature, -⟩ := hKnown
  obtain ⟨record', hRecord', hSameAccount, hSameKey, hMark⟩ := h.record hRecord
  rw [← hSameKey] at hSignature
  have hOld : defunding.counter ≤ record'.lastDefundingCounter := by
    rw [UInt64.le_iff_toNat_le, hMark]
    exact not_lt.mp hSeen
  have hTaken := taken_cons_of_not_above hSeen
  refine ⟨Issuer.defund_replay hRecord' hSignature hOld, ?_, ?_, ?_⟩
  · intro device record₁ hRecord₁
    obtain ⟨record₂, hRecord₂, hAccount₂, hKey₂, hMark₂⟩ := h.record hRecord₁
    refine ⟨record₂, hRecord₂, hAccount₂, hKey₂, ?_⟩
    by_cases hSame : device = defunding.device
    · rw [hMark₂, hSame, mark_cons_self, max_eq_left (not_lt.mp hSeen)]
    · rw [hMark₂, mark_cons_of_ne hSame]
  · rw [hTaken]
    exact h.account
  · rw [hTaken]
    exact h.float

theorem presented {issuer : Issuer} {messages : List Defunding}
    (hKnown : ∀ defunding ∈ messages, issuer.Known defunding) :
    Presented issuer messages (issuer.present messages) := by
  induction messages with
  | nil =>
    refine ⟨fun {device record} hRecord => ⟨record, hRecord, rfl, rfl, ?_⟩, fun account => ?_, ?_⟩
    · exact (lastCounter_eq hRecord).symm
    · show issuer.accounts.lookup account = (issuer.accounts.lookup account).map (· + 0)
      simp
    · show issuer.offlineFloat = issuer.offlineFloat - 0
      omega
  | cons defunding older ih =>
    have hOlder := ih fun earlier hMem => hKnown earlier (List.mem_cons_of_mem defunding hMem)
    have hFirst := hKnown defunding List.mem_cons_self
    by_cases hAbove : issuer.mark older defunding.device < defunding.counter.toNat
    · exact (hOlder.defund_ok hFirst hAbove).2
    · obtain ⟨hReplay, hNext⟩ := hOlder.defund_replay hFirst hAbove
      rw [present, hReplay]
      exact hNext

-- ---------------------------------------------------------------------------
-- Order
-- ---------------------------------------------------------------------------

/-- **When nothing is lost.** Every defunding is credited exactly once if and only
if the defundings of each device are first presented in the order of their
counters. -/
theorem creditsOnce_iff {issuer : Issuer} {messages : List Defunding}
    (hKnown : ∀ defunding ∈ messages, issuer.Known defunding) :
    issuer.CreditsOnce messages ↔ issuer.InOrder messages := by
  have hRecords : ∀ defunding ∈ messages, ∃ record,
      issuer.devices.lookup defunding.device = some record := fun defunding hMem => by
    obtain ⟨record, hRecord, -⟩ := hKnown defunding hMem
    exact ⟨record, hRecord⟩
  rw [inOrder_iff hRecords, HighWater.ascending_iff]
  refine forall_congr' fun newer => forall_congr' fun defunding => forall_congr' fun older =>
    forall_congr' fun hSplit => ?_
  have hFirst := hKnown defunding (by rw [hSplit]; simp)
  have hOlder : Presented issuer older (issuer.present older) :=
    presented fun earlier hMem => hKnown earlier (by rw [hSplit]; simp [hMem])
  rw [HighWater.above_iff]
  by_cases hAbove : issuer.mark older defunding.device < defunding.counter.toNat
  · -- above the mark: credited, and it cannot have been presented before
    have hNew : defunding ∉ older := fun hMem =>
      HighWater.not_above_of_mem hMem (HighWater.above_iff.mpr hAbove)
    rw [if_neg hNew, (hOlder.defund_ok hFirst hAbove).1]
    exact iff_of_true rfl fun _ => hAbove
  · -- not above it: refused, which is right for a repetition only
    rw [(hOlder.defund_replay hFirst hAbove).1]
    by_cases hMem : defunding ∈ older
    · rw [if_pos hMem]
      exact iff_of_true rfl fun hNew => absurd hMem hNew
    · rw [if_neg hMem]
      exact iff_of_false (by simp) fun hAll => hAbove (hAll hMem)

/-- In order, accounts and float depend on what was presented only. -/
theorem present_eq {issuer : Issuer} {messages messages' : List Defunding}
    (hKnown : ∀ defunding ∈ messages, issuer.Known defunding)
    (hSame : ∀ defunding, defunding ∈ messages ↔ defunding ∈ messages')
    (hOrder : issuer.InOrder messages) (hOrder' : issuer.InOrder messages') :
    (issuer.present messages).accounts = (issuer.present messages').accounts ∧
      (issuer.present messages).offlineFloat = (issuer.present messages').offlineFloat := by
  have hKnown' : ∀ defunding ∈ messages', issuer.Known defunding :=
    fun defunding hMem => hKnown defunding ((hSame defunding).mpr hMem)
  have hRecords : ∀ defunding, issuer.Known defunding → ∃ record,
      issuer.devices.lookup defunding.device = some record := fun defunding hFirst => by
    obtain ⟨record, hRecord, -⟩ := hFirst
    exact ⟨record, hRecord⟩
  rw [inOrder_iff fun defunding hMem => hRecords defunding (hKnown defunding hMem)] at hOrder
  rw [inOrder_iff fun defunding hMem => hRecords defunding (hKnown' defunding hMem)] at hOrder'
  have hPerm : (issuer.taken messages).Perm (issuer.taken messages') :=
    HighWater.taken_perm hOrder hOrder' hSame
  have hPresented := presented hKnown
  have hPresented' := presented hKnown'
  constructor
  · refine Finmap.ext_lookup fun account => ?_
    rw [hPresented.account, hPresented'.account, credits, credits,
      ((hPerm.filter _).map _).sum_eq]
  · rw [hPresented.float, hPresented'.float, repaid, repaid, (hPerm.map _).sum_eq]

end Issuer

namespace System

variable [Sha256] {R G : Type} [Rng R] [Rng G] {keypair : Keypair} {history : List Event}
  {s : System R}

/-- What an element signed is known to the issuer. -/
theorem Reachable.known (h : Reachable R G keypair history s) {certificate : DeviceCertificate}
    {defunding : Defunding} {state : ElementState}
    (hMem : .wallet certificate (.defunded defunding state) ∈ history) :
    s.issuer.Known defunding := by
  obtain ⟨w, hWallet, -, hDevice, hSigned⟩ := h.enrolled.genuine hMem
  obtain ⟨record, hRecord, hKey⟩ := h.recorded hWallet
  refine ⟨record, ?_, ?_, Issuer.accounts_exist h.enrolled.issuer_run _ record hRecord⟩
  · rw [hDevice, hRecord]
  · rw [hKey, hSigned]
    exact (h.enrolled.wallet_of hWallet).generated.verify_sign _

/-- **Defundings in order.** In every reachable state, for every sequence of
presentations of defundings that elements have signed: each is credited at its
first presentation and refused as a replay afterwards if and only if those of each
device are first presented in the order of their counters, above the counter on
record; and all such sequences of the same defundings leave the same account
balances and the same float. -/
theorem defundings_in_order (h : Reachable R G keypair history s) {messages : List Defunding}
    (hSigned : ∀ defunding ∈ messages, ∃ certificate state,
      .wallet certificate (.defunded defunding state) ∈ history) :
    (s.issuer.CreditsOnce messages ↔ s.issuer.InOrder messages) ∧
      ∀ messages', (∀ defunding, defunding ∈ messages ↔ defunding ∈ messages') →
        s.issuer.InOrder messages → s.issuer.InOrder messages' →
          (s.issuer.present messages).accounts = (s.issuer.present messages').accounts ∧
            (s.issuer.present messages).offlineFloat =
              (s.issuer.present messages').offlineFloat := by
  have hKnown : ∀ defunding ∈ messages, s.issuer.Known defunding := fun defunding hMem => by
    obtain ⟨certificate, state, hEvent⟩ := hSigned defunding hMem
    exact h.known hEvent
  exact ⟨Issuer.creditsOnce_iff hKnown,
    fun messages' hSame hOrder hOrder' => Issuer.present_eq hKnown hSame hOrder hOrder'⟩

end System

-- ---------------------------------------------------------------------------
-- Two defundings of one device
-- ---------------------------------------------------------------------------

section Sample

open scoped Fips

/-- Two defundings that the first sample element signs one after the other. -/
def firstDefunding : Defunding := (sampleFunded.debited 300).defundingFor 100

def secondDefunding : Defunding := ((sampleFunded.debited 300).debited 100).defundingFor 200

def sampleDefundedHistory : List System.Event :=
  [.wallet (sampleCertificate aliceKeys 1) (.defunded secondDefunding .sealed),
    .wallet (sampleCertificate aliceKeys 1) (.defunded firstDefunding .sealed)] ++
    samplePaidHistory

def sampleDefunded : System CountingRng :=
  { samplePaid with
    wallets := (samplePaid.wallets.insert (sampleDevice 1)
      ((sampleFunded.debited 300).debited 100)).insert (sampleDevice 1)
        (((sampleFunded.debited 300).debited 100).debited 200) }

theorem sampleDefunded_reachable : System.Reachable CountingRng CountingRng issuerKeys
    sampleDefundedHistory sampleDefunded := by
  have hFirst := samplePaid_reachable.wallet_next samplePaid_alice
    (Wallet.Step.defund 100 (by decide) (show (100 : UInt64) ≤ 1000 - 300 by decide))
    (fun _ hp => absurd hp List.not_mem_nil)
  exact hFirst.wallet_next (Finmap.lookup_insert _)
    (Wallet.Step.defund 200 (by decide) (show (200 : UInt64) ≤ 1000 - 300 - 100 by decide))
    (fun _ hp => absurd hp List.not_mem_nil)

theorem sampleDefunded_signed : ∀ defunding ∈ [secondDefunding, firstDefunding],
    ∃ certificate state, .wallet certificate (.defunded defunding state) ∈
      sampleDefundedHistory := by
  intro defunding hMem
  rcases List.mem_pair.mp hMem with rfl | rfl
  · exact ⟨_, _, List.mem_cons_self⟩
  · exact ⟨_, _, List.mem_cons_of_mem _ List.mem_cons_self⟩

/-- Presented in the order they were signed in, both are credited. -/
theorem defundings_in_order_sample :
    sampleDefunded.issuer.InOrder [secondDefunding, firstDefunding] ∧
      sampleDefunded.issuer.CreditsOnce [secondDefunding, firstDefunding] := by
  have hOrder : sampleDefunded.issuer.InOrder [secondDefunding, firstDefunding] := by
    have hLast : sampleDefunded.issuer.lastCounter (sampleDevice 1) = 0 :=
      Issuer.lastCounter_eq sampleIssuer_alice
    rw [Issuer.inOrder_iff fun defunding hMem => ?_]
    · refine ⟨Or.inr ⟨?_, fun earlier hMem _ => ?_⟩, Or.inr ⟨?_, fun _ hMem => ?_⟩, trivial⟩
      · show sampleDefunded.issuer.lastCounter (sampleDevice 1) < _
        rw [hLast]
        exact (show 0 < (0 + 1 + 1 + 1 : UInt64).toNat by decide)
      · rw [List.mem_singleton.mp hMem]
        exact (show (0 + 1 + 1 : UInt64).toNat < (0 + 1 + 1 + 1 : UInt64).toNat by decide)
      · show sampleDefunded.issuer.lastCounter (sampleDevice 1) < _
        rw [hLast]
        exact (show 0 < (0 + 1 + 1 : UInt64).toNat by decide)
      · exact absurd hMem List.not_mem_nil
    · rcases List.mem_pair.mp hMem with rfl | rfl
      · exact ⟨_, sampleIssuer_alice⟩
      · exact ⟨_, sampleIssuer_alice⟩
  exact ⟨hOrder, (System.defundings_in_order sampleDefunded_reachable
    sampleDefunded_signed).1.mpr hOrder⟩

/-- Both are signed by a sealed element and neither has been presented; but the
first is refused once the second has been credited. -/
theorem overtaken_refused :
    System.Reachable CountingRng CountingRng issuerKeys sampleDefundedHistory sampleDefunded ∧
      (∀ certificate, .wallet certificate .cracked ∉ sampleDefundedHistory) ∧
      (∀ defunding ∈ [firstDefunding, secondDefunding],
        (∃ certificate state, .wallet certificate (.defunded defunding state) ∈
          sampleDefundedHistory) ∧
        defunding.content ∉ System.credited sampleDefundedHistory) ∧
      (sampleDefunded.issuer.defund secondDefunding).1 = .ok 200 ∧
      (sampleDefunded.issuer.present [secondDefunding]).defund firstDefunding =
        (.error .replay, sampleDefunded.issuer.present [secondDefunding]) ∧
      ¬ sampleDefunded.issuer.CreditsOnce [firstDefunding, secondDefunding] := by
  have hSecond : sampleDefunded.issuer.defund secondDefunding = _ := Issuer.defund_eq
    sampleIssuer_alice
    (((sampleFunded.debited 300).debited 100).defundingFor_verifies aliceKeys_generated 200)
    (show (0 : UInt64) < 0 + 1 + 1 + 1 by decide) (Finmap.lookup_insert _)
  have hFirst : (sampleDefunded.issuer.present [secondDefunding]).defund firstDefunding =
      (.error .replay, sampleDefunded.issuer.present [secondDefunding]) := by
    rw [Issuer.present, Issuer.present, hSecond]
    exact Issuer.defund_replay (Finmap.lookup_insert _)
      ((sampleFunded.debited 300).defundingFor_verifies aliceKeys_generated 100)
      (show (0 + 1 + 1 : UInt64) ≤ 0 + 1 + 1 + 1 by decide)
  have hOther : firstDefunding ∉ [secondDefunding] := by
    intro hMem
    have hCounter := congrArg Defunding.counter (List.mem_singleton.mp hMem)
    exact absurd hCounter (show (0 + 1 + 1 : UInt64) ≠ 0 + 1 + 1 + 1 by decide)
  refine ⟨sampleDefunded_reachable, fun certificate hMem => ?_, fun defunding hMem => ?_, ?_,
    hFirst, fun hOnce => ?_⟩
  · simp [sampleDefundedHistory, samplePaidHistory, sampleHistory] at hMem
  · refine ⟨sampleDefunded_signed defunding ?_, ?_⟩
    · rcases List.mem_pair.mp hMem with rfl | rfl
      · exact List.mem_cons_of_mem _ List.mem_cons_self
      · exact List.mem_cons_self
    · -- all that was credited so far is the funding
      have hAll : System.credited sampleDefundedHistory = [sampleFunding.content] := rfl
      rw [hAll, List.mem_singleton]
      exact fun hContent => by simp [Defunding.content, Funding.content] at hContent
  · rw [hSecond]
    rfl
  · have hFails := hOnce [] firstDefunding [secondDefunding] rfl
    rw [hFirst, if_neg hOther] at hFails
    exact absurd hFails (by simp)

end Sample

end DigitalEuro
