import DigitalEuro.Model.Atomicity
import DigitalEuro.Model.Conservation

/-!
# Digital euro — what the issuer has seen of an element

The issuer knows an element by the nonces it has funded and the counters it has
credited. When signatures cannot be forged, both come from the element.

* `Reachable.drawn_of_funded` — the issuer funds only nonces the device has drawn,
  so a fresh nonce is new to it;
* `Reachable.last_le_counter` — the issuer has seen no counter above the element's;
* `counter_discipline` — the k-th debit signs counter k, and what an element has
  just signed is no replay to the issuer.
-/

namespace DigitalEuro

namespace System

variable [Sha256] {R G : Type} [Rng R] [Rng G] {keypair : Keypair} {history : List Event}
  {s : System R}

-- ---------------------------------------------------------------------------
-- Nonces
-- ---------------------------------------------------------------------------

/-- The issuer funds only nonces that the device has drawn. -/
theorem Reachable.drawn_of_funded (h : Reachable R G keypair history s) {device : DeviceId}
    {nonce : Nonce} (hFunded : (device, nonce) ∈ s.issuer.fundingNonces) :
    nonce ∈ Wallet.drawnNonces (localEvents device history) := by
  have hKey := (Issuer.mem_fundedKeys h.enrolled.issuer_run _).mpr hFunded
  obtain ⟨e, hEvent, hSome⟩ := List.mem_filterMap.mp hKey
  cases e with
  | funded account request funding =>
    obtain ⟨rfl, rfl⟩ := Prod.mk.inj (Option.some.inj hSome)
    obtain ⟨older, s₁, op, issuer', hSuffix, hOlder, hUnforged, hStep⟩ :=
      h.issuer_call (mem_issuerEvents.mp hEvent)
    cases hStep with
    | fund _ record balance hRecord hSignature _ _ _ _ =>
      obtain ⟨certificate, request', hMem, hDevice, -, -, hNonce⟩ :=
        hOlder.fundingRequestedBy hUnforged hRecord hSignature
      have hLocal := mem_localEvents (hSuffix.mem (List.mem_cons_of_mem _ hMem))
      rw [hDevice] at hLocal
      exact List.mem_filterMap.mpr ⟨_, hLocal, congrArg some hNonce⟩
  | opened | certified | defunded => exact absurd hSome (by simp [Issuer.Event.fundedKey])

/-- The next nonce of the element of a device is one it has not drawn. -/
def FreshNonce (history : List Event) (device : DeviceId) (w : Wallet R) : Prop :=
  (Rng.gen w.rng).1 ∉ Wallet.drawnNonces (localEvents device history)

theorem WalletOf.untouched {device : DeviceId} {w : Wallet R}
    (h : WalletOf keypair history device w) (hFresh : FreshNonce history device w) :
    w.incoming.lookup (Rng.gen w.rng).1 = none ∧
      w.pendingFunding.lookup (Rng.gen w.rng).1 = none ∧ (Rng.gen w.rng).1 ∉ w.credited := by
  obtain ⟨rng, hRun⟩ := h.run
  exact Wallet.untouched_of_fresh hRun hFresh

/-- The issuer has not funded a fresh nonce. -/
theorem Reachable.unfunded (h : Reachable R G keypair history s) {device : DeviceId}
    {w : Wallet R} (hWallet : s.wallets.lookup device = some w)
    (hFresh : FreshNonce history device w) :
    (w.device, (Rng.gen w.rng).1) ∉ s.issuer.fundingNonces := by
  intro hFunded
  have hDrawn := h.drawn_of_funded hFunded
  rw [Wallet.device, (h.enrolled.wallet_of hWallet).device_eq] at hDrawn
  exact hFresh hDrawn

-- ---------------------------------------------------------------------------
-- Counters
-- ---------------------------------------------------------------------------

/-- What the issuer has credited, the element had signed. -/
theorem Reachable.defundedBy_of_credited (h : Reachable R G keypair history s)
    {account : AccountId} {defunding : Defunding}
    (hMem : .issuer (.defunded account defunding) ∈ history) : DefundedBy history defunding := by
  obtain ⟨older, s₁, op, issuer', hSuffix, hOlder, hUnforged, hStep⟩ := h.issuer_call hMem
  cases hStep with
  | defund _ record balance hRecord hSignature _ _ =>
    obtain ⟨certificate, defunding', state, hSigned, hRest⟩ :=
      hOlder.defundedBy hUnforged hRecord hSignature
    exact ⟨certificate, defunding', state, hSuffix.mem (List.mem_cons_of_mem _ hSigned), hRest⟩

omit [Sha256] in
/-- The defunding behind a counter that was credited to a device. -/
theorem exists_of_mem_counters {device : DeviceId} {counter : UInt64}
    (h : counter ∈ Issuer.counters device (issuerEvents history)) :
    ∃ account defunding, .issuer (.defunded account defunding) ∈ history ∧
      defunding.device = device ∧ defunding.counter = counter := by
  obtain ⟨e, hEvent, hSome⟩ := List.mem_filterMap.mp h
  cases e with
  | defunded account defunding =>
    by_cases hDevice : defunding.device = device
    case neg => exact absurd hSome (by simp [Issuer.Event.counterOf, hDevice])
    rw [Issuer.Event.counterOf, if_pos hDevice, Option.some.injEq] at hSome
    exact ⟨account, defunding, mem_issuerEvents.mp hEvent, hDevice, hSome⟩
  | opened | certified | funded => exact absurd hSome (by simp [Issuer.Event.counterOf])

/-- The counters the issuer has credited to a device are ones its element signed. -/
theorem Reachable.signed_of_credited (h : Reachable R G keypair history s) {device : DeviceId}
    {counter : UInt64} (hCredited : counter ∈ Issuer.counters device (issuerEvents history)) :
    counter ∈ Wallet.counters (localEvents device history) := by
  obtain ⟨account, defunding, hMem, rfl, rfl⟩ := exists_of_mem_counters hCredited
  obtain ⟨certificate, defunding', state, hSigned, hDevice, -, -, hCounter⟩ :=
    h.defundedBy_of_credited hMem
  have hLocal := mem_localEvents hSigned
  rw [hDevice] at hLocal
  exact List.mem_filterMap.mpr ⟨_, hLocal, congrArg some hCounter⟩

/-- With fewer than 2^64 debits the issuer has seen no counter above the element's. -/
theorem Reachable.last_le_counter (h : Reachable R G keypair history s) {device : DeviceId}
    {w : Wallet R} {record : DeviceRecord} (hWallet : s.wallets.lookup device = some w)
    (hRecord : s.issuer.devices.lookup device = some record)
    (hFew : debits device history < 2 ^ 64) : record.lastDefundingCounter ≤ w.counter := by
  obtain ⟨rng, hRun⟩ := (h.enrolled.wallet_of hWallet).run
  have hMatch := Issuer.counters_match h.enrolled.issuer_run device
  have hLast := hMatch.last record hRecord
  cases hCounters : Issuer.counters device (issuerEvents history) with
  | nil =>
    rw [hLast, hCounters, List.headD_nil, UInt64.le_iff_toNat_le, UInt64.toNat_zero]
    exact Nat.zero_le _
  | cons newest older =>
    rw [hLast, hCounters, List.headD_cons]
    have hNewest : newest ∈ Issuer.counters device (issuerEvents history) := by
      rw [hCounters]
      exact List.mem_cons_self
    have hSigned := h.signed_of_credited hNewest
    exact (Wallet.counters_increasing hRun hFew).2 newest hSigned

/-- The next counter of an element is above all the issuer has seen. -/
theorem Reachable.last_lt_next (h : Reachable R G keypair history s) {device : DeviceId}
    {w : Wallet R} {record : DeviceRecord} (hWallet : s.wallets.lookup device = some w)
    (hRecord : s.issuer.devices.lookup device = some record)
    (hFew : debits device history + 1 < 2 ^ 64) :
    record.lastDefundingCounter < w.counter + 1 := by
  obtain ⟨rng, hRun⟩ := (h.enrolled.wallet_of hWallet).run
  exact UInt64.lt_of_le_of_lt (h.last_le_counter hWallet hRecord (Nat.lt_of_succ_lt hFew))
    (Wallet.counter_lt_next hRun hFew)

/-- The counters of an element are distinct, and none is zero. -/
theorem WalletOf.counters_distinct {device : DeviceId} {w : Wallet R}
    (h : WalletOf keypair history device w) (hFew : debits device history < 2 ^ 64) :
    (Wallet.counters (localEvents device history)).Nodup ∧
      0 ∉ Wallet.counters (localEvents device history) := by
  obtain ⟨rng, hRun⟩ := h.run
  have hRange := Wallet.counters_eq_range hRun hFew
  constructor
  · refine List.nodup_reverse.mp (List.Nodup.of_map UInt64.toNat ?_)
    rw [hRange]
    exact List.nodup_range'
  · intro hMem
    have hZero : (0 : ℕ) ∈ List.range' 1 (debits device history) := by
      rw [debits, ← hRange]
      exact List.mem_map.mpr ⟨0, List.mem_reverse.mpr hMem, rfl⟩
    exact absurd (List.mem_range'_1.mp hZero).1 (by omega)

/-- The defunding with the last counter on record has been credited. -/
theorem Reachable.credited_of_last (h : Reachable R G keypair history s)
    {certificate : DeviceCertificate} {defunding : Defunding} {state : ElementState}
    (hMem : .wallet certificate (.defunded defunding state) ∈ history)
    (hFew : debits certificate.device history < 2 ^ 64) {record : DeviceRecord}
    (hRecord : s.issuer.devices.lookup defunding.device = some record)
    (hLast : record.lastDefundingCounter = defunding.counter) :
    defunding.content ∈ credited history := by
  obtain ⟨w, hWallet, -, hGenuine⟩ := h.enrolled.genuine hMem
  have hDevice : defunding.device = certificate.device := hGenuine.1
  obtain ⟨hUnique, hZero⟩ := (h.enrolled.wallet_of hWallet).counters_distinct hFew
  have hLocal := mem_localEvents hMem
  have hHead := (Issuer.counters_match h.enrolled.issuer_run defunding.device).last record hRecord
  rw [hLast] at hHead
  cases hCounters : Issuer.counters defunding.device (issuerEvents history) with
  | nil =>
    rw [hCounters, List.headD_nil] at hHead
    refine absurd (List.mem_filterMap.mpr ⟨_, hLocal, ?_⟩) hZero
    rw [Wallet.Event.counter, hHead]
  | cons newest older =>
    rw [hCounters, List.headD_cons] at hHead
    have hNewest : newest ∈ Issuer.counters defunding.device (issuerEvents history) := by
      rw [hCounters]
      exact List.mem_cons_self
    obtain ⟨account, credited, hCredited, hOwner, hCounter⟩ := exists_of_mem_counters hNewest
    obtain ⟨certificate', defunding', state', hSigned, hSigner, hFields⟩ :=
      h.defundedBy_of_credited hCredited
    -- the element signed this counter once
    have hLocal' := mem_localEvents hSigned
    rw [hSigner, hOwner, hDevice] at hLocal'
    have hSame := Wallet.eq_of_counter hUnique hLocal hLocal' (congrArg some hHead)
      (congrArg some (hFields.2.2.trans hCounter))
    obtain ⟨rfl, -⟩ := Wallet.Event.defunded.inj hSame
    refine List.mem_filterMap.mpr ⟨_, hCredited, ?_⟩
    obtain ⟨hSameDevice, hSameAmount, hSameCounter⟩ := hFields
    rw [Event.credits, Defunding.content, Defunding.content, hSameDevice, hSameAmount,
      hSameCounter]

/-- **Counter discipline.** In every state of a run in which signatures cannot be
forged, for every element, sealed or cracked, that has signed fewer than 2^64 debits:

* its k-th debit signed counter k, so no two share one, and a refused debit uses
  none up;
* the issuer has on record at most its counter, so the defunding it signs next is
  no replay, and neither is one it has signed last until that is credited;
* and no defunding that was credited is credited again. -/
theorem counter_discipline (h : Reachable R G keypair history s) {device : DeviceId}
    {w : Wallet R} (hWallet : s.wallets.lookup device = some w)
    (hFew : debits device history < 2 ^ 64) :
    ((Wallet.counters (localEvents device history)).reverse.map UInt64.toNat =
        List.range' 1 (debits device history) ∧
      (Wallet.counters (localEvents device history)).Nodup) ∧
    ((∀ request error, (w.pay request).1 = .error error →
        (w.pay request).2.counter = w.counter) ∧
      ∀ amountCents error, (w.defund amountCents).1 = .error error →
        (w.defund amountCents).2.counter = w.counter) ∧
    (∀ record, s.issuer.devices.lookup device = some record →
      record.lastDefundingCounter ≤ w.counter) ∧
    (debits device history + 1 < 2 ^ 64 → ∀ amountCents defunding,
      (w.defund amountCents).1 = .ok defunding →
        (s.issuer.defund defunding).1 ≠ .error .replay) ∧
    (∀ certificate defunding state, .wallet certificate (.defunded defunding state) ∈ history →
      certificate.device = device → defunding.counter = w.counter →
      defunding.content ∉ credited history →
        (s.issuer.defund defunding).1 ≠ .error .replay) ∧
    ∀ defunding amountCents, defunding.content ∈ credited history →
      (s.issuer.defund defunding).1 ≠ .ok amountCents := by
  have hOf := h.enrolled.wallet_of hWallet
  obtain ⟨rng, hRun⟩ := hOf.run
  refine ⟨⟨Wallet.counters_eq_range hRun hFew, (hOf.counters_distinct hFew).1⟩, ⟨?_, ?_⟩, ?_, ?_,
    ?_, ?_⟩
  · intro request error hError
    rw [Wallet.pay_refused hError]
  · intro amountCents error hError
    rw [Wallet.defund_refused hError]
  · exact fun record hRecord => h.last_le_counter hWallet hRecord hFew
  · -- the next defunding
    intro hRoom amountCents defunding hOk hReplay
    obtain ⟨record, hRecord, hOld⟩ := Issuer.defund_eq_replay hReplay
    obtain ⟨hOwn, hCounter⟩ := Wallet.defund_ok hOk
    rw [hOwn, Wallet.device, hOf.device_eq] at hRecord
    rw [hCounter] at hOld
    exact absurd (h.last_lt_next hWallet hRecord hRoom) (UInt64.not_lt.mpr hOld)
  · -- the last defunding, until it is credited
    intro certificate defunding state hMem hDevice hCounter hNew hReplay
    obtain ⟨record, hRecord, hOld⟩ := Issuer.defund_eq_replay hReplay
    obtain ⟨w₁, -, -, hGenuine⟩ := h.enrolled.genuine hMem
    have hOwn : defunding.device = certificate.device := hGenuine.1
    subst hDevice
    have hLast := h.last_le_counter hWallet (hOwn ▸ hRecord) hFew
    rw [← hCounter] at hLast
    exact hNew (h.credited_of_last hMem hFew hRecord (UInt64.le_antisymm hLast hOld))
  · -- a defunding that was credited
    intro defunding amountCents hCredited hOk
    rcases s.issuer.defund_cases defunding with
      ⟨error, hError⟩ | ⟨record, balance, hRecord, -, hNew, -⟩
    · rw [hError] at hOk
      exact absurd hOk (by simp)
    · exact h.enrolled.defunding_new hRecord hNew hCredited

end System

section Sample

open scoped Fips

/-- The first sample device has signed one debit, a payment; the defunding it signs
next is no replay. -/
theorem counter_discipline_sample :
    (Wallet.counters (System.localEvents (sampleDevice 1) samplePaidHistory)).reverse.map
        UInt64.toNat = [1] ∧
      (samplePaid.issuer.defund ((sampleFunded.debited 300).defundingFor 100)).1 ≠
        .error .replay := by
  have hFew := System.debits_le_length (sampleDevice 1) samplePaidHistory
  have hLength : samplePaidHistory.length = 10 := rfl
  have hDiscipline := System.counter_discipline samplePaid_reachable samplePaid_alice
    (by omega)
  have hSigned : ((sampleFunded.debited 300).defund 100).1 = .ok _ :=
    congrArg Prod.fst (Wallet.defund_eq (by decide) (show (100 : UInt64) ≤ 1000 - 300 by decide))
  refine ⟨?_, hDiscipline.2.2.2.1 (by omega) 100 _ hSigned⟩
  have hDebits : System.debits (sampleDevice 1) samplePaidHistory = 1 := by decide +kernel
  rw [hDiscipline.1.1, hDebits]
  rfl

end Sample

end DigitalEuro
