import DigitalEuro.Model.Refinement

/-!
# Digital euro — account credits and the money supply

`Issuer::defund` adds to an account without looking at what is there, and value
that was paid offline can be defunded into another account than it was funded
from. So what bounds one account is the money supply: everything accounts were
opened with.

* `Issuer.money_le` — online balances and float never exceed the supply, also when
  a credit wraps or an account is opened again;
* `System.Reachable.balances_le_float` — sealed elements hold at most the float,
  however often they debit themselves;
* `System.defund_credits_exactly` — a supply within `u64` makes every credit exact;
* `defund_wraps` — with one cent more, a credit can wrap.
-/

namespace DigitalEuro

-- ---------------------------------------------------------------------------
-- The issuer's side
-- ---------------------------------------------------------------------------

namespace Issuer

variable [Sha256] {G : Type} [Rng G]

/-- No call adds more money than it opens an account with. -/
theorem money_le_step {issuer issuer' : Issuer} {op : Op G} {e : Event}
    (hStep : Step issuer op e issuer') : issuer'.money ≤ issuer.money + e.opening := by
  cases hStep with
  | openAccount account balanceCents =>
    have hInsert := Finmap.total_insert UInt64.toNat issuer.accounts account balanceCents
    have hErase := Finmap.total_erase_le UInt64.toNat issuer.accounts account
    simp only [money, openAccount, Event.opening]
    omega
  | certifyDevice account publicKey limit rng _ => simp [money, Event.opening]
  | fund request record balance _ _ _ _ hAccount hFunds =>
    exact (money_funded hAccount hFunds).le.trans (by simp [Event.opening])
  | defund defunding record balance _ _ _ hAccount =>
    have hMoney := money_defunded defunding hAccount
    -- a credit that wraps loses money
    have hCredit : (balance + defunding.amountCents).toNat ≤
        balance.toNat + defunding.amountCents.toNat := by
      rw [UInt64.toNat_add]
      exact Nat.mod_le _ _
    simp only [Event.opening]
    omega

/-- **The supply bounds the money**, in every run of the issuer. -/
theorem money_le {allowed : List Event → Issuer → Op G → Prop} {keypair : Keypair}
    {history : List Event} {issuer : Issuer}
    (hRun : Machine.Reaches exec allowed (new keypair) history issuer) :
    issuer.money ≤ openings history := by
  refine covers.induction (P := fun history issuer => issuer.money ≤ openings history) hRun
    (le_refl _) ?_
  intro history issuer op e issuer' _ _ ih hStep
  have hNext := money_le_step hStep
  rw [openings_cons]
  push_cast
  omega

end Issuer

-- ---------------------------------------------------------------------------
-- The elements' side
-- ---------------------------------------------------------------------------

namespace System

/-- Messages that are received once each are worth at most what was sent. -/
theorem value_le {sent received : List Content} (hReceived : received.Nodup)
    (hSubset : received ⊆ sent) : value received ≤ value sent := by
  obtain ⟨kept, hPerm, hSublist⟩ := List.subperm_of_subset hReceived hSubset
  rw [← value_perm hPerm]
  exact (hSublist.map Content.value).sum_le_sum fun _ _ => Nat.zero_le _

variable [Sha256] {R G : Type} [Rng R] [Rng G] {keypair : Keypair} {history : List Event}
  {s : System R}

theorem Reachable.balances_le_float (h : Reachable R G keypair history s)
    (hSealed : ∀ certificate, .wallet certificate .cracked ∉ history) :
    (s.balances : ℤ) ≤ s.issuer.offlineFloat := by
  have hBalanced : Balanced history s := h.enrolled.balanced
  have hNothing := h.enrolled.created_eq_zero hSealed
  have hCredited := value_le (credited_nodup h.enrolled) (credited_subset_signed h)
  unfold Balanced at hBalanced
  omega

/-- A defunding that passes the checks is backed by the float, so its credit fits. -/
theorem Reachable.credit_fits (h : Reachable R G keypair history s)
    (hSealed : ∀ certificate, .wallet certificate .cracked ∉ history)
    (hSupply : Issuer.openings (issuerEvents history) < 2 ^ 64) {defunding : Defunding}
    (hUnforged : Unforged history s (Op.issuer (R := R) (G := G) (.defund defunding)))
    {record : DeviceRecord} {balance : UInt64}
    (hDevice : s.issuer.devices.lookup defunding.device = some record)
    (hSignature : record.publicKey.verify defunding.digest defunding.signature = true)
    (hNew : record.lastDefundingCounter < defunding.counter)
    (hAccount : s.issuer.accounts.lookup record.account = some balance) :
    balance.toNat + defunding.amountCents.toNat < 2 ^ 64 := by
  -- after the call the elements are backed by what is left of the float
  have hStep := Issuer.Step.defund (G := G) defunding record balance hDevice hSignature hNew hAccount
  have hNext : Reachable R G keypair
      (.issuer (.defunded record.account defunding) :: history)
      { s with issuer := s.issuer.defunded defunding record balance } :=
    h.next (a := .issuer (.defund defunding))
      ⟨enrolment_issuer (issuerEvents history) fun _ _ _ _ hOp => absurd hOp (by simp), hUnforged⟩
      (Step.issuer hStep).exec_eq
  have hBacked : 0 ≤ s.issuer.offlineFloat - defunding.amountCents.toNat := by
    have hFloat := hNext.balances_le_float fun certificate hMem => by
      rcases List.mem_cons.mp hMem with hNow | hOld
      · exact absurd hNow (by simp)
      · exact hSealed certificate hOld
    have hHeld : (0 : ℤ) ≤ (balances
        { s with issuer := s.issuer.defunded defunding record balance } : ℕ) := Int.natCast_nonneg _
    exact le_trans hHeld hFloat
  have hMoney := Issuer.money_le h.enrolled.issuer_run
  have hPart := Finmap.le_total (f := UInt64.toNat) hAccount
  unfold Issuer.money at hMoney
  omega

/-- **Account credits are exact.** In every state of a run of sealed elements in which
signatures cannot be forged, as long as the accounts were opened with no more than a
`u64` holds: an accepted defunding leaves its account with exactly the old balance and
the amount, and one whose credit would not fit is refused, the issuer unchanged. -/
theorem defund_credits_exactly (h : Reachable R G keypair history s)
    (hSealed : ∀ certificate, .wallet certificate .cracked ∉ history)
    (hSupply : Issuer.openings (issuerEvents history) < 2 ^ 64) {defunding : Defunding}
    (hUnforged : Unforged history s (Op.issuer (R := R) (G := G) (.defund defunding))) :
    (∀ amountCents, (s.issuer.defund defunding).1 = .ok amountCents →
      ∃ account balance balance', s.issuer.accountOf defunding.device = some account ∧
        s.issuer.balanceOf account = some balance ∧
        (s.issuer.defund defunding).2.balanceOf account = some balance' ∧
        balance'.toNat = balance.toNat + amountCents.toNat) ∧
    ∀ account balance, s.issuer.accountOf defunding.device = some account →
      s.issuer.balanceOf account = some balance →
      2 ^ 64 ≤ balance.toNat + defunding.amountCents.toNat →
        ∃ error, s.issuer.defund defunding = (.error error, s.issuer) := by
  rcases s.issuer.defund_cases defunding with
    ⟨error, hError⟩ | ⟨record, balance, hDevice, hSignature, hNew, hAccount⟩
  · refine ⟨fun amountCents hOk => ?_, fun _ _ _ _ _ => ⟨error, hError⟩⟩
    rw [hError] at hOk
    exact absurd hOk (by simp)
  have hFits := h.credit_fits hSealed hSupply hUnforged hDevice hSignature hNew hAccount
  have hEq := Issuer.defund_eq hDevice hSignature hNew hAccount
  refine ⟨fun amountCents hOk => ?_, fun account balance' hOwner hBalance hLarge => ?_⟩
  · rw [hEq] at hOk ⊢
    obtain rfl := Except.ok.inj hOk
    exact ⟨record.account, balance, _, Issuer.accountOf_eq hDevice, hAccount,
      Finmap.lookup_insert _, toNat_add_of_lt hFits⟩
  · rw [Issuer.accountOf_eq hDevice, Option.some.injEq] at hOwner
    rw [← hOwner, Issuer.balanceOf, hAccount, Option.some.injEq] at hBalance
    rw [← hBalance] at hLarge
    exact absurd hLarge (Nat.not_le.mpr hFits)

end System

/-- The record of a device that has defunded nothing. -/
def supplyRecord (account : AccountId) (keys : Keypair) : DeviceRecord where
  account := account
  publicKey := keys.publicKey
  lastDefundingCounter := 0

section Witness

open scoped Fips

/-- The payer of the sample defunds 1 € of its 7 €; its account has 40 €. -/
theorem defund_credits_exactly_sample :
    ∃ balance', (samplePaid.issuer.defund
        ((sampleFunded.debited 300).defundingFor 100)).2.balanceOf sampleAccount = some balance' ∧
      balance'.toNat = 4100 := by
  have hSigned := samplePaid_reachable.wallet_next samplePaid_alice
    (Wallet.Step.defund 100 (by decide) (show (100 : UInt64) ≤ 700 by decide))
    (fun _ hp => absurd hp List.not_mem_nil)
  have hSignature := (sampleFunded.debited 300).defundingFor_verifies aliceKeys_generated 100
  have hAccount : samplePaid.issuer.accounts.lookup sampleAccount = some 4000 :=
    Finmap.lookup_insert _
  have hRecord : samplePaid.issuer.devices.lookup (sampleDevice 1) =
      some (supplyRecord sampleAccount aliceKeys) := sampleIssuer_alice
  have hDefund : samplePaid.issuer.defund ((sampleFunded.debited 300).defundingFor 100) = _ :=
    Issuer.defund_eq hRecord hSignature (show (0 : UInt64) < 0 + 1 + 1 by decide) hAccount
  have hUnforged : System.Unforged
      (.wallet (sampleCertificate aliceKeys 1) (.defunded
        ((sampleFunded.debited 300).defundingFor 100) .sealed) :: samplePaidHistory)
      { samplePaid with
        wallets := samplePaid.wallets.insert (sampleDevice 1)
          ((sampleFunded.debited 300).debited 100) }
      (System.Op.issuer (R := CountingRng) (G := CountingRng)
        (.defund ((sampleFunded.debited 300).defundingFor 100))) := by
    refine System.unforged_of_signed fun p hp => ?_
    rw [System.presented_defund (R := CountingRng) (G := CountingRng) hRecord] at hp
    obtain rfl := List.mem_singleton.mp hp
    exact ⟨_, List.mem_cons_self, rfl⟩
  obtain ⟨account, balance, balance', hOwner, hBalance, hBalance', hSum⟩ :=
    (System.defund_credits_exactly hSigned
      (fun certificate hMem => by simp [samplePaidHistory, sampleHistory] at hMem)
      (by decide +kernel) hUnforged).1 100 (congrArg Prod.fst hDefund)
  have hSame : sampleAccount = account := Option.some.inj hOwner
  rw [← hSame] at hBalance hBalance'
  refine ⟨balance', hBalance', ?_⟩
  rw [hSum, ← Option.some.inj (hAccount.symm.trans hBalance)]
  rfl

end Witness

namespace System

variable [Sha256] {R G : Type} [Rng R] [Rng G] {keypair : Keypair} {history : List Event}
  {s : System R}

-- ---------------------------------------------------------------------------
-- A credit that wraps
-- ---------------------------------------------------------------------------

/-- A payment that goes through is three calls of the system. -/
theorem Reachable.pay_next (h : Reachable R G keypair history s) {payer payee : DeviceId}
    (hOther : payer ≠ payee) {w w' : Wallet R} (hPayer : s.wallets.lookup payer = some w)
    (hPayee : s.wallets.lookup payee = some w') (hFresh : FreshNonce history payee w')
    {amountCents : UInt64} (hPos : amountCents ≠ 0) (hRoom : amountCents ≤ w'.headroom)
    (hFunds : amountCents ≤ w.balanceCents) :
    ∃ request, Reachable R G keypair
      ([.wallet w'.certificate (.received (w.transferFor request)),
        .wallet w.certificate (.paid request (w.transferFor request) w.state),
        .wallet w'.certificate (.requested request)] ++ history)
      { s with
        wallets := (s.wallets.insert payee (w'.credit amountCents)).insert payer
          (w.debited amountCents) } := by
  have hCan := h.enrolled.canPay hOther hPayer hPayee
  obtain ⟨hIncoming, -, hUncredited⟩ := (h.enrolled.wallet_of hPayee).untouched hFresh
  obtain ⟨account, issued, hIssued, hContent⟩ := h.certified hPayer
  obtain ⟨account', issued', hIssued', hContent'⟩ := h.certified hPayee
  let request : PaymentRequest :=
    { payee := w'.certificate, amountCents, nonce := (Rng.gen w'.rng).1 }
  have hAsked := h.wallet_next hPayee (Wallet.Step.requestPayment amountCents hPos hRoom)
    (fun _ hp => absurd hp List.not_mem_nil)
  have hPaid := hAsked.wallet_next ((Finmap.lookup_insert_of_ne _ hOther).trans hPayer)
    (Wallet.Step.pay request hCan.payee_verifies hCan.other hPos hFunds) (by
      intro p hp
      obtain rfl := List.mem_singleton.mp hp
      refine ⟨_, List.mem_cons_of_mem _ hIssued', ?_⟩
      rw [Event.signing, hContent'])
  have hSignature := Wallet.transferFor_verifies hCan.generated hCan.publicKey_eq request
  have hReceived := hPaid.wallet_next
    ((Finmap.lookup_insert_of_ne _ hOther.symm).trans (Finmap.lookup_insert _))
    (Wallet.Step.receive (w.transferFor request) rfl hCan.payer_verifies hSignature hUncredited
      (Finmap.lookup_insert _)) (by
      intro p hp
      rcases List.mem_cons.mp hp with rfl | hp
      · refine ⟨_, List.mem_cons_of_mem _ (List.mem_cons_of_mem _ hIssued), ?_⟩
        rw [Event.signing, hContent, Wallet.transferFor_payer]
      · obtain rfl := List.mem_singleton.mp hp
        exact ⟨_, List.mem_cons_self, rfl⟩)
  refine ⟨request, ?_⟩
  simp only [Finmap.insert_insert_of_ne _ hOther.symm, Finmap.insert_insert,
    Wallet.transferFor_nonce, request, Finmap.erase_insert_of_lookup_none hIncoming] at hReceived
  rw [Finmap.insert_insert_of_ne _ hOther.symm]
  exact hReceived

end System

section Sample

variable [Sha256]

/-- Another account. -/
def fullAccount : AccountId := ⟨(Rng.gen (⟨1⟩ : CountingRng)).1⟩

/-- An issuer with an account of one cent and a full one, and a device for each. -/
def supplyIssuer : Issuer :=
  { Issuer.new issuerKeys with
    accounts := ((∅ : Finmap _).insert sampleAccount 1).insert fullAccount maxCents
    devices := ((∅ : Finmap _).insert (sampleDevice 1) (supplyRecord sampleAccount aliceKeys)).insert
      (sampleDevice 2) (supplyRecord fullAccount bakeryKeys) }

def supplySystem : System CountingRng := { sampleSystem with issuer := supplyIssuer }

def supplyHistory : List System.Event :=
  [.installed (sampleCertificate bakeryKeys 2), .installed (sampleCertificate aliceKeys 1),
    .issuer (.certified fullAccount (sampleCertificate bakeryKeys 2)),
    .issuer (.certified sampleAccount (sampleCertificate aliceKeys 1)),
    .issuer (.opened fullAccount maxCents), .issuer (.opened sampleAccount 1)]

theorem supplySystem_reachable :
    System.Reachable CountingRng CountingRng issuerKeys supplyHistory supplySystem := by
  have hCent : System.Reachable CountingRng CountingRng issuerKeys _ _ :=
    System.Reachable.issuer_next .start (Issuer.Step.openAccount sampleAccount 1)
      (fun _ _ _ _ hOp => absurd hOp (by simp)) (fun _ hp => absurd hp List.not_mem_nil)
  have hFull := hCent.issuer_next (Issuer.Step.openAccount fullAccount maxCents)
    (fun _ _ _ _ hOp => absurd hOp (by simp)) (fun _ hp => absurd hp List.not_mem_nil)
  have hAlice := hFull.issuer_next
    (Issuer.Step.certifyDevice sampleAccount aliceKeys.publicKey sampleLimit ⟨1⟩ rfl)
    (fun _ _ _ _ hOp => by obtain ⟨-, -, -, rfl⟩ := Issuer.Op.certifyDevice.inj hOp; rfl)
    (fun _ hp => absurd hp List.not_mem_nil)
  have hBakery := hAlice.issuer_next
    (Issuer.Step.certifyDevice fullAccount bakeryKeys.publicKey sampleLimit ⟨2⟩ rfl)
    (fun _ _ _ _ hOp => by
      obtain ⟨-, -, -, rfl⟩ := Issuer.Op.certifyDevice.inj hOp
      exact Finmap.lookup_insert_of_ne _ sampleDevice_ne)
    (fun _ hp => absurd hp List.not_mem_nil)
  have hFirst := hBakery.install_next (⟨0⟩ : CountingRng)
    (List.mem_cons_of_mem _ List.mem_cons_self) (issuerKeys_generated.verify_certify ..) rfl
    aliceKeys_generated rfl
  exact hFirst.install_next (⟨0⟩ : CountingRng)
    (List.mem_cons_of_mem _ List.mem_cons_self) (issuerKeys_generated.verify_certify ..) rfl
    bakeryKeys_generated (Finmap.lookup_insert_of_ne _ sampleDevice_ne)

/-- The cent is on the first device, and its account is empty. -/
def centIssuer : Issuer :=
  supplyIssuer.funded
    ((sampleWallet aliceKeys 1).fundingRequestFor 1 (Rng.gen (sampleWallet aliceKeys 1).rng).1)
    sampleAccount 1

theorem supply_onRecord :
    OnRecord (sampleWallet aliceKeys 1) supplyIssuer (supplyRecord sampleAccount aliceKeys) 1 where
  issuer_eq := rfl
  issuer_generated := issuerKeys_generated
  generated := aliceKeys_generated
  record_eq := (Finmap.lookup_insert_of_ne _ sampleDevice_ne.symm).trans (Finmap.lookup_insert _)
  publicKey_eq := rfl
  account_eq := (Finmap.lookup_insert_of_ne _ (by decide)).trans (Finmap.lookup_insert _)

theorem cent_onRecord :
    OnRecord ((sampleWallet bakeryKeys 2).credit 1) centIssuer
      (supplyRecord fullAccount bakeryKeys) maxCents where
  issuer_eq := rfl
  issuer_generated := issuerKeys_generated
  generated := bakeryKeys_generated
  record_eq := Finmap.lookup_insert _
  publicKey_eq := rfl
  account_eq := (Finmap.lookup_insert_of_ne _ (by decide)).trans (Finmap.lookup_insert _)

end Sample

section Counterexample

open scoped Fips

/-- Two accounts were opened with 2^64 cents together. The cent of one is funded, paid
to the device of the other and defunded; the issuer accepts, and the full account
holds nothing. -/
theorem defund_wraps :
    ∃ history s w, System.Reachable CountingRng CountingRng issuerKeys history s ∧
      (∀ certificate, .wallet certificate .cracked ∉ history) ∧
      Issuer.openings (System.issuerEvents history) = 2 ^ 64 ∧
      s.wallets.lookup (sampleDevice 2) = some w ∧
      s.issuer.accountOf (sampleDevice 2) = some fullAccount ∧
      s.issuer.balanceOf fullAccount = some maxCents ∧
      (defund w s.issuer 1).1 = .ok 1 ∧
      (defund w s.issuer 1).2.2.balanceOf fullAccount = some 0 := by
  have hFunded := supplySystem_reachable.fund_next sampleSystem_alice List.not_mem_nil
    supply_onRecord (by decide) (by rw [sampleWallet_headroom]; decide) (UInt64.le_refl 1)
  obtain ⟨request, hPaid⟩ := hFunded.pay_next sampleDevice_ne.symm (Finmap.lookup_insert _)
    ((Finmap.lookup_insert_of_ne _ sampleDevice_ne).trans sampleSystem_bakery)
    List.not_mem_nil (show (1 : UInt64) ≠ 0 by decide) (by rw [sampleWallet_headroom]; decide)
    (UInt64.le_refl 1)
  have hDefund := defund_ok cent_onRecord (show (1 : UInt64) ≠ 0 by decide) (UInt64.le_refl 1)
    (show (0 : UInt64) < 0 + 1 by decide)
  refine ⟨_, _, (sampleWallet bakeryKeys 2).credit 1, hPaid, fun certificate hMem => ?_, ?_, ?_,
    Issuer.accountOf_eq cent_onRecord.record_eq, cent_onRecord.account_eq, ?_, ?_⟩
  · simp [supplyHistory] at hMem
  · have hOpened : Issuer.openings (System.issuerEvents supplyHistory) = 2 ^ 64 := by
      decide +kernel
    simp only [List.cons_append, List.nil_append, System.issuerEvents_wallet,
      System.issuerEvents_issuer, Issuer.openings_cons, Issuer.Event.opening, hOpened, zero_add]
  · exact (Finmap.lookup_insert_of_ne _ sampleDevice_ne).trans (Finmap.lookup_insert _)
  · exact congrArg Prod.fst hDefund
  · have hCredited : (defund ((sampleWallet bakeryKeys 2).credit 1) centIssuer 1).2.2.balanceOf
        fullAccount = some (maxCents + 1) := by
      rw [hDefund]
      exact Finmap.lookup_insert _
    exact hCredited

end Counterexample

end DigitalEuro
