import DigitalEuro.Model.Refinement

/-!
# Digital euro — the float in an `i128`

The issuer never reads its float, so nothing stops a cracked element from having it
debited until it leaves the range of an `i128`. What the wrap-around arithmetic then
holds is what is left of the sum in full.

* `Issuer.offlineFloatI128_of_run` — it is what an `i128` comes to that wraps at every
  call;
* `conservation` — the equation of the books holds as long as its sum is in range;
* `float_wraps` — 2^63 defundings of all there can be on one element are out of range.
-/

namespace DigitalEuro

-- ---------------------------------------------------------------------------
-- Wrap-around
-- ---------------------------------------------------------------------------

/-- The range of an `i128`. -/
def FitsI128 (x : ℤ) : Prop := -2 ^ 127 ≤ x ∧ x < 2 ^ 127

theorem i128_fits (x : ℤ) : FitsI128 (i128 x) := by
  have hLower := Int.le_bmod (x := x) (m := 2 ^ 128) (by decide)
  have hUpper := Int.bmod_lt (x := x) (m := 2 ^ 128) (by decide)
  unfold i128
  constructor <;> omega

/-- Only integers that are out of range are held as others. -/
theorem i128_eq_iff {x : ℤ} : i128 x = x ↔ FitsI128 x := by
  refine ⟨fun h => h ▸ i128_fits x, fun ⟨hLower, hUpper⟩ => ?_⟩
  exact Int.bmod_eq_of_le (by omega) (by omega)

/-- Sums can be wrapped at the end. -/
theorem i128_add (x y : ℤ) : i128 (i128 x + y) = i128 (x + y) := Int.bmod_add_bmod ..

namespace Issuer

variable [Sha256] {G : Type} [Rng G] {issuer issuer' : Issuer} {op : Op G} {e : Event}

omit [Sha256] in
/-- What moves the float in full moves the `i128` as far as it can go. -/
theorem offlineFloatI128_add {moved : ℤ}
    (h : issuer'.offlineFloat = issuer.offlineFloat + moved) :
    issuer'.offlineFloatI128 = i128 (issuer.offlineFloatI128 + moved) := by
  rw [offlineFloatI128, h, ← i128_add, offlineFloatI128]

/-- What an event adds to the float. -/
def Event.floated : Event → ℤ
  | .funded _ request _ => request.amountCents.toNat
  | .defunded _ defunding => -defunding.amountCents.toNat
  | .opened .. | .certified .. => 0

theorem Step.offlineFloat (h : Step issuer op e issuer') :
    issuer'.offlineFloat = issuer.offlineFloat + e.floated := by
  cases h with
  | openAccount | certifyDevice => exact (Int.add_zero _).symm
  | fund => rfl
  | defund => exact Int.sub_eq_add_neg

/-- An `i128` to which each event adds in turn. -/
def wrappedFloat (events : List Event) : ℤ :=
  events.foldr (fun e float => i128 (float + e.floated)) 0

/-- **The `i128` wraps call by call.** -/
theorem offlineFloatI128_of_run {allowed : List Event → Issuer → Op G → Prop}
    {keypair : Keypair} {history : List Event}
    (hRun : Machine.Reaches exec allowed (.new keypair) history issuer) :
    issuer.offlineFloatI128 = wrappedFloat history := by
  refine covers.induction (P := fun history issuer =>
    issuer.offlineFloatI128 = wrappedFloat history) hRun rfl ?_
  intro history issuer op e issuer' _ _ ih hStep
  rw [offlineFloatI128_add hStep.offlineFloat, ih]
  rfl

omit [Sha256] in
theorem Event.floated_lt (e : Event) : e.floated.natAbs < 2 ^ 64 := by
  cases e with
  | opened | certified => exact Nat.two_pow_pos 64
  | funded account request funding => exact request.amountCents.toNat_lt
  | defunded account defunding =>
    rw [floated, Int.natAbs_neg]
    exact defunding.amountCents.toNat_lt

end Issuer

namespace System

variable [Sha256] {R G : Type} [Rng R] [Rng G] {keypair : Keypair} {history : List Event}
  {s : System R}

-- ---------------------------------------------------------------------------
-- The books of an i128
-- ---------------------------------------------------------------------------

/-- Each call moves the float, in full, by less than 2^64. -/
theorem Enrolled.float_le (h : Enrolled R G keypair history s) :
    s.issuer.offlineFloat.natAbs ≤ history.length * (2 ^ 64 - 1) := by
  refine covers.induction (P := fun history s =>
    s.issuer.offlineFloat.natAbs ≤ history.length * (2 ^ 64 - 1)) h (Nat.zero_le _) ?_
  intro history s op e s' _ _ ih hStep
  rw [List.length_cons, Nat.succ_mul]
  cases hStep with
  | @issuer op e issuer' hStep =>
    have hMoved := hStep.offlineFloat
    have hLess := e.floated_lt
    show issuer'.offlineFloat.natAbs ≤ _
    omega
  | install | wallet => exact Nat.le_add_right_of_le ih

/-- What the float has to hold: the value on the elements and on its way, less what
cracked elements created. -/
def backed (history : List Event) (s : System R) : ℤ :=
  s.balances + outstanding history - created history

/-- **Conservation.** In every reachable state the float, an `i128` that wraps at every
call, is what the elements hold and what is on its way, less the value created by cracked
elements, as far as an `i128` holds it. So the books balance exactly when that is in range,
as it is after fewer than 2^63 calls. Without a cracked element the elements then hold at
most the float, and a negative float proves that value was created. -/
theorem conservation (h : Reachable R G keypair history s)
    (hFew : ∀ device, debits device history < 2 ^ 64) :
    (s.issuer.offlineFloatI128 = Issuer.wrappedFloat (issuerEvents history) ∧
        s.issuer.offlineFloatI128 = i128 (backed history s)) ∧
      (s.issuer.offlineFloatI128 + created history = s.balances + outstanding history ↔
        FitsI128 (backed history s)) ∧
      (history.length < 2 ^ 63 → FitsI128 (backed history s)) ∧
      (FitsI128 (backed history s) →
        ((∀ certificate, .wallet certificate .cracked ∉ history) →
          (s.balances : ℤ) ≤ s.issuer.offlineFloatI128 ∧ 0 ≤ s.issuer.offlineFloatI128) ∧
        (s.issuer.offlineFloatI128 < 0 →
          0 < created history ∧ ∃ certificate, .wallet certificate .cracked ∈ history)) := by
  have hBooks := books_balance h hFew
  have hBacked : s.issuer.offlineFloat = backed history s := by
    unfold backed
    omega
  have hFloat : s.issuer.offlineFloatI128 = i128 (backed history s) := by
    rw [Issuer.offlineFloatI128, hBacked]
  refine ⟨⟨Issuer.offlineFloatI128_of_run h.enrolled.issuer_run, hFloat⟩, ?_, fun hShort => ?_,
    fun hFits => ?_⟩
  · rw [← i128_eq_iff, hFloat]
    unfold backed
    constructor <;> intro hEquation <;> omega
  · have hLe := h.enrolled.float_le
    rw [hBacked] at hLe
    unfold FitsI128
    have hMul := Nat.mul_le_mul_right (2 ^ 64 - 1) (Nat.le_of_lt_succ hShort)
    omega
  · have hExact : s.issuer.offlineFloatI128 = s.issuer.offlineFloat := by
      rw [hFloat, i128_eq_iff.mpr hFits, hBacked]
    rw [hExact]
    refine ⟨fun hSealed => ?_, fun hNegative => ?_⟩
    · have hNothing := h.enrolled.created_eq_zero hSealed
      omega
    · refine ⟨by omega, ?_⟩
      by_contra hNone
      have hNothing := h.enrolled.created_eq_zero fun certificate hMem =>
        hNone ⟨certificate, hMem⟩
      omega

end System

section Sample

open scoped Fips

/-- 10 € were funded; 7 € are left on the payer and 3 € are on their way. -/
theorem conservation_sample :
    samplePaid.issuer.offlineFloatI128 = 1000 ∧ samplePaid.balances = 700 ∧
      samplePaid.issuer.offlineFloatI128 + System.created samplePaidHistory =
        samplePaid.balances + System.outstanding samplePaidHistory ∧
      (samplePaid.balances : ℤ) ≤ samplePaid.issuer.offlineFloatI128 := by
  have hLength : samplePaidHistory.length = 10 := rfl
  have hFew (device : DeviceId) : System.debits device samplePaidHistory < 2 ^ 64 :=
    lt_of_le_of_lt (System.debits_le_length device samplePaidHistory) (by omega)
  obtain ⟨-, hBooks, hShort, hFits⟩ := System.conservation samplePaid_reachable hFew
  have hInRange := hShort (by omega)
  have hSealed (certificate : DeviceCertificate) :
      .wallet certificate .cracked ∉ samplePaidHistory := by
    intro hMem
    simp [samplePaidHistory, sampleHistory] at hMem
  exact ⟨by decide +kernel, by decide +kernel, hBooks.mpr hInRange,
    ((hFits hInRange).1 hSealed).1⟩

end Sample

-- ---------------------------------------------------------------------------
-- A float that wraps
-- ---------------------------------------------------------------------------

section Counterexample

open scoped Fips

/-- A run in which the element of the one device is cracked and has signed `k` debits. -/
def CrackedRun (issuer : Issuer) (w : Wallet CountingRng) (k : ℕ) : Prop :=
  w.state = .cracked ∧ ∃ history,
    System.Reachable CountingRng CountingRng issuerKeys history (oneDevice issuer w) ∧
      System.debits (sampleDevice 1) history = k

namespace CrackedRun

variable {issuer : Issuer} {w : Wallet CountingRng} {k : ℕ} {record : DeviceRecord}
  {balance amountCents : UInt64}

/-- A cracked element keeps what it defunds. -/
theorem defund (h : CrackedRun issuer w k) (hOn : OnRecord w issuer record balance)
    (hFew : k + 1 < 2 ^ 64) (hPos : amountCents ≠ 0) (hFunds : amountCents ≤ w.balanceCents) :
    CrackedRun (issuer.defunded (w.defundingFor amountCents) record balance)
      (w.debited amountCents) (k + 1) := by
  obtain ⟨hCracked, history, hReach, rfl⟩ := h
  have hDevice := (hReach.enrolled.wallet_of (oneDevice_lookup issuer w)).device_eq
  have hRecord : issuer.devices.lookup (sampleDevice 1) = some record := by
    rw [← hDevice]
    exact hOn.record_eq
  have hNext := hReach.defund_next (oneDevice_lookup issuer w) hOn
    (hReach.last_lt_next (oneDevice_lookup issuer w) hRecord hFew) hPos hFunds
  simp only [oneDevice, Finmap.insert_insert] at hNext
  refine ⟨hCracked, _, hNext, ?_⟩
  simp only [List.cons_append, List.nil_append, System.debits, System.localEvents_issuer,
    System.localEvents_wallet hDevice]
  rfl

end CrackedRun

/-- The element holds everything there is when it is cracked. -/
theorem full_cracked_run :
    CrackedRun fullIssuer (unlimitedWallet.credit maxCents).crackSecureElement 0 := by
  have hFull := unlimited_reachable.fund_next (oneDevice_lookup _ _) List.not_mem_nil
    unlimited_onRecord (by decide) unlimited_room (UInt64.le_refl maxCents)
  have hNext := hFull.wallet_next (Finmap.lookup_insert _) Wallet.Step.crackSecureElement
    (fun _ hp => absurd hp List.not_mem_nil)
  simp only [oneDevice, Finmap.insert_insert] at hNext
  exact ⟨rfl, _, hNext, rfl⟩

/-- It can then be defunded whole again and again. -/
theorem drained (k : ℕ) (hFew : k < 2 ^ 64) :
    ∃ issuer w record balance, CrackedRun issuer w k ∧ OnRecord w issuer record balance ∧
      w.balanceCents = maxCents ∧
      issuer.offlineFloat = maxCents.toNat - k * maxCents.toNat := by
  induction k with
  | zero =>
    have hOn := unlimited_onRecord.funded maxCents
    exact ⟨fullIssuer, _, unlimitedRecord, maxCents - maxCents, full_cracked_run,
      ⟨hOn.issuer_eq, hOn.issuer_generated, hOn.generated, hOn.record_eq, hOn.publicKey_eq,
        hOn.account_eq⟩, rfl, rfl⟩
  | succ k ih =>
    obtain ⟨issuer, w, record, balance, hRun, hOn, hBalance, hFloat⟩ := ih (by omega)
    have hFunds : maxCents ≤ w.balanceCents := by
      rw [hBalance]
      exact UInt64.le_refl maxCents
    refine ⟨_, _, _, _, hRun.defund hOn hFew (by decide) hFunds, hOn.defunded maxCents, ?_, ?_⟩
    · rw [Wallet.debited, if_neg (by rw [hRun.1]; decide)]
      exact hBalance
    · show issuer.offlineFloat - maxCents.toNat = _
      rw [hFloat, Nat.cast_succ]
      ring

/-- **The float of an `i128` can be wrong.** After 2^63 + 2 defundings of everything
there is on one cracked element the books no longer balance. -/
theorem float_wraps :
    ∃ history s, System.Reachable CountingRng CountingRng issuerKeys history s ∧
      (∀ device, System.debits device history < 2 ^ 64) ∧
      s.issuer.offlineFloatI128 + System.created history ≠
        s.balances + System.outstanding history := by
  obtain ⟨issuer, w, -, -, ⟨-, history, hReach, hDebits⟩, -, -, hFloat⟩ :=
    drained (2 ^ 63 + 2) (by decide)
  have hFew : ∀ device, System.debits device history < 2 ^ 64 := by
    intro device
    by_cases hDevice : device = sampleDevice 1
    · rw [hDevice, hDebits]
      decide
    · rw [System.debits,
        hReach.enrolled.installed.silent (oneDevice_lookup_ne issuer w hDevice)]
      exact Nat.two_pow_pos 64
  refine ⟨history, oneDevice issuer w, hReach, hFew, fun hEquation => ?_⟩
  have hBooks := System.books_balance hReach hFew
  have hExact : i128 issuer.offlineFloat = issuer.offlineFloat := by
    have hHeld : i128 issuer.offlineFloat = (oneDevice issuer w).issuer.offlineFloatI128 := rfl
    have hFull : issuer.offlineFloat = (oneDevice issuer w).issuer.offlineFloat := rfl
    omega
  have hFits := i128_eq_iff.mp hExact
  have hMax : maxCents.toNat = 18446744073709551615 := rfl
  rw [hFloat, hMax] at hFits
  exact absurd hFits.1 (by norm_num)

end Counterexample

end DigitalEuro
