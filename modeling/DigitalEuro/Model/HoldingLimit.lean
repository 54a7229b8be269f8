import DigitalEuro.Model.WalletStep

/-!
# Digital euro — the holding limit

`receive` and `apply_funding` check no limit when they credit. They do not have
to: `Wallet.WithinLimit` says that the balance and everything the element has
promised to accept stay within the limit together, and a credit only moves an
amount from the promises to the balance.

* `WithinLimit.step` — every call keeps the invariant, whatever the message and
  whatever nonce the RNG returns; an insertion under a nonce already in use
  overwrites a reservation and so only lowers the sum;
* `within_limit` — the invariant along every run;
* `WithinLimit.headroom_toNat` — no sum wraps and no subtraction saturates;
* `holding_limit` — all of it for every wallet `Wallet::new` makes.
-/

namespace DigitalEuro

-- ---------------------------------------------------------------------------
-- Machine words
-- ---------------------------------------------------------------------------

theorem toNat_add_of_lt {a b : UInt64} (h : a.toNat + b.toNat < 2 ^ 64) :
    (a + b).toNat = a.toNat + b.toNat := by
  rw [UInt64.toNat_add, Nat.mod_eq_of_lt h]

theorem saturatingSub_toNat (a b : UInt64) :
    (saturatingSub a b).toNat = a.toNat - b.toNat := by
  unfold saturatingSub
  split
  · next h => exact UInt64.toNat_sub_of_le _ _ h
  · next h =>
    have hLt : a.toNat < b.toNat := UInt64.lt_iff_toNat_lt.mp (UInt64.not_le.mp h)
    rw [UInt64.toNat_zero]
    omega

/-- Adding up machine words gives the word of the sum. -/
theorem Reservations.sum_eq_ofNat (reservations : Reservations) :
    reservations.sum = UInt64.ofNat (reservations.total UInt64.toNat) := by
  let ofNatHom : ℕ →+ UInt64 :=
    { toFun := UInt64.ofNat
      map_zero' := rfl
      map_add' := fun a b => UInt64.ofNat_add a b }
  have hMap := Finmap.map_total ofNatHom UInt64.toNat reservations
  have hRound : (fun v : UInt64 => ofNatHom v.toNat) = id := funext fun v => UInt64.ofNat_toNat
  rw [hRound] at hMap
  exact hMap.symm

/-- The wrapping sum is the sum as long as that fits a word. -/
theorem Reservations.sum_toNat {reservations : Reservations}
    (h : reservations.total UInt64.toNat < 2 ^ 64) :
    reservations.sum.toNat = reservations.total UInt64.toNat := by
  rw [sum_eq_ofNat, UInt64.toNat_ofNat_of_lt' h]

namespace Wallet

variable {R : Type}

-- ---------------------------------------------------------------------------
-- The invariant
-- ---------------------------------------------------------------------------

/-- Everything the element has promised to accept, as a number. -/
def promised (w : Wallet R) : ℕ :=
  w.incoming.total UInt64.toNat + w.pendingFunding.total UInt64.toNat

/-- The balance and the promises fit under the limit together. -/
def WithinLimit (w : Wallet R) : Prop :=
  w.balanceCents.toNat + w.promised ≤ w.holdingLimit.toNat

namespace WithinLimit

variable {w : Wallet R}

theorem incoming_sum (h : w.WithinLimit) :
    w.incoming.sum.toNat = w.incoming.total UInt64.toNat := by
  have hLimit := w.holdingLimit.toNat_lt
  unfold WithinLimit promised at h
  exact Reservations.sum_toNat (by omega)

theorem pendingFunding_sum (h : w.WithinLimit) :
    w.pendingFunding.sum.toNat = w.pendingFunding.total UInt64.toNat := by
  have hLimit := w.holdingLimit.toNat_lt
  unfold WithinLimit promised at h
  exact Reservations.sum_toNat (by omega)

/-- `reserved` adds up without wrapping. -/
theorem reserved_toNat (h : w.WithinLimit) : w.reserved.toNat = w.promised := by
  have hLimit := w.holdingLimit.toNat_lt
  have hIncoming := h.incoming_sum
  have hPending := h.pendingFunding_sum
  unfold WithinLimit promised at h
  rw [reserved, toNat_add_of_lt (by omega), hIncoming, hPending, promised]

/-- `headroom` subtracts without saturating: what is left, what is promised and
what is held make up the limit. -/
theorem headroom_toNat (h : w.WithinLimit) :
    w.headroom.toNat + (w.balanceCents.toNat + w.promised) = w.holdingLimit.toNat := by
  have hReserved := h.reserved_toNat
  unfold WithinLimit at h
  rw [headroom, saturatingSub_toNat, saturatingSub_toNat, hReserved]
  omega

/-- What an open reservation promises fits on top of the balance. -/
theorem balance_add_le {nonce : Nonce} {amountCents : UInt64} (h : w.WithinLimit)
    (hOpen : w.incoming.lookup nonce = some amountCents ∨
      w.pendingFunding.lookup nonce = some amountCents) :
    w.balanceCents.toNat + amountCents.toNat ≤ w.holdingLimit.toNat := by
  unfold WithinLimit promised at h
  rcases hOpen with hIncoming | hPending
  · have hLe := Finmap.le_total (f := UInt64.toNat) hIncoming
    omega
  · have hLe := Finmap.le_total (f := UInt64.toNat) hPending
    omega

/-- A credit that answers an open reservation does not wrap. -/
theorem credit_toNat {nonce : Nonce} {amountCents : UInt64} (h : w.WithinLimit)
    (hOpen : w.incoming.lookup nonce = some amountCents ∨
      w.pendingFunding.lookup nonce = some amountCents) :
    (w.balanceCents + amountCents).toNat = w.balanceCents.toNat + amountCents.toNat := by
  have hLe := h.balance_add_le hOpen
  have hLimit := w.holdingLimit.toNat_lt
  exact toNat_add_of_lt (by omega)

end WithinLimit

theorem debited_balance_toNat (w : Wallet R) {amountCents : UInt64}
    (hFunds : amountCents ≤ w.balanceCents) :
    (w.debited amountCents).balanceCents.toNat =
      if w.state = .sealed then w.balanceCents.toNat - amountCents.toNat
      else w.balanceCents.toNat := by
  unfold debited
  dsimp only
  split
  · exact UInt64.toNat_sub_of_le _ _ hFunds
  · rfl

theorem WithinLimit.debited {w : Wallet R} (h : w.WithinLimit) {amountCents : UInt64}
    (hFunds : amountCents ≤ w.balanceCents) : (w.debited amountCents).WithinLimit := by
  have hBalance := w.debited_balance_toNat hFunds
  unfold WithinLimit at h ⊢
  have hLe : (w.debited amountCents).balanceCents.toNat ≤ w.balanceCents.toNat := by
    rw [hBalance]
    split <;> omega
  exact le_trans (Nat.add_le_add_right hLe _) h

variable [Sha256] [Rng R]

/-- **Every call keeps the invariant**, for arbitrary messages and nonces. -/
theorem WithinLimit.step {w w' : Wallet R} {op : Op} {e : Event} (h : w.WithinLimit)
    (hStep : Step w op e w') : w'.WithinLimit := by
  have hRoom := h.headroom_toNat
  cases hStep with
  | requestPayment amountCents _ hFits =>
    -- an insertion adds at most the amount: the nonce may already be in use
    have hInsert := Finmap.total_insert UInt64.toNat w.incoming (Rng.gen w.rng).1 amountCents
    have hErase := Finmap.total_erase_le UInt64.toNat w.incoming (Rng.gen w.rng).1
    have hAmount : amountCents.toNat ≤ w.headroom.toNat := UInt64.le_iff_toNat_le.mp hFits
    unfold WithinLimit promised holdingLimit at *
    dsimp only
    omega
  | requestFunding amountCents _ hFits =>
    have hInsert := Finmap.total_insert UInt64.toNat w.pendingFunding (Rng.gen w.rng).1 amountCents
    have hErase := Finmap.total_erase_le UInt64.toNat w.pendingFunding (Rng.gen w.rng).1
    have hAmount : amountCents.toNat ≤ w.headroom.toNat := UInt64.le_iff_toNat_le.mp hFits
    unfold WithinLimit promised holdingLimit at *
    dsimp only
    omega
  | cancelRequest nonce amountCents hOpen =>
    have hErase := Finmap.total_erase_le UInt64.toNat w.incoming nonce
    unfold WithinLimit promised holdingLimit at *
    dsimp only
    omega
  | cancelFunding nonce amountCents hOpen =>
    have hErase := Finmap.total_erase_le UInt64.toNat w.pendingFunding nonce
    unfold WithinLimit promised holdingLimit at *
    dsimp only
    omega
  | receive transfer _ _ _ _ hOpen =>
    -- the credit moves the amount from the promises to the balance
    have hCredit := h.credit_toNat (Or.inl hOpen)
    have hErase := Finmap.total_erase UInt64.toNat hOpen
    unfold WithinLimit promised holdingLimit at *
    dsimp only
    omega
  | applyFunding funding _ _ _ hOpen =>
    have hCredit := h.credit_toNat (Or.inr hOpen)
    have hErase := Finmap.total_erase UInt64.toNat hOpen
    unfold WithinLimit promised holdingLimit at *
    dsimp only
    omega
  | pay request _ _ _ hFunds => exact h.debited hFunds
  | defund amountCents _ hFunds => exact h.debited hFunds
  | crackSecureElement => exact h

omit [Sha256] [Rng R] in
theorem fresh_withinLimit (certificate : DeviceCertificate) (keypair : Keypair)
    (issuer : PublicKey) (rng : R) : (fresh certificate keypair issuer rng).WithinLimit := by
  simp [WithinLimit, promised, fresh]

omit [Sha256] [Rng R] in
theorem fresh_headroom (certificate : DeviceCertificate) (keypair : Keypair)
    (issuer : PublicKey) (rng : R) :
    (fresh certificate keypair issuer rng).headroom = certificate.holdingLimitCents := by
  have hHeadroom := (fresh_withinLimit certificate keypair issuer rng).headroom_toNat
  simp only [promised, fresh, Finmap.total_empty, UInt64.toNat_zero, Nat.add_zero] at hHeadroom
  exact UInt64.toNat_inj.mp hHeadroom

omit [Rng R] in
theorem new_withinLimit {certificate : DeviceCertificate} {keypair : Keypair}
    {issuer : PublicKey} {rng : R} {w : Wallet R}
    (h : Wallet.new certificate keypair issuer rng = .ok w) : w.WithinLimit := by
  obtain ⟨-, -, rfl⟩ := new_eq_ok.mp h
  exact fresh_withinLimit ..

/-- **The invariant along every run**, in any environment. -/
theorem within_limit {allowed : List Event → Wallet R → Op → Prop} {start w : Wallet R}
    {history : List Event} (hStart : start.WithinLimit)
    (hRun : Machine.Reaches exec allowed start history w) : w.WithinLimit :=
  covers.induction (P := fun _ w => w.WithinLimit) hRun hStart fun _ _ h hStep => h.step hStep

/-- **Holding limit.** Along every run of every wallet `Wallet::new` makes, the
balance and the open reservations stay within the certified limit together, as
numbers. So the sums of `reserved` do not wrap, the subtractions of `headroom`
do not saturate, and a credit neither wraps nor exceeds the limit. -/
theorem holding_limit {certificate : DeviceCertificate} {keypair : Keypair}
    {issuer : PublicKey} {rng : R} {start w : Wallet R} {history : List Event}
    (hNew : Wallet.new certificate keypair issuer rng = .ok start)
    (hRun : Run start history w) :
    w.balanceCents.toNat + w.incoming.total UInt64.toNat + w.pendingFunding.total UInt64.toNat ≤
        certificate.holdingLimitCents.toNat ∧
      (w.incoming.sum.toNat = w.incoming.total UInt64.toNat ∧
        w.pendingFunding.sum.toNat = w.pendingFunding.total UInt64.toNat ∧
        w.reserved.toNat = w.incoming.sum.toNat + w.pendingFunding.sum.toNat) ∧
      (w.balanceCents ≤ w.holdingLimit ∧ w.reserved ≤ w.holdingLimit - w.balanceCents ∧
        w.headroom.toNat + w.balanceCents.toNat + w.reserved.toNat = w.holdingLimit.toNat) ∧
      (∀ transfer amountCents, (w.receive transfer).1 = .ok amountCents →
        (w.receive transfer).2.balanceCents.toNat = w.balanceCents.toNat + amountCents.toNat ∧
          (w.receive transfer).2.balanceCents ≤ w.holdingLimit) ∧
      (∀ funding amountCents, (w.applyFunding funding).1 = .ok amountCents →
        (w.applyFunding funding).2.balanceCents.toNat =
            w.balanceCents.toNat + amountCents.toNat ∧
          (w.applyFunding funding).2.balanceCents ≤ w.holdingLimit) := by
  have h : w.WithinLimit := within_limit (new_withinLimit hNew) hRun
  have hCertificate : w.certificate = certificate := by
    obtain ⟨-, -, rfl⟩ := new_eq_ok.mp hNew
    exact (run_fixed hRun).1
  have hReserved := h.reserved_toNat
  have hHeadroom := h.headroom_toNat
  refine ⟨?_, ⟨h.incoming_sum, h.pendingFunding_sum, ?_⟩, ⟨?_, ?_, ?_⟩, ?_, ?_⟩
  · unfold WithinLimit promised holdingLimit at h
    rw [← hCertificate]
    omega
  · rw [h.incoming_sum, h.pendingFunding_sum, hReserved, promised]
  · rw [UInt64.le_iff_toNat_le]
    omega
  · have hBalance : w.balanceCents ≤ w.holdingLimit := by
      rw [UInt64.le_iff_toNat_le]
      omega
    rw [UInt64.le_iff_toNat_le, UInt64.toNat_sub_of_le _ _ hBalance]
    omega
  · omega
  · intro transfer amountCents hOk
    obtain ⟨hStep, rfl⟩ := receive_ok hOk
    generalize (w.receive transfer).2 = w' at hStep ⊢
    cases hStep with
    | receive _ _ _ _ _ hOpen =>
      have hCredit := h.credit_toNat (Or.inl hOpen)
      have hLe := h.balance_add_le (Or.inl hOpen)
      rw [UInt64.le_iff_toNat_le]
      exact ⟨hCredit, by rw [hCredit]; exact hLe⟩
  · intro funding amountCents hOk
    obtain ⟨hStep, rfl⟩ := applyFunding_ok hOk
    generalize (w.applyFunding funding).2 = w' at hStep ⊢
    cases hStep with
    | applyFunding _ _ _ _ hOpen =>
      have hCredit := h.credit_toNat (Or.inr hOpen)
      have hLe := h.balance_add_le (Or.inr hOpen)
      rw [UInt64.le_iff_toNat_le]
      exact ⟨hCredit, by rw [hCredit]; exact hLe⟩

end Wallet

-- ---------------------------------------------------------------------------
-- A wallet that was funded
-- ---------------------------------------------------------------------------

section Funded

variable [Sha256]

theorem sampleWallet_headroom (keys : Keypair) (n : ℕ) :
    (sampleWallet keys n).headroom = sampleLimit := Wallet.fresh_headroom ..

/-- The first element after its funding of 10 €. -/
def sampleFunded : Wallet CountingRng :=
  { sampleWallet aliceKeys 1 with
    rng := ⟨1⟩
    pendingFunding := ((∅ : Finmap _).insert sampleNonce 1000).erase sampleNonce
    credited := {sampleNonce}
    balanceCents := 1000 }

/-- The first element once it has asked for its 10 €. -/
def sampleAsked : Wallet CountingRng :=
  { sampleWallet aliceKeys 1 with
    rng := ⟨1⟩, pendingFunding := (∅ : Finmap _).insert sampleNonce 1000 }

theorem sampleAsked_step : Wallet.Step (sampleWallet aliceKeys 1) (.requestFunding 1000)
    (.fundingRequested sampleFundingRequest) sampleAsked :=
  Wallet.Step.requestFunding 1000 (by decide) (by rw [sampleWallet_headroom]; decide)

theorem sampleFunded_step :
    Wallet.Step sampleAsked (.applyFunding sampleFunding) (.applied sampleFunding) sampleFunded :=
  Wallet.Step.applyFunding sampleFunding rfl (issuerKeys_generated.verify_sign _)
    (Finset.notMem_empty _) (Finmap.lookup_insert _)

end Funded

section Sample

open scoped Fips

/-- The first element is credited its 10 €, and then promised 6 €. -/
theorem holding_limit_sample :
    ((sampleAsked.applyFunding sampleFunding).1 = .ok 1000 ∧
      (sampleAsked.applyFunding sampleFunding).2.balanceCents.toNat =
        sampleAsked.balanceCents.toNat + (1000 : UInt64).toNat ∧
      (sampleAsked.applyFunding sampleFunding).2.balanceCents ≤ sampleAsked.holdingLimit) ∧
    let w := (sampleFunded.requestPayment 600).2
    w.balanceCents = 1000 ∧ w.incoming.sum = 600 ∧
      w.balanceCents.toNat + w.incoming.total UInt64.toNat + w.pendingFunding.total UInt64.toNat ≤
        sampleLimit.toNat := by
  have hNew := sampleWallet_new aliceKeys 1
  have hAsked : Wallet.Run (sampleWallet aliceKeys 1) _ sampleAsked :=
    Machine.Reaches.next .start trivial sampleAsked_step.exec_eq
  have hFunded : Wallet.Run (sampleWallet aliceKeys 1) _ sampleFunded :=
    hAsked.next trivial sampleFunded_step.exec_eq
  have hPromised : Wallet.Run (sampleWallet aliceKeys 1) _
      (sampleFunded.exec (.requestPayment 600)).2 := .step (.requestPayment 600) hFunded trivial
  have hApplied : (sampleAsked.applyFunding sampleFunding).1 = .ok 1000 := by
    have hOwn : sampleFunding.device = sampleAsked.device := rfl
    have hSigned : sampleAsked.issuer.verify sampleFunding.digest sampleFunding.signature = true :=
      issuerKeys_generated.verify_sign _
    rw [Wallet.applyFunding_eq hOwn hSigned (Finset.notMem_empty _) (Finmap.lookup_insert _)]
    rfl
  exact ⟨⟨hApplied, (Wallet.holding_limit hNew hAsked).2.2.2.2 sampleFunding 1000 hApplied⟩,
    by decide +kernel, by decide +kernel,
    (Wallet.holding_limit hNew hPromised).1⟩

end Sample

end DigitalEuro
