import DigitalEuro.Model.Agreement

/-!
# Digital euro — conservation

Value is in three places: on the elements, on its way in a message that nobody has
credited yet, and, as a claim, in the issuer's float. Whatever calls are
interleaved and whatever the network delivers, float and value agree, except for
what cracked elements signed without debiting themselves.

* `ledger_step` — every step keeps the books, counting each message when it is
  signed and when it is credited;
* `signed_nodup` — with fewer than 2^64 debits per device no two calls sign the
  same message, so `outstanding` counts each message once;
* `books_balance` — the equation, with the float in full.
-/

namespace DigitalEuro

namespace System

-- ---------------------------------------------------------------------------
-- Value
-- ---------------------------------------------------------------------------

/-- The sum of all balances on elements. -/
def balances {R : Type} (s : System R) : ℕ :=
  s.wallets.total fun w => w.balanceCents.toNat

/-- What an event signed on an element that was cracked. -/
def Event.created : Event → ℕ
  | .wallet _ (.paid _ transfer .cracked) => transfer.amountCents.toNat
  | .wallet _ (.defunded defunding .cracked) => defunding.amountCents.toNat
  | _ => 0

/-- The value that cracked elements created. -/
def created (history : List Event) : ℕ := (history.map Event.created).sum

/-- The value of the messages in a list. -/
def value (messages : List Content) : ℕ := (messages.map Content.value).sum

/-- The value of the messages that were signed and have not been credited. -/
def outstanding (history : List Event) : ℕ :=
  value ((signed history).filter fun m => m ∉ credited history)

/-- How often the element of a device signed a debit. -/
def debits (device : DeviceId) (history : List Event) : ℕ :=
  (Wallet.counters (localEvents device history)).length

@[simp] theorem created_cons (e : Event) (history : List Event) :
    created (e :: history) = e.created + created history := by
  rw [created, List.map_cons, List.sum_cons, created]

theorem value_perm {messages messages' : List Content} (h : messages.Perm messages') :
    value messages = value messages' :=
  (h.map Content.value).sum_eq

/-- Messages that are sent once and received at most once: what is outstanding and
what was received make up what was sent. -/
theorem value_outstanding {sent received : List Content} (hSent : sent.Nodup)
    (hReceived : received.Nodup) (hSubset : received ⊆ sent) :
    value (sent.filter fun m => m ∉ received) + value received = value sent := by
  have hSplit : (sent.filter (· ∈ received) ++ sent.filter fun m => m ∉ received).Perm sent := by
    have hFilter := List.filter_append_perm (fun m => decide (m ∈ received)) sent
    simpa only [decide_not] using hFilter
  have hSame : (sent.filter (· ∈ received)).Perm received := by
    refine (List.perm_ext_iff_of_nodup (hSent.filter _) hReceived).mpr fun m => ?_
    rw [List.mem_filter, decide_eq_true_eq]
    exact ⟨fun hMem => hMem.2, fun hMem => ⟨hSubset hMem, hMem⟩⟩
  have hSum : value (sent.filter (· ∈ received)) +
      value (sent.filter fun m => m ∉ received) = value sent := by
    rw [← value_perm hSplit, value, value, value, List.map_append, List.sum_append]
  rw [value_perm hSame] at hSum
  omega

variable [Sha256] {R G : Type} [Rng R] [Rng G] {keypair : Keypair} {history : List Event}
  {s : System R}

-- ---------------------------------------------------------------------------
-- The books
-- ---------------------------------------------------------------------------

/-- The books balance: float and created value on one side, balances and messages
signed but not credited on the other. -/
def Balanced (history : List Event) (s : System R) : Prop :=
  s.issuer.offlineFloat + created history + value (credited history) =
    s.balances + value (signed history)

omit [Sha256] [Rng R] in
/-- Replacing the wallet of a device moves the sum of balances by its own. -/
theorem balances_insert {device : DeviceId} {w : Wallet R} (w' : Wallet R)
    (hWallet : s.wallets.lookup device = some w) :
    balances { s with wallets := s.wallets.insert device w' } + w.balanceCents.toNat =
      s.balances + w'.balanceCents.toNat :=
  Finmap.total_replace _ w' hWallet

omit [Sha256] in
theorem signed_cons (e : Event) (history : List Event) :
    value (signed (e :: history)) = value (signed [e]) + value (signed history) := by
  rw [signed, signed, signed, ← List.singleton_append, List.filterMap_append, value, value, value,
    List.map_append, List.sum_append]

omit [Sha256] in
theorem credited_cons (e : Event) (history : List Event) :
    value (credited (e :: history)) = value (credited [e]) + value (credited history) := by
  rw [credited, credited, credited, ← List.singleton_append, List.filterMap_append, value, value,
    value, List.map_append, List.sum_append]

omit [Sha256] [Rng R] in
/-- What a debit does to a balance: on a cracked element nothing, and the value it
signs is created. -/
theorem debited_balance {w : Wallet R} {amountCents : UInt64}
    (hFunds : amountCents ≤ w.balanceCents) :
    w.balanceCents.toNat + (if w.state = .sealed then 0 else amountCents.toNat) =
      (w.debited amountCents).balanceCents.toNat + amountCents.toNat := by
  have hBalance := w.debited_balance_toNat hFunds
  have hLe : amountCents.toNat ≤ w.balanceCents.toNat := UInt64.le_iff_toNat_le.mp hFunds
  split at hBalance
  · next hSealed =>
    rw [hBalance, if_pos hSealed]
    omega
  · next hCracked =>
    rw [hBalance, if_neg hCracked]

/-- **What a wallet call does to its books.** -/
theorem wallet_step {w w' : Wallet R} {op : Wallet.Op} {e : Wallet.Event}
    (hLimit : w.WithinLimit) (hStep : Wallet.Step w op e w') (certificate : DeviceCertificate) :
    w.balanceCents.toNat + (Event.wallet certificate e).created +
        value (credited [.wallet certificate e]) =
      w'.balanceCents.toNat + value (signed [.wallet certificate e]) := by
  cases hStep with
  | requestPayment | cancelRequest | requestFunding | cancelFunding | crackSecureElement => rfl
  | receive transfer _ _ _ _ hOpen =>
    have hCredit := hLimit.credit_toNat (Or.inl hOpen)
    show w.balanceCents.toNat + 0 + (transfer.amountCents.toNat + 0) =
      (w.balanceCents + transfer.amountCents).toNat + 0
    omega
  | applyFunding funding _ _ _ hOpen =>
    have hCredit := hLimit.credit_toNat (Or.inr hOpen)
    show w.balanceCents.toNat + 0 + (funding.amountCents.toNat + 0) =
      (w.balanceCents + funding.amountCents).toNat + 0
    omega
  | pay request _ _ _ hFunds =>
    have hDebit := debited_balance hFunds
    have hCreated : (Event.wallet certificate
        (.paid request (w.transferFor request) w.state)).created =
          if w.state = .sealed then 0 else request.amountCents.toNat := by
      cases w.state <;> rfl
    rw [hCreated]
    show _ + _ + 0 = _ + (request.amountCents.toNat + 0)
    omega
  | defund amountCents _ hFunds =>
    have hDebit := debited_balance hFunds
    have hCreated : (Event.wallet certificate
        (.defunded (w.defundingFor amountCents) w.state)).created =
          if w.state = .sealed then 0 else amountCents.toNat := by
      cases w.state <;> rfl
    rw [hCreated]
    show _ + _ + 0 = _ + (amountCents.toNat + 0)
    omega

/-- **What an issuer call does to its books.** -/
theorem issuer_step {issuer issuer' : Issuer} {op : Issuer.Op G} {e : Issuer.Event}
    (hStep : Issuer.Step issuer op e issuer') :
    issuer'.offlineFloat + value (credited [.issuer e]) =
      issuer.offlineFloat + value (signed [.issuer e]) := by
  cases hStep with
  | openAccount | certifyDevice => rfl
  | fund request record balance _ _ _ _ _ _ =>
    show issuer.offlineFloat + request.amountCents.toNat + ((0 : ℕ) : ℤ) =
      issuer.offlineFloat + ((request.amountCents.toNat + 0 : ℕ) : ℤ)
    omega
  | defund defunding record balance _ _ _ _ =>
    show issuer.offlineFloat - defunding.amountCents.toNat +
        ((defunding.amountCents.toNat + 0 : ℕ) : ℤ) = issuer.offlineFloat + ((0 : ℕ) : ℤ)
    omega

/-- **Every step keeps the books.** -/
theorem Balanced.step {s' : System R} {op : Op R G} {e : Event} (h : Balanced history s)
    (hLimit : ∀ {device w}, s.wallets.lookup device = some w → w.WithinLimit)
    (hEnrolment : Enrolment s op) (hStep : Step s op e s') : Balanced (e :: history) s' := by
  unfold Balanced at h ⊢
  rw [created_cons, credited_cons, signed_cons]
  cases hStep with
  | issuer hStep =>
    have hIssuer := issuer_step hStep
    have hCreated : ∀ e : Issuer.Event, (Event.issuer e).created = 0 := fun _ => rfl
    simp only [hCreated, balances] at h ⊢
    push_cast
    omega
  | install certificate keypair' rng _ _ =>
    -- a new element holds nothing
    have hNone := hEnrolment.oneWallet certificate keypair' rng rfl
    have hBalances : balances { s with
        wallets := s.wallets.insert certificate.device
          (.fresh certificate keypair' s.issuer.publicKey rng) } = s.balances := by
      rw [balances, Finmap.total_insert_of_lookup_none _ hNone]
      exact Nat.zero_add _
    have hCreated : (Event.installed certificate).created = 0 := rfl
    have hCredited : value (credited [.installed certificate]) = 0 := rfl
    have hSigned : value (signed [.installed certificate]) = 0 := rfl
    rw [hBalances, hCreated, hCredited, hSigned]
    push_cast
    omega
  | @wallet device w w' op e hWallet hStep =>
    have hBooks := wallet_step (hLimit hWallet) hStep w.certificate
    have hBalances := balances_insert (s := s) w' hWallet
    push_cast
    omega

theorem Enrolled.balanced (h : Enrolled R G keypair history s) : Balanced history s := by
  refine covers.induction (P := fun history s => Balanced history s) h rfl ?_
  intro history s op e s' hReach hEnrolment ih hStep
  exact ih.step (fun hWallet => (Enrolled.wallet_of hReach hWallet).within_limit) hEnrolment hStep

-- ---------------------------------------------------------------------------
-- No message is signed twice
-- ---------------------------------------------------------------------------

omit [Sha256] in
theorem debits_mono (device : DeviceId) (e : Event) (history : List Event) :
    debits device history ≤ debits device (e :: history) := by
  have hSuffix : history <:+ e :: history := List.suffix_cons e history
  exact ((hSuffix.sublist.filterMap _).filterMap _).length_le

omit [Sha256] in
theorem debits_le_length (device : DeviceId) (history : List Event) :
    debits device history ≤ history.length :=
  (List.length_filterMap_le ..).trans (List.length_filterMap_le ..)

theorem Enrolled.funded_new (h : Enrolled R G keypair history s) {request : FundingRequest}
    (hNew : (request.device, request.nonce) ∉ s.issuer.fundingNonces) :
    (s.issuer.fundingFor request).content ∉ signed history := by
  intro hMem
  obtain ⟨e, hEvent, hSends⟩ := List.mem_filterMap.mp hMem
  -- only the issuer signs fundings
  obtain ⟨key, hSigning⟩ := signing_of_sends s.issuer.publicKey hSends
  obtain ⟨account, request', funding, rfl, hContent⟩ := funded_of_signing hSigning
  have hIssuerEvent := mem_issuerEvents.mpr hEvent
  have hAnswers := (Issuer.funded_content h.issuer_run hIssuerEvent).1
  rw [hContent, Issuer.fundingFor_content] at hAnswers
  obtain ⟨hDevice, -, hNonce⟩ := Content.funding.inj hAnswers
  refine hNew ((Issuer.mem_fundedKeys h.issuer_run _).mp (List.mem_filterMap.mpr
    ⟨_, hIssuerEvent, ?_⟩))
  rw [Issuer.Event.fundedKey, hDevice, hNonce]

/-- The counter an element signs next is on no message it signed before. -/
theorem Enrolled.counter_new (h : Enrolled R G keypair history s) {device : DeviceId}
    {w : Wallet R} (hWallet : s.wallets.lookup device = some w)
    (hFew : debits device history + 1 < 2 ^ 64) {certificate : DeviceCertificate}
    {e : Wallet.Event} (hMem : .wallet certificate e ∈ history)
    (hDevice : certificate.device = device) : e.counter ≠ some (w.counter + 1) := by
  intro hCounter
  obtain ⟨rng, hRun⟩ := (h.wallet_of hWallet).run
  have hLocal : e ∈ localEvents device history := by
    rw [← hDevice]
    exact mem_localEvents hMem
  have hHighest := (Wallet.counters_increasing hRun (Nat.lt_of_succ_lt hFew)).2 (w.counter + 1)
    (List.mem_filterMap.mpr ⟨e, hLocal, hCounter⟩)
  have hNext := Wallet.counter_lt_next hRun hFew
  exact absurd hNext (UInt64.not_lt.mpr hHighest)

theorem Enrolled.transfer_unsigned (h : Enrolled R G keypair history s) {device : DeviceId}
    {w : Wallet R} (hWallet : s.wallets.lookup device = some w)
    (hFew : debits device history + 1 < 2 ^ 64) (request : PaymentRequest) :
    (w.transferFor request).content ∉ signed history := by
  intro hMem
  obtain ⟨e, hEvent, hSends⟩ := List.mem_filterMap.mp hMem
  obtain ⟨key, hSigning⟩ := signing_of_sends s.issuer.publicKey hSends
  obtain ⟨certificate, request', transfer, state, rfl, -, hContent⟩ := paid_of_signing hSigning
  rw [Wallet.transferFor_content] at hContent
  obtain ⟨hPayer, -, -, -, hCounter⟩ := Content.transfer.inj hContent
  obtain ⟨w₁, -, -, hGenuine⟩ := h.genuine hEvent
  have hOwn : transfer.payer = certificate := hGenuine.2.1
  refine h.counter_new hWallet hFew hEvent ?_ (congrArg some hCounter)
  rw [← hOwn, hPayer, Wallet.device, (h.wallet_of hWallet).device_eq]

theorem Enrolled.defunding_unsigned (h : Enrolled R G keypair history s) {device : DeviceId}
    {w : Wallet R} (hWallet : s.wallets.lookup device = some w)
    (hFew : debits device history + 1 < 2 ^ 64) (amountCents : UInt64) :
    (w.defundingFor amountCents).content ∉ signed history := by
  intro hMem
  obtain ⟨e, hEvent, hSends⟩ := List.mem_filterMap.mp hMem
  obtain ⟨key, hSigning⟩ := signing_of_sends s.issuer.publicKey hSends
  obtain ⟨certificate, defunding, state, rfl, -, hContent⟩ := defunded_of_signing hSigning
  rw [Wallet.defundingFor_content] at hContent
  obtain ⟨hDevice, -, hCounter⟩ := Content.defunding.inj hContent
  obtain ⟨w₁, -, -, hGenuine⟩ := h.genuine hEvent
  have hOwn : defunding.device = certificate.device := hGenuine.1
  refine h.counter_new hWallet hFew hEvent ?_ (congrArg some hCounter)
  rw [← hOwn, hDevice, Wallet.device, (h.wallet_of hWallet).device_eq]

/-- **No message is signed twice**, with fewer than 2^64 debits per device. -/
theorem signed_nodup (h : Enrolled R G keypair history s)
    (hFew : ∀ device, debits device history < 2 ^ 64) : (signed history).Nodup := by
  revert hFew
  refine covers.induction (P := fun history _ => (∀ device, debits device history < 2 ^ 64) →
    (signed history).Nodup) h (fun _ => List.nodup_nil) ?_
  intro history s op e s' hReach _ ih hStep hFew
  have hOlder := ih fun device => lt_of_le_of_lt (debits_mono device e history) (hFew device)
  cases hStep with
  | issuer hStep =>
    cases hStep with
    | openAccount | certifyDevice | defund => exact hOlder
    | fund request record balance _ _ _ hNew _ _ =>
      exact List.nodup_cons.mpr ⟨Enrolled.funded_new hReach hNew, hOlder⟩
  | install => exact hOlder
  | @wallet device w w' op e hWallet hStep =>
    have hDevice := (Enrolled.wallet_of hReach hWallet).device_eq
    have hCount : debits device (.wallet w.certificate e :: history) < 2 ^ 64 := hFew device
    rw [debits, localEvents_wallet hDevice] at hCount
    cases hStep with
    | pay request _ _ _ _ =>
      exact List.nodup_cons.mpr ⟨Enrolled.transfer_unsigned hReach hWallet hCount request, hOlder⟩
    | defund amountCents _ _ =>
      exact List.nodup_cons.mpr
        ⟨Enrolled.defunding_unsigned hReach hWallet hCount amountCents, hOlder⟩
    | _ => exact hOlder

-- ---------------------------------------------------------------------------
-- Conservation
-- ---------------------------------------------------------------------------

/-- Without a cracked element nothing is created. -/
theorem Enrolled.created_eq_zero (h : Enrolled R G keypair history s)
    (hSealed : ∀ certificate, .wallet certificate .cracked ∉ history) : created history = 0 := by
  revert hSealed
  refine covers.induction (P := fun history _ =>
    (∀ certificate, .wallet certificate .cracked ∉ history) → created history = 0) h
    (fun _ => rfl) ?_
  intro history s op e s' hReach _ ih hStep hSealed
  have hOlder := ih fun certificate hMem =>
    hSealed certificate (List.mem_cons_of_mem e hMem)
  rw [created_cons, hOlder, Nat.add_zero]
  cases hStep with
  | issuer | install => rfl
  | @wallet device w w' op e hWallet hStep =>
    -- the element is still sealed when it signs
    have hState : w.state = .sealed := by
      by_contra hCracked
      obtain ⟨rng, hRun⟩ := (Enrolled.wallet_of hReach hWallet).run
      obtain ⟨certificate, -, hMem⟩ :=
        exists_of_mem_localEvents (Wallet.cracked_mem hRun hCracked)
      exact hSealed certificate (List.mem_cons_of_mem _ hMem)
    cases hStep with
    | pay request _ _ _ _ => rw [hState]; rfl
    | defund amountCents _ _ => rw [hState]; rfl
    | _ => rfl

/-- In every reachable state the float, in full, and the value created by cracked
elements are what the elements hold and what is on its way. -/
theorem books_balance (h : Reachable R G keypair history s)
    (hFew : ∀ device, debits device history < 2 ^ 64) :
    s.issuer.offlineFloat + created history = s.balances + outstanding history := by
  have hBalanced : Balanced history s := h.enrolled.balanced
  have hFlight := value_outstanding (signed_nodup h.enrolled hFew) (credited_nodup h.enrolled)
    (credited_subset_signed h)
  unfold Balanced at hBalanced
  unfold outstanding
  omega

end System

end DigitalEuro
