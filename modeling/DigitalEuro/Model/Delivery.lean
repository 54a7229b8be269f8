import DigitalEuro.Lib.Delivery
import DigitalEuro.Model.WalletHistory

/-!
# Digital euro — what the payee makes of its messages

Transfers and fundings reach an element late, twice or in any order, and several
transfers may answer one request. Which call is credited depends on the order; what
the element holds in the end does not. An element whose open requests carry each
nonce once settles, in the sense of `Lib/Delivery.lean`, and nonces that do not
repeat keep it so.

* `Wallet.process_settles` — two messages commute, and a message again changes
  nothing;
* `Wallet.apart` — a reachable element has no nonce open twice;
* `Wallet.deliver_eq` — lists with the same messages lead to the same element.
-/

namespace DigitalEuro

/-- A message that credits an element. -/
inductive Message.Credit where
  | transfer (transfer : Transfer)
  | funding (funding : Funding)
deriving DecidableEq

namespace Message.Credit

def nonce : Credit → Nonce
  | transfer t => t.nonce
  | funding f => f.nonce

def amountCents : Credit → UInt64
  | transfer t => t.amountCents
  | funding f => f.amountCents

end Message.Credit

namespace Wallet

variable [Sha256] {R : Type}

/-- Hands a message to `receive` or `apply_funding`. -/
def process (w : Wallet R) : Message.Credit → Wallet R
  | .transfer transfer => (w.receive transfer).2
  | .funding funding => (w.applyFunding funding).2

/-- Hands over messages one after another. -/
def deliver (w : Wallet R) (messages : List Message.Credit) : Wallet R :=
  messages.foldl process w

/-- The message is for this element and its signatures verify. -/
def Authentic (w : Wallet R) : Message.Credit → Prop
  | .transfer transfer => transfer.payee = w.device ∧ transfer.payer.verify w.issuer = true ∧
      transfer.payer.publicKey.verify transfer.digest transfer.signature = true
  | .funding funding => funding.device = w.device ∧
      w.issuer.verify funding.digest funding.signature = true

omit [Sha256] in
/-- The amount the element has reserved room for under the nonce of a message. -/
def expected (w : Wallet R) : Message.Credit → Option UInt64
  | .transfer transfer => w.incoming.lookup transfer.nonce
  | .funding funding => w.pendingFunding.lookup funding.nonce

/-- The checks that `receive` and `apply_funding` make. -/
structure Accepts (w : Wallet R) (m : Message.Credit) : Prop where
  authentic : w.Authentic m
  new : m.nonce ∉ w.credited
  isOpen : w.expected m = some m.amountCents

omit [Sha256] in
/-- The element after it has credited a message. -/
def settle (w : Wallet R) : Message.Credit → Wallet R
  | .transfer transfer =>
    { w with
      incoming := w.incoming.erase transfer.nonce
      credited := insert transfer.nonce w.credited
      balanceCents := w.balanceCents + transfer.amountCents }
  | .funding funding =>
    { w with
      pendingFunding := w.pendingFunding.erase funding.nonce
      credited := insert funding.nonce w.credited
      balanceCents := w.balanceCents + funding.amountCents }

-- ---------------------------------------------------------------------------
-- One message
-- ---------------------------------------------------------------------------

theorem process_of_accepts {w : Wallet R} {m : Message.Credit} (h : w.Accepts m) :
    w.process m = w.settle m := by
  cases m with
  | transfer transfer =>
    obtain ⟨hPayee, hCertificate, hSignature⟩ := h.authentic
    rw [process, receive_eq hPayee hCertificate hSignature h.new h.isOpen]
    rfl
  | funding funding =>
    obtain ⟨hDevice, hSignature⟩ := h.authentic
    rw [process, applyFunding_eq hDevice hSignature h.new h.isOpen]
    rfl

theorem process_of_not_accepts [Rng R] {w : Wallet R} {m : Message.Credit} (h : ¬ w.Accepts m) :
    w.process m = w := by
  cases m with
  | transfer transfer =>
    refine covers.refused (a := .receive transfer) ?_
    rcases w.exec_cases (.receive transfer) with hRefused | ⟨e, w', -, hStep⟩
    · rw [hRefused]
    · cases hStep with
      | receive _ hPayee hCertificate hSignature hNew hOpen =>
        exact absurd ⟨⟨hPayee, hCertificate, hSignature⟩, hNew, hOpen⟩ h
  | funding funding =>
    refine covers.refused (a := .applyFunding funding) ?_
    rcases w.exec_cases (.applyFunding funding) with hRefused | ⟨e, w', -, hStep⟩
    · rw [hRefused]
    · cases hStep with
      | applyFunding _ hDevice hSignature hNew hOpen =>
        exact absurd ⟨⟨hDevice, hSignature⟩, hNew, hOpen⟩ h

theorem authentic_settle (w : Wallet R) (m m' : Message.Credit) :
    (w.settle m).Authentic m' ↔ w.Authentic m' := by
  cases m <;> exact Iff.rfl

omit [Sha256] in
theorem mem_credited_settle (w : Wallet R) (m : Message.Credit) (nonce : Nonce) :
    nonce ∈ (w.settle m).credited ↔ nonce = m.nonce ∨ nonce ∈ w.credited := by
  cases m <;> exact Finset.mem_insert

omit [Sha256] in
/-- Crediting a message leaves the reservations under other nonces. -/
theorem expected_settle_of_ne (w : Wallet R) {m m' : Message.Credit} (h : m'.nonce ≠ m.nonce) :
    (w.settle m).expected m' = w.expected m' := by
  cases m <;> cases m' <;> first | rfl | exact Finmap.lookup_erase_ne h

theorem accepts_settle_of_ne (w : Wallet R) {m m' : Message.Credit} (h : m'.nonce ≠ m.nonce) :
    (w.settle m).Accepts m' ↔ w.Accepts m' := by
  constructor
  · rintro ⟨hAuthentic, hNew, hOpen⟩
    refine ⟨(authentic_settle w m m').mp hAuthentic, fun hOld => hNew ?_, ?_⟩
    · exact (mem_credited_settle w m _).mpr (Or.inr hOld)
    · rwa [expected_settle_of_ne w h] at hOpen
  · rintro ⟨hAuthentic, hNew, hOpen⟩
    refine ⟨(authentic_settle w m m').mpr hAuthentic, fun hOld => ?_, ?_⟩
    · exact ((mem_credited_settle w m _).mp hOld).elim h hNew
    · rwa [expected_settle_of_ne w h]

/-- A nonce is credited once, whichever message brings it again. -/
theorem not_accepts_settle (w : Wallet R) {m m' : Message.Credit} (h : m'.nonce = m.nonce) :
    ¬ (w.settle m).Accepts m' :=
  fun hAccepts => hAccepts.new ((mem_credited_settle w m _).mpr (Or.inl h))

omit [Sha256] in
/-- Credits do not care about their order. -/
theorem settle_comm (w : Wallet R) (m m' : Message.Credit) :
    (w.settle m).settle m' = (w.settle m').settle m := by
  have hCredited := Finset.insert_comm m'.nonce m.nonce w.credited
  have hBalance := add_right_comm w.balanceCents m.amountCents m'.amountCents
  cases m with
  | transfer transfer =>
    cases m' with
    | transfer transfer' =>
      rw [settle, settle, mk.injEq]
      exact ⟨rfl, rfl, rfl, hBalance, Finmap.erase_erase, rfl, hCredited, rfl, rfl, rfl⟩
    | funding funding' =>
      rw [settle, settle, mk.injEq]
      exact ⟨rfl, rfl, rfl, hBalance, rfl, rfl, hCredited, rfl, rfl, rfl⟩
  | funding funding =>
    cases m' with
    | transfer transfer' =>
      rw [settle, settle, mk.injEq]
      exact ⟨rfl, rfl, rfl, hBalance, rfl, rfl, hCredited, rfl, rfl, rfl⟩
    | funding funding' =>
      rw [settle, settle, mk.injEq]
      exact ⟨rfl, rfl, rfl, hBalance, rfl, Finmap.erase_erase, hCredited, rfl, rfl, rfl⟩

-- ---------------------------------------------------------------------------
-- No nonce is open twice
-- ---------------------------------------------------------------------------

omit [Sha256] in
/-- No nonce is open for a payment and for a funding at once. -/
def Apart (w : Wallet R) : Prop :=
  ∀ nonce, w.incoming.lookup nonce = none ∨ w.pendingFunding.lookup nonce = none

omit [Sha256] in
theorem lookup_erase_eq_none {reservations : Reservations} {nonce : Nonce} (nonce' : Nonce)
    (h : reservations.lookup nonce = none) : (reservations.erase nonce').lookup nonce = none := by
  by_cases hSame : nonce = nonce'
  · rw [hSame, Finmap.lookup_erase]
  · rw [Finmap.lookup_erase_ne hSame, h]

omit [Sha256] in
theorem Apart.settle {w : Wallet R} (h : w.Apart) (m : Message.Credit) : (w.settle m).Apart := by
  intro nonce
  cases m with
  | transfer transfer => exact (h nonce).imp_left (lookup_erase_eq_none transfer.nonce)
  | funding funding => exact (h nonce).imp_right (lookup_erase_eq_none funding.nonce)

omit [Sha256] in
/-- Two messages that answer the same request credit the same. -/
theorem Apart.settle_eq {w : Wallet R} (h : w.Apart) {m m' : Message.Credit}
    (hOpen : w.expected m = some m.amountCents) (hOpen' : w.expected m' = some m'.amountCents)
    (hNonce : m'.nonce = m.nonce) : w.settle m' = w.settle m := by
  cases m with
  | transfer transfer =>
    obtain hNone | hNone := h transfer.nonce
    · exact absurd (hNone.symm.trans hOpen) (by simp)
    cases m' with
    | transfer transfer' =>
      have hAmount : transfer'.amountCents = transfer.amountCents :=
        Option.some.inj (hOpen'.symm.trans ((congrArg w.incoming.lookup hNonce).trans hOpen))
      have hNonce' : transfer'.nonce = transfer.nonce := hNonce
      rw [Wallet.settle, Wallet.settle, hNonce', hAmount]
    | funding funding' =>
      have hNonce' : funding'.nonce = transfer.nonce := hNonce
      rw [← hNonce'] at hNone
      exact absurd (hNone.symm.trans hOpen') (by simp)
  | funding funding =>
    obtain hNone | hNone := h funding.nonce
    case inr => exact absurd (hNone.symm.trans hOpen) (by simp)
    cases m' with
    | transfer transfer' =>
      have hNonce' : transfer'.nonce = funding.nonce := hNonce
      rw [← hNonce'] at hNone
      exact absurd (hNone.symm.trans hOpen') (by simp)
    | funding funding' =>
      have hAmount : funding'.amountCents = funding.amountCents :=
        Option.some.inj (hOpen'.symm.trans ((congrArg w.pendingFunding.lookup hNonce).trans hOpen))
      have hNonce' : funding'.nonce = funding.nonce := hNonce
      rw [Wallet.settle, Wallet.settle, hNonce', hAmount]

variable [Rng R]

theorem Apart.process {w : Wallet R} (h : w.Apart) (m : Message.Credit) : (w.process m).Apart := by
  by_cases hAccepts : w.Accepts m
  · rw [process_of_accepts hAccepts]
    exact h.settle m
  · rwa [process_of_not_accepts hAccepts]

/-- Two messages can be processed in either order. -/
theorem Apart.process_comm {w : Wallet R} (h : w.Apart) (m m' : Message.Credit) :
    (w.process m).process m' = (w.process m').process m := by
  by_cases hNonce : m'.nonce = m.nonce
  · -- at most one of the two is credited, and either way the same amount
    by_cases hAccepts : w.Accepts m
    · rw [process_of_accepts hAccepts, process_of_not_accepts (not_accepts_settle w hNonce)]
      by_cases hAccepts' : w.Accepts m'
      · rw [process_of_accepts hAccepts',
          process_of_not_accepts (not_accepts_settle w hNonce.symm),
          h.settle_eq hAccepts.isOpen hAccepts'.isOpen hNonce]
      · rw [process_of_not_accepts hAccepts', process_of_accepts hAccepts]
    · rw [process_of_not_accepts hAccepts]
      by_cases hAccepts' : w.Accepts m'
      · rw [process_of_accepts hAccepts', process_of_not_accepts (not_accepts_settle w hNonce.symm)]
      · rw [process_of_not_accepts hAccepts', process_of_not_accepts hAccepts]
  · have hFirst : (w.settle m).Accepts m' ↔ w.Accepts m' := accepts_settle_of_ne w hNonce
    have hSecond : (w.settle m').Accepts m ↔ w.Accepts m :=
      accepts_settle_of_ne w (Ne.symm hNonce)
    by_cases hAccepts : w.Accepts m
    · rw [process_of_accepts hAccepts]
      by_cases hAccepts' : w.Accepts m'
      · rw [process_of_accepts (hFirst.mpr hAccepts'), process_of_accepts hAccepts',
          process_of_accepts (hSecond.mpr hAccepts), settle_comm]
      · rw [process_of_not_accepts fun hNow => hAccepts' (hFirst.mp hNow),
          process_of_not_accepts hAccepts', process_of_accepts hAccepts]
    · rw [process_of_not_accepts hAccepts]
      by_cases hAccepts' : w.Accepts m'
      · rw [process_of_accepts hAccepts', process_of_not_accepts fun hNow => hAccepts (hSecond.mp hNow)]
      · rw [process_of_not_accepts hAccepts', process_of_not_accepts hAccepts]

/-- A message processed again changes nothing. -/
theorem process_again (w : Wallet R) (m : Message.Credit) :
    (w.process m).process m = w.process m := by
  by_cases hAccepts : w.Accepts m
  · rw [process_of_accepts hAccepts, process_of_not_accepts (not_accepts_settle w rfl)]
  · rw [process_of_not_accepts hAccepts, process_of_not_accepts hAccepts]

-- ---------------------------------------------------------------------------
-- Many messages
-- ---------------------------------------------------------------------------

omit [Sha256] [Rng R] in
/-- An element on which no nonce is open twice. -/
structure Tidy (R : Type) where
  wallet : Wallet R
  apart : wallet.Apart

/-- A message keeps an element tidy. -/
def Tidy.process (t : Tidy R) (m : Message.Credit) : Tidy R where
  wallet := t.wallet.process m
  apart := t.apart.process m

theorem process_settles : Delivery.Settles (Tidy.process (R := R)) where
  comm t m m' := by
    have hComm := t.apart.process_comm m m'
    simp only [Tidy.process, hComm]
  again t m := by
    have hAgain := t.wallet.process_again m
    simp only [Tidy.process, hAgain]

theorem Tidy.wallet_foldl (messages : List Message.Credit) (t : Tidy R) :
    (messages.foldl Tidy.process t).wallet = t.wallet.deliver messages := by
  induction messages generalizing t with
  | nil => rfl
  | cons m rest ih => exact ih (t.process m)

/-- With nonces that do not repeat, no nonce is open twice. -/
theorem apart {allowed : List Event → Wallet R → Op → Prop} {certificate : DeviceCertificate}
    {keypair : Keypair} {issuer : PublicKey} {rng : R} {history : List Event} {w : Wallet R}
    (hRun : Machine.Reaches exec allowed (fresh certificate keypair issuer rng) history w)
    (hFresh : (drawnNonces history).Nodup) : w.Apart := by
  intro nonce
  cases hIncoming : w.incoming.lookup nonce with
  | none => exact Or.inl rfl
  | some amountCents =>
    right
    cases hPending : w.pendingFunding.lookup nonce with
    | none => rfl
    | some amountCents' =>
      -- both requests would have drawn the nonce
      obtain ⟨newer, request, older, hSplit, hNonce, -⟩ := requested_of_incoming hRun hIncoming
      obtain ⟨newer', request', older', hSplit', hNonce', -⟩ :=
        requested_of_pendingFunding hRun hPending
      have hMem : .requested request ∈ history := by rw [hSplit]; simp
      have hMem' : .fundingRequested request' ∈ history := by rw [hSplit']; simp
      have hSame := eq_of_drawn hFresh hMem hMem' (congrArg some hNonce) (congrArg some hNonce')
      exact absurd hSame (by simp)

/-- **Delivery order and resending do not matter.** For every element reached from
`Wallet::new` without a repeated nonce, and any two lists with the same transfers and
fundings, genuine or not: whatever their order and repetitions, the element ends up
the same, in its balance, its open requests and its credited nonces. -/
theorem deliver_eq {certificate : DeviceCertificate} {keypair : Keypair} {issuer : PublicKey}
    {rng : R} {start w : Wallet R} {history : List Event}
    (hNew : Wallet.new certificate keypair issuer rng = .ok start) (hRun : Run start history w)
    (hFresh : (drawnNonces history).Nodup) {messages messages' : List Message.Credit}
    (hSame : ∀ m, m ∈ messages ↔ m ∈ messages') :
    w.deliver messages = w.deliver messages' := by
  obtain ⟨-, -, rfl⟩ := new_eq_ok.mp hNew
  have hFold := congrArg Tidy.wallet
    (process_settles.foldl_congr hSame (⟨w, apart hRun hFresh⟩ : Tidy R))
  rwa [Tidy.wallet_foldl, Tidy.wallet_foldl] at hFold

end Wallet

section Sample

open scoped Fips

/-- The second sample device with its request for 3 € open. -/
def sampleOpen : Wallet CountingRng :=
  ((sampleWallet bakeryKeys 2).exec (.requestPayment 300)).2

/-- The payment, the payment with an altered amount, and the payment again: the
element credits 3 €, as it does when they come the other way round. -/
theorem deliver_eq_sample :
    sampleOpen.deliver [.transfer sampleTransfer, .transfer { sampleTransfer with amountCents := 400 },
        .transfer sampleTransfer] =
      sampleOpen.deliver [.transfer { sampleTransfer with amountCents := 400 },
        .transfer sampleTransfer] ∧
      (sampleOpen.process (.transfer sampleTransfer)).balanceCents = 300 := by
  constructor
  · refine Wallet.deliver_eq (sampleWallet_new bakeryKeys 2)
      (.step (.requestPayment 300) .start trivial) (by decide +kernel) fun m => ?_
    simp only [List.mem_cons, List.not_mem_nil, or_false]
    tauto
  · have hAccepts : sampleOpen.Accepts (.transfer sampleTransfer) :=
      ⟨⟨rfl, issuerKeys_generated.verify_certify .., sampleTransfer_verifies⟩,
        Finset.notMem_empty _, Finmap.lookup_insert _⟩
    rw [Wallet.process_of_accepts hAccepts]
    rfl

end Sample

end DigitalEuro
