import DigitalEuro.Lib.Reservation
import DigitalEuro.Model.WalletStep

/-!
# Digital euro — an element and its history

What an element stores is determined by what it did since `Wallet::new`. Nothing
is assumed of the RNG until the last section: nonces may repeat.

* `incoming_lookup`, `pendingFunding_lookup` — the open reservations are those the
  history opened and neither closed nor opened again since;
* `mem_credited` — the nonces on record are those credited, payments and fundings
  together;
* `counter_eq`, `counters_increasing` — the k-th debit signs counter k;
* `genuine_of_mem` — what each event of a history carries;
* `incoming_of_requested`, `pendingFunding_of_requested` — with nonces that do not
  repeat a request stays open until it is cancelled or answered.
-/

namespace DigitalEuro

namespace Wallet

-- ---------------------------------------------------------------------------
-- What a history says
-- ---------------------------------------------------------------------------

/-- What an event does to the open payment requests. -/
def Event.incomingEffect : Event → Reservation.Effect Nonce UInt64
  | .requested request => .opens request.nonce request.amountCents
  | .requestCancelled nonce => .closes nonce
  | .received transfer => .closes transfer.nonce
  | _ => .none

/-- What an event does to the open funding requests. -/
def Event.fundingEffect : Event → Reservation.Effect Nonce UInt64
  | .fundingRequested request => .opens request.nonce request.amountCents
  | .fundingCancelled nonce => .closes nonce
  | .applied funding => .closes funding.nonce
  | _ => .none

/-- The nonce an event took from the RNG. -/
def Event.drawn : Event → Option Nonce
  | .requested request => some request.nonce
  | .fundingRequested request => some request.nonce
  | _ => none

/-- The nonce an event credited. -/
def Event.creditedNonce : Event → Option Nonce
  | .received transfer => some transfer.nonce
  | .applied funding => some funding.nonce
  | _ => none

/-- The counter a debit signed. -/
def Event.counter : Event → Option UInt64
  | .paid _ transfer _ => some transfer.counter
  | .defunded defunding _ => some defunding.counter
  | _ => none

/-- The nonces a history drew, newest first. -/
def drawnNonces (history : List Event) : List Nonce := history.filterMap Event.drawn

/-- The nonces a history credited, newest first. -/
def creditedNonces (history : List Event) : List Nonce :=
  history.filterMap Event.creditedNonce

/-- The counters of the debits in a history, newest first. -/
def counters (history : List Event) : List UInt64 := history.filterMap Event.counter

/-- A payment request was made, and its nonce neither cancelled, answered nor drawn
for a payment request again. -/
def OpenRequest (history : List Event) (nonce : Nonce) (amountCents : UInt64) : Prop :=
  ∃ newer request older, history = newer ++ .requested request :: older ∧
    request.nonce = nonce ∧ request.amountCents = amountCents ∧
    ∀ e ∈ newer, e.incomingEffect.touched ≠ some nonce

/-- A funding request was made, and its nonce neither cancelled, answered nor drawn
for a funding request again. -/
def OpenFunding (history : List Event) (nonce : Nonce) (amountCents : UInt64) : Prop :=
  ∃ newer request older, history = newer ++ .fundingRequested request :: older ∧
    request.nonce = nonce ∧ request.amountCents = amountCents ∧
    ∀ e ∈ newer, e.fundingEffect.touched ≠ some nonce

/-- What the event of an element with this certificate and key carries, and what
was checked of it. -/
def Event.Genuine [Sha256] (certificate : DeviceCertificate) (keypair : Keypair)
    (issuer : PublicKey) : Event → Prop
  | .requested request => request.payee = certificate
  | .received transfer =>
    transfer.payee = certificate.device ∧ transfer.payer.verify issuer = true ∧
      transfer.payer.publicKey.verify transfer.digest transfer.signature = true
  | .paid request transfer _ =>
    request.payee.device ≠ certificate.device ∧ transfer.payer = certificate ∧
      transfer.payee = request.payee.device ∧ transfer.amountCents = request.amountCents ∧
      transfer.nonce = request.nonce ∧ transfer.signature = keypair.sign transfer.digest
  | .fundingRequested request =>
    request.device = certificate.device ∧ request.signature = keypair.sign request.digest
  | .applied funding =>
    funding.device = certificate.device ∧
      issuer.verify funding.digest funding.signature = true
  | .defunded defunding _ =>
    defunding.device = certificate.device ∧ defunding.signature = keypair.sign defunding.digest
  | _ => True

variable [Sha256] {R : Type} [Rng R]

theorem Step.genuine {w w' : Wallet R} {op : Op} {e : Event} (h : Step w op e w') :
    e.Genuine w.certificate w.keypair w.issuer := by
  cases h with
  | requestPayment => exact rfl
  | receive transfer hPayee hCertificate hSignature => exact ⟨hPayee, hCertificate, hSignature⟩
  | pay request hCertificate hOther => exact ⟨hOther, rfl, rfl, rfl, rfl, rfl⟩
  | requestFunding => exact ⟨rfl, rfl⟩
  | applyFunding funding hDevice hSignature => exact ⟨hDevice, hSignature⟩
  | defund => exact ⟨rfl, rfl⟩
  | cancelRequest | cancelFunding | crackSecureElement => exact trivial

theorem Step.incoming {w w' : Wallet R} {op : Op} {e : Event} (h : Step w op e w') :
    w'.incoming = e.incomingEffect.apply w.incoming := by
  cases h <;> rfl

theorem Step.pendingFunding {w w' : Wallet R} {op : Op} {e : Event} (h : Step w op e w') :
    w'.pendingFunding = e.fundingEffect.apply w.pendingFunding := by
  cases h <;> rfl

section Runs

variable {allowed : List Event → Wallet R → Op → Prop} {certificate : DeviceCertificate}
  {keypair : Keypair} {issuer : PublicKey} {rng : R} {history : List Event} {w : Wallet R}

-- ---------------------------------------------------------------------------
-- Reservations
-- ---------------------------------------------------------------------------

theorem incoming_lookup
    (hRun : Machine.Reaches exec allowed (fresh certificate keypair issuer rng) history w)
    (nonce : Nonce) :
    w.incoming.lookup nonce = Reservation.held Event.incomingEffect nonce history := by
  refine covers.induction (P := fun history w =>
    w.incoming.lookup nonce = Reservation.held Event.incomingEffect nonce history) hRun rfl ?_
  intro history w op e w' _ _ ih hStep
  rw [hStep.incoming]
  exact Reservation.lookup_apply ih

theorem pendingFunding_lookup
    (hRun : Machine.Reaches exec allowed (fresh certificate keypair issuer rng) history w)
    (nonce : Nonce) :
    w.pendingFunding.lookup nonce = Reservation.held Event.fundingEffect nonce history := by
  refine covers.induction (P := fun history w =>
    w.pendingFunding.lookup nonce = Reservation.held Event.fundingEffect nonce history) hRun rfl ?_
  intro history w op e w' _ _ ih hStep
  rw [hStep.pendingFunding]
  exact Reservation.lookup_apply ih

theorem requested_of_incoming
    (hRun : Machine.Reaches exec allowed (fresh certificate keypair issuer rng) history w)
    {nonce : Nonce} {amountCents : UInt64} (hOpen : w.incoming.lookup nonce = some amountCents) :
    OpenRequest history nonce amountCents := by
  rw [incoming_lookup hRun] at hOpen
  obtain ⟨newer, e, older, hSplit, hOpens, hQuiet⟩ := Reservation.held_eq_some_iff.mp hOpen
  cases e with
  | requested request =>
    obtain ⟨hNonce, hAmount⟩ := Reservation.Effect.opens.inj hOpens
    exact ⟨newer, request, older, hSplit, hNonce, hAmount, hQuiet⟩
  | _ => exact absurd hOpens (by simp [Event.incomingEffect])

theorem requested_of_pendingFunding
    (hRun : Machine.Reaches exec allowed (fresh certificate keypair issuer rng) history w)
    {nonce : Nonce} {amountCents : UInt64}
    (hOpen : w.pendingFunding.lookup nonce = some amountCents) :
    OpenFunding history nonce amountCents := by
  rw [pendingFunding_lookup hRun] at hOpen
  obtain ⟨newer, e, older, hSplit, hOpens, hQuiet⟩ := Reservation.held_eq_some_iff.mp hOpen
  cases e with
  | fundingRequested request =>
    obtain ⟨hNonce, hAmount⟩ := Reservation.Effect.opens.inj hOpens
    exact ⟨newer, request, older, hSplit, hNonce, hAmount, hQuiet⟩
  | _ => exact absurd hOpens (by simp [Event.fundingEffect])

-- ---------------------------------------------------------------------------
-- Credits
-- ---------------------------------------------------------------------------

theorem mem_credited
    (hRun : Machine.Reaches exec allowed (fresh certificate keypair issuer rng) history w)
    (nonce : Nonce) : nonce ∈ w.credited ↔ nonce ∈ creditedNonces history := by
  refine covers.induction (P := fun history w =>
    nonce ∈ w.credited ↔ nonce ∈ creditedNonces history) hRun ?_ ?_
  · exact iff_of_false (Finset.notMem_empty nonce) List.not_mem_nil
  · intro history w op e w' _ _ ih hStep
    cases hStep with
    | receive transfer _ _ _ _ _ =>
      show nonce ∈ insert transfer.nonce w.credited ↔
        nonce ∈ transfer.nonce :: creditedNonces history
      rw [Finset.mem_insert, List.mem_cons, ih]
    | applyFunding funding _ _ _ _ =>
      show nonce ∈ insert funding.nonce w.credited ↔
        nonce ∈ funding.nonce :: creditedNonces history
      rw [Finset.mem_insert, List.mem_cons, ih]
    | _ => exact ih

-- ---------------------------------------------------------------------------
-- Counters
-- ---------------------------------------------------------------------------

/-- The counter is the number of debits, as a machine word. -/
theorem counter_eq
    (hRun : Machine.Reaches exec allowed (fresh certificate keypair issuer rng) history w) :
    w.counter = UInt64.ofNat (counters history).length := by
  refine covers.induction
    (P := fun history w => w.counter = UInt64.ofNat (counters history).length) hRun rfl ?_
  intro history w op e w' _ _ ih hStep
  cases hStep with
  | pay request _ _ _ _ =>
    show w.counter + 1 = UInt64.ofNat ((counters history).length + 1)
    rw [ih, UInt64.ofNat_add]
    rfl
  | defund amountCents _ _ =>
    show w.counter + 1 = UInt64.ofNat ((counters history).length + 1)
    rw [ih, UInt64.ofNat_add]
    rfl
  | _ => exact ih

/-- With fewer than 2^64 debits the counter counts them. -/
theorem counter_toNat
    (hRun : Machine.Reaches exec allowed (fresh certificate keypair issuer rng) history w)
    (hFew : (counters history).length < 2 ^ 64) :
    w.counter.toNat = (counters history).length := by
  rw [counter_eq hRun, UInt64.toNat_ofNat_of_lt' hFew]

/-- The next debit signs a counter above all before it, unless it is the 2^64-th. -/
theorem counter_lt_next
    (hRun : Machine.Reaches exec allowed (fresh certificate keypair issuer rng) history w)
    (hFew : (counters history).length + 1 < 2 ^ 64) : w.counter < w.counter + 1 := by
  have hCounter := counter_toNat hRun (by omega)
  have hOne : (1 : UInt64).toNat = 1 := rfl
  rw [UInt64.lt_iff_toNat_lt, UInt64.toNat_add, hCounter, hOne, Nat.mod_eq_of_lt hFew]
  omega

/-- **Counters increase** with fewer than 2^64 debits, and the element holds the
highest. -/
theorem counters_increasing
    (hRun : Machine.Reaches exec allowed (fresh certificate keypair issuer rng) history w)
    (hFew : (counters history).length < 2 ^ 64) :
    (counters history).Pairwise (· > ·) ∧ ∀ counter ∈ counters history, counter ≤ w.counter := by
  revert hFew
  refine covers.induction (P := fun history w => (counters history).length < 2 ^ 64 →
    (counters history).Pairwise (· > ·) ∧ ∀ counter ∈ counters history, counter ≤ w.counter)
    hRun ?_ ?_
  · exact fun _ => ⟨List.Pairwise.nil, fun counter hMem => absurd hMem List.not_mem_nil⟩
  · intro history w op e w' hReach _ ih hStep hFew
    -- a debit puts the incremented counter in front of the ones before
    have hDebit : (counters history).length + 1 < 2 ^ 64 →
        ((w.counter + 1) :: counters history).Pairwise (· > ·) ∧
          ∀ counter ∈ (w.counter + 1) :: counters history, counter ≤ w.counter + 1 := by
      intro hRoom
      have hNext := counter_lt_next hReach hRoom
      obtain ⟨hIncreasing, hHighest⟩ := ih (by omega)
      refine ⟨List.pairwise_cons.mpr ⟨fun counter hMem => ?_, hIncreasing⟩, fun counter hMem => ?_⟩
      · exact UInt64.lt_of_le_of_lt (hHighest counter hMem) hNext
      · rcases List.mem_cons.mp hMem with rfl | hOlder
        · exact UInt64.le_refl _
        · exact UInt64.le_of_lt (UInt64.lt_of_le_of_lt (hHighest counter hOlder) hNext)
    cases hStep with
    | pay request _ _ _ _ => exact hDebit hFew
    | defund amountCents _ _ => exact hDebit hFew
    | _ => exact ih hFew

/-- **The k-th debit signs counter k**, with fewer than 2^64 debits. -/
theorem counters_eq_range
    (hRun : Machine.Reaches exec allowed (fresh certificate keypair issuer rng) history w)
    (hFew : (counters history).length < 2 ^ 64) :
    (counters history).reverse.map UInt64.toNat = List.range' 1 (counters history).length := by
  revert hFew
  refine covers.induction (P := fun history _ => (counters history).length < 2 ^ 64 →
    (counters history).reverse.map UInt64.toNat = List.range' 1 (counters history).length)
    hRun (fun _ => rfl) ?_
  intro history w op e w' hReach _ ih hStep hFew
  -- a debit signs the next number
  have hDebit : (counters history).length + 1 < 2 ^ 64 →
      ((w.counter + 1) :: counters history).reverse.map UInt64.toNat =
        List.range' 1 ((counters history).length + 1) := by
    intro hRoom
    have hCounter := counter_toNat hReach (Nat.lt_of_succ_lt hRoom)
    have hNext : (w.counter + 1).toNat = (counters history).length + 1 := by
      rw [UInt64.toNat_add, hCounter]
      exact Nat.mod_eq_of_lt hRoom
    rw [List.reverse_cons, List.map_append, ih (Nat.lt_of_succ_lt hRoom), List.range'_1_concat,
      List.map_singleton, hNext, Nat.add_comm 1]
  cases hStep with
  | pay request _ _ _ _ => exact hDebit hFew
  | defund amountCents _ _ => exact hDebit hFew
  | _ => exact ih hFew

omit [Sha256] [Rng R] in
/-- Two debits of a history that signed the same counter are one. -/
theorem eq_of_counter (hUnique : (counters history).Nodup) {e e' : Event} (hMem : e ∈ history)
    (hMem' : e' ∈ history) {counter : UInt64} (hCounter : e.counter = some counter)
    (hCounter' : e'.counter = some counter) : e = e' :=
  Machine.eq_of_observed hUnique hMem hMem' hCounter hCounter'

-- ---------------------------------------------------------------------------
-- Events
-- ---------------------------------------------------------------------------

theorem genuine_of_mem
    (hRun : Machine.Reaches exec allowed (fresh certificate keypair issuer rng) history w)
    {e : Event} (hMem : e ∈ history) : e.Genuine certificate keypair issuer := by
  revert e
  refine covers.induction (P := fun history _ => ∀ {e : Event}, e ∈ history →
    e.Genuine certificate keypair issuer) hRun (fun hMem => absurd hMem List.not_mem_nil) ?_
  intro history w op e w' hReach _ ih hStep e' hMem
  rcases List.mem_cons.mp hMem with rfl | hOlder
  · obtain ⟨hCertificate, hKeypair, hIssuer⟩ := run_fixed hReach
    have hGenuine := hStep.genuine
    rwa [hCertificate, hKeypair, hIssuer] at hGenuine
  · exact ih hOlder

/-- A cracked element was cracked at some point. -/
theorem cracked_mem
    (hRun : Machine.Reaches exec allowed (fresh certificate keypair issuer rng) history w)
    (hState : w.state ≠ .sealed) : Event.cracked ∈ history := by
  revert hState
  refine covers.induction (P := fun history w => w.state ≠ .sealed → Event.cracked ∈ history) hRun
    (fun hState => absurd rfl hState) ?_
  intro history w op e w' _ _ ih hStep hState
  cases hStep with
  | crackSecureElement => exact List.mem_cons_self
  | _ => exact List.mem_cons_of_mem _ (ih hState)

-- ---------------------------------------------------------------------------
-- Nonces that do not repeat
-- ---------------------------------------------------------------------------

/-- A nonce that was not drawn yet is in no table. -/
theorem untouched_of_fresh
    (hRun : Machine.Reaches exec allowed (fresh certificate keypair issuer rng) history w)
    {nonce : Nonce} (hFresh : nonce ∉ drawnNonces history) :
    w.incoming.lookup nonce = none ∧ w.pendingFunding.lookup nonce = none ∧
      nonce ∉ w.credited := by
  revert hFresh
  refine covers.induction (P := fun history w => nonce ∉ drawnNonces history →
    w.incoming.lookup nonce = none ∧ w.pendingFunding.lookup nonce = none ∧
      nonce ∉ w.credited) hRun (fun _ => ⟨rfl, rfl, Finset.notMem_empty nonce⟩) ?_
  intro history w op e w' _ _ ih hStep hFresh
  cases hStep with
  | requestPayment amountCents _ _ =>
    obtain ⟨hOther, hOlder⟩ := List.ne_and_not_mem_of_not_mem_cons hFresh
    obtain ⟨hIncoming, hRest⟩ := ih hOlder
    exact ⟨by rw [Finmap.lookup_insert_of_ne _ hOther, hIncoming], hRest⟩
  | requestFunding amountCents _ _ =>
    obtain ⟨hOther, hOlder⟩ := List.ne_and_not_mem_of_not_mem_cons hFresh
    obtain ⟨hIncoming, hPending, hCredited⟩ := ih hOlder
    refine ⟨hIncoming, ?_, hCredited⟩
    exact (Finmap.lookup_insert_of_ne _ hOther).trans hPending
  | cancelRequest nonce' _ _ =>
    obtain ⟨hIncoming, hRest⟩ := ih hFresh
    refine ⟨?_, hRest⟩
    by_cases hSame : nonce = nonce'
    · rw [hSame, Finmap.lookup_erase]
    · rw [Finmap.lookup_erase_ne hSame, hIncoming]
  | cancelFunding nonce' _ _ =>
    obtain ⟨hIncoming, hPending, hCredited⟩ := ih hFresh
    refine ⟨hIncoming, ?_, hCredited⟩
    by_cases hSame : nonce = nonce'
    · rw [hSame, Finmap.lookup_erase]
    · rw [Finmap.lookup_erase_ne hSame, hPending]
  | receive transfer _ _ _ _ hOpen =>
    -- the nonce of an open request was drawn
    obtain ⟨hIncoming, hPending, hCredited⟩ := ih hFresh
    have hOther : nonce ≠ transfer.nonce := by
      rintro rfl
      rw [hIncoming] at hOpen
      exact absurd hOpen (Option.some_ne_none _).symm
    refine ⟨by rw [Finmap.lookup_erase_ne hOther, hIncoming], hPending, ?_⟩
    rw [Finset.mem_insert, not_or]
    exact ⟨hOther, hCredited⟩
  | applyFunding funding _ _ _ hOpen =>
    obtain ⟨hIncoming, hPending, hCredited⟩ := ih hFresh
    have hOther : nonce ≠ funding.nonce := by
      rintro rfl
      rw [hPending] at hOpen
      exact absurd hOpen (Option.some_ne_none _).symm
    refine ⟨hIncoming, by rw [Finmap.lookup_erase_ne hOther, hPending], ?_⟩
    rw [Finset.mem_insert, not_or]
    exact ⟨hOther, hCredited⟩
  | pay | defund | crackSecureElement => exact ih hFresh

omit [Sha256] [Rng R] in
/-- Two events of a history that drew the same nonce are one. -/
theorem eq_of_drawn (hFresh : (drawnNonces history).Nodup) {e e' : Event} (hMem : e ∈ history)
    (hMem' : e' ∈ history) {nonce : Nonce} (hDrawn : e.drawn = some nonce)
    (hDrawn' : e'.drawn = some nonce) : e = e' :=
  Machine.eq_of_observed hFresh hMem hMem' hDrawn hDrawn'

/-- An applied funding answers a funding request. -/
theorem fundingRequested_of_applied
    (hRun : Machine.Reaches exec allowed (fresh certificate keypair issuer rng) history w)
    {funding : Funding} (hMem : .applied funding ∈ history) :
    ∃ request, .fundingRequested request ∈ history ∧ request.nonce = funding.nonce ∧
      request.amountCents = funding.amountCents := by
  obtain ⟨newer, older, rfl⟩ := List.append_of_mem hMem
  obtain ⟨w₁, op, w₂, hOlder, -, hStep⟩ := covers.transition hRun ⟨newer, rfl⟩
  cases hStep with
  | applyFunding _ _ _ _ hOpen =>
    obtain ⟨newer', request, older', rfl, hNonce, hAmount, -⟩ :=
      requested_of_pendingFunding hOlder hOpen
    exact ⟨request, by simp, hNonce, hAmount⟩

/-- A received transfer answers a payment request. -/
theorem requested_of_received
    (hRun : Machine.Reaches exec allowed (fresh certificate keypair issuer rng) history w)
    {transfer : Transfer} (hMem : .received transfer ∈ history) :
    ∃ request, .requested request ∈ history ∧ request.nonce = transfer.nonce ∧
      request.amountCents = transfer.amountCents := by
  obtain ⟨newer, older, rfl⟩ := List.append_of_mem hMem
  obtain ⟨w₁, op, w₂, hOlder, -, hStep⟩ := covers.transition hRun ⟨newer, rfl⟩
  cases hStep with
  | receive _ _ _ _ _ hOpen =>
    obtain ⟨newer', request, older', rfl, hNonce, hAmount, -⟩ := requested_of_incoming hOlder hOpen
    exact ⟨request, by simp, hNonce, hAmount⟩

/-- **A payment request stays open** until it is cancelled or answered, when nonces
do not repeat. -/
theorem incoming_of_requested
    (hRun : Machine.Reaches exec allowed (fresh certificate keypair issuer rng) history w)
    (hFresh : (drawnNonces history).Nodup) {request : PaymentRequest}
    (hMem : .requested request ∈ history)
    (hNotCancelled : .requestCancelled request.nonce ∉ history)
    (hNotReceived : ∀ transfer, .received transfer ∈ history → transfer.nonce ≠ request.nonce) :
    w.incoming.lookup request.nonce = some request.amountCents ∧
      request.nonce ∉ w.credited := by
  constructor
  · rw [incoming_lookup hRun]
    refine Reservation.held_of_opened hMem rfl ?_ ?_
    · intro e' hMem' value' hOpens
      cases e' with
      | requested request' =>
        obtain ⟨hNonce, hValue⟩ := Reservation.Effect.opens.inj hOpens
        have hSame := eq_of_drawn hFresh hMem hMem' rfl (congrArg some hNonce)
        obtain rfl := Event.requested.inj hSame
        exact hValue.symm
      | _ => exact absurd hOpens (by simp [Event.incomingEffect])
    · intro e' hMem' hCloses
      cases e' with
      | requestCancelled nonce =>
        obtain rfl := Reservation.Effect.closes.inj hCloses
        exact hNotCancelled hMem'
      | received transfer =>
        exact hNotReceived transfer hMem' (Reservation.Effect.closes.inj hCloses)
      | _ => exact absurd hCloses (by simp [Event.incomingEffect])
  · intro hCredited
    obtain ⟨e', hMem', hNonce⟩ := List.mem_filterMap.mp ((mem_credited hRun _).mp hCredited)
    cases e' with
    | received transfer => exact hNotReceived transfer hMem' (Option.some.inj hNonce)
    | applied funding =>
      -- its nonce was drawn for a funding request
      obtain ⟨request', hRequest', hDrawn, -⟩ := fundingRequested_of_applied hRun hMem'
      have hSame := eq_of_drawn hFresh hMem hRequest' rfl
        (congrArg some (hDrawn.trans (Option.some.inj hNonce)))
      exact absurd hSame (by simp)
    | _ => exact absurd hNonce (by simp [Event.creditedNonce])

/-- **A funding request stays open** until it is cancelled or answered, when nonces
do not repeat. -/
theorem pendingFunding_of_requested
    (hRun : Machine.Reaches exec allowed (fresh certificate keypair issuer rng) history w)
    (hFresh : (drawnNonces history).Nodup) {request : FundingRequest}
    (hMem : .fundingRequested request ∈ history)
    (hNotCancelled : .fundingCancelled request.nonce ∉ history)
    (hNotApplied : ∀ funding, .applied funding ∈ history → funding.nonce ≠ request.nonce) :
    w.pendingFunding.lookup request.nonce = some request.amountCents ∧
      request.nonce ∉ w.credited := by
  constructor
  · rw [pendingFunding_lookup hRun]
    refine Reservation.held_of_opened hMem rfl ?_ ?_
    · intro e' hMem' value' hOpens
      cases e' with
      | fundingRequested request' =>
        obtain ⟨hNonce, hValue⟩ := Reservation.Effect.opens.inj hOpens
        have hSame := eq_of_drawn hFresh hMem hMem' rfl (congrArg some hNonce)
        obtain rfl := Event.fundingRequested.inj hSame
        exact hValue.symm
      | _ => exact absurd hOpens (by simp [Event.fundingEffect])
    · intro e' hMem' hCloses
      cases e' with
      | fundingCancelled nonce =>
        obtain rfl := Reservation.Effect.closes.inj hCloses
        exact hNotCancelled hMem'
      | applied funding =>
        exact hNotApplied funding hMem' (Reservation.Effect.closes.inj hCloses)
      | _ => exact absurd hCloses (by simp [Event.fundingEffect])
  · intro hCredited
    obtain ⟨e', hMem', hNonce⟩ := List.mem_filterMap.mp ((mem_credited hRun _).mp hCredited)
    cases e' with
    | applied funding => exact hNotApplied funding hMem' (Option.some.inj hNonce)
    | received transfer =>
      -- its nonce was drawn for a payment request
      obtain ⟨request', hRequest', hDrawn, -⟩ := requested_of_received hRun hMem'
      have hSame := eq_of_drawn hFresh hMem hRequest' rfl
        (congrArg some (hDrawn.trans (Option.some.inj hNonce)))
      exact absurd hSame (by simp)
    | _ => exact absurd hNonce (by simp [Event.creditedNonce])

end Runs

end Wallet

end DigitalEuro
