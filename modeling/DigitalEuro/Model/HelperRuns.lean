import DigitalEuro.Model.Counterfeit

/-!
# Digital euro — runs of the helpers

A caller that only uses `fund`, `defund` and `pay` runs them one after another, on
whatever state it finds. Each call is a few calls of the parties that deliver signed
messages, so a run of helpers is a run of the system.

* `Reachable.leads_pay`, `Reachable.leads_fund`, `Reachable.leads_defund` — what a
  helper leads to is reachable again, and a device draws and signs at most once;
* `ReadyAs.run` — a run of helpers among elements of both kinds is a run of movements in
  which the purses of cracked spenders are put back;
* `calls_refine` — a run of helpers gives the results of the same movements on the
  ledger, one by one, and ends with the same ledger;
* `everything_redeemable` — every device can be emptied into its account.
-/

namespace DigitalEuro

/-- The next strings a generator returns. -/
def Rng.draws {R : Type} [Rng R] : ℕ → R → List Bytes16
  | 0, _ => []
  | n + 1, rng => (Rng.gen rng).1 :: Rng.draws n (Rng.gen rng).2

theorem Rng.draws_prefix {R : Type} [Rng R] {m n : ℕ} (h : m ≤ n) (rng : R) :
    Rng.draws m rng <+: Rng.draws n rng := by
  induction n generalizing m rng with
  | zero =>
    obtain rfl := Nat.le_zero.mp h
    exact List.nil_prefix
  | succ n ih =>
    cases m with
    | zero => exact List.nil_prefix
    | succ m => exact List.prefix_cons_iff.mpr (.inr ⟨_, rfl, ih (Nat.le_of_succ_le_succ h) _⟩)

-- ---------------------------------------------------------------------------
-- Calls
-- ---------------------------------------------------------------------------

namespace System

/-- A call of a helper. -/
inductive Call where
  | fund (device : DeviceId) (amountCents : UInt64)
  | defund (device : DeviceId) (amountCents : UInt64)
  | pay (payer payee : DeviceId) (amountCents : UInt64)

/-- The movement a helper is meant to be. -/
def Call.movement : Call → Movement DeviceId
  | .fund device amountCents => .fund device amountCents.toNat
  | .defund device amountCents => .defund device amountCents.toNat
  | .pay payer payee amountCents => .pay payer payee amountCents.toNat

/-- How many nonces a call may have a device draw. -/
def Call.draws (device : DeviceId) : Call → ℕ
  | .fund target _ | .pay _ target _ => if target = device then 1 else 0
  | .defund .. => 0

/-- How many debits a call may have a device sign. -/
def Call.debits (device : DeviceId) : Call → ℕ
  | .defund source _ | .pay source _ _ => if source = device then 1 else 0
  | .fund .. => 0

theorem Call.draws_le (device : DeviceId) (calls : List Call) :
    (calls.map (Call.draws device)).sum ≤ calls.length := by
  induction calls with
  | nil => exact Nat.le_refl 0
  | cons c calls ih =>
    have hOne : c.draws device ≤ 1 := by
      cases c with
      | fund target _ | pay _ target _ =>
        unfold Call.draws
        dsimp only
        split_ifs <;> omega
      | defund => exact Nat.zero_le 1
    rw [List.map_cons, List.sum_cons, List.length_cons]
    omega

theorem Call.debits_le (device : DeviceId) (calls : List Call) :
    (calls.map (Call.debits device)).sum ≤ calls.length := by
  induction calls with
  | nil => exact Nat.le_refl 0
  | cons c calls ih =>
    have hOne : c.debits device ≤ 1 := by
      cases c with
      | defund source _ | pay source _ _ =>
        unfold Call.debits
        dsimp only
        split_ifs <;> omega
      | fund => exact Nat.zero_le 1
    rw [List.map_cons, List.sum_cons, List.length_cons]
    omega

/-- Runs one helper. -/
def call [Sha256] {R : Type} [Rng R] (s : System R) :
    Call → Option (Except Error UInt64 × System R)
  | .fund device amountCents => s.fund device amountCents
  | .defund device amountCents => s.defund device amountCents
  | .pay payer payee amountCents => s.pay payer payee amountCents

end System

-- ---------------------------------------------------------------------------
-- One device
-- ---------------------------------------------------------------------------

/-- What a helper does to an element that may draw and sign so often. -/
structure Wallet.Advanced {R : Type} [Rng R] (draws debits : ℕ) (events : List Wallet.Event)
    (w w' : Wallet R) : Prop where
  state_eq : w'.state = w.state
  debits_le : (Wallet.counters events).length ≤ debits
  drawn : (Wallet.drawnNonces events = [] ∧ w'.rng = w.rng) ∨
    (draws = 1 ∧ Wallet.drawnNonces events = [(Rng.gen w.rng).1] ∧ w'.rng = (Rng.gen w.rng).2)

namespace System

variable {R : Type} [Rng R] {history history' : List Event} {device : DeviceId} {w w' : Wallet R}

/-- An element whose counter and generator last for the calls that follow. -/
structure Lasting (history : List Event) (device : DeviceId) (w : Wallet R) (later : List Call) :
    Prop where
  few : debits device history + (later.map (Call.debits device)).sum < 2 ^ 64
  distinct : (Rng.draws (later.map (Call.draws device)).sum w.rng).Nodup
  unseen : ∀ nonce ∈ Rng.draws (later.map (Call.draws device)).sum w.rng,
    nonce ∉ Wallet.drawnNonces (localEvents device history)

/-- A sealed element that lasts. -/
structure Paced (history : List Event) (device : DeviceId) (w : Wallet R) (later : List Call) : Prop
    extends Lasting history device w later where
  isSealed : w.state = .sealed

theorem Lasting.fresh {c : Call} {later : List Call} (h : Lasting history device w (c :: later))
    (hDraws : c.draws device = 1) : FreshNonce history device w := by
  have hUnseen := h.unseen
  rw [List.map_cons, List.sum_cons, hDraws, Nat.add_comm 1] at hUnseen
  exact hUnseen _ List.mem_cons_self

theorem Lasting.few_cons {c : Call} {later : List Call}
    (h : Lasting history device w (c :: later))
    (hDebits : c.debits device = 1) : debits device history + 1 < 2 ^ 64 := by
  have hFew := h.few
  rw [List.map_cons, List.sum_cons, hDebits] at hFew
  omega

theorem Lasting.advance {c : Call} {later : List Call} {events : List Wallet.Event}
    (h : Lasting history device w (c :: later))
    (hAdvanced : Wallet.Advanced (c.draws device) (c.debits device) events w w')
    (hLocal : localEvents device history' = events ++ localEvents device history) :
    Lasting history' device w' later := by
  have hDrawn : Wallet.drawnNonces (localEvents device history') =
      Wallet.drawnNonces events ++ Wallet.drawnNonces (localEvents device history) := by
    rw [hLocal, Wallet.drawnNonces, List.filterMap_append]
    rfl
  have hDistinct := h.distinct
  have hUnseen := h.unseen
  have hFew := h.few
  rw [List.map_cons, List.sum_cons] at hDistinct hUnseen hFew
  have hCounter : debits device history' + (later.map (Call.debits device)).sum < 2 ^ 64 := by
    have hLe := hAdvanced.debits_le
    have hDebits : debits device history' =
        (Wallet.counters events).length + debits device history := by
      rw [debits, hLocal, Wallet.counters, List.filterMap_append, List.length_append]
      rfl
    omega
  rcases hAdvanced.drawn with ⟨hNone, hRng⟩ | ⟨hDraws, hOne, hRng⟩
  · have hPrefix := Rng.draws_prefix (Nat.le_add_left (later.map (Call.draws device)).sum
      (c.draws device)) w.rng
    rw [hNone, List.nil_append] at hDrawn
    rw [← hRng] at hPrefix hDistinct hUnseen
    refine ⟨hCounter, hDistinct.sublist hPrefix.sublist, fun nonce hNonce => ?_⟩
    rw [hDrawn]
    exact hUnseen nonce (hPrefix.subset hNonce)
  · rw [hDraws, Nat.add_comm 1] at hDistinct hUnseen
    obtain ⟨hNew, hRest⟩ := List.nodup_cons.mp hDistinct
    rw [← hRng] at hNew hRest
    refine ⟨hCounter, hRest, fun nonce hNonce => ?_⟩
    rw [hDrawn, hOne, List.singleton_append, List.mem_cons, not_or]
    refine ⟨fun hSame => hNew (hSame ▸ hNonce), hUnseen nonce (List.mem_cons_of_mem _ ?_)⟩
    rw [hRng] at hNonce
    exact hNonce

/-- What a call does to all the elements. -/
def Advances (c : Call) (history : List Event) (s : System R) (history' : List Event)
    (s' : System R) : Prop :=
  ∀ device w', s'.wallets.lookup device = some w' → ∃ w events,
    s.wallets.lookup device = some w ∧
      localEvents device history' = events ++ localEvents device history ∧
      Wallet.Advanced (c.draws device) (c.debits device) events w w'

omit [Rng R] in
theorem localEvents_other (h : w.certificate.device = device) {other : DeviceId}
    (hOther : other ≠ device) (e : Wallet.Event) (history : List Event) :
    localEvents other (.wallet w.certificate e :: history) = localEvents other history :=
  localEvents_wallet_ne (by rw [h]; exact Ne.symm hOther) e history

variable {s : System R}

theorem Advances.refl (c : Call) (history : List Event) (s : System R) :
    Advances c history s history s :=
  fun _ w' hWallet => ⟨w', [], hWallet, rfl, rfl, Nat.zero_le _, .inl ⟨rfl, rfl⟩⟩

/-- One element moves. -/
theorem Advances.one {c : Call} {issuer : Issuer} (events : List Wallet.Event)
    (hWallet : s.wallets.lookup device = some w)
    (hAdvanced : Wallet.Advanced (c.draws device) (c.debits device) events w w')
    (hLocal : localEvents device history' = events ++ localEvents device history)
    (hOthers : ∀ other, other ≠ device → localEvents other history' = localEvents other history) :
    Advances c history s history' { issuer, wallets := s.wallets.insert device w' } := by
  intro other w₁ hLookup
  by_cases hSame : other = device
  · rw [hSame, Finmap.lookup_insert, Option.some.injEq] at hLookup
    subst hSame hLookup
    exact ⟨w, events, hWallet, hLocal, hAdvanced⟩
  · rw [Finmap.lookup_insert_of_ne _ hSame] at hLookup
    exact ⟨w₁, [], hLookup, hOthers other hSame, rfl, Nat.zero_le _, .inl ⟨rfl, rfl⟩⟩

/-- Two elements move. -/
theorem Advances.two {c : Call} {issuer : Issuer} {payer payee : DeviceId}
    {target target' : Wallet R}
    (hOther : payer ≠ payee) (events events' : List Wallet.Event)
    (hPayer : s.wallets.lookup payer = some w) (hPayee : s.wallets.lookup payee = some target)
    (hAdvanced : Wallet.Advanced (c.draws payer) (c.debits payer) events w w')
    (hAdvanced' : Wallet.Advanced (c.draws payee) (c.debits payee) events' target target')
    (hLocal : localEvents payer history' = events ++ localEvents payer history)
    (hLocal' : localEvents payee history' = events' ++ localEvents payee history)
    (hOthers : ∀ other, other ≠ payer → other ≠ payee →
      localEvents other history' = localEvents other history) :
    Advances c history s history'
      { issuer, wallets := (s.wallets.insert payer w').insert payee target' } := by
  intro device w₁ hLookup
  by_cases hIsPayee : device = payee
  · rw [hIsPayee, Finmap.lookup_insert, Option.some.injEq] at hLookup
    subst hIsPayee hLookup
    exact ⟨target, events', hPayee, hLocal', hAdvanced'⟩
  rw [Finmap.lookup_insert_of_ne _ hIsPayee] at hLookup
  by_cases hIsPayer : device = payer
  · rw [hIsPayer, Finmap.lookup_insert, Option.some.injEq] at hLookup
    subst hIsPayer hLookup
    exact ⟨w, events, hPayer, hLocal, hAdvanced⟩
  · rw [Finmap.lookup_insert_of_ne _ hIsPayer] at hLookup
    exact ⟨w₁, [], hLookup, hOthers device hIsPayer hIsPayee, rfl, Nat.zero_le _,
      .inl ⟨rfl, rfl⟩⟩

variable [Sha256] {G : Type} [Rng G] {keypair : Keypair}

-- ---------------------------------------------------------------------------
-- One call
-- ---------------------------------------------------------------------------

/-- What a call leads to. -/
def Leads (R G : Type) [Rng R] [Rng G] (keypair : Keypair) (history : List Event) (s : System R)
    (c : Call) : Prop :=
  ∃ result s' history', s.call c = some (result, s') ∧ Reachable R G keypair history' s' ∧
    Advances c history s history' s'

theorem Leads.refused {c : Call} {error : Error} (h : Reachable R G keypair history s)
    (hCall : s.call c = some (.error error, s)) : Leads R G keypair history s c :=
  ⟨_, s, history, hCall, h, .refl c history s⟩

/-- The certificate of an installed element was signed by the issuer. -/
theorem Reachable.certificate_signed (h : Reachable R G keypair history s)
    (hWallet : s.wallets.lookup device = some w) :
    ∃ e ∈ history,
      e.signing s.issuer.publicKey = some (s.issuer.publicKey, w.certificate.content) := by
  obtain ⟨account, certificate, hMem, hContent⟩ := h.certified hWallet
  exact ⟨_, hMem, by rw [Event.signing, hContent]⟩

/-- **A payment leads on**: the payee draws a nonce and the payer signs a debit. -/
theorem Reachable.leads_pay (h : Reachable R G keypair history s) {payer payee : DeviceId}
    (hOther : payer ≠ payee) {w w' : Wallet R} (hPayer : s.wallets.lookup payer = some w)
    (hPayee : s.wallets.lookup payee = some w') (hFresh : FreshNonce history payee w')
    (amountCents : UInt64) : Leads R G keypair history s (.pay payer payee amountCents) := by
  have hOf := h.enrolled.wallet_of hPayer
  have hOf' := h.enrolled.wallet_of hPayee
  have hCan := h.enrolled.canPay hOther hPayer hPayee
  obtain ⟨hIncoming, -, hNew⟩ := hOf'.untouched hFresh
  obtain ⟨-, hCall⟩ | ⟨-, -, hCall⟩ | ⟨hPos, hRoom, hShort, hCall⟩ |
    ⟨hPos, hRoom, hFunds, hCall⟩ := h.enrolled.pay_cases hOther hPayer hPayee hFresh amountCents
  · exact .refused h hCall
  · exact .refused h hCall
  all_goals
    have hAsked := h.wallet_next hPayee (Wallet.Step.requestPayment amountCents hPos hRoom)
      (fun _ hp => absurd hp List.not_mem_nil)
  case inr.inr.inl =>
    -- the payer refuses and the request is cancelled
    have hCancelled := hAsked.wallet_next (Finmap.lookup_insert _)
      (Wallet.Step.cancelRequest (Rng.gen w'.rng).1 amountCents (Finmap.lookup_insert _))
      (fun _ hp => absurd hp List.not_mem_nil)
    simp only [Finmap.insert_insert, Finmap.erase_insert_of_lookup_none hIncoming] at hCancelled
    refine ⟨_, _, _, hCall, hCancelled, Advances.one [.requestCancelled (Rng.gen w'.rng).1,
        .requested { payee := w'.certificate, amountCents, nonce := (Rng.gen w'.rng).1 }] hPayee
      ⟨rfl, Nat.zero_le _, .inr ⟨if_pos rfl, rfl, rfl⟩⟩ ?_ fun other hNe => ?_⟩
    · simp only [localEvents_wallet hOf'.device_eq, List.cons_append, List.nil_append]
    · simp only [localEvents_other hOf'.device_eq hNe]
  -- the payer signs, and the payee credits what was signed
  let request : PaymentRequest :=
    { payee := w'.certificate, amountCents, nonce := (Rng.gen w'.rng).1 }
  let asked : Wallet R :=
    { w' with
      rng := (Rng.gen w'.rng).2
      incoming := w'.incoming.insert (Rng.gen w'.rng).1 amountCents }
  have hPayer' : (s.wallets.insert payee asked).lookup payer = some w := by
    rw [Finmap.lookup_insert_of_ne _ hOther, hPayer]
  have hPayee' : ((s.wallets.insert payee asked).insert payer (w.debited amountCents)).lookup
      payee = some asked := by
    rw [Finmap.lookup_insert_of_ne _ (Ne.symm hOther), Finmap.lookup_insert]
  have hPaid := hAsked.wallet_next hPayer'
    (Wallet.Step.pay request hCan.payee_verifies hCan.other hPos hFunds) (by
      intro p hp
      obtain rfl := List.mem_singleton.mp hp
      obtain ⟨e, hMem, hSigning⟩ := h.certificate_signed hPayee
      exact ⟨e, List.mem_cons_of_mem _ hMem, hSigning⟩)
  have hReceived := hPaid.wallet_next hPayee'
    (Wallet.Step.receive (w.transferFor request) rfl hCan.payer_verifies
      (Wallet.transferFor_verifies hCan.generated hCan.publicKey_eq request) hNew
      (Finmap.lookup_insert _)) (by
      intro p hp
      rcases List.mem_cons.mp hp with rfl | hp
      · obtain ⟨e, hMem, hSigning⟩ := h.certificate_signed hPayer
        exact ⟨e, List.mem_cons_of_mem _ (List.mem_cons_of_mem _ hMem), hSigning⟩
      · obtain rfl := List.mem_singleton.mp hp
        exact ⟨_, List.mem_cons_self, rfl⟩)
  have hErase : asked.incoming.erase (w.transferFor request).nonce = w'.incoming :=
    Finmap.erase_insert_of_lookup_none hIncoming
  rw [hErase, Finmap.insert_insert_of_ne _ (Ne.symm hOther), Finmap.insert_insert] at hReceived
  refine ⟨_, _, _, hCall, hReceived, Advances.two hOther
    [.paid request (w.transferFor request) w.state]
    [.received (w.transferFor request), .requested request] hPayer hPayee
    ⟨rfl, (if_pos rfl).ge, .inl ⟨rfl, rfl⟩⟩ ⟨rfl, Nat.zero_le _, .inr ⟨if_pos rfl, rfl, rfl⟩⟩
    ?_ ?_ fun other hNe hNe' => ?_⟩
  · rw [localEvents_other hOf'.device_eq hOther, localEvents_wallet hOf.device_eq,
      localEvents_other hOf'.device_eq hOther]
    rfl
  · rw [localEvents_wallet hOf'.device_eq, localEvents_other hOf.device_eq (Ne.symm hOther),
      localEvents_wallet hOf'.device_eq]
    rfl
  · rw [localEvents_other hOf'.device_eq hNe', localEvents_other hOf.device_eq hNe,
      localEvents_other hOf'.device_eq hNe']

/-- **A funding leads on**: the device draws a nonce. -/
theorem Reachable.leads_fund (h : Reachable R G keypair history s) (hIssuer : keypair.Generated)
    (hWallet : s.wallets.lookup device = some w) (hFresh : FreshNonce history device w)
    (amountCents : UInt64) : Leads R G keypair history s (.fund device amountCents) := by
  have hOf := h.enrolled.wallet_of hWallet
  obtain ⟨-, hPending, -⟩ := hOf.untouched hFresh
  let request := w.fundingRequestFor amountCents (Rng.gen w.rng).1
  obtain ⟨record, balance, hOn, hCases⟩ := h.fund_cases hIssuer hWallet hFresh amountCents
  obtain ⟨-, hCall⟩ | ⟨-, -, hCall⟩ | ⟨hPos, hRoom, hShort, hCall⟩ |
    ⟨hPos, hRoom, hFunds, hCall⟩ := hCases
  · exact .refused h hCall
  · exact .refused h hCall
  case inr.inr.inl =>
    -- the issuer refuses and the request is cancelled
    have hAsked := h.wallet_next hWallet (Wallet.Step.requestFunding amountCents hPos hRoom)
      (fun _ hp => absurd hp List.not_mem_nil)
    have hCancelled := hAsked.wallet_next (Finmap.lookup_insert _)
      (Wallet.Step.cancelFunding (Rng.gen w.rng).1 amountCents (Finmap.lookup_insert _))
      (fun _ hp => absurd hp List.not_mem_nil)
    simp only [Finmap.insert_insert, Finmap.erase_insert_of_lookup_none hPending] at hCancelled
    refine ⟨_, _, _, hCall, hCancelled, Advances.one [.fundingCancelled (Rng.gen w.rng).1,
      .fundingRequested request] hWallet ⟨rfl, Nat.zero_le _, .inr ⟨if_pos rfl, rfl, rfl⟩⟩ ?_
      fun other hNe => ?_⟩
    · simp only [localEvents_wallet hOf.device_eq, List.cons_append, List.nil_append]
      rfl
    · simp only [localEvents_other hOf.device_eq hNe]
  -- the issuer debits the account, and the device credits what was signed
  have hFunded := h.fund_next hWallet hFresh hOn hPos hRoom hFunds
  refine ⟨_, _, _, hCall, hFunded, Advances.one [.applied (s.issuer.fundingFor request),
    .fundingRequested request] hWallet ⟨rfl, Nat.zero_le _, .inr ⟨if_pos rfl, rfl, rfl⟩⟩ ?_
    fun other hNe => ?_⟩
  · simp only [List.cons_append, List.nil_append, localEvents_issuer,
      localEvents_wallet hOf.device_eq]
    rfl
  · simp only [List.cons_append, List.nil_append, localEvents_issuer,
      localEvents_other hOf.device_eq hNe]

/-- **A defunding leads on**: the device signs a debit. -/
theorem Reachable.leads_defund (h : Reachable R G keypair history s) (hIssuer : keypair.Generated)
    (hWallet : s.wallets.lookup device = some w) (hFew : debits device history + 1 < 2 ^ 64)
    (amountCents : UInt64) : Leads R G keypair history s (.defund device amountCents) := by
  have hOf := h.enrolled.wallet_of hWallet
  obtain ⟨record, balance, hOn, hCounter, hCases⟩ :=
    h.defund_cases hIssuer hWallet hFew amountCents
  obtain ⟨-, hCall⟩ | ⟨-, -, hCall⟩ | ⟨hPos, hFunds, hCall⟩ := hCases
  · exact .refused h hCall
  · exact .refused h hCall
  have hCredited := h.defund_next hWallet hOn hCounter hPos hFunds
  refine ⟨_, _, _, hCall, hCredited, Advances.one [.defunded (w.defundingFor amountCents) w.state]
    hWallet ⟨rfl, (if_pos rfl).ge, .inl ⟨rfl, rfl⟩⟩ ?_ fun other hNe => ?_⟩
  · simp only [List.cons_append, List.nil_append, localEvents_issuer,
      localEvents_wallet hOf.device_eq]
  · simp only [List.cons_append, List.nil_append, localEvents_issuer,
      localEvents_other hOf.device_eq hNe]

-- ---------------------------------------------------------------------------
-- The ledger of a reachable state
-- ---------------------------------------------------------------------------

theorem Enrolled.ledger_purse (h : Enrolled R G keypair history s)
    (hWallet : s.wallets.lookup device = some w) :
    s.ledger.purse device = some (w.purse (h.wallet_of hWallet).within_limit) :=
  System.ledger_purse hWallet _

theorem Enrolled.ledger_isSome (h : Enrolled R G keypair history s) (device : DeviceId) :
    (s.ledger.purse device).isSome = (s.wallets.lookup device).isSome := by
  cases hWallet : s.wallets.lookup device with
  | none =>
    show ((s.wallets.lookup device).bind Wallet.purse?).isSome = _
    rw [hWallet]
    rfl
  | some w => rw [h.ledger_purse hWallet, Option.isSome_some, Option.isSome_some]

theorem Enrolled.ledger_balance (h : Enrolled R G keypair history s)
    (hWallet : s.wallets.lookup device = some w) :
    s.ledger.balance device = w.balanceCents.toNat :=
  Ledger.balance_eq (h.ledger_purse hWallet)

theorem Enrolled.ledger_within (h : Enrolled R G keypair history s) :
    Ledger.Within s.wallets.keys s.issuer.accounts.keys s.ledger where
  devices device hSome := by
    rw [h.ledger_isSome] at hSome
    exact Finmap.mem_keys.mpr (Finmap.lookup_isSome.mp hSome)
  accounts account hSome := by
    have hLookup : ((s.issuer.accounts.lookup account).map UInt64.toNat).isSome := hSome
    rw [Option.isSome_map] at hLookup
    exact Finmap.mem_keys.mpr (Finmap.lookup_isSome.mp hLookup)

/-- The purses hold what the elements hold. -/
theorem Enrolled.ledger_held (h : Enrolled R G keypair history s) :
    s.ledger.held s.wallets.keys = s.balances := by
  rw [balances, Finmap.total_eq_sum_keys]
  refine Finset.sum_congr rfl fun device _ => ?_
  cases hWallet : s.wallets.lookup device with
  | none =>
    have hNone := h.ledger_isSome device
    rw [hWallet, Option.isSome_none, Option.isSome_eq_false_iff, Option.isNone_iff_eq_none] at hNone
    rw [Ledger.balance, hNone]
    rfl
  | some w =>
    rw [h.ledger_balance hWallet]
    rfl

omit [Sha256] [Rng R] in
theorem ledger_online (s : System R) :
    s.ledger.online s.issuer.accounts.keys = s.issuer.accounts.total UInt64.toNat := by
  rw [Finmap.total_eq_sum_keys]
  rfl

/-- Movements neither enrol nor open accounts. -/
theorem Enrolled.keys_eq {s' : System R} {devices : Finset DeviceId} {accounts : Finset AccountId}
    {amount : ℕ} (h : Enrolled R G keypair history s) (h' : Enrolled R G keypair history' s')
    (hMints : Ledger.Mints devices accounts amount s.ledger s'.ledger) :
    s'.wallets.keys = s.wallets.keys ∧ s'.issuer.accounts.keys = s.issuer.accounts.keys := by
  constructor
  · ext device
    have hTerms := congrArg Option.isSome (hMints.terms device)
    rw [Option.isSome_map, Option.isSome_map, h.ledger_isSome, h'.ledger_isSome] at hTerms
    rw [Finmap.mem_keys, Finmap.mem_keys, ← Finmap.lookup_isSome, ← Finmap.lookup_isSome, hTerms]
  · ext account
    have hExist : ((s'.issuer.accounts.lookup account).map UInt64.toNat).isSome =
        ((s.issuer.accounts.lookup account).map UInt64.toNat).isSome := hMints.exist account
    rw [Option.isSome_map, Option.isSome_map] at hExist
    rw [Finmap.mem_keys, Finmap.mem_keys, ← Finmap.lookup_isSome, ← Finmap.lookup_isSome, hExist]

/-- The books after a run that mints an amount. -/
theorem Enrolled.books {s' : System R} {amount : ℕ} (h : Enrolled R G keypair history s)
    (h' : Enrolled R G keypair history' s')
    (hMints : Ledger.Mints s.wallets.keys s.issuer.accounts.keys amount s.ledger s'.ledger) :
    (s'.balances : ℤ) - s'.issuer.offlineFloat = s.balances - s.issuer.offlineFloat + amount ∧
      ((s'.issuer.accounts.total UInt64.toNat : ℕ) : ℤ) + s'.issuer.offlineFloat =
        (s.issuer.accounts.total UInt64.toNat : ℕ) + s.issuer.offlineFloat := by
  obtain ⟨hDevices, hAccounts⟩ := h.keys_eq h' hMints
  have hFloat := hMints.float
  have hMoney := hMints.money
  rw [h.ledger_held, ← hDevices, h'.ledger_held] at hFloat
  rw [ledger_online, ← hAccounts, ledger_online] at hMoney
  exact ⟨hFloat, hMoney⟩

/-- An installed element has an account behind it. -/
theorem Reachable.served (h : Reachable R G keypair history s) (hIssuer : keypair.Generated)
    (hWallet : s.wallets.lookup device = some w) :
    ∃ account balance, Ledger.Served s.ledger device
      (w.purse (h.enrolled.wallet_of hWallet).within_limit) account balance := by
  obtain ⟨record, balance, hOn⟩ := h.onRecord hIssuer hWallet
  obtain ⟨hOwner, hAccount⟩ := ledger_onRecord (h.enrolled.wallet_of hWallet).device_eq hOn
  exact ⟨record.account, balance.toNat, h.enrolled.ledger_purse hWallet, hOwner, hAccount⟩

-- ---------------------------------------------------------------------------
-- Runs
-- ---------------------------------------------------------------------------

/-- The devices of a call are installed, and a payment is between two. -/
def Call.Addressed (s : System R) : Call → Prop
  | .fund device _ | .defund device _ => (s.wallets.lookup device).isSome
  | .pay payer payee _ =>
    payer ≠ payee ∧ (s.wallets.lookup payer).isSome ∧ (s.wallets.lookup payee).isSome

omit [Sha256] [Rng R] in
theorem Call.Addressed.proper {c : Call} (h : c.Addressed s) : c.movement.Proper := by
  cases c with
  | fund | defund => trivial
  | pay payer payee amountCents => exact h.1

omit [Sha256] [Rng R] in
theorem movements_proper {calls : List Call} (h : ∀ c ∈ calls, c.Addressed s) :
    ∀ m ∈ calls.map Call.movement, m.Proper := by
  intro m hMem
  obtain ⟨c, hCall, rfl⟩ := List.mem_map.mp hMem
  exact (h c hCall).proper

omit [Sha256] [Rng R] in
theorem Call.Addressed.mono {s' : System R} {c : Call} (h : c.Addressed s)
    (hSame : ∀ device, (s'.wallets.lookup device).isSome = (s.wallets.lookup device).isSome) :
    c.Addressed s' := by
  cases c with
  | fund device _ | defund device _ => exact (hSame device).trans h
  | pay payer payee _ => exact ⟨h.1, (hSame payer).trans h.2.1, (hSame payee).trans h.2.2⟩

/-- A state from which calls can be run: their devices are installed and keep within
their pace, and all the money there is fits a `u64`. -/
structure Ready (R G : Type) [Rng R] [Rng G] (keypair : Keypair) (devices : Finset DeviceId)
    (accounts : Finset AccountId) (later : List Call) (s : System R) : Prop where
  reachable : ∃ history, Reachable R G keypair history s ∧
    ∀ device w, s.wallets.lookup device = some w → Paced history device w later
  addressed : ∀ c ∈ later, c.Addressed s
  within : Ledger.Within devices accounts s.ledger
  fits : s.ledger.online accounts + s.ledger.held devices < 2 ^ 64

variable {devices : Finset DeviceId} {accounts : Finset AccountId}

/-- What is in an account and on a device fits a `u64`. -/
theorem fits_of_onRecord (hWithin : Ledger.Within devices accounts s.ledger)
    (hFits : s.ledger.online accounts + s.ledger.held devices < 2 ^ 64)
    (h : Enrolled R G keypair history s) (hWallet : s.wallets.lookup device = some w)
    {account : AccountId} {balance : UInt64}
    (hAccount : s.issuer.balanceOf account = some balance) :
    balance.toNat + w.balanceCents.toNat < 2 ^ 64 := by
  have hDeposit : s.ledger.account account = some balance.toNat := by
    show (s.issuer.balanceOf account).map UInt64.toNat = _
    rw [hAccount]
    rfl
  have hInAccount := Finset.single_le_sum (f := s.ledger.deposit) (fun _ _ => Nat.zero_le _)
    (hWithin.accounts account (by rw [hDeposit]; rfl))
  have hOnDevice := Finset.single_le_sum (f := s.ledger.balance) (fun _ _ => Nat.zero_le _)
    (hWithin.devices device (by rw [h.ledger_purse hWallet]; rfl))
  rw [Ledger.deposit_eq hDeposit] at hInAccount
  rw [h.ledger_balance hWallet] at hOnDevice
  unfold Ledger.online Ledger.held at hFits
  omega

/-- A state from which calls can be run, with elements of both kinds: all the money there
is fits a `u64`, with what the cracked elements may pay out and keep. -/
structure ReadyAs (R G : Type) [Rng R] [Rng G] (keypair : Keypair) (cracked : DeviceId → Bool)
    (devices : Finset DeviceId) (accounts : Finset AccountId) (later : List Call) (s : System R) :
    Prop where
  reachable : ∃ history, Reachable R G keypair history s ∧
    ∀ device w, s.wallets.lookup device = some w →
      Lasting history device w later ∧ w.state = if cracked device then .cracked else .sealed
  addressed : ∀ c ∈ later, c.Addressed s
  within : Ledger.Within devices accounts s.ledger
  fits : s.ledger.online accounts + s.ledger.held devices +
    (later.map fun c => c.movement.stake cracked).sum < 2 ^ 64

variable {cracked : DeviceId → Bool}

/-- One call does what its movement does. -/
theorem ReadyAs.refines {c : Call} {later : List Call} (hIssuer : keypair.Generated)
    (h : ReadyAs R G keypair cracked devices accounts (c :: later) s) :
    Refines (s.call c) (s.ledger.moveAs cracked c.movement) := by
  obtain ⟨history, hReach, hElements⟩ := h.reachable
  have hAddressed := h.addressed c List.mem_cons_self
  cases c with
  | fund device amountCents =>
    obtain ⟨w, hWallet⟩ := Option.isSome_iff_exists.mp hAddressed
    have hFresh := (hElements device w hWallet).1.fresh (if_pos rfl)
    refine Refines.of_sealed (hReach.refines_fund hIssuer hWallet hFresh amountCents) ?_
    rintro _ ⟨⟩
  | pay payer payee amountCents =>
    obtain ⟨hOther, hPayer, hPayee⟩ := hAddressed
    obtain ⟨w, hPayer⟩ := Option.isSome_iff_exists.mp hPayer
    obtain ⟨w', hPayee⟩ := Option.isSome_iff_exists.mp hPayee
    exact hReach.enrolled.refines_pay_as hOther hPayer hPayee (hElements payer w hPayer).2
      ((hElements payee w' hPayee).1.fresh (if_pos rfl)) amountCents
  | defund device amountCents =>
    obtain ⟨w, hWallet⟩ := Option.isSome_iff_exists.mp hAddressed
    obtain ⟨hLasting, hState⟩ := hElements device w hWallet
    refine hReach.refines_defund_as hIssuer hWallet hState (hLasting.few_cons (if_pos rfl))
      fun hFunds account balance _ hAccount => ?_
    have hFits := fits_of_onRecord h.within ((Nat.le_add_right _ _).trans_lt h.fits)
      hReach.enrolled hWallet hAccount
    have hLe := UInt64.le_iff_toNat_le.mp hFunds
    omega

/-- One call leads on. -/
theorem ReadyAs.leads {c : Call} {later : List Call} (hIssuer : keypair.Generated)
    (h : ReadyAs R G keypair cracked devices accounts (c :: later) s) :
    ∃ history, (∀ device w, s.wallets.lookup device = some w →
        Lasting history device w (c :: later) ∧
          w.state = if cracked device then .cracked else .sealed) ∧
      Leads R G keypair history s c := by
  obtain ⟨history, hReach, hElements⟩ := h.reachable
  refine ⟨history, hElements, ?_⟩
  have hAddressed := h.addressed c List.mem_cons_self
  cases c with
  | fund device amountCents =>
    obtain ⟨w, hWallet⟩ := Option.isSome_iff_exists.mp hAddressed
    have hFresh := (hElements device w hWallet).1.fresh (if_pos rfl)
    exact hReach.leads_fund hIssuer hWallet hFresh amountCents
  | pay payer payee amountCents =>
    obtain ⟨hOther, hPayer, hPayee⟩ := hAddressed
    obtain ⟨w, hPayer⟩ := Option.isSome_iff_exists.mp hPayer
    obtain ⟨w', hPayee⟩ := Option.isSome_iff_exists.mp hPayee
    have hFresh := (hElements payee w' hPayee).1.fresh (if_pos rfl)
    exact hReach.leads_pay hOther hPayer hPayee hFresh amountCents
  | defund device amountCents =>
    obtain ⟨w, hWallet⟩ := Option.isSome_iff_exists.mp hAddressed
    have hFew := (hElements device w hWallet).1.few_cons (if_pos rfl)
    exact hReach.leads_defund hIssuer hWallet hFew amountCents

/-- **One call** does what its movement does and leaves the system ready for the calls
that follow. -/
theorem ReadyAs.next {c : Call} {later : List Call} (hIssuer : keypair.Generated)
    (h : ReadyAs R G keypair cracked devices accounts (c :: later) s) :
    ∃ result s' outcome, s.call c = some (result, s') ∧
      s.ledger.moveAs cracked c.movement = some (outcome, s'.ledger) ∧
      verdict result = some outcome ∧
      ReadyAs R G keypair cracked devices accounts later s' := by
  obtain ⟨result, s', outcome, hCall, hMove, hVerdict⟩ := h.refines hIssuer
  obtain ⟨history, hElements, result', s₁, history', hCall', hReach', hAdvances⟩ :=
    h.leads hIssuer
  rw [hCall, Option.some.injEq, Prod.mk.injEq] at hCall'
  obtain ⟨-, rfl⟩ := hCall'
  have hAddressed := h.addressed c List.mem_cons_self
  have hMints := Ledger.moveAs_mints h.within hAddressed.proper hMove
  refine ⟨result, s', outcome, hCall, hMove, hVerdict, ⟨history', hReach', ?_⟩, ?_,
    hMints.within h.within, ?_⟩
  · intro device w' hWallet'
    obtain ⟨w, events, hWallet, hLocal, hAdvanced⟩ := hAdvances device w' hWallet'
    obtain ⟨hLasting, hState⟩ := hElements device w hWallet
    exact ⟨hLasting.advance hAdvanced hLocal, hAdvanced.state_eq.trans hState⟩
  · intro c' hMem
    obtain ⟨history₀, hReach, -⟩ := h.reachable
    refine (h.addressed c' (List.mem_cons_of_mem c hMem)).mono fun device => ?_
    have hTerms := congrArg Option.isSome (hMints.terms device)
    rw [Option.isSome_map, Option.isSome_map, hReach.enrolled.ledger_isSome,
      hReach'.enrolled.ledger_isSome] at hTerms
    exact hTerms
  · have hFits := h.fits
    have hFloat := hMints.float
    have hMoney := hMints.money
    have hStake : Ledger.minted cracked c.movement outcome ≤ c.movement.stake cracked :=
      Ledger.minted_le _ _
    rw [List.map_cons, List.sum_cons] at hFits
    omega

/-- A run of calls, on both levels; `later` may still follow. -/
theorem ReadyAs.run (hIssuer : keypair.Generated) (calls later : List Call)
    (h : ReadyAs R G keypair cracked devices accounts (calls ++ later) s) :
    ∃ results s' outcomes, Service.answers call s calls = some (results, s') ∧
      Service.answers (Ledger.moveAs cracked) s.ledger (calls.map Call.movement) =
        some (outcomes, s'.ledger) ∧
      List.Forall₂ (fun result outcome => verdict result = some outcome) results outcomes ∧
      ReadyAs R G keypair cracked devices accounts later s' := by
  let related (later : List Call) (s : System R) (ledger : Ledger DeviceId AccountId Nonce) :
      Prop :=
    ReadyAs R G keypair cracked devices accounts later s ∧ s.ledger = ledger
  have hStep : ∀ {c later s ledger}, related (c :: later) s ledger →
      ∃ result s' outcome ledger', s.call c = some (result, s') ∧
        ledger.moveAs cracked c.movement = some (outcome, ledger') ∧
        verdict result = some outcome ∧ related later s' ledger' := by
    rintro c later s _ ⟨hReady, rfl⟩
    obtain ⟨result, s', outcome, hCall, hMove, hVerdict, hNext⟩ := hReady.next hIssuer
    exact ⟨result, s', outcome, s'.ledger, hCall, hMove, hVerdict, hNext, rfl⟩
  obtain ⟨results, s', outcomes, _, hRun, hMoves, hAgree, hReady, rfl⟩ :=
    Service.answers_simulates related hStep calls later ⟨h, rfl⟩
  exact ⟨results, s', outcomes, hRun, hMoves, hAgree, hReady⟩

-- ---------------------------------------------------------------------------
-- Runs of sealed elements
-- ---------------------------------------------------------------------------

/-- Sealed elements are elements none of which is cracked. -/
theorem Ready.iff_readyAs {later : List Call} :
    Ready R G keypair devices accounts later s ↔
      ReadyAs R G keypair (fun _ => false) devices accounts later s := by
  have hNone : (later.map fun c => c.movement.stake fun _ => false).sum = 0 := by
    refine List.sum_eq_zero fun n hMem => ?_
    obtain ⟨c, -, rfl⟩ := List.mem_map.mp hMem
    unfold Movement.stake
    split <;> simp
  constructor
  · intro h
    obtain ⟨history, hReach, hPaced⟩ := h.reachable
    refine ⟨⟨history, hReach, fun device w hWallet => ?_⟩, h.addressed, h.within, ?_⟩
    · exact ⟨(hPaced device w hWallet).toLasting, (hPaced device w hWallet).isSealed⟩
    · rw [hNone]
      exact h.fits
  · intro h
    obtain ⟨history, hReach, hElements⟩ := h.reachable
    refine ⟨⟨history, hReach, fun device w hWallet => ?_⟩, h.addressed, h.within, ?_⟩
    · exact ⟨(hElements device w hWallet).1, (hElements device w hWallet).2⟩
    · exact (Nat.le_add_right _ _).trans_lt h.fits

/-- **One call of a ready system** does what its movement does and leaves the system
ready for the calls that follow. -/
theorem Ready.next {c : Call} {later : List Call} (hIssuer : keypair.Generated)
    (h : Ready R G keypair devices accounts (c :: later) s) :
    ∃ result s' outcome, s.call c = some (result, s') ∧
      s.ledger.move c.movement = some (outcome, s'.ledger) ∧ verdict result = some outcome ∧
      Ready R G keypair devices accounts later s' := by
  obtain ⟨result, s', outcome, hCall, hMove, hVerdict, hNext⟩ :=
    (iff_readyAs.mp h).next hIssuer
  rw [Ledger.moveAs_sealed] at hMove
  exact ⟨result, s', outcome, hCall, hMove, hVerdict, iff_readyAs.mpr hNext⟩

/-- A run of calls of a ready system, on both levels; `later` may still follow. -/
theorem Ready.run (hIssuer : keypair.Generated) (calls later : List Call)
    (h : Ready R G keypair devices accounts (calls ++ later) s) :
    ∃ results s' outcomes, Service.answers call s calls = some (results, s') ∧
      Service.answers Ledger.move s.ledger (calls.map Call.movement) =
        some (outcomes, s'.ledger) ∧
      List.Forall₂ (fun result outcome => verdict result = some outcome) results outcomes ∧
      Ready R G keypair devices accounts later s' := by
  obtain ⟨results, s', outcomes, hRun, hMoves, hAgree, hReady⟩ :=
    (iff_readyAs.mp h).run hIssuer calls later
  rw [Ledger.moveAs_sealed] at hMoves
  exact ⟨results, s', outcomes, hRun, hMoves, hAgree, iff_readyAs.mpr hReady⟩

theorem Reachable.ready (h : Reachable R G keypair history s) {calls : List Call}
    (hAddressed : ∀ c ∈ calls, c.Addressed s)
    (hPaced : ∀ device w, s.wallets.lookup device = some w → Paced history device w calls)
    (hFits : s.issuer.accounts.total UInt64.toNat + s.balances < 2 ^ 64) :
    Ready R G keypair s.wallets.keys s.issuer.accounts.keys calls s where
  reachable := ⟨history, h, hPaced⟩
  addressed := hAddressed
  within := h.enrolled.ledger_within
  fits := by
    rw [ledger_online, h.enrolled.ledger_held]
    exact hFits

/-- **Runs of helpers refine runs of the ledger.** From any reachable state, with
whatever reservations are open and messages under way, any sequence of helper calls
gives call by call the results of the movements on the ledger, refusals with their
amounts included, and ends with the ledger the movements end with. The devices are
installed and sealed, draw nonces that are new to them and do not wrap their counters,
and the money there is fits a `u64`. -/
theorem calls_refine (h : Reachable R G keypair history s) (hIssuer : keypair.Generated)
    (calls : List Call) (hAddressed : ∀ c ∈ calls, c.Addressed s)
    (hPaced : ∀ device w, s.wallets.lookup device = some w → Paced history device w calls)
    (hFits : s.issuer.accounts.total UInt64.toNat + s.balances < 2 ^ 64) :
    ∃ results s' outcomes, Service.answers call s calls = some (results, s') ∧
      Service.answers Ledger.move s.ledger (calls.map Call.movement) =
        some (outcomes, s'.ledger) ∧
      List.Forall₂ (fun result outcome => verdict result = some outcome) results outcomes := by
  have hReady := h.ready hAddressed hPaced hFits
  rw [← List.append_nil calls] at hReady
  obtain ⟨results, s', outcomes, hRun, hMoves, hAgree, -⟩ := hReady.run hIssuer calls []
  exact ⟨results, s', outcomes, hRun, hMoves, hAgree⟩

-- ---------------------------------------------------------------------------
-- Back to the accounts
-- ---------------------------------------------------------------------------

omit [Sha256] [Rng R] [Rng G] in
/-- The ledger tells results apart. -/
theorem verdict_inj {result result' : Except Error UInt64} {outcome : Except Refusal ℕ}
    (h : verdict result = some outcome) (h' : verdict result' = some outcome) :
    result = result' := by
  rcases result with error | amount <;> rcases result' with error' | amount'
  case ok.ok =>
    obtain rfl := Option.some.inj (h.trans h'.symm) |> Except.ok.inj |> UInt64.toNat_inj.mp
    rfl
  case ok.error =>
    obtain ⟨refusal, -, hSame⟩ := Option.map_eq_some_iff.mp h'
    rw [← hSame] at h
    cases h
  case error.ok =>
    obtain ⟨refusal, -, hSame⟩ := Option.map_eq_some_iff.mp h
    rw [← hSame] at h'
    cases h'
  case error.error =>
    obtain ⟨refusal, hRefusal, rfl⟩ := Option.map_eq_some_iff.mp h
    obtain ⟨refusal', hRefusal', hSame⟩ := Option.map_eq_some_iff.mp h'
    obtain rfl := Except.error.inj hSame
    cases error <;> cases hRefusal <;> cases error' <;>
      simp only [Error.refusal, Option.some.injEq, reduceCtorEq, Refusal.holdingLimitExceeded.injEq,
        Refusal.insufficientFunds.injEq, UInt64.toNat_inj] at hRefusal'
    · rfl
    · rw [hRefusal'.1, hRefusal'.2]
    · rw [hRefusal'.1, hRefusal'.2]

/-- What a device holds. -/
def holding (s : System R) (device : DeviceId) : UInt64 :=
  (s.wallets.lookup device).elim 0 Wallet.balanceCents

/-- Everything a device holds goes back to its account. -/
def redemption (s : System R) (devices : List DeviceId) : List Call :=
  devices.map fun device => .defund device (s.holding device)

/-- What comes of defunding an amount that is there. -/
def redeemed (amountCents : UInt64) : Except Error UInt64 :=
  if amountCents = 0 then .error .zeroAmount else .ok amountCents

omit [Sha256] [Rng R] [Rng G] in
theorem verdict_redeemed (amountCents : UInt64) :
    verdict (redeemed amountCents) = some (Ledger.redeemed amountCents.toNat) := by
  unfold redeemed Ledger.redeemed
  by_cases hZero : amountCents = 0
  · rw [if_pos hZero, if_pos (by rw [hZero]; rfl)]
    rfl
  · have hNat : amountCents.toNat ≠ 0 := fun hNat => hZero (UInt64.toNat_inj.mp hNat)
    rw [if_neg hZero, if_neg hNat]
    rfl

theorem Enrolled.holding_toNat (h : Enrolled R G keypair history s) (device : DeviceId) :
    (s.holding device).toNat = s.ledger.balance device := by
  cases hWallet : s.wallets.lookup device with
  | none =>
    have hNone := h.ledger_isSome device
    rw [hWallet, Option.isSome_none, Option.isSome_eq_false_iff, Option.isNone_iff_eq_none] at hNone
    rw [holding, hWallet, Ledger.balance, hNone]
    rfl
  | some w =>
    rw [h.ledger_balance hWallet, holding, hWallet]
    rfl

omit [Sha256] [Rng R] in
/-- One call for each device has a device sign once at most. -/
theorem redemption_debits (s : System R) {devices : List DeviceId} (hNodup : devices.Nodup)
    (device : DeviceId) : ((redemption s devices).map (Call.debits device)).sum ≤ 1 := by
  have hCount : ((redemption s devices).map (Call.debits device)).sum = devices.count device := by
    rw [redemption, List.map_map]
    induction devices with
    | nil => rfl
    | cons first rest ih =>
      rw [List.map_cons, List.sum_cons, ih (List.nodup_cons.mp hNodup).2, List.count_cons]
      simp only [Function.comp_apply, Call.debits, beq_iff_eq]
      omega
  rw [hCount]
  exact List.nodup_iff_count_le_one.mp hNodup device

omit [Sha256] [Rng R] in
theorem redemption_draws (s : System R) (devices : List DeviceId) (device : DeviceId) :
    ((redemption s devices).map (Call.draws device)).sum = 0 := by
  rw [redemption, List.map_map]
  exact List.sum_eq_zero fun n hn => by
    obtain ⟨_, -, rfl⟩ := List.mem_map.mp hn
    rfl

/-- **All offline money can be brought back.** In any reachable state whose elements
are sealed, with whatever reservations are open and messages under way, defunding every
device by its balance, in any order, is refused by nobody (a device that holds nothing
apart) and leaves nothing on the devices; the accounts and the float move by exactly
what the devices held. -/
theorem everything_redeemable (h : Reachable R G keypair history s) (hIssuer : keypair.Generated)
    {devices : List DeviceId} (hNodup : devices.Nodup)
    (hAll : ∀ device, device ∈ devices ↔ (s.wallets.lookup device).isSome)
    (hSealed : ∀ device w, s.wallets.lookup device = some w → w.state = .sealed)
    (hFew : ∀ device w, s.wallets.lookup device = some w → debits device history + 1 < 2 ^ 64)
    (hFits : s.issuer.accounts.total UInt64.toNat + s.balances < 2 ^ 64) :
    ∃ s', Service.answers call s (redemption s devices) =
        some (devices.map fun device => redeemed (s.holding device), s') ∧
      s'.balances = 0 ∧
      s'.issuer.accounts.total UInt64.toNat = s.issuer.accounts.total UInt64.toNat + s.balances ∧
      s'.issuer.offlineFloat = s.issuer.offlineFloat - s.balances := by
  have hEnrolled := h.enrolled
  have hAddressed : ∀ c ∈ redemption s devices, c.Addressed s := by
    intro c hMem
    obtain ⟨device, hDevice, rfl⟩ := List.mem_map.mp hMem
    exact (hAll device).mp hDevice
  have hPaced : ∀ device w, s.wallets.lookup device = some w →
      Paced history device w (redemption s devices) := by
    intro device w hWallet
    have hOnce := redemption_debits s hNodup device
    have hRoom := hFew device w hWallet
    refine ⟨⟨by omega, ?_, ?_⟩, hSealed device w hWallet⟩
    · rw [redemption_draws]
      exact List.nodup_nil
    · rw [redemption_draws]
      exact fun _ hNonce => absurd hNonce List.not_mem_nil
  have hReady := h.ready hAddressed hPaced hFits
  rw [← List.append_nil (redemption s devices)] at hReady
  obtain ⟨results, s', outcomes, hRun, hMoves, hAgree, hReady'⟩ :=
    hReady.run hIssuer (redemption s devices) []
  obtain ⟨history', hReach', -⟩ := hReady'.reachable
  have hKeeps := Ledger.moves_keep hEnrolled.ledger_within (movements_proper hAddressed) hMoves
  obtain ⟨hFloat, hMoney⟩ := hEnrolled.books hReach'.enrolled hKeeps.mints
  -- the movements are those that empty the ledger
  have hMovements : (redemption s devices).map Call.movement =
      Ledger.redemption s.ledger devices := by
    rw [redemption, List.map_map]
    refine List.map_congr_left fun device _ => ?_
    rw [← hEnrolled.holding_toNat]
    rfl
  have hServed : ∀ device ∈ devices, ∃ purse account balance,
      Ledger.Served s.ledger device purse account balance := by
    intro device hMem
    obtain ⟨w, hWallet⟩ := Option.isSome_iff_exists.mp ((hAll device).mp hMem)
    exact ⟨_, h.served hIssuer hWallet⟩
  obtain ⟨ledger', hEmptied, hEmpty, -⟩ := Ledger.redeem hNodup hServed
  rw [hMovements, hEmptied, Option.some.injEq, Prod.mk.injEq] at hMoves
  obtain ⟨rfl, rfl⟩ := hMoves
  have hResults : results = devices.map fun device => redeemed (s.holding device) := by
    rw [List.forall₂_map_right_iff] at hAgree
    refine List.forall₂_eq_eq_eq ▸ List.forall₂_map_right_iff.mpr
      (hAgree.imp fun result device hVerdict => verdict_inj hVerdict ?_)
    rw [verdict_redeemed, hEnrolled.holding_toNat]
  have hHeld : s'.balances = 0 := by
    rw [← hReach'.enrolled.ledger_held, (hEnrolled.keys_eq hReach'.enrolled hKeeps.mints).1]
    refine Finset.sum_eq_zero fun device hMem => hEmpty device ?_
    exact (hAll device).mpr (Finmap.lookup_isSome.mpr (Finmap.mem_keys.mp hMem))
  rw [hHeld] at hFloat
  refine ⟨s', by rw [hRun, hResults], hHeld, ?_, ?_⟩ <;> omega

end System

section Sample

theorem samplePaid_cases [Sha256] {device : DeviceId} {w : Wallet CountingRng}
    (h : samplePaid.wallets.lookup device = some w) :
    (device = sampleDevice 1 ∧ w = sampleFunded.debited 300) ∨
      (device = sampleDevice 2 ∧ w = samplePayee) := by
  by_cases hAlice : device = sampleDevice 1
  · subst hAlice
    exact .inl ⟨rfl, Option.some.inj (h.symm.trans samplePaid_alice)⟩
  by_cases hBakery : device = sampleDevice 2
  · subst hBakery
    exact .inr ⟨rfl, Option.some.inj (h.symm.trans samplePaid_payee)⟩
  rw [samplePaid, Finmap.lookup_insert_of_ne _ hAlice, Finmap.lookup_insert_of_ne _ hBakery,
    Finmap.lookup_insert_of_ne _ hAlice, Finmap.lookup_insert_of_ne _ hAlice, sampleSystem,
    Finmap.lookup_insert_of_ne _ hBakery, Finmap.lookup_insert_of_ne _ hAlice,
    Finmap.lookup_empty] at h
  exact absurd h (Option.some_ne_none w).symm

open scoped Fips

theorem samplePaid_fits :
    samplePaid.issuer.accounts.total UInt64.toNat + samplePaid.balances < 2 ^ 64 := by
  have hAccounts : samplePaid.issuer.accounts.total UInt64.toNat = 4000 := by
    decide +kernel
  have hBalances : samplePaid.balances = 700 := by
    decide +kernel
  omega

/-- A payment, a funding and two defundings between the two sample devices, the second
too large, with another payment under way. -/
def sampleCalls : List System.Call :=
  [.pay (sampleDevice 1) (sampleDevice 2) 200, .fund (sampleDevice 2) 100,
    .defund (sampleDevice 2) 250, .defund (sampleDevice 1) 900]

theorem sampleCalls_paced (device : DeviceId) (w : Wallet CountingRng)
    (h : samplePaid.wallets.lookup device = some w) :
    System.Paced samplePaidHistory device w sampleCalls := by
  have hShort : samplePaidHistory.length = 10 := rfl
  rcases samplePaid_cases h with ⟨rfl, rfl⟩ | ⟨rfl, rfl⟩
  · have hLength := System.debits_le_length (sampleDevice 1) samplePaidHistory
    have hDebits : (sampleCalls.map (System.Call.debits (sampleDevice 1))).sum = 2 := by
      decide +kernel
    have hDraws : (sampleCalls.map (System.Call.draws (sampleDevice 1))).sum = 0 := by
      decide +kernel
    refine ⟨⟨by omega, ?_, ?_⟩, rfl⟩
    · rw [hDraws]
      exact List.nodup_nil
    · rw [hDraws]
      exact fun _ hNonce => absurd hNonce List.not_mem_nil
  · have hLength := System.debits_le_length (sampleDevice 2) samplePaidHistory
    have hDebits : (sampleCalls.map (System.Call.debits (sampleDevice 2))).sum = 1 := by
      decide +kernel
    have hDraws : (sampleCalls.map (System.Call.draws (sampleDevice 2))).sum = 2 := by
      decide +kernel
    have hDrawn : Wallet.drawnNonces (System.localEvents (sampleDevice 2) samplePaidHistory) =
        [sampleNonce] := by
      decide +kernel
    refine ⟨⟨by omega, ?_, ?_⟩, rfl⟩
    · rw [hDraws]
      show (Rng.draws 2 (⟨1⟩ : CountingRng)).Nodup
      decide +kernel
    · rw [hDraws, hDrawn]
      show ∀ nonce ∈ Rng.draws 2 (⟨1⟩ : CountingRng), nonce ∉ [sampleNonce]
      refine List.forall_mem_cons.mpr ⟨by decide, List.forall_mem_cons.mpr ⟨by decide, ?_⟩⟩
      exact fun _ hNonce => absurd hNonce List.not_mem_nil

theorem calls_refine_sample :
    ∃ results s' outcomes, Service.answers System.call samplePaid sampleCalls = some (results, s') ∧
      Service.answers Ledger.move samplePaid.ledger (sampleCalls.map System.Call.movement) =
        some (outcomes, s'.ledger) ∧
      List.Forall₂ (fun result outcome => verdict result = some outcome) results outcomes := by
  refine System.calls_refine samplePaid_reachable issuerKeys_generated sampleCalls ?_
    sampleCalls_paced samplePaid_fits
  have hAlice : (samplePaid.wallets.lookup (sampleDevice 1)).isSome := by
    rw [samplePaid_alice, Option.isSome_some]
  have hBakery : (samplePaid.wallets.lookup (sampleDevice 2)).isSome := by
    rw [samplePaid_payee, Option.isSome_some]
  intro c hMem
  simp only [sampleCalls, List.mem_cons, List.not_mem_nil, or_false] at hMem
  rcases hMem with rfl | rfl | rfl | rfl
  · exact ⟨sampleDevice_ne.symm, hAlice, hBakery⟩
  · exact hBakery
  · exact hBakery
  · exact hAlice

/-- The two sample devices go back to the account, with 3 € under way. -/
theorem everything_redeemable_sample :
    ∃ s', Service.answers System.call samplePaid
          (System.redemption samplePaid [sampleDevice 1, sampleDevice 2]) =
        some ([System.redeemed (samplePaid.holding (sampleDevice 1)),
          System.redeemed (samplePaid.holding (sampleDevice 2))], s') ∧
      s'.balances = 0 ∧
      s'.issuer.accounts.total UInt64.toNat =
        samplePaid.issuer.accounts.total UInt64.toNat + samplePaid.balances ∧
      s'.issuer.offlineFloat = samplePaid.issuer.offlineFloat - samplePaid.balances := by
  refine System.everything_redeemable samplePaid_reachable issuerKeys_generated (by decide)
    (fun device => ?_) (fun device w hWallet => ?_) (fun device w hWallet => ?_) samplePaid_fits
  · rw [List.mem_pair]
    constructor
    · rintro (rfl | rfl)
      · rw [samplePaid_alice, Option.isSome_some]
      · rw [samplePaid_payee, Option.isSome_some]
    · intro hSome
      obtain ⟨w, hWallet⟩ := Option.isSome_iff_exists.mp hSome
      exact (samplePaid_cases hWallet).imp And.left And.left
  · rcases samplePaid_cases hWallet with ⟨-, rfl⟩ | ⟨-, rfl⟩ <;> rfl
  · have hLength := System.debits_le_length device samplePaidHistory
    have hShort : samplePaidHistory.length = 10 := rfl
    omega

end Sample

end DigitalEuro
