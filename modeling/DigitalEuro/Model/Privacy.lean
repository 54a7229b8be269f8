import DigitalEuro.Lib.Views
import DigitalEuro.Model.Runs

/-!
# Digital euro — what the parties see

A certificate leaves the owning account out, and payments are not reported. So the
elements and their messages are the same whichever accounts the devices belong to, and
the books of the issuer are the same whatever the elements do among themselves.

* `Issuer.Renamed.exec` — a call with renamed accounts has the renamed effect;
* `renamed_shows`, `books_show` — the two views, step by step;
* `views_of_a_run` — what the elements and the issuer see of a whole run.
-/

namespace DigitalEuro

-- ---------------------------------------------------------------------------
-- The issuer under other accounts
-- ---------------------------------------------------------------------------

namespace Issuer

variable {G : Type} (π : Equiv.Perm AccountId)

/-- The call with every account renamed. -/
def Op.rename : Op G → Op G
  | .openAccount account balanceCents => .openAccount (π account) balanceCents
  | .certifyDevice account publicKey limit rng => .certifyDevice (π account) publicKey limit rng
  | .fund request => .fund request
  | .defund defunding => .defund defunding

/-- The event with its account renamed. Certificates and messages name no account. -/
def Event.rename : Event → Event
  | .opened account balanceCents => .opened (π account) balanceCents
  | .certified account certificate => .certified (π account) certificate
  | .funded account request funding => .funded (π account) request funding
  | .defunded account defunding => .defunded (π account) defunding

/-- The same books under other account ids. -/
structure Renamed (issuer issuer' : Issuer) : Prop where
  keypair : issuer'.keypair = issuer.keypair
  accounts : ∀ account, issuer'.accounts.lookup (π account) = issuer.accounts.lookup account
  devices : ∀ device, issuer'.devices.lookup device =
    (issuer.devices.lookup device).map fun record => { record with account := π record.account }
  fundingNonces : issuer'.fundingNonces = issuer.fundingNonces
  offlineFloat : issuer'.offlineFloat = issuer.offlineFloat

variable {π} {issuer issuer' : Issuer}

@[simp] theorem Op.rename_symm (op : Op G) : (op.rename π).rename π.symm = op := by
  cases op <;> simp only [Op.rename, Equiv.symm_apply_apply]

/-- The old names for the new ones. -/
theorem Renamed.symm (h : Renamed π issuer issuer') : Renamed π.symm issuer' issuer where
  keypair := h.keypair.symm
  accounts := fun account => by rw [← h.accounts, Equiv.apply_symm_apply]
  devices := fun device => by
    rw [h.devices, Option.map_map]
    cases issuer.devices.lookup device with
    | none => rfl
    | some record => simp only [Option.map_some, Function.comp, Equiv.symm_apply_apply]
  fundingNonces := h.fundingNonces.symm
  offlineFloat := h.offlineFloat.symm

/-- Writing an account and its image. -/
theorem Renamed.insert_account (h : Renamed π issuer issuer') (account : AccountId)
    (balance : UInt64) (other : AccountId) :
    (issuer'.accounts.insert (π account) balance).lookup (π other) =
      (issuer.accounts.insert account balance).lookup other := by
  by_cases hSame : other = account
  · rw [hSame, Finmap.lookup_insert, Finmap.lookup_insert]
  · rw [Finmap.lookup_insert_of_ne _ hSame,
      Finmap.lookup_insert_of_ne _ fun hImage => hSame (π.injective hImage), h.accounts]

/-- Writing a record and its image. -/
theorem Renamed.insert_device (h : Renamed π issuer issuer') (device : DeviceId)
    (record : DeviceRecord) (other : DeviceId) :
    (issuer'.devices.insert device { record with account := π record.account }).lookup other =
      ((issuer.devices.insert device record).lookup other).map
        fun record => { record with account := π record.account } := by
  by_cases hSame : other = device
  · rw [hSame, Finmap.lookup_insert, Finmap.lookup_insert, Option.map_some]
  · rw [Finmap.lookup_insert_of_ne _ hSame, Finmap.lookup_insert_of_ne _ hSame, h.devices]

theorem Renamed.lookup_device (h : Renamed π issuer issuer') {device : DeviceId}
    {record : DeviceRecord} (hDevice : issuer.devices.lookup device = some record) :
    issuer'.devices.lookup device = some { record with account := π record.account } := by
  rw [h.devices, hDevice, Option.map_some]

variable [Sha256] [Rng G]

/-- A call that is answered is answered under the other names, with the same messages. -/
theorem Renamed.step (h : Renamed π issuer issuer') {op : Op G} {e : Event} {issuer₁ : Issuer}
    (hStep : Step issuer op e issuer₁) :
    ∃ issuer₁', Step issuer' (op.rename π) (e.rename π) issuer₁' ∧
      Renamed π issuer₁ issuer₁' := by
  cases hStep with
  | openAccount account balanceCents =>
    exact ⟨_, .openAccount (π account) balanceCents,
      { h with accounts := h.insert_account account balanceCents }⟩
  | certifyDevice account publicKey limit rng hAccount =>
    have hCertify : issuer'.keypair.certify ⟨(Rng.gen rng).1⟩ publicKey limit =
        issuer.keypair.certify ⟨(Rng.gen rng).1⟩ publicKey limit := by
      rw [h.keypair]
    have hDevices := h.insert_device ⟨(Rng.gen rng).1⟩
      { account, publicKey, lastDefundingCounter := 0 }
    refine ⟨{ issuer' with
      devices := issuer'.devices.insert ⟨(Rng.gen rng).1⟩
        { account := π account, publicKey, lastDefundingCounter := 0 } }, ?_,
      { h with devices := hDevices }⟩
    rw [Event.rename, ← hCertify]
    exact .certifyDevice (π account) publicKey limit rng (by rw [h.accounts, hAccount])
  | fund request record balance hDevice hSignature hPos hNew hAccount hFunds =>
    have hFunding : issuer'.fundingFor request = issuer.fundingFor request := by
      rw [fundingFor, h.keypair]
      rfl
    refine ⟨issuer'.funded request (π record.account) balance, ?_,
      { keypair := h.keypair
        accounts := h.insert_account record.account _
        devices := h.devices
        fundingNonces := ?_
        offlineFloat := ?_ }⟩
    · rw [Event.rename, ← hFunding]
      exact .fund request { record with account := π record.account } balance
        (h.lookup_device hDevice) hSignature hPos (by rwa [h.fundingNonces])
        (by rw [h.accounts, hAccount]) hFunds
    · rw [funded, funded, h.fundingNonces]
    · rw [funded, funded, h.offlineFloat]
  | defund defunding record balance hDevice hSignature hNew hAccount =>
    have hDevices := h.insert_device defunding.device
      { record with lastDefundingCounter := defunding.counter }
    refine ⟨issuer'.defunded defunding { record with account := π record.account } balance, ?_,
      { keypair := h.keypair
        accounts := h.insert_account record.account _
        devices := hDevices
        fundingNonces := h.fundingNonces
        offlineFloat := ?_ }⟩
    · exact .defund defunding { record with account := π record.account } balance
        (h.lookup_device hDevice) hSignature hNew (by rw [h.accounts, hAccount])
    · rw [defunded, defunded, h.offlineFloat]

/-- **A call with renamed accounts has the renamed effect**: it is refused with the
other, or both are answered with the same messages. -/
theorem Renamed.exec (h : Renamed π issuer issuer') (op : Op G) :
    (issuer'.exec (op.rename π)).1 = (issuer.exec op).1.map (Event.rename π) ∧
      Renamed π (issuer.exec op).2 (issuer'.exec (op.rename π)).2 := by
  rcases issuer.exec_cases op with hRefused | ⟨e, issuer₁, hEq, hStep⟩
  · rcases issuer'.exec_cases (op.rename π) with hRefused' | ⟨e', issuer₁', -, hStep'⟩
    · rw [hRefused, hRefused']
      exact ⟨rfl, h⟩
    · -- the answer under the new names is one under the old names
      obtain ⟨issuer₁, hStep, -⟩ := h.symm.step hStep'
      rw [Op.rename_symm] at hStep
      rw [hStep.exec_eq] at hRefused
      exact absurd (congrArg Prod.fst hRefused) (Option.some_ne_none _)
  · obtain ⟨issuer₁', hStep', hRenamed⟩ := h.step hStep
    rw [hEq, hStep'.exec_eq]
    exact ⟨rfl, hRenamed⟩

end Issuer

-- ---------------------------------------------------------------------------
-- Views of the system
-- ---------------------------------------------------------------------------

namespace System

variable {R G : Type}

/-- The operation with every account renamed. -/
def Op.rename (π : Equiv.Perm AccountId) : Op R G → Op R G
  | .issuer op => .issuer (op.rename π)
  | .install certificate keypair rng => .install certificate keypair rng
  | .wallet device op => .wallet device op

/-- The event with its account renamed. What an element does names no account. -/
def Event.rename (π : Equiv.Perm AccountId) : Event → Event
  | .issuer event => .issuer (event.rename π)
  | .installed certificate => .installed certificate
  | .wallet certificate event => .wallet certificate event

def Op.ofIssuer : Op R G → Option (Issuer.Op G)
  | .issuer op => some op
  | _ => none

/-- The same elements, and the same books under other account ids. -/
structure Renamed (π : Equiv.Perm AccountId) (s s' : System R) : Prop where
  issuer : s.issuer.Renamed π s'.issuer
  wallets : s'.wallets = s.wallets

variable [Sha256] [Rng R] [Rng G]

/-- The elements under other accounts. -/
theorem renamed_shows (π : Equiv.Perm AccountId) :
    Machine.Shows (exec (R := R) (G := G)) (exec (R := R) (G := G)) (Renamed π)
      (fun op => some (op.rename π)) (fun e => some (e.rename π)) where
  seen := by
    intro s s' op op' hRenamed hOp
    obtain rfl := Option.some.inj hOp
    cases op with
    | issuer op =>
      obtain ⟨hEvent, hIssuer⟩ := hRenamed.issuer.exec op
      refine ⟨?_, hIssuer, hRenamed.wallets⟩
      calc (s'.exec (.issuer (op.rename π) : Op R G)).1
          = (s'.issuer.exec (op.rename π)).1.map Event.issuer := rfl
        _ = ((s.issuer.exec op).1.map Event.issuer).bind fun e => some (e.rename π) := by
          rw [hEvent]
          cases (s.issuer.exec op).1 <;> rfl
    | install certificate keypair rng =>
      have hKey : s'.issuer.publicKey = s.issuer.publicKey := by
        rw [Issuer.publicKey, hRenamed.issuer.keypair, Issuer.publicKey]
      simp only [Op.rename, exec, hKey]
      cases Wallet.new certificate keypair s.issuer.publicKey rng with
      | error error => exact ⟨rfl, hRenamed⟩
      | ok w => exact ⟨rfl, hRenamed.issuer, by rw [hRenamed.wallets]⟩
    | wallet device op =>
      simp only [Op.rename, exec, hRenamed.wallets]
      cases s.wallets.lookup device with
      | none => exact ⟨rfl, hRenamed⟩
      | some w =>
        refine ⟨?_, hRenamed.issuer, rfl⟩
        show Option.map _ _ = (Option.map _ _).bind _
        cases (w.exec op).1 <;> rfl
  unseen := fun _ hOp => absurd hOp (Option.some_ne_none _)

/-- The books of the issuer. -/
theorem books_show :
    Machine.Shows (exec (R := R) (G := G)) (Issuer.exec (G := G))
      (fun s issuer => s.issuer = issuer) Op.ofIssuer Event.ofIssuer where
  seen := by
    rintro s issuer op op' rfl hOp
    cases op with
    | issuer op =>
      obtain rfl := Option.some.inj hOp
      refine ⟨?_, rfl⟩
      calc (s.issuer.exec op).1
          = ((s.issuer.exec op).1.map Event.issuer).bind Event.ofIssuer := by
            cases (s.issuer.exec op).1 <;> rfl
        _ = (s.exec (.issuer op : Op R G)).1.bind Event.ofIssuer := rfl
    | install | wallet => exact absurd hOp (Option.some_ne_none _).symm
  unseen := by
    rintro s issuer op rfl hOp
    cases op with
    | issuer op => exact absurd hOp (Option.some_ne_none _)
    | install certificate keypair rng =>
      simp only [exec]
      cases Wallet.new certificate keypair s.issuer.publicKey rng <;> exact ⟨rfl, rfl⟩
    | wallet device op =>
      simp only [exec]
      cases s.wallets.lookup device with
      | none => exact ⟨rfl, rfl⟩
      | some w =>
        refine ⟨?_, rfl⟩
        show (Option.map _ _).bind _ = none
        cases (w.exec op).1 <;> rfl

-- ---------------------------------------------------------------------------
-- Whole runs
-- ---------------------------------------------------------------------------

omit [Sha256] [Rng R] [Rng G] in
/-- Nothing an element did names an account. -/
theorem localEvents_rename (π : Equiv.Perm AccountId) (device : DeviceId)
    (history : List Event) :
    localEvents device (history.map (Event.rename π)) = localEvents device history := by
  unfold localEvents
  rw [List.filterMap_map]
  congr 1
  funext e
  cases e <;> rfl

/-- **What the parties see of a run.** Under other account ids a run has the same
elements, which did the same, and its certificates and messages are the same; only the
books name other accounts. And the books are those of an issuer that has answered the
calls made to it and nothing else: which payments there were leaves no trace in them. -/
theorem views_of_a_run (π : Equiv.Perm AccountId) (keypair : Keypair) (ops : List (Op R G)) :
    let run := Machine.run (exec (R := R) (G := G)) (start keypair) ops
    let renamed := Machine.run (exec (R := R) (G := G)) (start keypair) (ops.map (Op.rename π))
    (renamed.1 = run.1.map (Event.rename π) ∧ renamed.2.wallets = run.2.wallets ∧
      (∀ device, localEvents device renamed.1 = localEvents device run.1) ∧
      (∀ account, renamed.2.issuer.balanceOf (π account) = run.2.issuer.balanceOf account) ∧
      ∀ device, renamed.2.issuer.accountOf device = (run.2.issuer.accountOf device).map π) ∧
    Machine.run (Issuer.exec (G := G)) (.new keypair) (ops.filterMap Op.ofIssuer) =
      (issuerEvents run.1, run.2.issuer) := by
  intro run renamed
  have hStart : Renamed π (start keypair : System R) (start keypair) :=
    { issuer :=
        { keypair := rfl, accounts := fun _ => rfl, devices := fun _ => rfl
          fundingNonces := rfl, offlineFloat := rfl }
      wallets := rfl }
  obtain ⟨hHistory, hRenamed⟩ := (renamed_shows (G := G) π).run hStart ops
  obtain ⟨hEvents, hBooks⟩ :=
    (books_show (R := R) (G := G)).run
      (show (start keypair : System R).issuer = .new keypair from rfl) ops
  rw [List.filterMap_eq_map'] at hHistory hRenamed
  refine ⟨⟨?_, hRenamed.wallets, fun device => ?_, hRenamed.issuer.accounts, fun device => ?_⟩, ?_⟩
  · rw [← List.filterMap_eq_map]
    exact hHistory
  · show localEvents device renamed.1 = _
    rw [show renamed.1 = _ from hHistory, List.filterMap_eq_map', localEvents_rename]
  · rw [Issuer.accountOf, hRenamed.issuer.devices, Option.map_map, Issuer.accountOf, Option.map_map]
    rfl
  · exact Prod.ext hEvents hBooks.symm

end System

end DigitalEuro
