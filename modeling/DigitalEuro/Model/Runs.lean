import DigitalEuro.Model.System

/-!
# Digital euro — the parties of a run

A run of the system is a run of the issuer and, for every installed element, a run
of this element since `Wallet::new`. So the theorems about one party hold in every
state of the system. Under `Environment` the messages an operation accepts are
moreover tied to the events that signed them.

* `Enrolled.issuer_run`, `Enrolled.wallet_of` — the parties' own runs;
* `Unforged.certified` and its siblings — accepted certificates, transfers, funding
  requests, fundings and defundings were signed by the party they name;
* `Reachable.recorded` — an installed element is on record with its key.
-/

namespace DigitalEuro

namespace System

variable [Sha256] {R G : Type} [Rng R] [Rng G] {keypair : Keypair} {history : List Event}
  {s : System R}

/-- What is reached without forgeries is reached. -/
theorem Reachable.enrolled (h : Reachable R G keypair history s) :
    Enrolled R G keypair history s :=
  h.mono fun _ hEnvironment => hEnvironment.enrolment

-- ---------------------------------------------------------------------------
-- The issuer's run
-- ---------------------------------------------------------------------------

/-- The issuer is on a run of its own. -/
theorem Enrolled.issuer_run (h : Enrolled R G keypair history s) :
    Machine.Reaches (Issuer.exec (G := G)) Issuer.FreshDevice (.new keypair)
      (issuerEvents history) s.issuer := by
  refine covers.induction (P := fun history s =>
    Machine.Reaches (Issuer.exec (G := G)) Issuer.FreshDevice (.new keypair)
      (issuerEvents history) s.issuer) h .start ?_
  intro history s op e s' _ hEnrolment ih hStep
  cases hStep with
  | @issuer op e issuer' hStep =>
    refine ih.next (a := op) ?_ hStep.exec_eq
    rintro account publicKey limit rng rfl
    exact hEnrolment.freshDevice account publicKey limit rng rfl
  | install certificate keypair' rng _ _ => exact ih
  | wallet hWallet hStep => exact ih

theorem Enrolled.issuer_key (h : Enrolled R G keypair history s) : s.issuer.keypair = keypair :=
  Issuer.run_keypair h.issuer_run

theorem Enrolled.publicKey_eq (h : Enrolled R G keypair history s) :
    s.issuer.publicKey = keypair.publicKey := by
  rw [Issuer.publicKey, h.issuer_key]

-- ---------------------------------------------------------------------------
-- The elements' runs
-- ---------------------------------------------------------------------------

/-- The element of a device: what `Wallet::new` checked, and the run it has been
on since. -/
structure WalletOf (keypair : Keypair) (history : List Event) (device : DeviceId)
    (w : Wallet R) : Prop where
  device_eq : w.certificate.device = device
  verifies : w.certificate.verify keypair.publicKey = true
  publicKey_eq : w.certificate.publicKey = w.keypair.publicKey
  generated : w.keypair.Generated
  issuer_eq : w.issuer = keypair.publicKey
  run : ∃ rng, Wallet.Run (.fresh w.certificate w.keypair keypair.publicKey rng)
    (localEvents device history) w

/-- What ties the elements of a state to its history. -/
structure Installed (keypair : Keypair) (history : List Event) (s : System R) : Prop where
  wallet_of : ∀ {device w}, s.wallets.lookup device = some w → WalletOf keypair history device w
  silent : ∀ {device}, s.wallets.lookup device = none → localEvents device history = []
  present : ∀ {certificate e}, .wallet certificate e ∈ history →
    ∃ w, s.wallets.lookup certificate.device = some w ∧ w.certificate = certificate

/-- Events that leave the elements alone leave what is known of them. -/
theorem WalletOf.of_localEvents_eq {history' : List Event} {device : DeviceId} {w : Wallet R}
    (h : WalletOf keypair history device w)
    (hSame : localEvents device history' = localEvents device history) :
    WalletOf keypair history' device w where
  device_eq := h.device_eq
  verifies := h.verifies
  publicKey_eq := h.publicKey_eq
  generated := h.generated
  issuer_eq := h.issuer_eq
  run := by
    rw [hSame]
    exact h.run

theorem WalletOf.step {device : DeviceId} {w w' : Wallet R} {op : Wallet.Op} {e : Wallet.Event}
    (h : WalletOf keypair history device w) (hStep : Wallet.Step w op e w') :
    WalletOf keypair (.wallet w.certificate e :: history) device w' := by
  obtain ⟨hCertificate, hKeypair, hIssuer⟩ := hStep.fixed
  obtain ⟨rng, hRun⟩ := h.run
  refine
    { device_eq := by rw [hCertificate, h.device_eq]
      verifies := by rw [hCertificate, h.verifies]
      publicKey_eq := by rw [hCertificate, hKeypair, h.publicKey_eq]
      generated := by rw [hKeypair]; exact h.generated
      issuer_eq := by rw [hIssuer, h.issuer_eq]
      run := ⟨rng, ?_⟩ }
  rw [hCertificate, hKeypair, localEvents_wallet h.device_eq]
  exact hRun.next (a := op) trivial hStep.exec_eq

theorem Enrolled.installed (h : Enrolled R G keypair history s) :
    Installed keypair history s := by
  refine covers.induction (P := fun history s => Installed keypair history s) h ?_ ?_
  · refine ⟨fun hWallet => ?_, fun _ => rfl, fun hMem => absurd hMem List.not_mem_nil⟩
    exact absurd hWallet (Option.some_ne_none _).symm
  · intro history s op e s' hReach hEnrolment ih hStep
    cases hStep with
    | @issuer op e issuer' hStep =>
      refine ⟨fun hWallet => (ih.wallet_of hWallet).of_localEvents_eq rfl, ih.silent, ?_⟩
      intro certificate e' hMem
      rcases List.mem_cons.mp hMem with hNew | hOld
      · exact absurd hNew (by simp)
      · exact ih.present hOld
    | install certificate keypair' rng hVerify hKey =>
      have hNone := hEnrolment.oneWallet certificate keypair' rng rfl
      have hGenerated := hEnrolment.generated certificate keypair' rng rfl
      rw [Enrolled.publicKey_eq hReach] at hVerify
      refine ⟨fun {device w} hWallet => ?_, fun {device} hAbsent => ?_,
        fun {certificate' e} hMem => ?_⟩
      · by_cases hSame : device = certificate.device
        · -- a new element starts on its certificate with no history
          rw [hSame, Finmap.lookup_insert, Option.some.injEq] at hWallet
          subst hWallet hSame
          refine ⟨rfl, hVerify, hKey, hGenerated, Enrolled.publicKey_eq hReach, rng, ?_⟩
          rw [localEvents_installed, ih.silent hNone, Enrolled.publicKey_eq hReach]
          exact .start
        · rw [Finmap.lookup_insert_of_ne _ hSame] at hWallet
          exact (ih.wallet_of hWallet).of_localEvents_eq rfl
      · by_cases hSame : device = certificate.device
        · rw [hSame, Finmap.lookup_insert] at hAbsent
          exact absurd hAbsent (Option.some_ne_none _)
        · rw [Finmap.lookup_insert_of_ne _ hSame] at hAbsent
          exact ih.silent hAbsent
      · rcases List.mem_cons.mp hMem with hNew | hOld
        · exact absurd hNew (by simp)
        · obtain ⟨w, hWallet, hCertificate⟩ := ih.present hOld
          refine ⟨w, ?_, hCertificate⟩
          have hOther : certificate'.device ≠ certificate.device := by
            intro hSame
            rw [hSame, hNone] at hWallet
            exact absurd hWallet (Option.some_ne_none w).symm
          rw [Finmap.lookup_insert_of_ne _ hOther, hWallet]
    | @wallet device w w' op e hWallet hStep =>
      have hOf := ih.wallet_of hWallet
      have hFixed := hStep.fixed.1
      refine ⟨fun {device' w''} hWallet' => ?_, fun {device'} hAbsent => ?_,
        fun {certificate' e'} hMem => ?_⟩
      · by_cases hSame : device' = device
        · rw [hSame, Finmap.lookup_insert, Option.some.injEq] at hWallet'
          subst hWallet' hSame
          exact hOf.step hStep
        · rw [Finmap.lookup_insert_of_ne _ hSame] at hWallet'
          refine (ih.wallet_of hWallet').of_localEvents_eq (localEvents_wallet_ne ?_ e history)
          rw [hOf.device_eq]
          exact Ne.symm hSame
      · have hOther : device' ≠ device := by
          rintro rfl
          rw [Finmap.lookup_insert] at hAbsent
          exact absurd hAbsent (Option.some_ne_none _)
        rw [Finmap.lookup_insert_of_ne _ hOther] at hAbsent
        rw [localEvents_wallet_ne (by rw [hOf.device_eq]; exact Ne.symm hOther)]
        exact ih.silent hAbsent
      · have hFound : ∃ w₁, s.wallets.lookup certificate'.device = some w₁ ∧
            w₁.certificate = certificate' := by
          rcases List.mem_cons.mp hMem with hNew | hOld
          · obtain ⟨rfl, rfl⟩ := Event.wallet.inj hNew
            exact ⟨w, by rw [hOf.device_eq]; exact hWallet, rfl⟩
          · exact ih.present hOld
        obtain ⟨w₁, hWallet₁, hCertificate⟩ := hFound
        by_cases hSame : certificate'.device = device
        · rw [hSame, hWallet, Option.some.injEq] at hWallet₁
          subst hWallet₁
          exact ⟨w', by rw [hSame, Finmap.lookup_insert], hFixed.trans hCertificate⟩
        · exact ⟨w₁, by rw [Finmap.lookup_insert_of_ne _ hSame, hWallet₁], hCertificate⟩

/-- Every installed element is on a run of its own. -/
theorem Enrolled.wallet_of (h : Enrolled R G keypair history s) {device : DeviceId}
    {w : Wallet R} (hWallet : s.wallets.lookup device = some w) :
    WalletOf keypair history device w := h.installed.wallet_of hWallet

/-- So no element is over its limit. -/
theorem WalletOf.within_limit {device : DeviceId} {w : Wallet R}
    (h : WalletOf keypair history device w) : w.WithinLimit := by
  obtain ⟨rng, hRun⟩ := h.run
  exact Wallet.within_limit (Wallet.fresh_withinLimit ..) hRun

/-- What an event of an element carries. -/
theorem Enrolled.genuine (h : Enrolled R G keypair history s) {certificate : DeviceCertificate}
    {e : Wallet.Event} (hMem : .wallet certificate e ∈ history) :
    ∃ w, s.wallets.lookup certificate.device = some w ∧ w.certificate = certificate ∧
      e.Genuine certificate w.keypair keypair.publicKey := by
  obtain ⟨w, hWallet, hCertificate⟩ := h.installed.present hMem
  obtain ⟨rng, hRun⟩ := (h.wallet_of hWallet).run
  refine ⟨w, hWallet, hCertificate, ?_⟩
  have hGenuine := Wallet.genuine_of_mem hRun (mem_localEvents hMem)
  rwa [hCertificate] at hGenuine

-- ---------------------------------------------------------------------------
-- Who signed what
-- ---------------------------------------------------------------------------

section Signing

variable {e : Event} {issuerKey key : PublicKey}

omit [Sha256] in
/-- The five calls that sign, with the key and the content of each. -/
theorem signing_cases {content : Content} (h : e.signing issuerKey = some (key, content)) :
    (∃ account certificate, e = .issuer (.certified account certificate) ∧
      certificate.content = content) ∨
    (∃ account request funding, e = .issuer (.funded account request funding) ∧
      funding.content = content) ∨
    (∃ certificate request transfer state, e = .wallet certificate (.paid request transfer state) ∧
      certificate.publicKey = key ∧ transfer.content = content) ∨
    (∃ certificate request, e = .wallet certificate (.fundingRequested request) ∧
      certificate.publicKey = key ∧ request.content = content) ∨
    ∃ certificate defunding state, e = .wallet certificate (.defunded defunding state) ∧
      certificate.publicKey = key ∧ defunding.content = content := by
  rcases e with ((_ | _ | _ | _) | _ | ⟨_, (_ | _ | _ | _ | _ | _ | _ | _ | _)⟩) <;>
    simp only [Event.signing, Option.some.injEq, Prod.mk.injEq, reduceCtorEq] at h
  · exact .inl ⟨_, _, rfl, h.2⟩
  · exact .inr (.inl ⟨_, _, _, rfl, h.2⟩)
  · exact .inr (.inr (.inl ⟨_, _, _, _, rfl, h⟩))
  · exact .inr (.inr (.inr (.inl ⟨_, _, rfl, h⟩)))
  · exact .inr (.inr (.inr (.inr ⟨_, _, _, rfl, h⟩)))

omit [Sha256] in
/-- Only the issuer signs certificates. -/
theorem certified_of_signing {certificate : DeviceCertificate}
    (h : e.signing issuerKey = some (key, certificate.content)) :
    ∃ account certificate', e = .issuer (.certified account certificate') ∧
      certificate'.content = certificate.content := by
  rcases signing_cases h with hSigned | ⟨_, _, _, -, hContent⟩ | ⟨_, _, _, _, -, -, hContent⟩ |
    ⟨_, _, -, -, hContent⟩ | ⟨_, _, _, -, -, hContent⟩
  · exact hSigned
  all_goals exact Content.noConfusion hContent

omit [Sha256] in
/-- Only a payment signs a transfer. -/
theorem paid_of_signing {transfer : Transfer}
    (h : e.signing issuerKey = some (key, transfer.content)) :
    ∃ certificate request transfer' state, e = .wallet certificate (.paid request transfer' state) ∧
      certificate.publicKey = key ∧ transfer'.content = transfer.content := by
  rcases signing_cases h with ⟨_, _, -, hContent⟩ | ⟨_, _, _, -, hContent⟩ | hSigned |
    ⟨_, _, -, -, hContent⟩ | ⟨_, _, _, -, -, hContent⟩
  case inr.inr.inl => exact hSigned
  all_goals exact Content.noConfusion hContent

omit [Sha256] in
/-- Only a funding request signs one. -/
theorem fundingRequested_of_signing {request : FundingRequest}
    (h : e.signing issuerKey = some (key, request.content)) :
    ∃ certificate request', e = .wallet certificate (.fundingRequested request') ∧
      certificate.publicKey = key ∧ request'.content = request.content := by
  rcases signing_cases h with ⟨_, _, -, hContent⟩ | ⟨_, _, _, -, hContent⟩ |
    ⟨_, _, _, _, -, -, hContent⟩ | hSigned | ⟨_, _, _, -, -, hContent⟩
  case inr.inr.inr.inl => exact hSigned
  all_goals exact Content.noConfusion hContent

omit [Sha256] in
/-- Only the issuer signs fundings. -/
theorem funded_of_signing {funding : Funding}
    (h : e.signing issuerKey = some (key, funding.content)) :
    ∃ account request funding', e = .issuer (.funded account request funding') ∧
      funding'.content = funding.content := by
  rcases signing_cases h with ⟨_, _, -, hContent⟩ | hSigned | ⟨_, _, _, _, -, -, hContent⟩ |
    ⟨_, _, -, -, hContent⟩ | ⟨_, _, _, -, -, hContent⟩
  case inr.inl => exact hSigned
  all_goals exact Content.noConfusion hContent

omit [Sha256] in
/-- Only a defunding signs one. -/
theorem defunded_of_signing {defunding : Defunding}
    (h : e.signing issuerKey = some (key, defunding.content)) :
    ∃ certificate defunding' state, e = .wallet certificate (.defunded defunding' state) ∧
      certificate.publicKey = key ∧ defunding'.content = defunding.content := by
  rcases signing_cases h with ⟨_, _, -, hContent⟩ | ⟨_, _, _, -, hContent⟩ |
    ⟨_, _, _, _, -, -, hContent⟩ | ⟨_, _, -, -, hContent⟩ | hSigned
  case inr.inr.inr.inr => exact hSigned
  all_goals exact Content.noConfusion hContent

end Signing

section Accepted

omit [Rng R] [Rng G]

/-- A certificate that verifies was issued, with these fields. -/
theorem Unforged.certified {op : Op R G} (h : Unforged history s op)
    (certificate : DeviceCertificate)
    (hPresented : ⟨s.issuer.publicKey, certificate.content, certificate.signature⟩ ∈
      op.presented s)
    (hVerify : certificate.verify s.issuer.publicKey = true) :
    ∃ account certificate', .issuer (.certified account certificate') ∈ history ∧
      certificate'.content = certificate.content := by
  obtain ⟨e, hMem, hSigning⟩ := h.signed hPresented (Or.inl rfl) hVerify
  obtain ⟨account, certificate', rfl, hContent⟩ := certified_of_signing hSigning
  exact ⟨account, certificate', hMem, hContent⟩

/-- A funding that verifies was signed by the issuer. -/
theorem Unforged.funded {device : DeviceId} {funding : Funding}
    (h : Unforged history s (Op.wallet (R := R) (G := G) device (.applyFunding funding)))
    (hVerify : s.issuer.publicKey.verify funding.digest funding.signature = true) :
    ∃ account request funding', .issuer (.funded account request funding') ∈ history ∧
      funding'.content = funding.content := by
  obtain ⟨e, hMem, hSigning⟩ :=
    h.signed (p := ⟨s.issuer.publicKey, funding.content, funding.signature⟩)
      List.mem_cons_self (Or.inl rfl) hVerify
  obtain ⟨account, request, funding', rfl, hContent⟩ := funded_of_signing hSigning
  exact ⟨account, request, funding', hMem, hContent⟩

/-- A transfer whose certificate and signature verify was signed by an element
with the payer's key. -/
theorem Unforged.paid {device : DeviceId} {transfer : Transfer}
    (h : Unforged history s (Op.wallet (R := R) (G := G) device (.receive transfer)))
    (hCertificate : transfer.payer.verify s.issuer.publicKey = true)
    (hSignature : transfer.payer.publicKey.verify transfer.digest transfer.signature = true) :
    ∃ certificate request transfer' state,
      .wallet certificate (.paid request transfer' state) ∈ history ∧
        certificate.publicKey = transfer.payer.publicKey ∧
        transfer'.content = transfer.content := by
  obtain ⟨account, certificate, hCertified, hContent⟩ :=
    h.certified transfer.payer List.mem_cons_self hCertificate
  obtain ⟨hDevice, hKey, -⟩ := Content.certificate.inj hContent
  have hHonest : Honest history s transfer.payer.publicKey :=
    Or.inr ⟨transfer.payer.device, account, certificate, hCertified, hDevice, hKey⟩
  obtain ⟨e, hMem, hSigning⟩ :=
    h.signed (p := ⟨transfer.payer.publicKey, transfer.content, transfer.signature⟩)
      (List.mem_cons_of_mem _ List.mem_cons_self) hHonest hSignature
  obtain ⟨certificate', request, transfer', state, rfl, hRest⟩ := paid_of_signing hSigning
  exact ⟨certificate', request, transfer', state, hMem, hRest⟩

end Accepted

/-- The key on record for a device was certified. -/
theorem Enrolled.honest_record (h : Enrolled R G keypair history s) {device : DeviceId}
    {record : DeviceRecord} (hRecord : s.issuer.devices.lookup device = some record) :
    Honest history s record.publicKey := by
  obtain ⟨certificate, hMem, hDevice, hKey⟩ := Issuer.certified_of_lookup h.issuer_run hRecord
  exact Or.inr ⟨device, record.account, certificate, mem_issuerEvents.mp hMem, hDevice, hKey⟩

/-- A funding request that verifies was signed by an element with the key on record. -/
theorem Enrolled.fundingRequested (h : Enrolled R G keypair history s)
    {request : FundingRequest} {record : DeviceRecord}
    (hUnforged : Unforged history s (Op.issuer (R := R) (G := G) (.fund request)))
    (hRecord : s.issuer.devices.lookup request.device = some record)
    (hSignature : record.publicKey.verify request.digest request.signature = true) :
    ∃ certificate request', .wallet certificate (.fundingRequested request') ∈ history ∧
      certificate.publicKey = record.publicKey ∧ request'.content = request.content := by
  have hPresented : (⟨record.publicKey, request.content, request.signature⟩ : Presented) ∈
      Op.presented s (Op.issuer (R := R) (G := G) (.fund request)) := by
    rw [presented_fund hRecord]
    exact List.mem_cons_self
  obtain ⟨e, hMem, hSigning⟩ :=
    hUnforged.signed hPresented (h.honest_record hRecord) hSignature
  obtain ⟨certificate, request', rfl, hRest⟩ := fundingRequested_of_signing hSigning
  exact ⟨certificate, request', hMem, hRest⟩

/-- A defunding that verifies was signed by an element with the key on record. -/
theorem Enrolled.defunded (h : Enrolled R G keypair history s) {defunding : Defunding}
    {record : DeviceRecord}
    (hUnforged : Unforged history s (Op.issuer (R := R) (G := G) (.defund defunding)))
    (hRecord : s.issuer.devices.lookup defunding.device = some record)
    (hSignature : record.publicKey.verify defunding.digest defunding.signature = true) :
    ∃ certificate defunding' state,
      .wallet certificate (.defunded defunding' state) ∈ history ∧
        certificate.publicKey = record.publicKey ∧ defunding'.content = defunding.content := by
  have hPresented : (⟨record.publicKey, defunding.content, defunding.signature⟩ : Presented) ∈
      Op.presented s (Op.issuer (R := R) (G := G) (.defund defunding)) := by
    rw [presented_defund hRecord]
    exact List.mem_cons_self
  obtain ⟨e, hMem, hSigning⟩ :=
    hUnforged.signed hPresented (h.honest_record hRecord) hSignature
  obtain ⟨certificate, defunding', state, rfl, hRest⟩ := defunded_of_signing hSigning
  exact ⟨certificate, defunding', state, hMem, hRest⟩

-- ---------------------------------------------------------------------------
-- Installed elements are on record
-- ---------------------------------------------------------------------------

theorem Reachable.certified (h : Reachable R G keypair history s) :
    ∀ {device w}, s.wallets.lookup device = some w →
      ∃ account certificate, .issuer (.certified account certificate) ∈ history ∧
        certificate.content = w.certificate.content := by
  refine covers.induction (P := fun history s => ∀ {device w},
    s.wallets.lookup device = some w →
      ∃ account certificate, .issuer (.certified account certificate) ∈ history ∧
        certificate.content = w.certificate.content) h ?_ ?_
  · exact fun hWallet => absurd hWallet (Option.some_ne_none _).symm
  · intro history s op e s' _ hEnvironment ih hStep device w hWallet
    -- what was certified stays certified
    have hOlder : ∀ {w₀ : Wallet R}, s.wallets.lookup device = some w₀ →
        ∃ account certificate, .issuer (.certified account certificate) ∈ e :: history ∧
          certificate.content = w₀.certificate.content := by
      intro w₀ hWallet₀
      obtain ⟨account, certificate, hMem, hContent⟩ := ih hWallet₀
      exact ⟨account, certificate, List.mem_cons_of_mem e hMem, hContent⟩
    cases hStep with
    | issuer hStep => exact hOlder hWallet
    | install certificate keypair' rng hVerify _ =>
      by_cases hSame : device = certificate.device
      · rw [hSame, Finmap.lookup_insert, Option.some.injEq] at hWallet
        obtain ⟨account, certificate', hMem, hContent⟩ :=
          hEnvironment.unforged.certified certificate List.mem_cons_self hVerify
        rw [← hWallet]
        exact ⟨account, certificate', List.mem_cons_of_mem _ hMem, hContent⟩
      · rw [Finmap.lookup_insert_of_ne _ hSame] at hWallet
        exact hOlder hWallet
    | @wallet device' w' w'' op e hWallet' hStep =>
      by_cases hSame : device = device'
      · rw [hSame, Finmap.lookup_insert, Option.some.injEq] at hWallet
        rw [← hWallet, hStep.fixed.1]
        rw [← hSame] at hWallet'
        exact hOlder hWallet'
      · rw [Finmap.lookup_insert_of_ne _ hSame] at hWallet
        exact hOlder hWallet

/-- **An installed element is on record** at the issuer, with its own key. -/
theorem Reachable.recorded (h : Reachable R G keypair history s) {device : DeviceId}
    {w : Wallet R} (hWallet : s.wallets.lookup device = some w) :
    ∃ record, s.issuer.devices.lookup device = some record ∧
      record.publicKey = w.keypair.publicKey := by
  have hOf := h.enrolled.wallet_of hWallet
  obtain ⟨account, certificate, hMem, hContent⟩ := h.certified hWallet
  obtain ⟨hDevice, hKey, -⟩ := Content.certificate.inj hContent
  obtain ⟨record, hRecord, -, hRecordKey⟩ :=
    Issuer.recorded_of_certified h.enrolled.issuer_run (mem_issuerEvents.mpr hMem)
  refine ⟨record, ?_, ?_⟩
  · rw [← hOf.device_eq, ← hDevice, hRecord]
  · rw [hRecordKey, hKey, hOf.publicKey_eq]

-- ---------------------------------------------------------------------------
-- Going back and going on
-- ---------------------------------------------------------------------------

/-- What the issuer did goes back to a call of it, in an earlier state of the run. -/
theorem Reachable.issuer_call (h : Reachable R G keypair history s) {e : Issuer.Event}
    (hMem : .issuer e ∈ history) :
    ∃ older s₁ op issuer', (.issuer e :: older) <:+ history ∧ Reachable R G keypair older s₁ ∧
      Unforged older s₁ (.issuer op : Op R G) ∧ Issuer.Step s₁.issuer op e issuer' := by
  obtain ⟨newer, older, hSplit⟩ := List.append_of_mem hMem
  have hSuffix : (.issuer e :: older) <:+ history := ⟨newer, hSplit.symm⟩
  obtain ⟨s₁, op, s₂, hOlder, hEnvironment, hStep⟩ := covers.transition h hSuffix
  cases hStep with
  | issuer hStep => exact ⟨older, s₁, _, _, hSuffix, hOlder, hEnvironment.unforged, hStep⟩

omit [Rng R] [Rng G] in
/-- Delivering signed messages forges nothing. -/
theorem unforged_of_signed {op : Op R G}
    (hSigned : ∀ p ∈ op.presented s, ∃ e ∈ history,
      e.signing s.issuer.publicKey = some (p.key, p.content)) : Unforged history s op := by
  intro p hp _ _
  obtain ⟨e, hMem, hSigning⟩ := hSigned p hp
  exact ⟨e, hMem, p.content, hSigning, rfl⟩

omit [Sha256] [Rng R] in
/-- A call of an element enrols nobody. -/
theorem enrolment_wallet (s : System R) (device : DeviceId) (op : Wallet.Op) :
    Enrolment s (.wallet device op : Op R G) where
  freshDevice := fun _ _ _ _ hOp => absurd hOp (by simp)
  oneWallet := fun _ _ _ hOp => absurd hOp (by simp)
  generated := fun _ _ _ hOp => absurd hOp (by simp)

omit [Sha256] [Rng R] in
theorem enrolment_issuer (history : List Issuer.Event) {s : System R} {op : Issuer.Op G}
    (hFresh : Issuer.FreshDevice history s.issuer op) :
    Enrolment s (.issuer op : Op R G) where
  freshDevice := fun account publicKey limit rng hOp =>
    hFresh account publicKey limit rng (Op.issuer.inj hOp)
  oneWallet := fun _ _ _ hOp => absurd hOp (by simp)
  generated := fun _ _ _ hOp => absurd hOp (by simp)

/-- One more call of an element that is given signed messages. -/
theorem Reachable.wallet_next (h : Reachable R G keypair history s) {device : DeviceId}
    {w w' : Wallet R} {op : Wallet.Op} {e : Wallet.Event}
    (hWallet : s.wallets.lookup device = some w) (hStep : Wallet.Step w op e w')
    (hSigned : ∀ p ∈ Op.presented s (.wallet device op : Op R G), ∃ e ∈ history,
      e.signing s.issuer.publicKey = some (p.key, p.content)) :
    Reachable R G keypair (.wallet w.certificate e :: history)
      { s with wallets := s.wallets.insert device w' } :=
  h.next (a := .wallet device op) ⟨enrolment_wallet s device op, unforged_of_signed hSigned⟩
    (Step.wallet hWallet hStep).exec_eq

/-- One more call of the issuer that is given signed messages. -/
theorem Reachable.issuer_next (h : Reachable R G keypair history s) {op : Issuer.Op G}
    {e : Issuer.Event} {issuer' : Issuer} (hStep : Issuer.Step s.issuer op e issuer')
    (hFresh : Issuer.FreshDevice (issuerEvents history) s.issuer op)
    (hSigned : ∀ p ∈ Op.presented s (.issuer op : Op R G), ∃ e ∈ history,
      e.signing s.issuer.publicKey = some (p.key, p.content)) :
    Reachable R G keypair (.issuer e :: history) { s with issuer := issuer' } :=
  h.next (a := .issuer op) ⟨enrolment_issuer _ hFresh, unforged_of_signed hSigned⟩
    (Step.issuer hStep).exec_eq

/-- One more element, on a certificate the issuer signed. -/
theorem Reachable.install_next (h : Reachable R G keypair history s) {account : AccountId}
    {certificate : DeviceCertificate} {keypair' : Keypair} (rng : R)
    (hIssued : .issuer (.certified account certificate) ∈ history)
    (hVerify : certificate.verify s.issuer.publicKey = true)
    (hKey : certificate.publicKey = keypair'.publicKey) (hGenerated : keypair'.Generated)
    (hOne : s.wallets.lookup certificate.device = none) :
    Reachable R G keypair (.installed certificate :: history)
      { s with
        wallets := s.wallets.insert certificate.device
          (.fresh certificate keypair' s.issuer.publicKey rng) } := by
  refine h.next (a := .install certificate keypair' rng) ⟨⟨?_, ?_, ?_⟩, unforged_of_signed ?_⟩
    (Step.install certificate keypair' rng hVerify hKey).exec_eq
  · exact fun _ _ _ _ hOp => absurd hOp (by simp)
  · intro certificate' keypair'' rng' hOp
    obtain ⟨rfl, -, -⟩ := Op.install.inj hOp
    exact hOne
  · intro certificate' keypair'' rng' hOp
    obtain ⟨-, rfl, -⟩ := Op.install.inj hOp
    exact hGenerated
  · intro p hp
    obtain rfl := List.mem_singleton.mp hp
    exact ⟨_, hIssued, rfl⟩

end System

-- ---------------------------------------------------------------------------
-- Two devices
-- ---------------------------------------------------------------------------

section Sample

variable [Sha256]

/-- The issuer with an account of 50 € and two devices certified for it. -/
def sampleIssuer : Issuer :=
  { Issuer.new issuerKeys with
    accounts := (∅ : Finmap _).insert sampleAccount 5000
    devices := ((∅ : Finmap _).insert (sampleDevice 1)
        { account := sampleAccount, publicKey := aliceKeys.publicKey
          lastDefundingCounter := 0 }).insert (sampleDevice 2)
        { account := sampleAccount, publicKey := bakeryKeys.publicKey
          lastDefundingCounter := 0 } }

/-- Two fresh elements. -/
def sampleSystem : System CountingRng where
  issuer := sampleIssuer
  wallets := ((∅ : Finmap _).insert (sampleDevice 1) (sampleWallet aliceKeys 1)).insert
    (sampleDevice 2) (sampleWallet bakeryKeys 2)

/-- One account, two certificates and two set-ups. -/
def sampleHistory : List System.Event :=
  [.installed (sampleCertificate bakeryKeys 2), .installed (sampleCertificate aliceKeys 1),
    .issuer (.certified sampleAccount (sampleCertificate bakeryKeys 2)),
    .issuer (.certified sampleAccount (sampleCertificate aliceKeys 1)),
    .issuer (.opened sampleAccount 5000)]

omit [Sha256] in
theorem sampleDevice_ne : sampleDevice 2 ≠ sampleDevice 1 := by decide

theorem sampleSystem_reachable :
    System.Reachable CountingRng CountingRng issuerKeys sampleHistory sampleSystem := by
  have hOpened : System.Reachable CountingRng CountingRng issuerKeys _ _ :=
    System.Reachable.issuer_next .start (Issuer.Step.openAccount sampleAccount 5000)
      (fun _ _ _ _ hOp => absurd hOp (by simp)) (fun _ hp => absurd hp List.not_mem_nil)
  have hAlice := hOpened.issuer_next
    (Issuer.Step.certifyDevice sampleAccount aliceKeys.publicKey sampleLimit ⟨1⟩ rfl)
    (fun _ _ _ _ hOp => by obtain ⟨-, -, -, rfl⟩ := Issuer.Op.certifyDevice.inj hOp; rfl)
    (fun _ hp => absurd hp List.not_mem_nil)
  have hBakery := hAlice.issuer_next
    (Issuer.Step.certifyDevice sampleAccount bakeryKeys.publicKey sampleLimit ⟨2⟩ rfl)
    (fun _ _ _ _ hOp => by
      obtain ⟨-, -, -, rfl⟩ := Issuer.Op.certifyDevice.inj hOp
      exact Finmap.lookup_insert_of_ne _ sampleDevice_ne)
    (fun _ hp => absurd hp List.not_mem_nil)
  have hFirst := hBakery.install_next (⟨0⟩ : CountingRng)
    (List.mem_cons_of_mem _ List.mem_cons_self) (issuerKeys_generated.verify_certify ..) rfl
    aliceKeys_generated rfl
  have hSecond := hFirst.install_next (⟨0⟩ : CountingRng)
    (List.mem_cons_of_mem _ List.mem_cons_self) (issuerKeys_generated.verify_certify ..) rfl
    bakeryKeys_generated (Finmap.lookup_insert_of_ne _ sampleDevice_ne)
  exact hSecond

theorem sampleSystem_alice :
    sampleSystem.wallets.lookup (sampleDevice 1) = some (sampleWallet aliceKeys 1) := by
  rw [sampleSystem, Finmap.lookup_insert_of_ne _ sampleDevice_ne.symm, Finmap.lookup_insert]

theorem sampleSystem_bakery :
    sampleSystem.wallets.lookup (sampleDevice 2) = some (sampleWallet bakeryKeys 2) :=
  Finmap.lookup_insert _

/-- The second element after its request for 3 €. -/
def samplePayee : Wallet CountingRng :=
  { sampleWallet bakeryKeys 2 with
    rng := ⟨1⟩
    incoming := (∅ : Finmap _).insert sampleNonce 300 }

/-- A funding with 10 € and a payment of 3 € that is on its way. -/
def samplePaid : System CountingRng where
  issuer := sampleIssuer.funded sampleFundingRequest sampleAccount 5000
  wallets :=
    (((sampleSystem.wallets.insert (sampleDevice 1)
        { sampleWallet aliceKeys 1 with
          rng := ⟨1⟩, pendingFunding := (∅ : Finmap _).insert sampleNonce 1000 }).insert
      (sampleDevice 1) sampleFunded).insert (sampleDevice 2) samplePayee).insert (sampleDevice 1)
      (sampleFunded.debited 300)

/-- A funding from its request to its credit, and a payment from its request to its debit. -/
def samplePaidHistory : List System.Event :=
  [.wallet (sampleCertificate aliceKeys 1) (.paid sampleRequest sampleTransfer .sealed),
    .wallet (sampleCertificate bakeryKeys 2) (.requested sampleRequest),
    .wallet (sampleCertificate aliceKeys 1) (.applied sampleFunding),
    .issuer (.funded sampleAccount sampleFundingRequest sampleFunding),
    .wallet (sampleCertificate aliceKeys 1) (.fundingRequested sampleFundingRequest)] ++
    sampleHistory

omit [Sha256] in
theorem sampleIssuer_alice : sampleIssuer.devices.lookup (sampleDevice 1) =
    some { account := sampleAccount, publicKey := aliceKeys.publicKey
           lastDefundingCounter := 0 } := by
  rw [sampleIssuer, Finmap.lookup_insert_of_ne _ sampleDevice_ne.symm, Finmap.lookup_insert]

/-- The first element has asked for 10 €, and the funding is on its way. -/
def sampleGranted : System CountingRng where
  issuer := sampleIssuer.funded sampleFundingRequest sampleAccount 5000
  wallets := sampleSystem.wallets.insert (sampleDevice 1) sampleAsked

/-- The request and the answer to it. -/
def sampleGrantedHistory : List System.Event :=
  [.issuer (.funded sampleAccount sampleFundingRequest sampleFunding),
    .wallet (sampleCertificate aliceKeys 1) (.fundingRequested sampleFundingRequest)] ++
    sampleHistory

theorem sampleGranted_reachable :
    System.Reachable CountingRng CountingRng issuerKeys sampleGrantedHistory sampleGranted := by
  have hAsked := sampleSystem_reachable.wallet_next sampleSystem_alice sampleAsked_step
    (fun _ hp => absurd hp List.not_mem_nil)
  exact hAsked.issuer_next
    (Issuer.Step.fund sampleFundingRequest _ 5000 sampleIssuer_alice
      sampleFundingRequest_verifies (show (1000 : UInt64) ≠ 0 by decide)
      (Finset.notMem_empty _) rfl (show (1000 : UInt64) ≤ 5000 by decide))
    (fun _ _ _ _ hOp => absurd hOp (by simp)) (by
      rw [System.presented_fund sampleIssuer_alice]
      intro p hp
      obtain rfl := List.mem_singleton.mp hp
      exact ⟨_, List.mem_cons_self, rfl⟩)

theorem sampleGranted_alice :
    sampleGranted.wallets.lookup (sampleDevice 1) = some sampleAsked := Finmap.lookup_insert _

theorem samplePaid_reachable :
    System.Reachable CountingRng CountingRng issuerKeys samplePaidHistory samplePaid := by
  have hApplied := sampleGranted_reachable.wallet_next sampleGranted_alice sampleFunded_step (by
      intro p hp
      obtain rfl := List.mem_singleton.mp hp
      exact ⟨_, List.mem_cons_self, rfl⟩)
  have hBakery : ∀ w w' : Wallet CountingRng,
      ((sampleSystem.wallets.insert (sampleDevice 1) w).insert (sampleDevice 1) w').lookup
        (sampleDevice 2) = some (sampleWallet bakeryKeys 2) := by
    intro w w'
    rw [Finmap.lookup_insert_of_ne _ sampleDevice_ne, Finmap.lookup_insert_of_ne _ sampleDevice_ne]
    exact sampleSystem_bakery
  have hRequested := hApplied.wallet_next (hBakery _ _)
    (Wallet.Step.requestPayment 300 (by decide) (by rw [sampleWallet_headroom]; decide))
    (fun _ hp => absurd hp List.not_mem_nil)
  have hAlice : ∀ (wallets : Finmap fun _ : DeviceId => Wallet CountingRng) w,
      ((wallets.insert (sampleDevice 1) sampleFunded).insert (sampleDevice 2) w).lookup
        (sampleDevice 1) = some sampleFunded := by
    intro wallets w
    rw [Finmap.lookup_insert_of_ne _ sampleDevice_ne.symm, Finmap.lookup_insert]
  have hPaid := hRequested.wallet_next (hAlice _ _)
    (Wallet.Step.pay sampleRequest (issuerKeys_generated.verify_certify ..) sampleDevice_ne
      (show (300 : UInt64) ≠ 0 by decide) (show (300 : UInt64) ≤ 1000 by decide)) (by
      intro p hp
      obtain rfl := List.mem_singleton.mp hp
      refine ⟨.issuer (.certified sampleAccount (sampleCertificate bakeryKeys 2)), ?_, rfl⟩
      simp [sampleGrantedHistory, sampleHistory])
  exact hPaid

theorem samplePaid_alice :
    samplePaid.wallets.lookup (sampleDevice 1) = some (sampleFunded.debited 300) :=
  Finmap.lookup_insert _

theorem samplePaid_payee : samplePaid.wallets.lookup (sampleDevice 2) = some samplePayee := by
  rw [samplePaid, Finmap.lookup_insert_of_ne _ sampleDevice_ne, Finmap.lookup_insert]

theorem samplePaid_receive : (samplePayee.receive sampleTransfer).1 = .ok 300 := by
  rw [Wallet.receive_eq rfl (issuerKeys_generated.verify_certify ..)
    sampleTransfer_verifies (Finset.notMem_empty _) (Finmap.lookup_insert _)]
  rfl

/-- The transfer on its way is no forgery. -/
theorem samplePaid_unforged : System.Unforged samplePaidHistory samplePaid
    (System.Op.wallet (R := CountingRng) (G := CountingRng) (sampleDevice 2)
      (.receive sampleTransfer)) := by
  refine System.unforged_of_signed fun p hp => ?_
  rcases List.mem_cons.mp hp with rfl | hp
  · refine ⟨.issuer (.certified sampleAccount (sampleCertificate aliceKeys 1)), ?_, rfl⟩
    simp [samplePaidHistory, sampleHistory]
  · obtain rfl := List.mem_singleton.mp hp
    exact ⟨_, List.mem_cons_self, rfl⟩

end Sample

end DigitalEuro
