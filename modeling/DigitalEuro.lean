import DigitalEuro.Lib.Bytes
import DigitalEuro.Lib.Machine
import DigitalEuro.Lib.FinmapTotal
import DigitalEuro.Lib.Rsa
import DigitalEuro.Lib.Sha256
import DigitalEuro.Model.Error
import DigitalEuro.Model.Hash
import DigitalEuro.Model.Signature
import DigitalEuro.Model.Message
import DigitalEuro.Model.Wallet
import DigitalEuro.Model.Issuer
import DigitalEuro.Model.WalletStep
import DigitalEuro.Model.HoldingLimit
import DigitalEuro.Model.Payer
import DigitalEuro.Model.IssuerStep
import DigitalEuro.Model.IssuerLedger
import DigitalEuro.Lib.Reservation
import DigitalEuro.Model.WalletHistory
import DigitalEuro.Model.System
import DigitalEuro.Model.Runs
import DigitalEuro.Model.Agreement
import DigitalEuro.Model.Conservation
import DigitalEuro.Model.Counters
import DigitalEuro.Model.Settlement
import DigitalEuro.Model.Requests
import DigitalEuro.Model.Helpers
import DigitalEuro.Model.Ledger
import DigitalEuro.Model.Refinement
import DigitalEuro.Model.Float
import DigitalEuro.Lib.HighWater
import DigitalEuro.Model.Defundings
import DigitalEuro.Lib.Delivery
import DigitalEuro.Model.Atomicity
import DigitalEuro.Model.Delivery
import DigitalEuro.Model.Foreign
import DigitalEuro.Model.Supply
import DigitalEuro.Model.Panics
import DigitalEuro.Lib.MillerRabin
import DigitalEuro.Model.Primality
import DigitalEuro.Model.Keygen
import DigitalEuro.Model.FullDomainHash
import DigitalEuro.Lib.Answers
import DigitalEuro.Model.Movements
import DigitalEuro.Model.HelperCases
import DigitalEuro.Model.Counterfeit
import DigitalEuro.Model.HelperRuns
import DigitalEuro.Model.Cashing
import DigitalEuro.Model.Enrol
import DigitalEuro.Lib.Keyed
import DigitalEuro.Model.World
import DigitalEuro.Model.Fuzz
import DigitalEuro.Model.Binding
import DigitalEuro.Lib.Views
import DigitalEuro.Model.Privacy
import DigitalEuro.Model.Text
import DigitalEuro.Lib.Ends
import DigitalEuro.Model.Scenarios
import DigitalEuro.Model.Acceptance
import DigitalEuro.Model.Args
import DigitalEuro.Model.Main
