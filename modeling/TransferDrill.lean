import TransferDrill.Json.RoundTrip
import TransferDrill.Model.Catalogue
import TransferDrill.Model.Display
import TransferDrill.Rehearsal.Session
import TransferDrill.Text.Escaped.RoundTrip
import TransferDrill.Proofs.Json.Equality
import TransferDrill.Proofs.Json.Substitution
import TransferDrill.Proofs.Json.Scan
import TransferDrill.Proofs.Matching.Ranks
import TransferDrill.Proofs.Matching.Order
import TransferDrill.Proofs.Schema.Members
import TransferDrill.Proofs.Scenario.Refill
import TransferDrill.Proofs.Scenario.Populate
import TransferDrill.Proofs.Drive.Path
import TransferDrill.Proofs.Drive.Pipeline
import TransferDrill.Proofs.Drive.Contract
import TransferDrill.Proofs.Drive.Sender
import TransferDrill.Proofs.Drive.Sizing
import TransferDrill.Proofs.Drive.HandOff
import TransferDrill.Proofs.Drive.Cause
import TransferDrill.Proofs.Drive.FailFast
import TransferDrill.Proofs.Drive.Discipline
import TransferDrill.Proofs.Drive.FirstFault
import TransferDrill.Proofs.Drive.Composition
import TransferDrill.Proofs.Drive.Waiting
import TransferDrill.Proofs.Drive.Counting
import TransferDrill.Proofs.Drive.Funding
import TransferDrill.Proofs.Drive.Assembly
import TransferDrill.Proofs.Drive.Intent
import TransferDrill.Proofs.Drive.Making
import TransferDrill.Proofs.Drive.Outputs
import TransferDrill.Proofs.Drive.Custody
import TransferDrill.Proofs.Drive.Distinct
import TransferDrill.Proofs.Drive.Limits
import TransferDrill.Proofs.Scenario.Hygiene
import TransferDrill.Proofs.Drive.Completion
import TransferDrill.Proofs.Drive.Drawing
import TransferDrill.Proofs.Drive.AccountSizing
import TransferDrill.Proofs.Drive.CoinSizing
import TransferDrill.Proofs.Drive.FeeReserve
import TransferDrill.Proofs.Drive.Election
import TransferDrill.Proofs.Drive.Stages
import TransferDrill.Proofs.Drive.FundsWait
import TransferDrill.Proofs.Drive.AddressCap
import TransferDrill.Proofs.Model.Display
import TransferDrill.Proofs.Matching.Essence
import TransferDrill.Proofs.Key.Storage
import TransferDrill.Proofs.Model.Retraction
