import PlanningSearch.Builder
import PlanningSearch.Cleanse
import PlanningSearch.Main
import PlanningSearch.Screen.Session
import PlanningSearch.Services
import PlanningSearch.Proofs.Query.NormalForm
import PlanningSearch.Proofs.Query.UniqueReading
import PlanningSearch.Proofs.Query.Reader
import PlanningSearch.Proofs.Text.Order
import PlanningSearch.Proofs.View.Consistency
import PlanningSearch.Proofs.Screen.InFlight
import PlanningSearch.Proofs.Screen.NewestWins
import PlanningSearch.Proofs.Screen.Snapshot
import PlanningSearch.Proofs.Screen.Failure
import PlanningSearch.Proofs.Reconcile
import PlanningSearch.Proofs.Screen.Matches
import PlanningSearch.Proofs.Query.Applicability
import PlanningSearch.Proofs.View.Partition
import PlanningSearch.Proofs.Csv
import PlanningSearch.Proofs.Builder
import PlanningSearch.Proofs.Screen.Issued
import PlanningSearch.Proofs.Screen.Replay
import PlanningSearch.Proofs.View.Layers
import PlanningSearch.Proofs.Screen.Moments
import PlanningSearch.Proofs.Screen.Loading
import PlanningSearch.Proofs.Screen.Provenance
import PlanningSearch.Proofs.Screen.Bucket
import PlanningSearch.Proofs.Screen.Message
import PlanningSearch.Proofs.Builder.Canonical
import PlanningSearch.Proofs.Json.Reads
import PlanningSearch.Proofs.Codec
import PlanningSearch.Proofs.Service
import PlanningSearch.Proofs.Screen.DetailRequests
import PlanningSearch.Proofs.Ticket.LifeCycle
import PlanningSearch.Proofs.Screen.Isolation
import PlanningSearch.Proofs.Text.Distinct
import PlanningSearch.Proofs.View.Choices
import PlanningSearch.Proofs.Screen.Selection
import PlanningSearch.Proofs.View.Conjunction
import PlanningSearch.Proofs.View.Toggle
import PlanningSearch.Proofs.Text.Sigma
import PlanningSearch.Proofs.View.TypedText
import PlanningSearch.Proofs.Text.Bytes
import PlanningSearch.Proofs.ValueLists
import PlanningSearch.Proofs.Query.Fields
import PlanningSearch.Proofs.Query.Checked
import PlanningSearch.Proofs.Query.Mention
import PlanningSearch.Proofs.Reconcile.KeySet
import PlanningSearch.Proofs.View.Window
import PlanningSearch.Proofs.Query.Composition
import PlanningSearch.Proofs.Screen.Forms
import PlanningSearch.Proofs.Stores
import PlanningSearch.Proofs.Settings.Names
import PlanningSearch.Proofs.Settings.Layers
import PlanningSearch.Proofs.Settings.Verbatim
