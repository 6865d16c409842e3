import Governance.Feed.Location
import Governance.Feed.Policy
import Governance.Json.Printer
import Governance.Json.Reader
import Governance.Rehearsal
import Governance.Circuit.Permits
import Governance.Feed.Log
import Governance.Json.Access
import Governance.Proofs.Circuit.Probes
import Governance.Proofs.Call.Budget
import Governance.Proofs.Call.Tripped
import Governance.Proofs.Policy.History
import Governance.Proofs.Circuit.OneByOne
import Governance.Proofs.Policy.Scopes
import Governance.Proofs.Call.Undisturbed
import Governance.Proofs.Circuit.Machines
import Governance.Proofs.Election.Candidates
import Governance.Proofs.Call.Visits
import Governance.Proofs.Policy.Isolation
import Governance.Proofs.Call.Accumulation
import Governance.Proofs.Call.Groups
import Governance.Proofs.Feed.Form
import Governance.Proofs.Feed.RoundTrip
import Governance.Proofs.Policy.Fixpoint
import Governance.Proofs.Call.Telemetry
import Governance.Proofs.Call.Counter
import Governance.Proofs.Routing.Preference
import Governance.Proofs.Routing.Unit
import Governance.Proofs.Call.Untried
import Governance.Proofs.Call.Deadline
import Governance.Proofs.Routing.Chains
import Governance.Proofs.Circuit.Availability
import Governance.Proofs.Circuit.Recovery
import Governance.Proofs.Circuit.Streak
import Governance.Proofs.Call.Departed
import Governance.Proofs.Call.Sticky
import Governance.Proofs.Policy.Identities
import Governance.Proofs.Endpoint.Warmup
import Governance.Proofs.Election.Shares
import Governance.Proofs.Tag.Conditions
import Governance.Proofs.Telemetry.Retention
