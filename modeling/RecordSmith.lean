import RecordSmith.Main
import RecordSmith.Proofs.Command.Precedence
import RecordSmith.Proofs.Composition.Agreement
import RecordSmith.Proofs.Composition.CycleWarnings
import RecordSmith.Proofs.Composition.Dangling
import RecordSmith.Proofs.Composition.Independence
import RecordSmith.Proofs.Composition.OpenCalls
import RecordSmith.Proofs.Composition.Reachability
import RecordSmith.Proofs.Emission.Inheritance
import RecordSmith.Proofs.Emission.Injectivity
import RecordSmith.Proofs.Emission.NormalForm
import RecordSmith.Proofs.Emission.Symbols
import RecordSmith.Proofs.Schema.Erasure
import RecordSmith.Proofs.Schema.Loading
import RecordSmith.Proofs.Schema.Locations
import RecordSmith.Proofs.Schema.Pointers
import RecordSmith.Proofs.Settings.Overrides
import RecordSmith.Proofs.Settings.Saving
import RecordSmith.Proofs.Text.FixedPoints
