import Canvasflow.Main
import Canvasflow.Program.Tree
import Canvasflow.Program.View
import Canvasflow.Proofs.Session.Classification
import Canvasflow.Proofs.Session.Mirror
import Canvasflow.Proofs.Session.Reach
import Canvasflow.Session.Report
import Canvasflow.Session.Script
import Canvasflow.Proofs.Program.Failures
import Canvasflow.Proofs.Program.Aside
import Canvasflow.Proofs.Program.Budget
import Canvasflow.Proofs.Program.Execution
import Canvasflow.Proofs.Session.Footprint
import Canvasflow.Proofs.Connector.Cache
import Canvasflow.Proofs.Session.Caching
import Canvasflow.Proofs.Program.Indistinct
import Canvasflow.Proofs.Program.Lengths
import Canvasflow.Proofs.Session.Plain
import Canvasflow.Proofs.Program.RoundTrip
import Canvasflow.Proofs.Program.Returning
import Canvasflow.Proofs.Program.Layout
import Canvasflow.Proofs.Session.Editing
import Canvasflow.Proofs.Geometry.Buckets
import Canvasflow.Proofs.Session.Refusal
import Canvasflow.Proofs.Session.Loading
import Canvasflow.Proofs.Session.Restoring
import Canvasflow.Proofs.Connector.Ownership
import Canvasflow.Proofs.Session.Surveying
import Canvasflow.Proofs.Program.Declarations
import Canvasflow.Proofs.Program.Targets
import Canvasflow.Proofs.Session.Removal
import Canvasflow.Proofs.Program.Repacking
import Canvasflow.Proofs.Session.Firing
import Canvasflow.Proofs.Program.Powers
import Canvasflow.Proofs.Program.NumberTexts
import Canvasflow.Proofs.Session.Overlaps
import Canvasflow.Proofs.Program.Comparisons
import Canvasflow.Proofs.Program.NumericKeys
import Canvasflow.Proofs.Program.QuotedTexts
import Canvasflow.Proofs.Program.Chains
import Canvasflow.Proofs.Program.Loops
import Canvasflow.Proofs.Program.Splitting
import Canvasflow.Proofs.Geometry.FailedInsertions
import Canvasflow.Proofs.Program.Positions
import Canvasflow.Proofs.Connector.Triggers
import Canvasflow.Proofs.Connector.Graph
import Canvasflow.Proofs.Settings
import Canvasflow.Proofs.Program.WellFormed
