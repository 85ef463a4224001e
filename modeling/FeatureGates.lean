import FeatureGates.Check
import FeatureGates.CommandLine
import FeatureGates.Diagnostic
import FeatureGates.Digest
import FeatureGates.FileSystem
import FeatureGates.Inventory
import FeatureGates.Json.Reader
import FeatureGates.Log.Filter
import FeatureGates.Main
import FeatureGates.Manifest
import FeatureGates.Ordered
import FeatureGates.Profile
import FeatureGates.Program
import FeatureGates.Proofs.Document
import FeatureGates.Proofs.Gates
import FeatureGates.Proofs.Listing
import FeatureGates.Proofs.Loading
import FeatureGates.Proofs.Ordered
import FeatureGates.Proofs.Reading
import FeatureGates.Report
import FeatureGates.Tree.Lookup
import FeatureGates.Verification
import FeatureGates.Yaml
import FeatureGates.Proofs.Inventory
import FeatureGates.Proofs.FirstFault
import FeatureGates.Proofs.Independence
import FeatureGates.Proofs.Check
import FeatureGates.Proofs.Verdict
import FeatureGates.Proofs.Walk
import FeatureGates.Proofs.Growth
import FeatureGates.Proofs.Path
import FeatureGates.Proofs.Enlargement
import FeatureGates.Proofs.Splitting
import FeatureGates.Proofs.Writing
import FeatureGates.Proofs.Effects
import FeatureGates.Proofs.Report
import FeatureGates.Proofs.Repetition
import FeatureGates.Proofs.ByteOrder
import FeatureGates.Proofs.Outcome
import FeatureGates.Proofs.Extraction
import FeatureGates.Proofs.JsonText
import FeatureGates.Proofs.ReportText
import FeatureGates.Proofs.Calls
import FeatureGates.Proofs.Annotations
import FeatureGates.Proofs.Conflict
import FeatureGates.Proofs.Repair
import FeatureGates.Proofs.DiagnosticText
import FeatureGates.Proofs.Likeness
import FeatureGates.Proofs.Parts
import FeatureGates.Proofs.Tags
import FeatureGates.Proofs.EntryOrder
import FeatureGates.Proofs.Immaterial
import FeatureGates.Proofs.Replacing
import FeatureGates.Proofs.ReleaseKey
import FeatureGates.Proofs.TextLookup
import FeatureGates.Proofs.Arguments
import FeatureGates.Proofs.Trace
