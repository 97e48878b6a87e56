import BuildTargets.Text.Basic
import BuildTargets.Text.Utf8
import BuildTargets.Text.Alphanumeric
import BuildTargets.Text.Pattern
import BuildTargets.Flavor.Basic
import BuildTargets.Flavor.Set
import BuildTargets.Flavor.Domain
import BuildTargets.Cell.Basic
import BuildTargets.Target.Basic
import BuildTargets.Path.Basic
import BuildTargets.Package
import BuildTargets.Target.Parse
import BuildTargets.Rule
import BuildTargets.RawNode
import BuildTargets.Log.Event
import BuildTargets.Log.Filter
import BuildTargets.Log.Session
import BuildTargets.Setting
import BuildTargets.Verify.Error
import BuildTargets.Verify.Basic
import BuildTargets.Proofs.Path.Components
import BuildTargets.Proofs.Package.Directory
import BuildTargets.Proofs.Verify.Verdict
import BuildTargets.Proofs.Verify.BuildFile
import BuildTargets.Proofs.Flavor.Set
import BuildTargets.Proofs.Target.Label
import BuildTargets.Proofs.Flavor.Canonical
import BuildTargets.Proofs.Setting.Cache
import BuildTargets.Proofs.Flavor.Domain
import BuildTargets.Proofs.Verify.Flavors
import BuildTargets.Proofs.Flavor.Reading
import BuildTargets.Proofs.Text.Occurrence
import BuildTargets.Proofs.Target.Grammar
import BuildTargets.Proofs.Text.ByteOrder
import BuildTargets.Proofs.Cell.Relativize
import BuildTargets.Proofs.Package.Refusal
import BuildTargets.Proofs.Flavor.Selection
import BuildTargets.Proofs.Target.Order
import BuildTargets.Proofs.Path.Absolute
import BuildTargets.Proofs.Log.Writer
