import BuildTargets.Verify.Error
import BuildTargets.Path.Basic
import BuildTargets.RawNode
import BuildTargets.Rule
import BuildTargets.Log.Event
import BuildTargets.Setting

/-!
# Verifying a raw node against its target

The parser is asked for a target, reads a build file and produces raw nodes. `verify` checks
that a node describes exactly the target that was asked for, in this order, and reports the
first check that fails:

1. a flavored target's flavors are accepted by its rule: the rule takes flavors in the
   verifier's configuration, and each flavor is in one of the rule's domains;
2. the node has a `name` attribute;
3. the build file's directory lies in the cell, and its package is the one the node claims;
4. that package and the node's name are the target's.

The cell of the target is never compared with the cell the file is in.

`events` gives what the check logs: a warning when the rule takes no flavors, and a trace
line when the node passes. Both depend only on the outcome, so they are computed from it.
-/

namespace BuildTargets

/-- A verifier, with the configuration in which rules are asked for their flavor domains. -/
structure Verifier where
  configuration : Configuration := .unconfigured
  deriving DecidableEq, Repr

namespace Verifier

/-- The setting that names the platform rules are asked in. -/
def platformSetting : Setting Configuration :=
  Setting.fresh "BUCK_TARGET_PLATFORM" fun s => (Configuration.parse s).mapError (·.message)

/-- The verifier for the platform that the process-wide setting `platform` names, while its
variable holds `value`; an unset variable means no configuration. The setting is shared by every
call in the process, so its first successful read serves all later ones: the read is given back
with the verifier, and its `next` is the setting that the next call reads. -/
def fromEnv (platform : Setting Configuration) (value : Option (List Text.Chunk)) :
    Except SettingError Verifier × Setting.Read Configuration :=
  let r := platform.get value
  (r.result.map fun cfg => ⟨cfg.getD .unconfigured⟩, r)

/-- The target that the verifier's log events carry. -/
def logTarget : String := "buck_parser::verifier"

/-- The flavors of `target` that no domain of `domains` contains. -/
def unknownFlavors (target : Target) (domains : List FlavorDomain.View) : FlavorSet :=
  target.flavors.difference fun f => domains.any (·.contains f)

/-- Check 1: the rule accepts every flavor of the target. -/
def checkFlavors (v : Verifier) (target : Target) (desc : RuleDescription) :
    Except Mismatch Unit :=
  match desc.query v.configuration with
  | .unsupported => .error (.noFlavorSupport target.unflavored target.flavors)
  | .supported domains =>
    let unknown := unknownFlavors target domains
    if unknown.isEmpty then .ok ()
    else .error (.unknownFlavors target unknown
      (domains.map fun d => ⟨d.name, d.userFlavors⟩))

/-- The directory of a build file: its parent, or the empty path when it has none. -/
def directoryOf (buildFile : FsPath) : FsPath := buildFile.parent?.getD ⟨[]⟩

/-- Checks that `node`, read from `buildFile` in `cell`, describes `target`. -/
def verify (v : Verifier) (cell : Cell) (buildFile : FsPath) (target : Target)
    (desc : RuleDescription) (node : RawNode) : Except Mismatch Unit := do
  if target.isFlavored then v.checkFlavors target desc
  let some name := node.name?
    | throw (.malformedRecord buildFile node.attrs.entries)
  let package ← (cell.relativize (directoryOf buildFile)).mapError fun _ =>
    .unrootedBuildFile buildFile cell.name cell.root
  if node.basePath ≠ package then throw (.pathMismatch node.basePath package)
  let expected := target.unflavored
  if expected.package ≠ package ∨ expected.name.text ≠ name then
    throw (.identityMismatch expected.cell package name expected)

/-- The events that a check with this outcome logs. -/
def events (rule : RuleType) (buildFile : FsPath) (target : Target) :
    Except Mismatch Unit → List Log.Event
  | .ok () =>
    [⟨.trace, logTarget, "Verified " ++ target.display ++ " (type " ++ rule.display ++
      ") from " ++ buildFile.display⟩]
  | .error (.noFlavorSupport unflavored flavors) =>
    [⟨.warn, logTarget, "Target " ++ unflavored.display ++ " (type " ++ rule.display ++
      ") has flavors but its rule does not declare flavor support: " ++ flavors.display⟩]
  | .error _ => []

end Verifier

end BuildTargets
