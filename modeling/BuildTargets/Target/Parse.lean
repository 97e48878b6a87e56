import BuildTargets.Target.Basic
import BuildTargets.Text.Basic

/-!
# Reading target labels

A label is read in two steps. First it is cut: the cell ends at the first `//`, the package
at the first `:` after that, and the name at the first `#` after that; what follows the `#`
is the flavor list. Then the parts are checked in the order cell, flavors, package, name,
and the first part that fails decides the error.
-/

namespace BuildTargets

/-- Why a text is no target label. -/
inductive TargetParseError where
  | notQualified (text : String)
  | noColon (text : String)
  | cell (e : CellNameError)
  | flavors (e : FlavorListError)
  | package (e : PackagePathError)
  | name (e : TargetNameError)
  deriving DecidableEq, Repr

namespace TargetParseError

def message : TargetParseError → String
  | .notQualified x => s!"Expected a fully qualified target containing `//`, got `{x}`"
  | .noColon x => s!"Expected target `{x}` to contain `:` separating package and name"
  | .cell e => e.message
  | .flavors e => e.message
  | .package e => e.message
  | .name e => e.message

end TargetParseError

/-- The texts of the parts of a label, before they are checked. -/
structure LabelParts where
  cell : String
  package : String
  name : String
  /-- The text after `#`, when there is a `#`. -/
  flavors : Option String
  deriving DecidableEq, Repr

namespace LabelParts

/-- Cuts a label into its parts. -/
def cut (s : String) : Except TargetParseError LabelParts :=
  match Text.splitFirst "//" s with
  | none => .error (.notQualified s)
  | some (cell, rest) =>
    match Text.splitFirst ":" rest with
    | none => .error (.noColon s)
    | some (package, nameAndFlavors) =>
      match Text.splitFirst "#" nameAndFlavors with
      | some (name, flavors) => .ok ⟨cell, package, name, some flavors⟩
      | none => .ok ⟨cell, package, nameAndFlavors, none⟩

end LabelParts

namespace Target

/-- Reads a fully qualified label. -/
def parse (s : String) : Except TargetParseError Target := do
  let parts ← LabelParts.cut s
  let cell ← (CellName.ofLabel parts.cell).mapError .cell
  let flavors ← match parts.flavors with
    | some f => (FlavorSet.parse f).mapError .flavors
    | none => pure FlavorSet.empty
  let package ← (PackagePath.ofString parts.package).mapError .package
  let name ← (TargetName.ofString parts.name).mapError .name
  pure ⟨cell, package, name, flavors⟩

end Target

end BuildTargets
