import BuildTargets.Cell.Basic
import BuildTargets.Target.Basic

/-!
# Verification failures

Each way in which a raw node can fail to describe the target it was parsed for is one
constructor, with the data that its message shows. The two flavor failures are the user's
to fix; the other four mean that the parser and its caller disagree about what was parsed.
The wording of every message is in `Mismatch.message` and the functions it calls.
-/

namespace BuildTargets

/-- The user flavors of one domain, shown when a target asks for a flavor no domain knows. -/
structure AvailableFlavors where
  domain : String
  flavors : List Flavor
  deriving DecidableEq, Repr

/-- Who has to act on a failure. -/
inductive Category where
  | user
  | internal
  deriving DecidableEq, Repr

/-- Why a raw node does not describe the target it was parsed for. -/
inductive Mismatch where
  /-- The target has flavors and its rule takes none. `target` is the unflavored target. -/
  | noFlavorSupport (target : Target) (flavors : FlavorSet)
  /-- Some flavors of the target are in none of the rule's domains. -/
  | unknownFlavors (target : Target) (unknown : FlavorSet) (available : List AvailableFlavors)
  /-- The node claims another package than its build file is in. -/
  | pathMismatch (claimed actual : PackagePath)
  /-- The node has no `name` attribute. -/
  | malformedRecord (buildFile : FsPath) (attrs : List (String × String))
  /-- The package or name of the node is not the target's. `expected` is unflavored. -/
  | identityMismatch (cell : CellName) (package : PackagePath) (name : String)
      (expected : Target)
  /-- The build file lies outside the cell. -/
  | unrootedBuildFile (buildFile : FsPath) (cell : CellName) (root : AbsPath)
  deriving DecidableEq, Repr

namespace Render

/-- The message for a flavored target whose rule takes no flavors. -/
def noFlavorSupport (target : Target) (flavors : FlavorSet) : String :=
  "The following flavor(s) are not supported on target " ++ target.display ++ ":\n" ++
    flavors.join " " ++ ".\n\nPlease try to remove them when referencing this target."

/-- One line of the list of available flavors; a domain without user flavors gives an empty
line. -/
def availableLine (a : AvailableFlavors) : String :=
  if a.flavors.isEmpty then "\n"
  else a.domain ++ ": " ++ ", ".intercalate (a.flavors.map Flavor.tag) ++ "\n"

/-- The message for flavors that no domain of the rule knows. -/
def unknownFlavors (target : Target) (unknown : FlavorSet) (available : List AvailableFlavors) :
    String :=
  "The following flavor(s) are not supported on target " ++ target.display ++ ":\n" ++
    unknown.join "\n" ++ "\n\nAvailable flavors are:\n" ++
    String.join (available.map availableLine) ++
    "\n\n- Please check the spelling of the flavor(s).\n" ++
    "- If the spelling is correct, please check that the related SDK has been installed."

def pathMismatch (claimed actual : PackagePath) : String :=
  "Raw data claims to come from [" ++ claimed.text ++ "], but we tried rooting it at [" ++
    actual.text ++ "]."

def malformedRecord (buildFile : FsPath) (attrs : List (String × String)) : String :=
  "Attempting to parse build target from malformed raw data in " ++ buildFile.display ++ ": " ++
    ", ".intercalate (attrs.map fun (k, v) => k ++ "->" ++ v) ++ "."

def identityMismatch (cell : CellName) (package : PackagePath) (name : String)
    (expected : Target) : String :=
  "Inconsistent internal state, target from data: " ++ cell.text ++ "//" ++ package.text ++
    ":" ++ name ++ ", expected: " ++ expected.display ++ ", raw data: name->" ++ name

def unrootedBuildFile (buildFile : FsPath) (cell : CellName) (root : AbsPath) : String :=
  "Build file " ++ buildFile.display ++ " is not located under the root of cell `" ++
    cell.text ++ "//` (" ++ root.display ++ ")"

end Render

namespace Category

def display : Category → String
  | .user => "User"
  | .internal => "Internal"

end Category

namespace Mismatch

/-- The name of the kind of failure. -/
def kindName : Mismatch → String
  | .noFlavorSupport .. => "UnsupportedFlavorNoCapability"
  | .unknownFlavors .. => "UnsupportedFlavorUnknown"
  | .pathMismatch .. => "PathMismatch"
  | .malformedRecord .. => "MalformedRecord"
  | .identityMismatch .. => "IdentityMismatch"
  | .unrootedBuildFile .. => "UnrootedBuildFile"

def category : Mismatch → Category
  | .noFlavorSupport .. | .unknownFlavors .. => .user
  | _ => .internal

def isUserError (m : Mismatch) : Bool := m.category == .user

def message : Mismatch → String
  | .noFlavorSupport t fs => Render.noFlavorSupport t fs
  | .unknownFlavors t u a => Render.unknownFlavors t u a
  | .pathMismatch c a => Render.pathMismatch c a
  | .malformedRecord b attrs => Render.malformedRecord b attrs
  | .identityMismatch c p n e => Render.identityMismatch c p n e
  | .unrootedBuildFile b c r => Render.unrootedBuildFile b c r

end Mismatch

end BuildTargets
