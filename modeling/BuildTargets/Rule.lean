import BuildTargets.Text.Basic
import BuildTargets.Flavor.Domain

/-!
# Rules and what they accept

A raw node is parsed under a rule type, such as `java_library`, which is either a build rule
or a configuration rule. A rule may take flavors: it then names, for each configuration, the
flavor domains it accepts there, or says that it takes no flavors in that configuration.
Asking a rule gives one of two answers, `unsupported` or `supported` with the domains, and a
rule that takes flavors with no domains is distinct from one that takes none.

A configuration is either no configuration at all, written `<unconfigured>`, or a platform
given by a name without blanks. The text `<unconfigured>` is matched exactly and after the
other checks, so `<UNCONFIGURED>` is the name of a platform.
-/

namespace BuildTargets

/-! ## Configurations -/

/-- The configuration a rule is asked in. -/
inductive Configuration where
  | unconfigured
  | platform (name : String)
  deriving DecidableEq, Repr, Inhabited

/-- Why a text is no configuration. -/
inductive ConfigurationError where
  | empty
  | blank (text : String)
  deriving DecidableEq, Repr

namespace ConfigurationError

def message : ConfigurationError → String
  | .empty => "Platform name must be non-empty"
  | .blank x => s!"Invalid platform name `{x}`: platform names must not contain whitespace"

end ConfigurationError

namespace Configuration

/-- The text that stands for no configuration. -/
def unconfiguredText : String := "<unconfigured>"

def parse (s : String) : Except ConfigurationError Configuration :=
  if s.isEmpty then .error .empty
  else if Text.hasBlank s then .error (.blank s)
  else if s == unconfiguredText then .ok .unconfigured
  else .ok (.platform s)

def display : Configuration → String
  | .unconfigured => unconfiguredText
  | .platform name => name

def isUnconfigured : Configuration → Bool
  | .unconfigured => true
  | .platform _ => false

end Configuration

/-! ## Rules -/

/-- Where a rule can be used. -/
inductive RuleKind where
  | build
  | configuration
  deriving DecidableEq, Repr

/-- The rule type that a raw node was parsed under. -/
structure RuleType where
  name : String
  kind : RuleKind
  deriving DecidableEq, Repr

namespace RuleType

def build (name : String) : RuleType := ⟨name, .build⟩

def display (r : RuleType) : String := r.name

def isConfigurationRule (r : RuleType) : Bool := r.kind == .configuration

end RuleType

/-- A rule's answer to "which flavors do you accept?". -/
inductive Capability where
  | unsupported
  | supported (domains : List FlavorDomain.View)
  deriving DecidableEq, Repr

/-- What the verifier knows of a rule. `flavorDomains? = none` means the rule takes no
flavors at all; otherwise it gives, for each configuration, the domains accepted there, or
`none` where the rule takes no flavors. -/
structure RuleDescription where
  flavorDomains? : Option (Configuration → Option (List FlavorDomain.View))

namespace RuleDescription

/-- A rule that takes no flavors. -/
def plain : RuleDescription := ⟨none⟩

/-- A rule that accepts `domains` in the configurations whose text is listed, or in every
configuration when there is no list. -/
def ofDomains (domains : List FlavorDomain.View) (configurations : Option (List String)) :
    RuleDescription :=
  ⟨some fun cfg =>
    match configurations with
    | none => some domains
    | some names => if names.contains cfg.display then some domains else none⟩

/-- The rule's answer in a configuration. -/
def query (d : RuleDescription) (cfg : Configuration) : Capability :=
  match d.flavorDomains? with
  | none => .unsupported
  | some domainsIn =>
    match domainsIn cfg with
    | none => .unsupported
    | some ds => .supported ds

end RuleDescription

end BuildTargets
