import BuildTargets.Flavor.Set

/-!
# Flavor domains

A flavor domain is one axis of variation that a rule supports, such as the platforms: a named
map from each of its flavors to the value that flavor selects. Each flavor is either a user
flavor, which users write themselves, or an internal one, which rules attach to their own
dependencies and which diagnostics never suggest. The flavors keep their declaration order.

A domain is built from its name and its entries; the name must not be empty and no flavor
may be declared twice. `getValue` picks the value that a flavor set selects from the domain:
none when no member of the set is in the domain, and an error when two are.
-/

namespace BuildTargets

/-- Whether users write a flavor themselves. -/
inductive FlavorKind where
  | user
  | internal
  deriving DecidableEq, Repr

/-- A named map from flavors to values, in declaration order. -/
structure FlavorDomain (α : Type) where
  name : String
  entries : List (Flavor × FlavorKind × α)
  deriving Repr

/-- Why a domain cannot be built, or selects no single value. -/
inductive FlavorDomainError where
  | emptyName
  | duplicate (domain : String) (f : Flavor)
  | multiple (domain : String) (fs : List Flavor)
  deriving DecidableEq, Repr

namespace FlavorDomainError

def message : FlavorDomainError → String
  | .emptyName => "Flavor domain name must be non-empty"
  | .duplicate d f => s!"Flavor `{f.tag}` is declared more than once in flavor domain `{d}`"
  | .multiple d fs =>
    s!"Multiple flavors from domain `{d}` are present: " ++ ", ".intercalate (fs.map Flavor.tag)

end FlavorDomainError

namespace FlavorDomain

variable {α : Type}

/-- The first flavor of the list that an earlier entry already declares. -/
def firstRepeat : List Flavor → List Flavor → Option Flavor
  | _, [] => none
  | seen, f :: rest => if seen.contains f then some f else firstRepeat (f :: seen) rest

/-- A domain from its name and its entries, each with its kind. -/
def withKinds (name : String) (entries : List (Flavor × FlavorKind × α)) :
    Except FlavorDomainError (FlavorDomain α) :=
  if name.isEmpty then .error .emptyName
  else match firstRepeat [] (entries.map (·.1)) with
    | some f => .error (.duplicate name f)
    | none => .ok ⟨name, entries⟩

/-- A domain whose flavors are all internal. -/
def internal (name : String) (entries : List (Flavor × α)) :
    Except FlavorDomainError (FlavorDomain α) :=
  withKinds name (entries.map fun (f, v) => (f, .internal, v))

/-- A domain whose flavors are all user flavors. -/
def user (name : String) (entries : List (Flavor × α)) :
    Except FlavorDomainError (FlavorDomain α) :=
  withKinds name (entries.map fun (f, v) => (f, .user, v))

def flavors (d : FlavorDomain α) : List Flavor := d.entries.map (·.1)

def values (d : FlavorDomain α) : List α := d.entries.map (·.2.2)

def userFlavors (d : FlavorDomain α) : List Flavor :=
  (d.entries.filter (·.2.1 == .user)).map (·.1)

def find? (d : FlavorDomain α) (f : Flavor) : Option (Flavor × FlavorKind × α) :=
  d.entries.find? (·.1 == f)

def get? (d : FlavorDomain α) (f : Flavor) : Option α := (d.find? f).map (·.2.2)

def kind? (d : FlavorDomain α) (f : Flavor) : Option FlavorKind := (d.find? f).map (·.2.1)

def contains (d : FlavorDomain α) (f : Flavor) : Bool := d.flavors.contains f

/-- The value that the flavors of a set select: none when no member is in the domain, the
member's value when one is, and an error listing the members in order when more are. -/
def getValue (d : FlavorDomain α) (fs : FlavorSet) : Except FlavorDomainError (Option α) :=
  match fs.toList.filter d.contains with
  | [] => .ok none
  | [f] => .ok (d.get? f)
  | selected => .error (.multiple d.name selected)

/-- What is known of a domain without its values: its name, its flavors, and those of them
that users write themselves, both in declaration order. -/
structure View where
  name : String
  flavors : List Flavor
  userFlavors : List Flavor
  deriving DecidableEq, Repr

def View.contains (d : View) (f : Flavor) : Bool := d.flavors.contains f

/-- The part of the domain that does not depend on its values. -/
def view (d : FlavorDomain α) : View := ⟨d.name, d.flavors, d.userFlavors⟩

end FlavorDomain

end BuildTargets
