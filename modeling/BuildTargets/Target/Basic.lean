import BuildTargets.Cell.Basic
import BuildTargets.Flavor.Set

/-!
# Target labels

A target is named by its cell, its package, its short name and a set of flavors, and is
written `cell//package:name`, with `#` and the flavors after it when there are any. Targets
are equal when all four parts are, and are ordered by the four parts in that order, each
by its text (the flavor sets member by member).

The short name of a target is the part of a label after `:` and before any `#`. It is
non-empty and holds none of `/`, `:`, `#` and `,`. Blanks are allowed. Like every part of a
target, it carries the check it passed, so a target is made of parts the checks accept.
-/

namespace BuildTargets

/-! ## Target names -/

namespace TargetName

/-- The characters that may not stand in a target name. -/
def reserved : List Char := ['/', ':', '#', ',']

/-- What a target name must be: non-empty, and without the characters that delimit a label. -/
def IsName (s : String) : Prop :=
  s ≠ "" ∧ ∀ c ∈ s.toList, c ∉ reserved

instance (s : String) : Decidable (IsName s) :=
  decidable_of_iff ((!s.isEmpty && s.toList.all fun c => !reserved.contains c) = true) (by
    simp [IsName])

end TargetName

/-- The short name of a target within its package, which passed the check. -/
structure TargetName where
  text : String
  isName : TargetName.IsName text
  deriving DecidableEq, Repr, Hashable

attribute [ext] TargetName

/-- Why a text is no target name. -/
inductive TargetNameError where
  | empty
  /-- The first delimiter character that the text holds. -/
  | reserved (text : String) (c : Char)
  deriving DecidableEq, Repr

namespace TargetNameError

def message : TargetNameError → String
  | .empty => "Target name must be non-empty"
  | .reserved x c => s!"Invalid target name `{x}`: target names must not contain `{c}`"

end TargetNameError

namespace TargetName

def ofString (s : String) : Except TargetNameError TargetName :=
  if hempty : s.isEmpty then .error .empty
  else match hfind : s.toList.find? (· ∈ reserved) with
    | some c => .error (.reserved s c)
    | none => .ok ⟨s, by simpa using hempty,
      fun c hc => by simpa using List.find?_eq_none.1 hfind c hc⟩

theorem text_of_ofString_eq_ok {s : String} {n : TargetName} (h : ofString s = .ok n) :
    n.text = s := by
  unfold ofString at h
  split at h
  · cases h
  · split at h
    · cases h
    · cases h
      rfl

/-- A text is accepted as a target name exactly when it is a name, and then it gives the name
with that text. -/
theorem ofString_eq_ok_iff {s : String} {n : TargetName} :
    ofString s = .ok n ↔ IsName s ∧ n.text = s := by
  refine ⟨fun h => ⟨text_of_ofString_eq_ok h ▸ n.isName, text_of_ofString_eq_ok h⟩, ?_⟩
  rintro ⟨hs, hn⟩
  obtain ⟨t, ht⟩ := n
  simp only at hn
  subst hn
  unfold ofString
  rw [dif_neg (by simpa using hs.1)]
  split
  · rename_i c hfind
    exact absurd (by simpa using List.find?_some hfind)
      (hs.2 c (List.mem_of_find?_eq_some hfind))
  · rfl

theorem ofString_of_isName {s : String} (h : IsName s) : ofString s = .ok ⟨s, h⟩ :=
  ofString_eq_ok_iff.2 ⟨h, rfl⟩

/-- A target name is read back from its text. -/
theorem ofString_text (n : TargetName) : ofString n.text = .ok n :=
  ofString_of_isName n.isName

end TargetName

/-! ## Targets -/

/-- A target before any configuration is applied. -/
structure Target where
  cell : CellName
  package : PackagePath
  name : TargetName
  flavors : FlavorSet
  deriving DecidableEq, Repr, Hashable

attribute [ext] Target

namespace Target

def isFlavored (t : Target) : Bool := !t.flavors.isEmpty

/-- The same target with other flavors. -/
def withFlavors (t : Target) (fs : FlavorSet) : Target := { t with flavors := fs }

/-- The same target without flavors. -/
def unflavored (t : Target) : Target := t.withFlavors FlavorSet.empty

/-- The label of the target. -/
def display (t : Target) : String :=
  let base := t.cell.text ++ "//" ++ t.package.text ++ ":" ++ t.name.text
  if t.flavors.isEmpty then base else base ++ "#" ++ t.flavors.display

/-- Targets compare by cell, package, name and flavors, in that order. -/
def compareParts (a b : Target) : Ordering :=
  (compare a.cell.text b.cell.text).then <|
    (compare a.package.text b.package.text).then <|
      (compare a.name.text b.name.text).then (compare a.flavors b.flavors)

instance : Ord Target := ⟨compareParts⟩

end Target

end BuildTargets
