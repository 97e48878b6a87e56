import BuildTargets.Text.Basic

/-!
# Flavors

A flavor selects one variant of a target, such as a platform or a build mode. It is written
after `#` in a label, and a list of flavors is separated by commas. So a flavor is non-empty,
holds none of the characters that delimit a label (`#`, `,`, `/`, `:`), and holds no blank.
A flavor carries the check its text passed, so no other flavor can be built.

Flavors are ordered by their text, which is the order of UTF-8 bytes.
-/

namespace BuildTargets

namespace Flavor

/-- The characters that delimit the parts of a label and so may not stand in a flavor. -/
def reserved : List Char := ['#', ',', '/', ':']

/-- What the text of a flavor must be: non-empty, without a delimiter of a label, and without
a blank. -/
def IsTag (s : String) : Prop :=
  s ≠ "" ∧ (∀ c ∈ s.toList, c ∉ reserved) ∧ Text.hasBlank s = false

instance (s : String) : Decidable (IsTag s) :=
  decidable_of_iff
    ((!s.isEmpty && s.toList.all (fun c => !reserved.contains c) && !Text.hasBlank s) = true)
    (by simp [IsTag, and_assoc])

end Flavor

/-- A flavor, known by its text, which passed the check. -/
structure Flavor where
  tag : String
  isTag : Flavor.IsTag tag
  deriving DecidableEq, Repr, Hashable

attribute [ext] Flavor

/-- Why a text is not a flavor. -/
inductive FlavorError where
  | empty
  /-- The first delimiter character that the text holds. -/
  | reserved (text : String) (c : Char)
  | blank (text : String)
  deriving DecidableEq, Repr

namespace FlavorError

def message : FlavorError → String
  | .empty => "Flavor must be non-empty"
  | .reserved x c => s!"Invalid flavor `{x}`: flavors must not contain `{c}`"
  | .blank x => s!"Invalid flavor `{x}`: flavors must not contain whitespace"

end FlavorError

namespace Flavor

/-- Checks a text: first that it is non-empty, then for the first delimiter character in
reading order, then for blanks. -/
def ofString (s : String) : Except FlavorError Flavor :=
  if hempty : s.isEmpty then .error .empty
  else match hfind : s.toList.find? (· ∈ reserved) with
    | some c => .error (.reserved s c)
    | none =>
      if hblank : Text.hasBlank s then .error (.blank s)
      else .ok ⟨s, by simpa using hempty,
        fun c hc => by simpa using List.find?_eq_none.1 hfind c hc, by simpa using hblank⟩

instance : LT Flavor := ⟨fun a b => a.tag < b.tag⟩

instance (a b : Flavor) : Decidable (a < b) := inferInstanceAs (Decidable (a.tag < b.tag))

instance : Ord Flavor := ⟨fun a b => compare a.tag b.tag⟩

theorem lt_iff_tag_lt {a b : Flavor} : a < b ↔ a.tag < b.tag := Iff.rfl

theorem tag_injective : Function.Injective Flavor.tag := fun _ _ h => Flavor.ext h

theorem lt_irrefl (f : Flavor) : ¬ f < f := String.lt_irrefl f.tag

theorem lt_trans {a b c : Flavor} (hab : a < b) (hbc : b < c) : a < c :=
  String.lt_trans hab hbc

theorem ne_of_lt {a b : Flavor} (h : a < b) : a ≠ b := by
  rintro rfl
  exact lt_irrefl a h

/-- Flavors are totally ordered by their text. -/
theorem lt_of_not_lt_of_ne {a b : Flavor} (h : ¬ a < b) (hne : a ≠ b) : b < a := by
  rw [lt_iff_tag_lt, String.not_lt] at h
  rw [lt_iff_tag_lt]
  refine Classical.byContradiction fun hba => hne (tag_injective ?_)
  exact String.le_antisymm (String.not_lt.1 hba) h

theorem tag_of_ofString_eq_ok {s : String} {f : Flavor} (h : ofString s = .ok f) :
    f.tag = s := by
  unfold ofString at h
  split at h
  · cases h
  · split at h
    · cases h
    · split at h
      · cases h
      · cases h
        rfl

/-- A text is accepted as a flavor exactly when it is the text of one, and then it gives the
flavor with that text. -/
theorem ofString_eq_ok_iff {s : String} {f : Flavor} :
    ofString s = .ok f ↔ IsTag s ∧ f.tag = s := by
  refine ⟨fun h => ⟨tag_of_ofString_eq_ok h ▸ f.isTag, tag_of_ofString_eq_ok h⟩, ?_⟩
  rintro ⟨hs, hf⟩
  obtain ⟨t, ht⟩ := f
  simp only at hf
  subst hf
  unfold ofString
  rw [dif_neg (by simpa using hs.1)]
  split
  · rename_i c hfind
    exact absurd (by simpa using List.find?_some hfind)
      (hs.2.1 c (List.mem_of_find?_eq_some hfind))
  · rw [dif_neg (by simpa using hs.2.2)]

theorem ofString_of_isTag {s : String} (h : IsTag s) : ofString s = .ok ⟨s, h⟩ :=
  ofString_eq_ok_iff.2 ⟨h, rfl⟩

/-- A flavor is read back from its text. -/
theorem ofString_tag (f : Flavor) : ofString f.tag = .ok f :=
  ofString_of_isTag f.isTag

end Flavor

example : Flavor.ofString "x y" = .error (.blank "x y") := rfl

example : Flavor.ofString "a:b#c" = .error (.reserved "a:b#c" ':') := rfl

end BuildTargets
