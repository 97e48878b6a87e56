import BuildTargets.Text.Basic
import BuildTargets.Path.Basic
import BuildTargets.Package

/-!
# Cells

A build is split into cells, each a tree of packages with its own root directory. A label
names its cell before `//`. The root cell has no name and is written as the empty text; any
other cell has a name, which is non-empty and holds no `/`, `:`, `#` or blank, because those
delimit the rest of a label.

A cell name is therefore an optional name that carries the check its constructor made: the
root is `none`, and a named cell holds a name that passed the check. Two cell names are equal
when both are the root or both hold the same name. They are ordered by their text, the root's
being empty; because no checked name is empty, the root ties with no other cell.

A cell is a name and the absolute directory it is rooted at. `relativize` turns a directory
into the package it stands for: an absolute directory must lie under the root (component by
component) and the rest of it is the package; a relative directory is read as already
relative to the root.
-/

namespace BuildTargets

/-! ## Cell names -/

namespace CellName

/-- A character that may not stand in the name of a cell. -/
def isForbidden (c : Char) : Bool :=
  c == '/' || c == ':' || c == '#' || Text.isBlank c

/-- What the name of a cell other than the root must be: non-empty, and without the characters
that delimit a label. -/
def IsName (s : String) : Prop :=
  s ≠ "" ∧ ∀ c ∈ s.toList, isForbidden c = false

instance (s : String) : Decidable (IsName s) :=
  decidable_of_iff ((!s.isEmpty && s.toList.all fun c => !isForbidden c) = true) (by
    simp [IsName])

end CellName

/-- A cell: the root cell, which has no name, or a cell with a checked name. -/
structure CellName where
  name? : Option String
  isName : ∀ s ∈ name?, CellName.IsName s
  deriving DecidableEq, Repr, Hashable

/-- Why a text is no name of a cell. -/
inductive CellNameError where
  | empty
  | invalid (text : String)
  deriving DecidableEq, Repr

namespace CellNameError

def message : CellNameError → String
  | .empty => "Cell name must be non-empty, the unnamed cell is the root cell"
  | .invalid x =>
    s!"Invalid cell name `{x}`: cell names must not contain `/`, `:`, `#` or whitespace"

end CellNameError

namespace CellName

def root : CellName := ⟨none, fun _ h => nomatch h⟩

/-- The cell with a checked name. -/
def named (s : String) (h : IsName s) : CellName :=
  ⟨some s, fun _ hx => Option.some.inj hx ▸ h⟩

/-- The text of a cell name; the root's is empty. -/
def text (c : CellName) : String := c.name?.getD ""

def isRoot (c : CellName) : Bool := c.name?.isNone

/-- Checks the name of a cell other than the root. -/
def ofString (s : String) : Except CellNameError CellName :=
  if hempty : s.isEmpty then .error .empty
  else if hforbidden : s.toList.any isForbidden then .error (.invalid s)
  else .ok (named s ⟨by simpa using hempty, by simpa using hforbidden⟩)

/-- The cell written before `//` in a label: the root cell for the empty text. -/
def ofLabel (s : String) : Except CellNameError CellName :=
  if s.isEmpty then .ok root else ofString s

instance : Ord CellName := ⟨fun a b => compare a.text b.text⟩

@[simp] theorem text_root : root.text = "" := rfl

@[simp] theorem text_named (s : String) (h : IsName s) : (named s h).text = s := rfl

/-- **Only the root has the empty text.** A named cell holds a name that passed the check, and
the check refuses the empty text. -/
theorem text_eq_empty_iff {c : CellName} : c.text = "" ↔ c = root := by
  obtain ⟨name?, hname⟩ := c
  cases name? with
  | none => exact iff_of_true rfl rfl
  | some s =>
    refine iff_of_false (hname s rfl).1 ?_
    intro h
    cases h

/-- Cell names are told apart by their text. -/
theorem text_injective : Function.Injective text := by
  rintro ⟨a, ha⟩ ⟨b, hb⟩ h
  cases a with
  | none =>
    cases b with
    | none => rfl
    | some t => exact absurd h.symm (hb t rfl).1
  | some s =>
    cases b with
    | none => exact absurd h (ha s rfl).1
    | some t =>
      have hst : s = t := h
      subst hst
      rfl

/-- A text is accepted as the name of a cell exactly when it is a name, and then it names the cell
with that text. -/
theorem ofString_eq_ok_iff {s : String} {c : CellName} :
    ofString s = .ok c ↔ IsName s ∧ c.text = s := by
  unfold ofString
  by_cases hempty : s.isEmpty = true
  · rw [dif_pos hempty]
    refine iff_of_false (fun h => nomatch h) fun h => h.1.1 ?_
    simpa using hempty
  · rw [dif_neg hempty]
    by_cases hforbidden : s.toList.any isForbidden = true
    · rw [dif_pos hforbidden]
      refine iff_of_false (fun h => nomatch h) fun h => ?_
      obtain ⟨x, hx, hfx⟩ := List.any_eq_true.1 hforbidden
      exact absurd (h.1.2 x hx) (by simp [hfx])
    · rw [dif_neg hforbidden]
      constructor
      · intro h
        cases h
        exact ⟨⟨by simpa using hempty, by simpa using hforbidden⟩, rfl⟩
      · rintro ⟨-, hc⟩
        exact congrArg Except.ok (text_injective hc.symm)

/-- The cell text of a label is read exactly when it is empty or a name, and then as the cell
with that text. -/
theorem ofLabel_eq_ok_iff {s : String} {c : CellName} :
    ofLabel s = .ok c ↔ (s = "" ∨ IsName s) ∧ c.text = s := by
  unfold ofLabel
  by_cases h0 : s = ""
  · subst h0
    simp only [if_pos (String.isEmpty_iff.2 rfl), Except.ok.injEq, true_or, true_and]
    rw [text_eq_empty_iff]
    exact eq_comm
  · rw [if_neg (by simpa [String.isEmpty_iff] using h0), ofString_eq_ok_iff]
    simp [h0]

/-- A cell is read back from its text. -/
theorem ofLabel_text (c : CellName) : ofLabel c.text = .ok c := by
  refine ofLabel_eq_ok_iff.2 ⟨?_, rfl⟩
  obtain ⟨_ | s, h⟩ := c
  · exact .inl rfl
  · exact .inr (h s rfl)

/-- No cell's text holds a `/`, so the first `//` of a label comes after it. -/
theorem slash_not_mem_text (c : CellName) : '/' ∉ c.text.toList := by
  obtain ⟨_ | s, h⟩ := c
  · simp [text]
  · exact fun hs => by simpa [isForbidden] using (h s rfl).2 '/' hs

end CellName

/-! ## Cells and their packages -/

/-- A cell of the build: its name and its root directory. -/
structure Cell where
  name : CellName
  root : AbsPath
  deriving DecidableEq, Repr

/-- Why a directory gives no package of a cell. -/
inductive RelativizeError where
  | notUnderRoot (dir : String) (root : AbsPath) (cell : CellName)
  | package (e : PackagePathError)
  deriving DecidableEq, Repr

namespace RelativizeError

def message : RelativizeError → String
  | .notUnderRoot d r c =>
    s!"Path `{d}` is not under the root `{r.display}` of cell `{c.text}//`"
  | .package e => e.message

end RelativizeError

namespace Cell

/-- The root cell at `/repo`. -/
def testingRoot : Cell := ⟨CellName.root, ⟨FsPath.ofString "/repo", by decide, by decide⟩⟩

/-- The package that a directory stands for in this cell. -/
def relativize (c : Cell) (dir : FsPath) : Except RelativizeError PackagePath :=
  if dir.isAbsolute then
    match dir.stripPrefix? c.root.toPath with
    | none => .error (.notUnderRoot dir.display c.root c.name)
    | some rest => (PackagePath.ofPath rest).mapError .package
  else (PackagePath.ofPath dir).mapError .package

end Cell

end BuildTargets
