import BuildTargets.Path.Basic
import BuildTargets.Text.Basic

/-!
# Package paths

A package is the directory of a build file, written relative to the root of its cell with
`/` between its segments. The empty path is the cell root itself. Any other package path is
relative, uses no backslash, and has no empty, `.` or `..` segment.

A package path carries the check its text passed, so every package path is one that `ofString`
accepts as it is (`ofString_text`). `ofString` checks a written package path. `ofPath` turns a
relative directory into one: it
walks the components, drops `.`, refuses `..`, a root and a name that is not UTF-8 (each
over the whole directory's text), and then checks the names joined by `/`.
-/

namespace BuildTargets

namespace PackagePath

/-- A segment that a normalized package path may not hold. -/
def isBadSegment (s : String) : Bool :=
  s.isEmpty || s == "." || s == ".."

/-- What the text of a package path must be: empty, for the cell root, or relative, without a
backslash, and cut by `/` into segments none of which is empty, `.` or `..`. -/
def IsText (s : String) : Prop :=
  s = "" ∨ s.startsWith "/" = false ∧ '\\' ∉ s.toList ∧
    ∀ seg ∈ Text.splitOnChar '/' s, isBadSegment seg = false

-- The leading `/` is looked for on the first character, so that `decide` can evaluate the
-- check of a written path.
instance (s : String) : Decidable (IsText s) :=
  decidable_of_iff ((s.isEmpty || s.toList.head? != some '/' && !s.toList.contains '\\' &&
      !(Text.splitOnChar '/' s).any isBadSegment) = true) (by
    simp [IsText, and_assoc, ← Text.startsWith_slash_iff])

end PackagePath

/-- A package path, kept as its text, which passed the check. -/
structure PackagePath where
  text : String
  isText : PackagePath.IsText text
  deriving DecidableEq, Repr, Hashable

attribute [ext] PackagePath

/-- Why a text or a directory gives no package path. -/
inductive PackagePathError where
  | absolute (text : String)
  | notNormalized (text : String)
  | backslash (text : String)
  | notUtf8 (text : String)
  deriving DecidableEq, Repr

namespace PackagePathError

def message : PackagePathError → String
  | .absolute x => s!"Package path `{x}` must be relative"
  | .notNormalized x =>
    s!"Package path `{x}` must be normalized, `.`, `..` and empty segments are not allowed"
  | .backslash x => s!"Package path `{x}` must use `/` as separator"
  | .notUtf8 x => s!"Package path `{x}` is not valid UTF-8"

end PackagePathError

namespace PackagePath

def empty : PackagePath := ⟨"", .inl rfl⟩

def isEmpty (p : PackagePath) : Bool := p.text.isEmpty

/-- The segments of a package path; the empty path has none. -/
def segments (p : PackagePath) : List String :=
  if p.text.isEmpty then [] else Text.splitOnChar '/' p.text

/-- Checks a written package path: a leading `/` first, then backslashes, then the
segments. -/
def ofString (s : String) : Except PackagePathError PackagePath :=
  if s.isEmpty then .ok empty
  else if habs : s.startsWith "/" then .error (.absolute s)
  else if hback : s.toList.contains '\\' then .error (.backslash s)
  else if hbad : (Text.splitOnChar '/' s).any isBadSegment then .error (.notNormalized s)
  else .ok ⟨s, .inr ⟨by simpa using habs, by simpa using hback, by simpa using hbad⟩⟩

theorem text_of_ofString_eq_ok {s : String} {p : PackagePath} (h : ofString s = .ok p) :
    p.text = s := by
  unfold ofString at h
  split at h
  · cases h
    simp_all [empty]
  · split at h
    · cases h
    · split at h
      · cases h
      · split at h
        · cases h
        · cases h
          rfl

/-- A text is accepted as a package path exactly when it is the text of one, and then it gives
the package path with that text. -/
theorem ofString_eq_ok_iff {s : String} {p : PackagePath} :
    ofString s = .ok p ↔ IsText s ∧ p.text = s := by
  refine ⟨fun h => ⟨text_of_ofString_eq_ok h ▸ p.isText, text_of_ofString_eq_ok h⟩, ?_⟩
  rintro ⟨hs, hp⟩
  obtain ⟨t, ht⟩ := p
  simp only at hp
  subst hp
  unfold ofString
  by_cases hempty : t.isEmpty = true
  · rw [if_pos hempty]
    exact congrArg Except.ok (PackagePath.ext (by simpa [empty] using hempty.symm))
  · rw [if_neg hempty]
    rcases hs with h0 | ⟨habs, hback, hbad⟩
    · exact absurd (by simp [h0]) hempty
    · rw [dif_neg (by simp [habs]), dif_neg (by simpa using hback),
        dif_neg (by simpa using hbad)]

theorem ofString_of_isText {s : String} (h : IsText s) : ofString s = .ok ⟨s, h⟩ :=
  ofString_eq_ok_iff.2 ⟨h, rfl⟩

/-- A package path is read back from its text. -/
theorem ofString_text (p : PackagePath) : ofString p.text = .ok p :=
  ofString_of_isText p.isText

/-- The names of a directory's components, stopping at the first component that no package
path can come from. `shown` is the directory's text for the error. -/
def names (shown : String) : List Component → Except PackagePathError (List String)
  | [] => .ok []
  | .normal n :: rest =>
    match Text.toString? n with
    | some s => (names shown rest).map (s :: ·)
    | none => .error (.notUtf8 shown)
  | .current :: rest => names shown rest
  | .parent :: _ => .error (.notNormalized shown)
  | .root :: _ => .error (.absolute shown)

/-- The package path of a relative directory. -/
def ofPath (p : FsPath) : Except PackagePathError PackagePath := do
  let ns ← names p.display p.components
  ofString ("/".intercalate ns)

end PackagePath

end BuildTargets
