import BuildTargets.Text.Utf8

/-!
# File-system paths under Unix rules

A path is a string of chunks (characters, or runs of bytes that are not UTF-8) and is shown
as its own text, never normalized. Its structure comes from the slashes in it:

* a path is absolute when it starts with `/`;
* the text splits at every `/` into pieces;
* a leading `/` is the root, and a relative path whose first piece is `.` starts at the
  current directory;
* after that lead, an empty piece and a `.` piece stand for nothing, `..` is the parent
  directory, and any other piece is a name.

`layout` gives the lead and the remaining pieces, and `ofLayout` writes a lead and pieces
back as text. The operations that cut and trim paths are said on that layout:

* the parent drops the last component. Trailing slashes and trailing `.` pieces are passed
  over first, and those that come before the dropped component go too, so `a/b/BUILD` gives
  `a/b`, `a/b/.` gives `a` and `a//BUILD` gives `a`. The text that remains is the path's own
  text, not a normalized one. A path with nothing to drop (the empty path, or only the root)
  has no parent; the path `.` has the empty path as its parent;
* `stripPrefix? p base` succeeds when the components of `base` are the first components of
  `p`, so `/repo//a` is under `/repo` and `/repository` is not. What is left is the text after
  the last matched component, without the empty and `.` pieces at either end of it: under
  `/repo`, `/repo/./a/` leaves `a`.

The root directory of a cell is an absolute path with no `.` or `..` component. Under the
component rules an inner `/./` is no component at all, so `/a/./b` and `/a/.` are accepted
as they are written, while `/a/..` is refused.
-/

namespace BuildTargets

/-- A path, as the chunks of its text. -/
structure FsPath where
  chunks : List Text.Chunk
  deriving DecidableEq, Repr, Inhabited

/-- A step of a path. -/
inductive Component where
  | root
  | current
  | parent
  | normal (name : List Text.Chunk)
  deriving DecidableEq, Repr

/-- What a path starts with before its first proper piece. -/
inductive Lead where
  | root
  | current
  | plain
  deriving DecidableEq, Repr

/-- The component that a lead stands for. -/
def Lead.component? : Lead → Option Component
  | .root => some .root
  | .current => some .current
  | .plain => none

namespace FsPath

/-- The separator. -/
def slash : Text.Chunk := .char '/'

/-- The piece `.`. -/
def dot : List Text.Chunk := [.char '.']

def ofString (s : String) : FsPath := ⟨Text.ofString s⟩

def ofBytes (bs : List UInt8) : FsPath := ⟨Text.decode bs⟩

/-- The text of the path, with U+FFFD for each run of bytes that is not UTF-8. -/
def display (p : FsPath) : String := Text.lossy p.chunks

@[simp] theorem display_ofString (s : String) : (ofString s).display = s := by
  simp [display, ofString, Text.lossy, Text.ofString, Function.comp_def]

def isAbsolute (p : FsPath) : Bool := p.chunks.head? == some slash

/-- The pieces between the slashes; there is always at least one. -/
def pieces (p : FsPath) : List (List Text.Chunk) := p.chunks.splitOn slash

/-- The lead of the path and the pieces after it. -/
def layout (p : FsPath) : Lead × List (List Text.Chunk) :=
  match p.pieces with
  | [] => (.plain, [])
  | first :: rest =>
    if p.isAbsolute then (.root, rest)
    else if first = dot then (.current, rest)
    else (.plain, first :: rest)

/-- Writes a lead and pieces back as a path. -/
def ofLayout : Lead → List (List Text.Chunk) → FsPath
  | .root, body => ⟨slash :: List.intercalate [slash] body⟩
  | .current, [] => ⟨dot⟩
  | .current, body => ⟨dot ++ slash :: List.intercalate [slash] body⟩
  | .plain, body => ⟨List.intercalate [slash] body⟩

/-- An empty piece or `.`: a piece that stands for no component. -/
def isSkippable (piece : List Text.Chunk) : Bool :=
  piece.isEmpty || piece == dot

/-- The component that a piece after the lead stands for, if any. -/
def classify (piece : List Text.Chunk) : Option Component :=
  if isSkippable piece then none
  else if piece == [.char '.', .char '.'] then some .parent
  else some (.normal piece)

/-- The components of the path, in order. -/
def components (p : FsPath) : List Component :=
  p.layout.1.component?.toList ++ p.layout.2.filterMap classify

/-- Appends a path: an absolute one replaces the base, and otherwise one `/` goes between
them unless the base is empty or already ends in `/`. -/
def join (base rel : FsPath) : FsPath :=
  if rel.isAbsolute then rel
  else if base.chunks.isEmpty || base.chunks.getLast? == some slash then
    ⟨base.chunks ++ rel.chunks⟩
  else ⟨base.chunks ++ slash :: rel.chunks⟩

end FsPath

example : (FsPath.ofString "/a//b/./..").components =
    [.root, .normal [.char 'a'], .normal [.char 'b'], .parent] := by cbv

example : (FsPath.ofString "./a/.").components = [.current, .normal [.char 'a']] := by
  cbv

/-! ## Parents -/

namespace FsPath

/-- The pieces without the skippable ones at the end. -/
def trimEnd (body : List (List Text.Chunk)) : List (List Text.Chunk) :=
  (body.reverse.dropWhile isSkippable).reverse

/-- The pieces without the skippable ones at the start. -/
def trimStart (body : List (List Text.Chunk)) : List (List Text.Chunk) :=
  body.dropWhile isSkippable

/-- The path without its last component, if it has one to drop. -/
def parent? (p : FsPath) : Option FsPath :=
  let (lead, body) := p.layout
  let kept := trimEnd body
  if kept.isEmpty then
    match lead with
    | .current => some ⟨[]⟩
    | _ => none
  else some (ofLayout lead (trimEnd kept.dropLast))

end FsPath

example : ((FsPath.ofString "a/b/.").parent?).map FsPath.display = some "a" := by cbv

example : ((FsPath.ofString "./BUILD").parent?).map FsPath.display = some "." := by cbv

example : ((FsPath.ofString "/").parent?).map FsPath.display = none := by cbv

/-! ## Taking a base off a path -/

namespace FsPath

/-- Each component of a list of pieces, with the pieces that follow it. -/
def locate : List (List Text.Chunk) → List (Component × List (List Text.Chunk))
  | [] => []
  | piece :: rest =>
    match classify piece with
    | some c => (c, rest) :: locate rest
    | none => locate rest

/-- The components of a path, each with the pieces that follow it. -/
def located (p : FsPath) : List (Component × List (List Text.Chunk)) :=
  match p.layout.1.component? with
  | some c => (c, p.layout.2) :: locate p.layout.2
  | none => locate p.layout.2

/-- The rest of `p` after the components of `base`, when they are its first components. -/
def stripPrefix? (p base : FsPath) : Option FsPath :=
  let matched := base.components
  if matched.isPrefixOf p.components then
    match (p.located.take matched.length).getLast? with
    | some (_, rest) => some (ofLayout .plain (trimEnd (trimStart rest)))
    | none => some (ofLayout p.layout.1 (trimEnd p.layout.2))
  else none

end FsPath

example : ((FsPath.ofString "/repo//a//b/.").stripPrefix? (FsPath.ofString "/repo")).map
    FsPath.display = some "a//b" := by cbv

example : ((FsPath.ofString "/repository").stripPrefix? (FsPath.ofString "/repo")).map
    FsPath.display = none := by cbv

/-! ## Absolute roots -/

namespace AbsPath

/-- A component that a normalized path may not hold. -/
def isUnnormal : Component → Bool
  | .current | .parent => true
  | _ => false

end AbsPath

/-- An absolute path without `.` or `..` components, kept as written. -/
structure AbsPath where
  toPath : FsPath
  absolute : toPath.isAbsolute = true
  normalized : toPath.components.any AbsPath.isUnnormal = false
  deriving DecidableEq, Repr

attribute [ext] AbsPath

/-- Why a path is no absolute root. The path is shown as its text. -/
inductive AbsPathError where
  | notAbsolute (text : String)
  | notNormalized (text : String)
  deriving DecidableEq, Repr

namespace AbsPathError

def message : AbsPathError → String
  | .notAbsolute x => s!"expected an absolute path but got a relative path instead: `{x}`"
  | .notNormalized x =>
    s!"expected a normalized path but got an un-normalized path instead: `{x}`"

end AbsPathError

namespace AbsPath

/-- Checks a path: first that it is absolute, then that none of its components is `.` or
`..`. -/
def ofPath (p : FsPath) : Except AbsPathError AbsPath :=
  if habs : p.isAbsolute then
    if hunnormal : p.components.any isUnnormal then .error (.notNormalized p.display)
    else .ok ⟨p, habs, by simpa using hunnormal⟩
  else .error (.notAbsolute p.display)

/-- Checks the path that a text names. -/
def ofString (s : String) : Except AbsPathError AbsPath := ofPath (FsPath.ofString s)

/-- The text of the root, with U+FFFD for each run of bytes that is not UTF-8. -/
def display (a : AbsPath) : String := a.toPath.display

def join (a : AbsPath) (rel : FsPath) : FsPath := a.toPath.join rel

end AbsPath

end BuildTargets
