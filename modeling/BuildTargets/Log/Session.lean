import BuildTargets.Log.Filter

/-!
# A reloadable log writer

A writer formats every event that its filter lets through as a line of text. Its filter can
be replaced while the writer exists: the new text is read first, and a text that is no
filter is refused whether or not the writer still exists. Once the writer has been dropped,
a replacement that reads fine is refused too. A handle that does nothing accepts every
replacement.

Without a setting for the filter, the filter is `warn`.

Every line is written after a time stamp, and the output is kept as it is read back: the
stamp and the space after it are taken off each line. Text of a message that starts a later
line and looks like a stamp is taken off the same way.
-/

namespace BuildTargets.Log

/-- Why a filter could not be replaced. -/
inductive ReloadError where
  | invalid (text : String)
  | detached
  deriving DecidableEq, Repr

namespace ReloadError

def message : ReloadError → String
  | .invalid text => "Invalid log filter `" ++ text ++ "`"
  | .detached => "Error updating log filter"

end ReloadError

/-- Why the process-wide writer could not be installed. -/
inductive InstallError where
  | alreadyInstalled
  deriving DecidableEq, Repr

namespace InstallError

def message : InstallError → String
  | .alreadyInstalled => "Global tracing subscriber is already installed"

end InstallError

/-- The filter used when no setting gives one. -/
def defaultFilterText : String := "warn"

/-- The filter from its setting, or the default one when the setting is unset. -/
def filterOf (setting : Option String) : Except FilterError Filter :=
  Filter.parse (setting.getD defaultFilterText)

/-- Installs the process-wide writer, which can happen once. -/
def install (installed : Bool) : Except InstallError Unit :=
  if installed then .error .alreadyInstalled else .ok ()

/-- A writer with a filter that can be replaced, and the lines it has written. -/
structure Writer where
  filter : Filter
  attached : Bool := true
  output : List String := []
  deriving Repr

namespace Writer

/-- Replaces the filter with the one that `text` reads as. -/
def update (w : Writer) (text : String) : Except ReloadError Writer :=
  match Filter.parse text with
  | .error _ => .error (.invalid text)
  | .ok f => if w.attached then .ok { w with filter := f } else .error .detached

/-- The line without the carriage return that ends it, if one does. -/
def dropReturn (line : List Char) : List Char :=
  if line.getLast? == some '\r' then line.dropLast else line

/-- The lines of a text that ends in a line feed: the pieces between line feeds, each without
a carriage return that ends it. -/
def linesOf (text : String) : List String :=
  ((text.toList.splitOn '\n').dropLast).map fun line => String.ofList (dropReturn line)

/-- The line looks like a stamped one: it is longer than 20 bytes, and it starts with four
digits, a `-` as its fifth byte and a `T` as its eleventh, as in `2024-01-01T00:00:00Z`. -/
def looksStamped (line : String) : Bool :=
  match line.toUTF8.data.toList with
  | bytes@(d0 :: d1 :: d2 :: d3 :: dash :: _ :: _ :: _ :: _ :: _ :: t :: _) =>
    20 < bytes.length && [d0, d1, d2, d3].all (fun b => 48 ≤ b && b ≤ 57) && dash == 45 &&
      t == 84
  | _ => false

/-- The line as it is read back, without the time stamp that leads it: a line that looks like a
stamped one loses everything up to its first space, and the space too. The reader
cannot tell a stamp from text that looks like one, so a later line of a message that looks
like a stamped one loses that part as well. -/
def unstamped (line : String) : String :=
  if looksStamped line then
    match line.toList.span (· != ' ') with
    | (_, _ :: rest) => String.ofList rest
    | (_, []) => line
  else line

/-- The lines that an event is read back as: its first line, which is written after the stamp,
and its later lines, each read as `unstamped` reads it. -/
def linesRead (e : Event) : List String :=
  match linesOf (e.line ++ "\n") with
  | first :: more => first :: more.map unstamped
  | [] => []

/-- Writes the event as its line and a line feed, when the writer exists and its filter lets
the event through. The output holds the lines as they are read back. -/
def record (w : Writer) (e : Event) : Writer :=
  if w.attached && w.filter.enabled e then { w with output := w.output ++ linesRead e }
  else w

/-- The writer after it has been dropped: it writes nothing more. -/
def detach (w : Writer) : Writer := { w with attached := false }

end Writer

/-- The replacement through a handle that does nothing. -/
def noopUpdate (_text : String) : Except ReloadError Unit := .ok ()

end BuildTargets.Log
