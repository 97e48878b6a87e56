import BuildTargets.Log.Event
import BuildTargets.Text.Alphanumeric
import BuildTargets.Text.Basic
import BuildTargets.Text.Pattern
import BuildTargets.Text.Utf8

/-!
# Event filters

A filter is a comma-separated list of directives, and empty directives are ignored. A directive
is `target[span{fields}]=level`, and each of its parts may be left out:

* the target is the text before the first `[` or `=`, taken as written; an event's target must
  start with it, and an empty one is no target. The directive's first character that is not a
  blank is a Unicode letter or number, `_`, `-`, `:` or `[`. The pieces are found after the
  leading blanks but read at the same byte offsets from the start of the whole text, so blanks
  before a directive with a bracketed part or a level move each piece back by their width;
* the bracketed part names a span, up to a `{` or `]`, and may list fields in braces. The
  fields are separated by commas and end at the first `}`, which a `]` must follow. A field is a
  name with an optional `=value`, and the value is a boolean, a number or a regular
  expression. Without a `=`, blanks may follow the bracketed part;
* the level is `error`, `warn`, `info`, `debug`, `trace` or `off` in any case, or a number from
  `0` (off) to `5` (trace). A directive without a level, or with an empty one, allows every
  level;
* a directive that is a target alone, where the target reads as a level, sets that level for
  every target.

An event is judged by the most specific directive that applies to it. That is the one with the
longest target that starts the event's target, then the one with the most fields, and of two
equal ones the later. Without one, the event is dropped. A directive with a span or with a field
value applies only inside spans, so no event outside a span is judged by it.
-/

namespace BuildTargets.Log

/-- How much a directive lets through: nothing, or every level up to a given one. -/
inductive LevelFilter where
  | off
  | upTo (l : Level)
  deriving DecidableEq, Repr

namespace LevelFilter

def allows : LevelFilter → Level → Bool
  | .off, _ => false
  | .upTo m, l => l.rank ≤ m.rank

/-- The filter of rank `n`, from 0 (off) to 5 (trace). -/
def ofRank : Nat → Option LevelFilter
  | 0 => some .off
  | 1 => some (.upTo .error)
  | 2 => some (.upTo .warn)
  | 3 => some (.upTo .info)
  | 4 => some (.upTo .debug)
  | 5 => some (.upTo .trace)
  | _ => none

/-- The text in lower case, for the ASCII letters. -/
def lowered (s : String) : String := String.ofList (s.toList.map Char.toLower)

/-- Reads a level filter: an unsigned number from 0 to 5 (read as a 64-bit number, so a
longer one is no number at all), or the empty text (which means `error`), or a level word in
any case. -/
def parse? (s : String) : Option LevelFilter :=
  let byNumber := match Text.parseBounded 18446744073709551615 s with
    | .ok n => ofRank n
    | .error _ => none
  byNumber <|> match lowered s with
    | "" => some (.upTo .error)
    | "error" => some (.upTo .error)
    | "warn" => some (.upTo .warn)
    | "info" => some (.upTo .info)
    | "debug" => some (.upTo .debug)
    | "trace" => some (.upTo .trace)
    | "off" => some .off
    | _ => none

def display : LevelFilter → String
  | .off => "off"
  | .upTo l => lowered l.name

end LevelFilter

/-- A field that a directive asks for: its name, and maybe a value that it must match. -/
structure FieldMatch where
  name : String
  value : Option String
  deriving DecidableEq, Repr

namespace FieldMatch

/-- Reads one field, `name` or `name=value`. The text must not be empty, but the name may be
when a value follows. The value ends at a second `=`, if there is one, and must be one that
fields can be matched against. -/
def parse? : List Char → Option FieldMatch
  | [] => none
  | text =>
    match text.span (· != '=') with
    | (name, []) => some ⟨String.ofList name, none⟩
    | (name, _ :: rest) =>
      let value := String.ofList (rest.takeWhile (· != '='))
      if Text.Pattern.valid value then some ⟨String.ofList name, some value⟩ else none

def display (f : FieldMatch) : String :=
  match f.value with
  | some v => f.name ++ "=" ++ v
  | none => f.name

end FieldMatch

/-- One directive of a filter. -/
structure Directive where
  target : Option String
  /-- The span that the directive applies inside. -/
  span : Option String
  fields : List FieldMatch
  level : LevelFilter
  deriving DecidableEq, Repr

/-- A stretch of a directive's text: its bytes from `start` up to, not including, `stop`. -/
structure Stretch where
  start : Nat
  stop : Nat
  deriving DecidableEq, Repr

/-- The bracketed part of a directive: where the span name lies, and where the text between
the braces lies when there are braces. -/
structure Bracket where
  name : Stretch
  fields : Option Stretch
  deriving DecidableEq, Repr

/-- Where the pieces of a directive lie: the target, the bracketed part, and the first byte of
the level, which runs to the end of the text. -/
structure DirectiveShape where
  target : Stretch
  bracket : Option Bracket
  level : Option Nat
  deriving DecidableEq, Repr

namespace Directive

/-- A character that may begin a target: a Unicode letter or number, `_`, `-` or `:`. -/
def isTargetStart (c : Char) : Bool :=
  Text.isAlphanumeric c || c == '_' || c == '-' || c == ':'

/-- The number of bytes that the characters take in UTF-8. -/
def width (cs : List Char) : Nat :=
  cs.foldr (fun c n => c.utf8Size + n) 0

/-- Reads a bracketed part after its `[`, where `start` is the offset of the text after the
`[`: a span name up to a `{` or `]`, and after a `{` the fields up to a `}` that a `]` follows.
Gives the part, the offset after its `]`, and the text after it. -/
def bracket? (start : Nat) (cs : List Char) : Option (Bracket × Nat × List Char) :=
  let name := ⟨start, start + width (cs.takeWhile fun c => c != '{' && c != ']')⟩
  match cs.dropWhile (fun c => c != '{' && c != ']') with
  | ']' :: after => some (⟨name, none⟩, name.stop + 1, after)
  | '{' :: rest =>
    let fields := ⟨name.stop + 1, name.stop + 1 + width (rest.takeWhile (· != '}'))⟩
    match rest.dropWhile (· != '}') with
    | '}' :: ']' :: after => some (⟨name, some fields⟩, fields.stop + 2, after)
    | _ => none
  | _ => none

/-- Cuts a directive's text into its pieces. The target runs to the first `[` or `=`. After a
bracketed part come `=` and the level, or only blanks. -/
def shape? (cs : List Char) : Option DirectiveShape :=
  let target := ⟨0, width (cs.takeWhile fun c => c != '[' && c != '=')⟩
  match cs.dropWhile (fun c => c != '[' && c != '=') with
  | [] => some ⟨target, none, none⟩
  | '=' :: _ => some ⟨target, none, some (target.stop + 1)⟩
  | '[' :: rest =>
    match bracket? (target.stop + 1) rest with
    | some (b, stop, '=' :: _) => some ⟨target, some b, some (stop + 1)⟩
    | some (b, _, after) => if after.all Text.isBlank then some ⟨target, some b, none⟩ else none
    | none => none
  | _ => none

/-- The offset lies between two characters of the bytes, or at their end. -/
def isBoundary (bytes : ByteArray) (i : Nat) : Bool :=
  !(bytes.data[i]?.any Text.isContinuation)

/-- The text of a stretch of the bytes, when it begins and ends between characters. -/
def read (bytes : ByteArray) (s : Stretch) : Option (List Char) :=
  if isBoundary bytes s.start && isBoundary bytes s.stop then
    (String.fromUTF8? (bytes.extract s.start s.stop)).map String.toList
  else none

/-- Reads a field list, separated by commas; it has at least one field. -/
def fieldsOf? (text : List Char) : Option (List FieldMatch) :=
  if text.isEmpty then none else (text.splitOn ',').mapM FieldMatch.parse?

/-- The span and the fields of a bracketed part, read from the bytes. An empty span name before
braces means no span. -/
def bracketOf? (bytes : ByteArray) (b : Bracket) : Option (Option String × List FieldMatch) := do
  let name ← read bytes b.name
  match b.fields with
  | none => pure (some (String.ofList name), [])
  | some stretch =>
    let fields ← fieldsOf? (← read bytes stretch)
    pure (if name.isEmpty then none else some (String.ofList name), fields)

/-- The level after `=`: every level when the text is empty, or the level that the text reads as. -/
def levelOf? (text : List Char) : Option LevelFilter :=
  if text.isEmpty then some (.upTo .trace) else LevelFilter.parse? (String.ofList text)

/-- Reads one directive. Its pieces are found in the text after its leading blanks, whose first
character begins a target or a bracketed part. Each piece is then read at the same byte offsets,
counted from the start of the whole text. So leading blanks move every piece back by their
width, and a piece that would begin or end inside a character makes the directive unreadable. A
directive that is a target alone is a level when its whole text reads as one, and otherwise
that whole text is its target. -/
def parse? (s : String) : Option Directive := do
  let body := s.toList.dropWhile Text.isBlank
  guard (body.head?.any fun c => isTargetStart c || c == '[')
  let shape ← shape? body
  match shape.bracket, shape.level with
  | none, none =>
    match LevelFilter.parse? s with
    | some l => pure ⟨none, none, [], l⟩
    | none => pure ⟨some s, none, [], .upTo .trace⟩
  | bracket, level =>
    let bytes := s.toUTF8
    let target ← read bytes shape.target
    let (span, fields) ← match bracket with
      | some b => bracketOf? bytes b
      | none => pure (none, [])
    let level ← match level with
      | some start => levelOf? (← read bytes ⟨start, bytes.size⟩)
      | none => pure (.upTo .trace)
    pure ⟨if target.isEmpty then none else some (String.ofList target), span, fields, level⟩

/-- The directive applies outside spans: it names no span and no field value. -/
def isStatic (d : Directive) : Bool :=
  d.span.isNone && d.fields.all (·.value.isNone)

/-- How specific a directive is: the length of its target, then its number of fields. A
directive without a target is less specific than any with one. -/
def specificity (d : Directive) : Nat × Nat :=
  ((d.target.map String.length).getD 0 + (if d.target.isSome then 1 else 0), d.fields.length)

/-- Whether the directive `a` is at least as specific as `b`. -/
def atLeastAsSpecific (a b : Directive) : Bool :=
  decide (b.specificity.1 < a.specificity.1 ∨
    (b.specificity.1 = a.specificity.1 ∧ b.specificity.2 ≤ a.specificity.2))

/-- The directive judges events of this target and these fields. -/
def judges (d : Directive) (target : String) (fields : List String) : Bool :=
  d.isStatic && (d.target.all fun t => t.isPrefixOf target) &&
    d.fields.all (fun f => fields.contains f.name)

def display (d : Directive) : String :=
  let bracket :=
    if d.span.isNone && d.fields.isEmpty then ""
    else "[" ++ d.span.getD "" ++
      (if d.fields.isEmpty then ""
       else "\x7b" ++ ",".intercalate (d.fields.map FieldMatch.display) ++ "\x7d") ++ "]"
  let head := d.target.getD "" ++ bracket
  if head.isEmpty then d.level.display else head ++ "=" ++ d.level.display

end Directive

/-- A filter: its directives, in the order they were written. -/
structure Filter where
  directives : List Directive
  deriving DecidableEq, Repr

/-- Why a text is no filter. -/
inductive FilterError where
  | invalid (text : String)
  deriving DecidableEq, Repr

namespace Filter

/-- The fields that every event here carries. -/
def eventFields : List String := ["message"]

def parse (s : String) : Except FilterError Filter :=
  match (Text.splitOnChar ',' s).filter (!·.isEmpty) |>.mapM Directive.parse? with
  | some ds => .ok ⟨ds⟩
  | none => .error (.invalid s)

/-- The directive that judges an event with this target: the most specific one, and the
later of two that are equally specific. -/
def judge? (f : Filter) (target : String) : Option Directive :=
  f.directives.foldl (fun best d =>
    if d.judges target eventFields then
      match best with
      | some b => if d.atLeastAsSpecific b then some d else some b
      | none => some d
    else best) none

/-- The filter lets the event through. -/
def enabled (f : Filter) (e : Event) : Bool :=
  match f.judge? e.target with
  | some d => d.level.allows e.level
  | none => false

/-- The directives, without the ones that a later directive with the same target, span and
fields replaces. -/
def effective (f : Filter) : List Directive :=
  f.directives.foldr (fun d acc =>
    if acc.any (fun e => e.target == d.target && e.span == d.span && e.fields == d.fields) then acc
    else d :: acc) []

/-- The filter written back: the directives that apply outside spans, the most specific first,
and then the others. -/
def display (f : Filter) : String :=
  let (statics, dynamics) := f.effective.partition Directive.isStatic
  ",".intercalate ((statics.mergeSort Directive.atLeastAsSpecific ++
    dynamics.mergeSort Directive.atLeastAsSpecific).map Directive.display)

end Filter

end BuildTargets.Log
