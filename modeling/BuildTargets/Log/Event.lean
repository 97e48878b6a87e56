/-!
# Log events

An event has a level, the name of the place that emitted it (its target) and a message.
Levels run from `error`, the most severe, to `trace`, the most verbose. A formatted event
is one line: the level right-aligned in five columns, the target and the message. In the
message, the control characters that steer a terminal are written as escapes, so a message
cannot redraw the screen it is shown on.
-/

namespace BuildTargets.Log

/-- How severe an event is, from the most severe to the most verbose. -/
inductive Level where
  | error
  | warn
  | info
  | debug
  | trace
  deriving DecidableEq, Repr

namespace Level

/-- The rank of a level: 1 for `error` up to 5 for `trace`. -/
def rank : Level → Nat
  | .error => 1
  | .warn => 2
  | .info => 3
  | .debug => 4
  | .trace => 5

/-- The level's name in capitals. -/
def name : Level → String
  | .error => "ERROR"
  | .warn => "WARN"
  | .info => "INFO"
  | .debug => "DEBUG"
  | .trace => "TRACE"

/-- The level's name padded on the left to five columns. -/
def padded (l : Level) : String :=
  String.ofList (List.replicate (5 - l.name.length) ' ') ++ l.name

end Level

/-- One emitted event. -/
structure Event where
  level : Level
  target : String
  message : String
  deriving DecidableEq, Repr

/-- The lower-case hexadecimal digits of a number. -/
def hexDigits (n : Nat) : String := String.ofList (Nat.toDigits 16 n)

/-- A character as the formatter writes it: escape, bell, backspace, form feed and delete as
`\x..` escapes, the C1 controls U+0080 to U+009F as `\u` escapes with their code in braces,
and every other character as itself. -/
def escapeChar (c : Char) : String :=
  let n := c.toNat
  if n == 0x1b || n == 0x07 || n == 0x08 || n == 0x0c || n == 0x7f then
    "\\x" ++ (if n < 0x10 then "0" else "") ++ hexDigits n
  else if 0x80 ≤ n && n ≤ 0x9f then "\\u\x7b" ++ hexDigits n ++ "\x7d"
  else String.singleton c

def escapeMessage (s : String) : String := String.join (s.toList.map escapeChar)

namespace Event

/-- The event as the formatter writes it, without a timestamp. -/
def line (e : Event) : String :=
  e.level.padded ++ " " ++ e.target ++ ": " ++ escapeMessage e.message

end Event

end BuildTargets.Log
