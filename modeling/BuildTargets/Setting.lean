import BuildTargets.Log.Event
import BuildTargets.Text.Utf8

/-!
# Settings read from the environment

A setting is a value taken from one environment variable the first time it is needed. Its
first successful read is kept, and every later read returns it, whatever the variable holds
by then; an unset variable is a successful read of no value. A read that fails, because
the value is not UTF-8 or does not parse, keeps nothing, so the next read looks at the
variable again. A successful read of a set variable logs the raw value once.

The environment is the variable's current value (`none` when unset), and a setting is its
name, its parser and what it has kept. `run` plays a list of steps that change the variable
or read the setting, and gives each step's answer and the events logged.
-/

namespace BuildTargets

/-- Why reading a setting failed. -/
inductive SettingError where
  | notUnicode (var : String)
  | unparsable (var : String) (cause : String)
  deriving DecidableEq, Repr

namespace SettingError

def var : SettingError → String
  | .notUnicode v => v
  | .unparsable v _ => v

/-- The message of the failure. -/
def message (e : SettingError) : String :=
  "Invalid value for `$" ++ e.var ++ "`"

/-- What made the read fail. -/
def cause : SettingError → String
  | .notUnicode v => "Value of `$" ++ v ++ "` is not valid UTF-8"
  | .unparsable _ c => c

/-- The message followed by its cause. -/
def chain (e : SettingError) : String := e.message ++ ": " ++ e.cause

end SettingError

/-- A setting over one variable: its name, how its text is read, and the result of the
first successful read, once there has been one. -/
structure Setting (α : Type) where
  var : String
  parse : String → Except String α
  kept : Option (Option α) := none

/-- What one read gives: the result, the setting afterwards, and the events it logged. -/
structure Setting.Read (α : Type) where
  result : Except SettingError (Option α)
  next : Setting α
  events : List Log.Event

namespace Setting

variable {α : Type}

/-- The target that a setting's log events carry. -/
def logTarget : String := "buck_parser_core::env"

/-- A fresh setting that has read nothing. -/
def fresh (var : String) (parse : String → Except String α) : Setting α := ⟨var, parse, none⟩

/-- Reads the setting while the variable holds `value`. -/
def get (s : Setting α) (value : Option (List Text.Chunk)) : Setting.Read α :=
  match s.kept with
  | some v => ⟨.ok v, s, []⟩
  | none =>
    match value with
    | none => ⟨.ok none, { s with kept := some none }, []⟩
    | some chunks =>
      match Text.toString? chunks with
      | none => ⟨.error (.notUnicode s.var), s, []⟩
      | some raw =>
        match s.parse raw with
        | .error cause => ⟨.error (.unparsable s.var cause), s, []⟩
        | .ok v =>
          ⟨.ok (some v), { s with kept := some (some v) },
            [⟨.info, logTarget, "Using `$" ++ s.var ++ "` = `" ++ raw ++ "`"⟩]⟩

/-- One step on the variable or the setting. -/
inductive Step where
  | set (value : List Text.Chunk)
  | unset
  | var
  | get
  | getOrDefault
  deriving DecidableEq, Repr

/-- The answer to one step. -/
inductive Answer (α : Type) where
  | done
  | var (name : String)
  | value (v : Option α)
  | valueOrDefault (v : α)
  | failed (e : SettingError)
  deriving DecidableEq

/-- What one step gives: its answer, the setting and the variable's value afterwards, and
the events it logged. -/
structure Outcome (α : Type) where
  answer : Answer α
  next : Setting α
  value : Option (List Text.Chunk)
  events : List Log.Event

/-- One step while the variable holds `value`. Changing the variable leaves the setting as it
is; reading goes through `get`. -/
def step [Inhabited α] (s : Setting α) (value : Option (List Text.Chunk)) :
    Step → Outcome α
  | .set v => ⟨.done, s, some v, []⟩
  | .unset => ⟨.done, s, none, []⟩
  | .var => ⟨.var s.var, s, value, []⟩
  | .get =>
    let r := s.get value
    match r.result with
    | .ok v => ⟨.value v, r.next, value, r.events⟩
    | .error e => ⟨.failed e, r.next, value, r.events⟩
  | .getOrDefault =>
    let r := s.get value
    match r.result with
    | .ok v => ⟨.valueOrDefault (v.getD default), r.next, value, r.events⟩
    | .error e => ⟨.failed e, r.next, value, r.events⟩

/-- Plays the steps from the given variable value, and gives the answers and the events. -/
def run [Inhabited α] (s : Setting α) (value : Option (List Text.Chunk)) :
    List Step → List (Answer α) × List Log.Event
  | [] => ([], [])
  | st :: rest =>
    let o := s.step value st
    let (answers, later) := o.next.run o.value rest
    (o.answer :: answers, o.events ++ later)

end Setting

end BuildTargets
