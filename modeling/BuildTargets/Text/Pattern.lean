import BuildTargets.Text.Alphanumeric
import BuildTargets.Text.Basic

/-!
# Field value patterns

A field value in a log directive is a boolean, a number, or a regular expression, and a value
that is none of them is refused. `Pattern.valid` decides that.

Expressions are read the way the matcher of these values reads them. That matcher has no
Unicode tables, and it only matches valid UTF-8. Hence:

* in Unicode mode (the default), the Perl classes `\d`, `\s`, `\w` and their capitals, the
  Unicode classes `\p` and `\P`, word boundaries, and case-insensitive matching of a character
  or a class are refused;
* with Unicode mode off (the flag `u` cleared), whatever could match a byte that is not ASCII is
  refused. That covers `.`, `\xHH` above `7F`, the negated classes `\D`, `\S` and `\W`, negated
  bracketed or ASCII classes, and characters inside a bracketed class that are not ASCII.

The syntax is the usual one: alternation, concatenation, and repetition by `*`, `+`, `?` and by
counts in braces, each maybe lazy. Groups capture, capture with a name, capture nothing or set
flags (`i`, `m`, `s`, `R`, `U`, `u`, `x`). Escapes are accepted, and bracketed classes may hold
ranges, nested classes, ASCII classes and the operations `&&`, `--` and `~~`. With the flag `x`,
blanks are skipped and `#` starts a comment that runs to the end of the line. Capture names are
distinct, and nesting goes at most 250 deep.

Each scan takes an explicit fuel argument: every step consumes at least one character, so the
length of the text plus one is enough.
-/

namespace BuildTargets.Text.Pattern

/-- The deepest nesting that a pattern may have. Groups, repetitions, alternations,
concatenations, bracketed classes, unions in them and set operations each count one level. -/
def nestLimit : Nat := 250

/-- A hexadecimal digit. -/
def isHexDigit (c : Char) : Bool :=
  c.isDigit || ('a' ≤ c && c ≤ 'f') || ('A' ≤ c && c ≤ 'F')

/-- The value of one hexadecimal digit. -/
def hexDigitValue (c : Char) : Nat :=
  if c.isDigit then c.toNat - '0'.toNat
  else if 'a' ≤ c && c ≤ 'f' then c.toNat - 'a'.toNat + 10
  else c.toNat - 'A'.toNat + 10

/-- The value of a run of hexadecimal digits. -/
def hexValue (ds : List Char) : Nat :=
  ds.foldl (fun n d => n * 16 + hexDigitValue d) 0

/-- A number that a character can stand for: at most U+10FFFF and no surrogate. -/
def isScalar (n : Nat) : Bool :=
  n ≤ 0x10FFFF && !(0xD800 ≤ n && n ≤ 0xDFFF)

/-- The flags in force while a pattern is read: case-insensitive matching (`i`), Unicode mode
(`u`) and verbose syntax (`x`). The other flags do not change which patterns are refused. -/
structure Flags where
  caseless : Bool
  unicode : Bool
  verbose : Bool
  deriving DecidableEq, Repr

namespace Flags

/-- The flags at the start of a pattern: Unicode mode alone. -/
def initial : Flags := ⟨false, true, false⟩

/-- The flags after setting (`on`) or clearing the flag of one letter. -/
def update (f : Flags) (on : Bool) : Char → Flags
  | 'i' => { f with caseless := on }
  | 'u' => { f with unicode := on }
  | 'x' => { f with verbose := on }
  | _ => f

/-- The flags after a run of letters: the ones in `set` are set, the ones in `cleared` cleared. -/
def apply (f : Flags) (set cleared : List Char) : Flags :=
  cleared.foldl (fun g c => g.update false c) (set.foldl (fun g c => g.update true c) f)

end Flags

/-- A flag letter. -/
def isFlag (c : Char) : Bool :=
  ['i', 'm', 's', 'R', 'U', 'u', 'x'].contains c

/-- Reads a run of flags after `(?`, up to the `:` or `)` that ends it. Gives the letters it
sets, the letters it clears (after a `-`), and the text from the `:` or `)` on. No letter may
come twice and no `-` twice, and a `-` needs a letter after it. -/
def flagRun? (cs : List Char) : Option (List Char × List Char × List Char) :=
  match cs.span (fun c => c != ':' && c != ')') with
  | (_, []) => none
  | (run, rest) =>
    match run.span (· != '-') with
    | (set, []) => if set.all isFlag && decide set.Nodup then some (set, [], rest) else none
    | (set, _ :: cleared) =>
      if !cleared.isEmpty && (set ++ cleared).all isFlag && decide (set ++ cleared).Nodup then
        some (set, cleared, rest)
      else none

/-- The text after the blanks and comments at its start, in verbose syntax, where `#` starts a
comment that runs to the end of the line; `inComment` tells that the scan is inside one. -/
def skipSpace : Bool → List Char → List Char
  | true, '\n' :: rest => skipSpace false rest
  | true, _ :: rest => skipSpace true rest
  | true, [] => []
  | false, c :: rest =>
    if Text.isBlank c then skipSpace false rest
    else if c == '#' then skipSpace true rest
    else c :: rest
  | false, [] => []

/-- The text after the blanks and comments at its start, when the syntax is verbose. -/
def space (f : Flags) (cs : List Char) : List Char :=
  if f.verbose then skipSpace false cs else cs

/-- Reads exactly `n` hexadecimal digits, with blanks and comments allowed between them in
verbose syntax. Gives the digits and the text after the last one. -/
def hexDigits (f : Flags) : Nat → List Char → Option (List Char × List Char)
  | 0, cs => some ([], cs)
  | n + 1, c :: rest =>
    if isHexDigit c then
      let next := if n == 0 then rest else space f rest
      (hexDigits f n next).map fun r => (c :: r.1, r.2)
    else none
  | _ + 1, [] => none

/-- Reads hexadecimal digits up to a closing brace, with blanks and comments allowed after each
digit in verbose syntax. Gives the digits and the text after the brace. -/
def braceDigits (f : Flags) : Nat → List Char → Option (List Char × List Char)
  | 0, _ => none
  | _ + 1, '}' :: after => some ([], after)
  | fuel + 1, c :: rest =>
    if isHexDigit c then (braceDigits f fuel (space f rest)).map fun r => (c :: r.1, r.2)
    else none
  | _ + 1, [] => none

/-- Reads a code point after `\x`, `\u` or `\U`: hexadecimal digits in braces, or exactly
`width` of them. Gives the code point, whether it was in braces, and the text after it. In
verbose syntax, blanks and comments may come before the digits and between them. -/
def codePoint? (f : Flags) (width : Nat) (cs : List Char) : Option (Nat × Bool × List Char) :=
  match space f cs with
  | '{' :: rest =>
    match braceDigits f (rest.length + 1) (space f rest) with
    | some (ds, after) =>
      if !ds.isEmpty && isScalar (hexValue ds) then some (hexValue ds, true, after) else none
    | none => none
  | start =>
    match hexDigits f width start with
    | some (ds, after) => if isScalar (hexValue ds) then some (hexValue ds, false, after) else none
    | none => none

/-- What an escape stands for. -/
inductive Escape where
  /-- One character. `byte` tells that it was written as `\xHH`, which names a byte when
  Unicode mode is off. -/
  | literal (code : Nat) (byte : Bool)
  /-- A Perl class `\d`, `\s` or `\w`, or its negation. -/
  | perl (negated : Bool)
  /-- A Unicode class `\p…` or `\P…`. -/
  | property
  /-- A word boundary: `\b`, `\B`, `\<`, `\>`, or a named one such as `\b{start}`. -/
  | boundary
  /-- The start or the end of the text: `\A` or `\z`. -/
  | anchor
  deriving DecidableEq, Repr

/-- The character that a one-letter control escape stands for. -/
def controlEscape : Char → Option Nat
  | 'a' => some 7
  | 'f' => some 12
  | 't' => some 9
  | 'n' => some 10
  | 'r' => some 13
  | 'v' => some 11
  | _ => none

/-- A character that an escape turns into itself: ASCII that is no letter, no digit, and
neither `<` nor `>`. -/
def isEscapable (c : Char) : Bool :=
  c.toNat < 128 && !c.isAlphanum && c != '<' && c != '>'

/-- The names of the word boundaries written `\b{name}`. -/
def boundaryNames : List String :=
  ["start", "end", "start-half", "end-half"]

/-- Reads an escape after its backslash. Gives what it stands for and the text after it. -/
def escape? (f : Flags) : List Char → Option (Escape × List Char)
  | [] => none
  | c :: rest =>
    if c.isDigit then none
    else if c == 'x' then (codePoint? f 2 rest).map fun r => (.literal r.1 !r.2.1, r.2.2)
    else if c == 'u' then (codePoint? f 4 rest).map fun r => (.literal r.1 false, r.2.2)
    else if c == 'U' then (codePoint? f 8 rest).map fun r => (.literal r.1 false, r.2.2)
    else if c == 'p' || c == 'P' then
      match rest with
      | '{' :: inner =>
        match inner.span (· != '}') with
        | (_, '}' :: after) => some (.property, after)
        | _ => none
      | _ :: after => some (.property, after)
      | [] => none
    else if c == 'd' || c == 's' || c == 'w' then some (.perl false, rest)
    else if c == 'D' || c == 'S' || c == 'W' then some (.perl true, rest)
    else if isEscapable c then some (.literal c.toNat false, rest)
    else match controlEscape c with
      | some code => some (.literal code false, rest)
      | none =>
        if c == 'A' || c == 'z' then some (.anchor, rest)
        else if c == 'B' || c == '<' || c == '>' then some (.boundary, rest)
        else if c == 'b' then
          match rest with
          | '{' :: inner =>
            match inner.span (fun d => d.isAlpha || d == '-') with
            | ([], _) => some (.boundary, rest)
            | (name, '}' :: after) =>
              if boundaryNames.contains (String.ofList name) then some (.boundary, after)
              else none
            | _ => none
          | _ => some (.boundary, rest)
        else none

/-- A character of the pattern is accepted under the flags. Case-insensitive matching needs
the Unicode case tables when Unicode mode is on, and with it off a byte above `7F` written as
`\xHH` is no UTF-8. -/
def literalOk (f : Flags) (code : Nat) (byte : Bool) : Bool :=
  !(f.caseless && f.unicode) && !(!f.unicode && byte && 128 ≤ code)

/-- An escape outside a bracketed class is accepted under the flags. -/
def escapeOk (f : Flags) : Escape → Bool
  | .literal code byte => literalOk f code byte
  | .perl negated => !f.unicode && !negated
  | .property => false
  | .boundary => !f.unicode
  | .anchor => true

/-- An escape inside a bracketed class is accepted under the flags. Anchors and word
boundaries are no members of a class, and without Unicode mode every member is ASCII. -/
def memberOk (f : Flags) : Escape → Bool
  | .literal code _ => f.unicode || code < 128
  | .perl negated => !f.unicode && !negated
  | .property => false
  | .boundary => false
  | .anchor => false

/-- The names of the ASCII classes `[:name:]`. -/
def asciiClassNames : List String :=
  ["alnum", "alpha", "ascii", "blank", "cntrl", "digit", "graph", "lower", "print", "punct",
    "space", "upper", "word", "xdigit"]

/-- Reads an ASCII class `[:name:]` or `[:^name:]` after its `[`. Gives whether it is negated
and the text after it. -/
def asciiClass? : List Char → Option (Bool × List Char)
  | ':' :: rest =>
    let (negated, body) := match rest with
      | '^' :: more => (true, more)
      | more => (false, more)
    match body.span (· != ':') with
    | (name, ':' :: ']' :: after) =>
      if asciiClassNames.contains (String.ofList name) then some (negated, after) else none
    | _ => none
  | _ => none

/-- Reads one member of a bracketed class: a character, or an escape. -/
def member? (f : Flags) : List Char → Option (Escape × List Char)
  | '\\' :: rest => escape? f rest
  | c :: rest => some (.literal c.toNat false, rest)
  | [] => none

/-- The depth of a sequence of nodes, as the nest limit counts it: no node is an empty node,
one node is itself, and two or more make one more node around them. -/
def seqDepth : List Nat → Nat
  | [] => 0
  | [d] => d
  | ds => ds.foldl max 0 + 1

mutual

/-- Reads a bracketed class after its `[`, up to and including its `]`. After an optional `^`,
leading `-` are literal, and so is a leading `]` when no `-` leads. Gives the depth of the class
and the text after it. A negated class without Unicode mode, and any class under
case-insensitive Unicode matching, are refused. -/
def bracket : Nat → Flags → List Char → Option (Nat × List Char)
  | 0, _, _ => none
  | fuel + 1, f, cs =>
    let (negated, body) := match space f cs with
      | '^' :: rest => (true, space f rest)
      | rest => (false, rest)
    if (negated && !f.unicode) || (f.caseless && f.unicode) then none
    else
      match body.span (· == '-') with
      | ([], ']' :: rest) => classBody fuel f none [0] rest
      | (dashes, rest) => classBody fuel f none (dashes.map fun _ => 0) rest

/-- Reads the members of a bracketed class up to its `]`. `chain` is the depth of the operands
before the last set operation, if there was one, and `members` holds the depths of the members
read since, the last first. Gives the depth of the class and the text after its `]`. -/
def classBody : Nat → Flags → Option Nat → List Nat → List Char → Option (Nat × List Char)
  | 0, _, _, _, _ => none
  | fuel + 1, f, chain, members, cs =>
    let operands := match chain with
      | none => seqDepth members
      | some d => max d (seqDepth members) + 1
    match space f cs with
    | [] => none
    | ']' :: rest => some (operands + 1, rest)
    | '&' :: '&' :: rest => classBody fuel f (some operands) [] rest
    | '-' :: '-' :: rest => classBody fuel f (some operands) [] rest
    | '~' :: '~' :: rest => classBody fuel f (some operands) [] rest
    | '[' :: rest =>
      match asciiClass? rest with
      | some (negated, after) =>
        if negated && !f.unicode then none else classBody fuel f chain (0 :: members) after
      | none =>
        match bracket fuel f rest with
        | some (d, after) => classBody fuel f chain (d :: members) after
        | none => none
    | start =>
      match member? f start with
      | none => none
      | some (first, after) =>
        match space f after with
        | '-' :: more =>
          match space f more with
          | [] => none
          | ']' :: _ =>
            if memberOk f first then classBody fuel f chain (0 :: members) after else none
          | '-' :: _ =>
            if memberOk f first then classBody fuel f chain (0 :: members) after else none
          | last =>
            match first, member? f last with
            | .literal lo lb, some (.literal hi hb, after') =>
              if lo ≤ hi && memberOk f (.literal lo lb) && memberOk f (.literal hi hb) then
                classBody fuel f chain (0 :: members) after'
              else none
            | _, _ => none
        | _ => if memberOk f first then classBody fuel f chain (0 :: members) after else none

end

/-- A character that may stand in a capture name. The first one is `_` or alphabetic; the
others may also be numbers, `.`, `[` or `]`. -/
def isNameChar (first : Bool) (c : Char) : Bool :=
  if first then c == '_' || Text.isAlphabetic c
  else c == '_' || c == '.' || c == '[' || c == ']' || Text.isAlphanumeric c

/-- Reads a capture name up to its `>`; the name must be new. Gives the names with it and the
text after the `>`. -/
def captureName? (names : List String) (cs : List Char) : Option (List String × List Char) :=
  match cs.span (· != '>') with
  | (c :: more, '>' :: after) =>
    let name := String.ofList (c :: more)
    if isNameChar true c && more.all (isNameChar false) && !names.contains name then
      some (name :: names, after)
    else none
  | _ => none

/-- What follows a `(`. -/
inductive Opening where
  /-- A group, with the flags in force inside it and the capture names with its own. -/
  | group (inner : Flags) (names : List String)
  /-- A change of the flags for the rest of the enclosing group. -/
  | setFlags (flags : Flags)

/-- Reads what follows a `(`. A look-around is refused. A name opens a named capture, flags
and `:` open a group under those flags, flags and `)` change the flags (and at least one flag is
needed for that), and anything else opens a capture. -/
def opening? (f : Flags) (names : List String) : List Char → Option (Opening × List Char)
  | '?' :: '=' :: _ => none
  | '?' :: '!' :: _ => none
  | '?' :: '<' :: '=' :: _ => none
  | '?' :: '<' :: '!' :: _ => none
  | '?' :: 'P' :: '<' :: rest => (captureName? names rest).map fun r => (.group f r.1, r.2)
  | '?' :: '<' :: rest => (captureName? names rest).map fun r => (.group f r.1, r.2)
  | '?' :: rest =>
    match flagRun? rest with
    | some (set, cleared, ':' :: inner) => some (.group (f.apply set cleared) names, inner)
    | some (set, cleared, ')' :: after) =>
      if set.isEmpty && cleared.isEmpty then none
      else some (.setFlags (f.apply set cleared), after)
    | _ => none
  | cs => some (.group f names, cs)

/-- Reads a decimal number that fits in 32 bits. Gives it and the text after it. -/
def decimal? (cs : List Char) : Option (Nat × List Char) :=
  match cs.span Char.isDigit with
  | ([], _) => none
  | (ds, after) =>
    let n := ds.foldl (fun n d => n * 10 + (d.toNat - '0'.toNat)) 0
    if n ≤ 4294967295 then some (n, after) else none

/-- Reads a counted repetition after its `{`, and gives the text after its `}`. -/
def counted? (cs : List Char) : Option (List Char) := do
  let (lo, rest) ← decimal? cs
  match rest with
  | '}' :: after => pure after
  | ',' :: '}' :: after => pure after
  | ',' :: more =>
    let (hi, rest') ← decimal? more
    match rest' with
    | '}' :: after => if lo ≤ hi then pure after else none
    | _ => none
  | _ => none

/-- The text without the `?` that makes a repetition lazy. -/
def dropLazy : List Char → List Char
  | '?' :: rest => rest
  | cs => cs

/-- What reading a pattern, or the inside of a group, gives: the text after it, the flags in
force at its end, the capture names so far, and its depth. -/
structure Scan where
  rest : List Char
  flags : Flags
  names : List String
  depth : Nat

/-- Reads a pattern, or the inside of a group when `inGroup`, up to its end or its `)`.
`branches` holds the depths of the branches before the last `|`, and `items` the depths of the
items of the current branch, the last first; `lastFlags` tells that the last item changed the
flags, which leaves nothing to repeat. -/
def sequence : Nat → Bool → Flags → List String → List Nat → List Nat → Bool → List Char →
    Option Scan
  | 0, _, _, _, _, _, _, _ => none
  | fuel + 1, inGroup, f, names, branches, items, lastFlags, cs =>
    let depth := seqDepth (seqDepth items :: branches)
    match space f cs with
    | [] => if inGroup then none else some ⟨[], f, names, depth⟩
    | ')' :: rest => if inGroup then some ⟨')' :: rest, f, names, depth⟩ else none
    | '|' :: rest => sequence fuel inGroup f names (seqDepth items :: branches) [] false rest
    | '(' :: rest =>
      match opening? f names (space f rest) with
      | none => none
      | some (.setFlags g, after) => sequence fuel inGroup g names branches (0 :: items) true after
      | some (.group inner names', after) =>
        match sequence fuel true inner names' [] [] false after with
        | some ⟨')' :: more, _, names'', d⟩ =>
          sequence fuel inGroup f names'' branches ((d + 1) :: items) false more
        | _ => none
    | c :: rest =>
      if c == '*' || c == '+' || c == '?' then
        match items, lastFlags with
        | d :: earlier, false =>
          sequence fuel inGroup f names branches ((d + 1) :: earlier) false (dropLazy rest)
        | _, _ => none
      else if c == '{' then
        match items, lastFlags, counted? rest with
        | d :: earlier, false, some after =>
          sequence fuel inGroup f names branches ((d + 1) :: earlier) false (dropLazy after)
        | _, _, _ => none
      else if c == '[' then
        match bracket (rest.length + 1) f rest with
        | some (d, after) => sequence fuel inGroup f names branches (d :: items) false after
        | none => none
      else if c == '\\' then
        match escape? f rest with
        | some (e, after) =>
          if escapeOk f e then sequence fuel inGroup f names branches (0 :: items) false after
          else none
        | none => none
      else if c == '.' then
        if f.unicode then sequence fuel inGroup f names branches (0 :: items) false rest else none
      else if c == '^' || c == '$' || literalOk f c.toNat false then
        sequence fuel inGroup f names branches (0 :: items) false rest
      else none

/-- The text is a regular expression that the matcher accepts. -/
def wellFormed (s : String) : Bool :=
  match sequence (s.length + 1) false Flags.initial [] [] [] false s.toList with
  | some scan => decide (scan.depth ≤ nestLimit)
  | none => false

/-- Digits, at least one. -/
def isDigits (cs : List Char) : Bool :=
  !cs.isEmpty && cs.all Char.isDigit

/-- The text is a decimal number: an optional sign, then digits with an optional fraction, or
a fraction alone, then an optional exponent; or `inf`, `infinity` or `nan` in any case after
the sign. -/
def isNumber (s : String) : Bool :=
  let body := match s.toList with
    | '+' :: rest => rest
    | '-' :: rest => rest
    | cs => cs
  let word := String.ofList (body.map Char.toLower)
  if word == "inf" || word == "infinity" || word == "nan" then true
  else
    let (mantissa, exponent) := body.span (fun c => c != 'e' && c != 'E')
    let (whole, fraction) := mantissa.span (· != '.')
    let mantissaOk := match fraction with
      | [] => isDigits whole
      | _ :: digits =>
        whole.all Char.isDigit && digits.all Char.isDigit && (isDigits whole || isDigits digits)
    let exponentOk := match exponent with
      | [] => true
      | _ :: '+' :: ds => isDigits ds
      | _ :: '-' :: ds => isDigits ds
      | _ :: ds => isDigits ds
    mantissaOk && exponentOk

/-- The text is a value that a field can be matched against: a boolean, a number, or a
regular expression that the matcher accepts. -/
def valid (s : String) : Bool :=
  s == "true" || s == "false" || isNumber s || wellFormed s

example : valid "" && valid ".*" && valid "+1" && valid "[]a]" && valid "(?-u)\\d" &&
    valid "(?x)a #(" && !valid "(" && !valid "[" && !valid "a\x7b" && !valid "\\" &&
    !valid "*" && !valid "\\b" && !valid "\\w" && !valid "(?i)a" && !valid "(?-u)." &&
    !valid "+x.5" := by
  decide +kernel

end BuildTargets.Text.Pattern
