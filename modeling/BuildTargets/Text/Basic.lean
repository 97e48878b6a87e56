/-!
# Text

What the library reads in text, below the level of labels and paths.

* **Blank characters** are those with the Unicode `White_Space` property: the ASCII controls
  from tab to carriage return, the space, and eighteen characters beyond ASCII. Every rule of
  this library that forbids whitespace in a name means exactly this set. Core's
  `Char.isWhitespace` knows only part of it (`isWhitespace_isBlank`), so the table is written
  out here.
* **Cutting at the first separator.** `splitFirst sep s` cuts `s` at the first place where
  `sep` starts, and drops the separator. Labels are read this way: the cell ends at the first
  `//`, the package at the first `:` after it, and the name at the first `#` after that.
  `splitOnChar c s` cuts `s` at every occurrence of `c`, as package paths are cut into
  segments at `/` and flavor lists into flavors at `,`. A cut puts the text back together
  (`splitFirst_some`).
* **Unsigned decimal numbers.** `parseU32` reads a 32-bit unsigned number written in decimal:
  an optional `+`, then ASCII digits only. The digits are read from the left, and the first
  digit that is not one, or the first digit after which the value passes `2^32 - 1`, ends the
  reading with that error.
-/

namespace BuildTargets.Text

/-! ## Blank characters -/

/-- A character has the Unicode `White_Space` property. The table has 25 code points:
U+0009 to U+000D, U+0020, U+0085, U+00A0, U+1680, U+2000 to U+200A, U+2028, U+2029,
U+202F, U+205F and U+3000. -/
def isBlank (c : Char) : Bool :=
  let n := c.toNat
  (0x09 ≤ n && n ≤ 0x0D) || n == 0x20 || n == 0x85 || n == 0xA0 || n == 0x1680 ||
    (0x2000 ≤ n && n ≤ 0x200A) || n == 0x2028 || n == 0x2029 || n == 0x202F ||
    n == 0x205F || n == 0x3000

/-- Some character of the text is blank. -/
def hasBlank (s : String) : Bool :=
  s.toList.any isBlank

theorem isWhitespace_isBlank (c : Char) (h : c.isWhitespace = true) : isBlank c = true := by
  simp only [Char.isWhitespace, Bool.or_eq_true, decide_eq_true_eq] at h
  have hv : ∀ {c d : Char}, c = d → c.toNat = d.toNat := fun h => h ▸ rfl
  rcases h with ((h | h) | h) | h <;>
    · have := hv h
      simp [isBlank, this]

example : isBlank ' ' = true ∧ isBlank '\u3000' = true ∧ isBlank '\u200B' = false ∧
    isBlank '\uFEFF' = false ∧ isBlank '\u180E' = false ∧ isBlank 'a' = false := by decide

/-! ## Cutting text -/

/-- The characters before the first occurrence of `sep` and the characters after it. -/
def splitFirstList (sep : List Char) : List Char → Option (List Char × List Char)
  | [] => if sep = [] then some ([], []) else none
  | c :: rest =>
    if sep.isPrefixOf (c :: rest) then some ([], (c :: rest).drop sep.length)
    else (splitFirstList sep rest).map fun (before, after) => (c :: before, after)

/-- The text before the first occurrence of `sep` and the text after it. -/
def splitFirst (sep : String) (s : String) : Option (String × String) :=
  (splitFirstList sep.toList s.toList).map fun (before, after) =>
    (String.ofList before, String.ofList after)

/-- The pieces of `s` between the occurrences of `c`; there is always at least one. -/
def splitOnChar (c : Char) (s : String) : List String :=
  (s.toList.splitOn c).map String.ofList

/-- A text starts with `/` exactly when its first character is one. -/
theorem startsWith_slash_iff (s : String) :
    s.startsWith "/" = true ↔ s.toList.head? = some '/' := by
  rw [String.startsWith_string_iff]
  cases s.toList <;> simp [eq_comm]

theorem splitOnChar_intercalate {c : Char} {ns : List String} (hne : ns ≠ [])
    (h : ∀ s ∈ ns, c ∉ s.toList) :
    splitOnChar c ((String.singleton c).intercalate ns) = ns := by
  rw [splitOnChar, String.toList_intercalate, String.toList_singleton,
    List.splitOn_intercalate _ (by simpa using h) (by simpa using hne)]
  simp

theorem intercalate_splitOnChar (c : Char) (s : String) :
    (String.singleton c).intercalate (splitOnChar c s) = s := by
  rw [← String.toList_inj, String.toList_intercalate, String.toList_singleton, splitOnChar]
  simp

theorem splitFirstList_some {sep cs before after : List Char}
    (h : splitFirstList sep cs = some (before, after)) : cs = before ++ sep ++ after := by
  induction cs generalizing before after with
  | nil =>
    simp only [splitFirstList] at h
    split at h
    · cases h
      simp_all
    · cases h
  | cons c rest ih =>
    simp only [splitFirstList] at h
    split at h
    · rename_i hp
      cases h
      have := List.prefix_iff_eq_take.mp (List.isPrefixOf_iff_prefix.mp hp)
      simp only [List.nil_append]
      calc c :: rest = (c :: rest).take sep.length ++ (c :: rest).drop sep.length :=
            (List.take_append_drop _ _).symm
        _ = sep ++ (c :: rest).drop sep.length := by rw [← this]
    · obtain ⟨⟨b, a⟩, hs, he⟩ := Option.map_eq_some_iff.mp h
      cases he
      simp [ih hs]

theorem splitFirst_some {sep s before after : String}
    (h : splitFirst sep s = some (before, after)) : s = before ++ sep ++ after := by
  obtain ⟨⟨b, a⟩, hs, he⟩ := Option.map_eq_some_iff.mp h
  cases he
  have := splitFirstList_some hs
  apply String.toList_injective
  simp [this]

example : splitFirst "//" "cell//a//b:c" = some ("cell", "a//b:c") := by decide +kernel

/-! ## Unsigned decimal numbers -/

/-- Why a text is no unsigned number. -/
inductive NumberError where
  | empty
  | invalidDigit
  | tooLarge
  deriving DecidableEq, Repr

namespace NumberError

def message : NumberError → String
  | .empty => "cannot parse integer from empty string"
  | .invalidDigit => "invalid digit found in string"
  | .tooLarge => "number too large to fit in target type"

end NumberError

/-- The value of decimal digits read after `acc`, as long as it stays at most `limit`. -/
def digitsValue (limit : Nat) : List Char → Nat → Except NumberError Nat
  | [], acc => .ok acc
  | c :: rest, acc =>
    if c.isDigit then
      let next := acc * 10 + (c.toNat - '0'.toNat)
      if next > limit then .error .tooLarge else digitsValue limit rest next
    else .error .invalidDigit

/-- Reads a number in `0 .. limit`: an optional `+` and at least one digit. -/
def parseBounded (limit : Nat) (s : String) : Except NumberError Nat :=
  match s.toList with
  | [] => .error .empty
  | ['+'] => .error .invalidDigit
  | '+' :: digits => digitsValue limit digits 0
  | digits => digitsValue limit digits 0

/-- The largest 32-bit unsigned number, `2^32 - 1`. -/
def maxU32 : Nat := 4294967295

def parseU32 (s : String) : Except NumberError UInt32 :=
  (parseBounded maxU32 s).map Nat.toUInt32

end BuildTargets.Text
