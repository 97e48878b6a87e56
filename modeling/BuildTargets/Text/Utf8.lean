/-!
# Text that may hold invalid UTF-8

Names of files and values of environment variables are byte strings, and most of them are
UTF-8. A `Chunk` is one character, or one maximal run of bytes that begins no valid UTF-8
encoding (a "maximal subpart" in the Unicode sense). Decoding bytes into chunks loses
nothing. Showing the chunks puts U+FFFD in place of each invalid run, which is the
standard lossy decoding.

The decoder takes at least one byte per chunk (`decodeStep_length_le`), which is what makes
it total.
-/

namespace BuildTargets.Text

/-- One character of decoded text, or a maximal run of bytes that is no UTF-8 encoding. -/
inductive Chunk where
  | char (c : Char)
  | invalid (bytes : List UInt8)
  deriving DecidableEq, Repr, Inhabited

/-- Text given as characters: every chunk is a character. -/
def ofString (s : String) : List Chunk :=
  s.toList.map Chunk.char

/-- The characters of the chunks, when none of them is invalid. -/
def toString? : List Chunk → Option String
  | [] => some ""
  | .char c :: rest => (toString? rest).map (fun s => String.singleton c ++ s)
  | .invalid _ :: _ => none

/-- The chunks shown as text: each invalid run becomes one U+FFFD. -/
def lossy (cs : List Chunk) : String :=
  String.ofList (cs.map fun
    | .char c => c
    | .invalid _ => '\uFFFD')

/-- A continuation byte, `10xxxxxx`. -/
def isContinuation (b : UInt8) : Bool :=
  0x80 ≤ b && b ≤ 0xBF

/-- For a lead byte of a multi-byte encoding: the range that its second byte must fall in,
and how many ordinary continuation bytes follow that second byte. The narrowed ranges
after `E0`, `ED`, `F0` and `F4` rule out overlong forms, surrogates and code points past
U+10FFFF. -/
def leadShape (b : UInt8) : Option (UInt8 × UInt8 × Nat) :=
  if 0xC2 ≤ b && b ≤ 0xDF then some (0x80, 0xBF, 0)
  else if b == 0xE0 then some (0xA0, 0xBF, 1)
  else if b == 0xED then some (0x80, 0x9F, 1)
  else if 0xE1 ≤ b && b ≤ 0xEF then some (0x80, 0xBF, 1)
  else if b == 0xF0 then some (0x90, 0xBF, 2)
  else if b == 0xF4 then some (0x80, 0x8F, 2)
  else if 0xF1 ≤ b && b ≤ 0xF3 then some (0x80, 0xBF, 2)
  else none

/-- The low bits of a byte, below `bound` (a power of two). -/
def lowBits (b : UInt8) (bound : Nat) : Nat :=
  b.toNat % bound

/-- The character that a complete encoding of two, three or four bytes stands for. -/
def charOf : List UInt8 → Char
  | [b0, b1] => Char.ofNat (lowBits b0 32 * 64 + lowBits b1 64)
  | [b0, b1, b2] => Char.ofNat (lowBits b0 16 * 4096 + lowBits b1 64 * 64 + lowBits b2 64)
  | [b0, b1, b2, b3] =>
    Char.ofNat (lowBits b0 8 * 262144 + lowBits b1 64 * 4096 + lowBits b2 64 * 64 +
      lowBits b3 64)
  | _ => '\uFFFD'

/-- Reads `more` continuation bytes after the bytes `seen` of one encoding. It gives the
chunk and the bytes after it. A missing or wrong byte ends the chunk as invalid, and that
byte is left for the next chunk. -/
def takeContinuations (seen : List UInt8) : Nat → List UInt8 → Chunk × List UInt8
  | 0, rest => (.char (charOf seen), rest)
  | more + 1, b :: rest =>
    if isContinuation b then takeContinuations (seen ++ [b]) more rest
    else (.invalid seen, b :: rest)
  | _ + 1, [] => (.invalid seen, [])

/-- The first chunk of a byte string that starts with `b`, and the bytes after it. -/
def decodeStep (b : UInt8) (rest : List UInt8) : Chunk × List UInt8 :=
  if b < 0x80 then (.char (Char.ofNat b.toNat), rest)
  else match leadShape b, rest with
    | some (lo, hi, more), b1 :: rest1 =>
      if lo ≤ b1 && b1 ≤ hi then takeContinuations [b, b1] more rest1
      else (.invalid [b], b1 :: rest1)
    | _, _ => (.invalid [b], rest)

theorem takeContinuations_length_le (seen : List UInt8) (more : Nat) (rest : List UInt8) :
    (takeContinuations seen more rest).2.length ≤ rest.length := by
  induction more generalizing seen rest with
  | zero => simp [takeContinuations]
  | succ more ih =>
    cases rest with
    | nil => simp [takeContinuations]
    | cons b rest =>
      simp only [takeContinuations]
      split
      · exact Nat.le_trans (ih _ _) (Nat.le_succ _)
      · exact Nat.le_refl _

theorem decodeStep_length_le (b : UInt8) (rest : List UInt8) :
    (decodeStep b rest).2.length ≤ rest.length := by
  unfold decodeStep
  split
  · exact Nat.le_refl _
  · split
    · split
      · exact Nat.le_trans (takeContinuations_length_le _ _ _) (Nat.le_succ _)
      · exact Nat.le_refl _
    · exact Nat.le_refl _

/-- Bytes read as UTF-8, chunk by chunk. Each step takes at least one byte. -/
def decode : List UInt8 → List Chunk
  | [] => []
  | b :: rest =>
    let step := decodeStep b rest
    step.1 :: decode step.2
termination_by bs => bs.length
decreasing_by
  have := decodeStep_length_le b rest
  simp only [List.length_cons]
  omega

example : decode [0x61, 0xFF, 0xC3, 0xA9, 0xE2, 0x82, 0x41] =
    [.char 'a', .invalid [0xFF], .char 'é', .invalid [0xE2, 0x82], .char 'A'] := by
  decide +kernel

end BuildTargets.Text
