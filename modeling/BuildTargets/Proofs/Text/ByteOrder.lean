import Mathlib.Data.Char
import Mathlib.Tactic.SplitIfs
import BuildTargets.Proofs.Flavor.Set

/-!
# Text order is byte order

Texts are ordered character by character, by code point. Their UTF-8 encodings can also be
ordered byte by byte, and the two orders agree: UTF-8 gives a larger code point a larger first
byte where the encodings differ, and no encoding of one character starts another's. So a flavor
set, kept in increasing order of the flavors' text, is also in increasing order of their bytes.

Principal results:

* `Text.utf8EncodeChar_append_lt` — a smaller character's encoding is smaller, whatever follows
  each encoding;
* `Text.lt_iff_bytes_lt` — one text is smaller than another exactly when its UTF-8 bytes are;
* `FlavorSet.pairwise_bytes` — a set lists its flavors in increasing order of their bytes.
-/

namespace BuildTargets

namespace Text

/-! ## Byte lists -/

section Bytes

variable {a b : Nat} {l₁ l₂ : List UInt8}

/-- Byte lists that start with a smaller byte are smaller, whatever follows. -/
theorem ofNat_cons_lt_of_lt (hab : a < b) (hb : b < 256) :
    UInt8.ofNat a :: l₁ < UInt8.ofNat b :: l₂ := by
  refine List.cons_lt_cons_iff.2 (.inl (UInt8.lt_iff_toNat_lt.2 ?_))
  rw [UInt8.toNat_ofNat_of_lt' (by simp only [UInt8.size]; omega),
    UInt8.toNat_ofNat_of_lt' (by simp only [UInt8.size]; omega)]
  exact hab

/-- Byte lists that start with the same byte compare as what follows it. -/
theorem ofNat_cons_lt_of_eq (hab : a = b) (h : l₁ < l₂) :
    UInt8.ofNat a :: l₁ < UInt8.ofNat b :: l₂ :=
  List.cons_lt_cons_iff.2 (.inr ⟨congrArg _ hab, h⟩)

theorem append_lt_append_left_iff {p : List UInt8} : p ++ l₁ < p ++ l₂ ↔ l₁ < l₂ := by
  induction p with
  | nil => rfl
  | cons x p ih => simp [ih]

end Bytes

/-! ## Characters -/

theorem utf8EncodeChar_ne_nil (c : Char) : String.utf8EncodeChar c ≠ [] := by
  unfold String.utf8EncodeChar
  dsimp only
  split_ifs <;> simp

/-- **A smaller character has a smaller encoding, whatever follows each.** The encodings differ
at a byte, before either ends, and that byte is larger in the larger character's encoding. -/
theorem utf8EncodeChar_append_lt {x y : Char} (h : x < y) (A B : List UInt8) :
    String.utf8EncodeChar x ++ A < String.utf8EncodeChar y ++ B := by
  have hxy : x.val.toNat < y.val.toNat := UInt32.lt_iff_toNat_lt.1 (Char.lt_def.1 h)
  have hy : y.val.toNat < 0x110000 := by
    have := y.valid
    simp only [UInt32.isValidChar, Nat.isValidChar] at this
    omega
  unfold String.utf8EncodeChar
  dsimp only
  generalize x.val.toNat = v at hxy ⊢
  generalize y.val.toNat = w at hxy hy ⊢
  -- One goal per pair of encoding lengths. A longer encoding has a larger first byte, and `y`'s
  -- is never the shorter one; so only equal lengths need the bytes after the first.
  split_ifs <;> simp only [List.cons_append, List.nil_append] <;>
    first
    | exact absurd hxy (by omega)
    | exact ofNat_cons_lt_of_lt (by omega) (by omega)
    | skip
  · -- Two bytes each: the high five bits, then the low six.
    rcases Nat.lt_or_ge (v / 64) (w / 64) with h1 | h1
    · exact ofNat_cons_lt_of_lt (by omega) (by omega)
    · exact ofNat_cons_lt_of_eq (by omega) (ofNat_cons_lt_of_lt (by omega) (by omega))
  · -- Three bytes each: the high four bits, then two groups of six.
    rcases Nat.lt_or_ge (v / 4096) (w / 4096) with h1 | h1
    · exact ofNat_cons_lt_of_lt (by omega) (by omega)
    rcases Nat.lt_or_ge (v / 64 % 64) (w / 64 % 64) with h2 | h2
    · exact ofNat_cons_lt_of_eq (by omega) (ofNat_cons_lt_of_lt (by omega) (by omega))
    · exact ofNat_cons_lt_of_eq (by omega)
        (ofNat_cons_lt_of_eq (by omega) (ofNat_cons_lt_of_lt (by omega) (by omega)))
  · -- Four bytes each: the high three bits, then three groups of six.
    rcases Nat.lt_or_ge (v / 262144) (w / 262144) with h1 | h1
    · exact ofNat_cons_lt_of_lt (by omega) (by omega)
    rcases Nat.lt_or_ge (v / 4096 % 64) (w / 4096 % 64) with h2 | h2
    · exact ofNat_cons_lt_of_eq (by omega) (ofNat_cons_lt_of_lt (by omega) (by omega))
    rcases Nat.lt_or_ge (v / 64 % 64) (w / 64 % 64) with h3 | h3
    · exact ofNat_cons_lt_of_eq (by omega)
        (ofNat_cons_lt_of_eq (by omega) (ofNat_cons_lt_of_lt (by omega) (by omega)))
    · exact ofNat_cons_lt_of_eq (by omega) (ofNat_cons_lt_of_eq (by omega)
        (ofNat_cons_lt_of_eq (by omega) (ofNat_cons_lt_of_lt (by omega) (by omega))))

/-- Lists of characters compare as their UTF-8 encodings. -/
theorem lt_iff_flatMap_lt {l₁ l₂ : List Char} :
    l₁ < l₂ ↔ l₁.flatMap String.utf8EncodeChar < l₂.flatMap String.utf8EncodeChar := by
  induction l₁ generalizing l₂ with
  | nil =>
    cases l₂ with
    | nil => simp [List.lt_irrefl]
    | cons y ys =>
      obtain ⟨b, bs, hb⟩ := List.exists_cons_of_ne_nil (utf8EncodeChar_ne_nil y)
      simp [hb, List.nil_lt_cons]
  | cons x xs ih =>
    cases l₂ with
    | nil =>
      obtain ⟨b, bs, hb⟩ := List.exists_cons_of_ne_nil (utf8EncodeChar_ne_nil x)
      simp [hb, List.not_lt_nil]
    | cons y ys =>
      rw [List.cons_lt_cons_iff, List.flatMap_cons, List.flatMap_cons]
      -- The first characters decide unless they are equal; equal ones encode alike.
      rcases lt_trichotomy x y with hlt | rfl | hgt
      · exact iff_of_true (.inl hlt) (utf8EncodeChar_append_lt hlt _ _)
      · rw [append_lt_append_left_iff, ← ih]
        simp
      · refine iff_of_false ?_ (List.lt_asymm (utf8EncodeChar_append_lt hgt _ _))
        rintro (hlt | ⟨rfl, -⟩)
        · exact lt_asymm hlt hgt
        · exact lt_irrefl _ hgt

/-- The bytes of a text are the UTF-8 encodings of its characters, one after another. -/
theorem bytes_eq (s : String) :
    s.toByteArray.data.toList = s.toList.flatMap String.utf8EncodeChar := by
  rw [← String.utf8Encode_toList, List.utf8Encode, List.data_toByteArray, List.toList_toArray]

/-- **Text order is UTF-8 byte order.** -/
theorem lt_iff_bytes_lt (a b : String) :
    a < b ↔ a.toByteArray.data.toList < b.toByteArray.data.toList := by
  rw [String.lt_iff, bytes_eq, bytes_eq]
  exact lt_iff_flatMap_lt

end Text

/-- Flavors are ordered by the UTF-8 bytes of their text. -/
theorem Flavor.lt_iff_bytes_lt {f g : Flavor} :
    f < g ↔ f.tag.toByteArray.data.toList < g.tag.toByteArray.data.toList :=
  Text.lt_iff_bytes_lt f.tag g.tag

/-- **A set lists its flavors in increasing order of their UTF-8 bytes**, which is the order it
prints them in. -/
theorem FlavorSet.pairwise_bytes (s : FlavorSet) :
    (s.toList.map fun f => f.tag.toByteArray.data.toList).Pairwise (· < ·) :=
  s.sorted.map _ fun _ _ h => Flavor.lt_iff_bytes_lt.1 h

end BuildTargets
