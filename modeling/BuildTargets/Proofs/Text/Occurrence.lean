import BuildTargets.Proofs.Target.Label

/-!
# Cutting at the first occurrence

`Text.splitFirst sep s` cuts `s` where `sep` first occurs. This file says so without the
search: the cut is `some (before, after)` exactly when `s` is `before`, `sep` and `after`, and no
occurrence of `sep` starts earlier (`Text.FirstCut`), and it is `none` exactly when `sep` does
not occur at all. For a one-character separator the condition reads: the text before the cut
does not hold the character.

Principal results:

* `Text.splitFirst_eq_some_iff` — the cut falls at the first occurrence;
* `Text.splitFirst_eq_none_iff` — there is no cut exactly when the separator does not occur.
-/

namespace BuildTargets

namespace Text

/-! ## Lists of characters -/

section Lists

variable {sep cs a b : List Char}

/-- A separator that is not a prefix of the text is not found at its front: the text does not
start with it, whatever follows. -/
theorem ne_nil_of_not_isPrefix {x : Char} {rest : List Char} (hp : ¬ sep <+: x :: rest)
    (h : x :: rest = a ++ sep ++ b) : a ≠ [] := by
  rintro rfl
  exact hp ⟨b, h.symm⟩

/-- A separator that is a prefix of the text cuts it right at its front. -/
theorem eq_append_drop_of_isPrefix (hp : sep <+: cs) : cs = [] ++ sep ++ cs.drop sep.length := by
  have htake := List.prefix_iff_eq_take.1 hp
  calc cs = cs.take sep.length ++ cs.drop sep.length := (List.take_append_drop _ _).symm
    _ = [] ++ sep ++ cs.drop sep.length := by rw [← htake, List.nil_append]

theorem splitFirstList_eq_none_iff : splitFirstList sep cs = none ↔ ∀ a b, cs ≠ a ++ sep ++ b := by
  induction cs with
  | nil =>
    by_cases hs : sep = []
    · subst hs
      simp only [splitFirstList, if_true, reduceCtorEq, false_iff]
      exact fun h => h [] [] rfl
    · simp only [splitFirstList, hs, if_false, true_iff]
      intro a b h
      exact hs (List.append_eq_nil_iff.1 (List.append_eq_nil_iff.1 h.symm).1).2
  | cons x rest ih =>
    by_cases hp : sep <+: x :: rest
    · simp only [splitFirstList, List.isPrefixOf_iff_prefix.2 hp, if_true, reduceCtorEq,
        false_iff]
      exact fun h => h _ _ (eq_append_drop_of_isPrefix hp)
    · have hp' : sep.isPrefixOf (x :: rest) = false :=
        Bool.eq_false_iff.2 fun h => hp (List.isPrefixOf_iff_prefix.1 h)
      simp only [splitFirstList, hp', Bool.false_eq_true, if_false, Option.map_eq_none_iff, ih]
      constructor
      · intro hrest a' b' h
        obtain ⟨y, a'', rfl⟩ := List.exists_cons_of_ne_nil (ne_nil_of_not_isPrefix hp h)
        simp only [List.cons_append, List.cons.injEq] at h
        exact hrest a'' b' h.2
      · intro hcs a' b' h
        exact hcs (x :: a') b' (by rw [h]; rfl)

/-- **The cut falls at the first occurrence.** The text is the part before, the separator and
the part after, and no occurrence of the separator starts before the cut. -/
theorem splitFirstList_eq_some_iff :
    splitFirstList sep cs = some (a, b) ↔
      cs = a ++ sep ++ b ∧ ∀ a' b', cs = a' ++ sep ++ b' → a.length ≤ a'.length := by
  induction cs generalizing a b with
  | nil =>
    by_cases hs : sep = []
    · subst hs
      simp only [splitFirstList, if_true, Option.some.injEq, Prod.mk.injEq, List.append_nil]
      constructor
      · rintro ⟨rfl, rfl⟩
        exact ⟨rfl, fun _ _ _ => Nat.zero_le _⟩
      · rintro ⟨h, -⟩
        exact ⟨(List.append_eq_nil_iff.1 h.symm).1.symm, (List.append_eq_nil_iff.1 h.symm).2.symm⟩
    · simp only [splitFirstList, hs, if_false, reduceCtorEq, false_iff, not_and]
      intro h
      exact absurd (List.append_eq_nil_iff.1 (List.append_eq_nil_iff.1 h.symm).1).2 hs
  | cons x rest ih =>
    by_cases hp : sep <+: x :: rest
    · -- The separator starts the text: the cut is at the front, and nothing comes before it.
      simp only [splitFirstList, List.isPrefixOf_iff_prefix.2 hp, if_true, Option.some.injEq,
        Prod.mk.injEq]
      constructor
      · rintro ⟨rfl, rfl⟩
        exact ⟨eq_append_drop_of_isPrefix hp, fun _ _ _ => Nat.zero_le _⟩
      · rintro ⟨h, hfirst⟩
        have ha : a = [] :=
          List.eq_nil_of_length_eq_zero (Nat.le_zero.1 (hfirst _ _ (eq_append_drop_of_isPrefix hp)))
        subst ha
        have hb : [] ++ sep ++ b = [] ++ sep ++ (x :: rest).drop sep.length :=
          h.symm.trans (eq_append_drop_of_isPrefix hp)
        simp only [List.nil_append, List.append_cancel_left_eq] at hb
        exact ⟨rfl, hb.symm⟩
    · -- Otherwise the first character goes before the cut, which is the cut of the rest.
      have hp' : sep.isPrefixOf (x :: rest) = false :=
        Bool.eq_false_iff.2 fun h => hp (List.isPrefixOf_iff_prefix.1 h)
      simp only [splitFirstList, hp', Bool.false_eq_true, if_false, Option.map_eq_some_iff,
        Prod.exists, Prod.mk.injEq]
      constructor
      · rintro ⟨a', b', hrest, rfl, rfl⟩
        obtain ⟨heq, hfirst⟩ := ih.1 hrest
        refine ⟨by rw [heq]; rfl, fun a'' b'' h => ?_⟩
        obtain ⟨y, a''', rfl⟩ := List.exists_cons_of_ne_nil (ne_nil_of_not_isPrefix hp h)
        simp only [List.cons_append, List.cons.injEq] at h
        simpa using hfirst a''' b'' h.2
      · rintro ⟨h, hfirst⟩
        obtain ⟨y, a', rfl⟩ := List.exists_cons_of_ne_nil (ne_nil_of_not_isPrefix hp h)
        simp only [List.cons_append, List.cons.injEq] at h
        obtain ⟨hyx, hrest⟩ := h
        refine ⟨a', b, ih.2 ⟨hrest, fun a'' b'' h' => ?_⟩, by rw [hyx], rfl⟩
        have := hfirst (y :: a'') b'' (by rw [hyx, h']; rfl)
        simpa using this

end Lists

/-! ## Texts -/

/-- `s` is `before`, then the first occurrence of `sep`, then `after`: no occurrence of `sep`
in `s` starts before `before` ends. -/
structure FirstCut (sep s before after : String) : Prop where
  eq : s = before ++ sep ++ after
  first : ∀ before' after', s = before' ++ sep ++ after' → before.length ≤ before'.length

theorem append_eq_iff_toList {s a m b : String} :
    s = a ++ m ++ b ↔ s.toList = a.toList ++ m.toList ++ b.toList := by
  rw [← String.toList_inj]
  simp

theorem splitFirst_eq_none_iff {sep s : String} :
    splitFirst sep s = none ↔ ∀ a b, s ≠ a ++ sep ++ b := by
  rw [splitFirst, Option.map_eq_none_iff, splitFirstList_eq_none_iff]
  constructor
  · intro h a b hs
    exact h a.toList b.toList (append_eq_iff_toList.1 hs)
  · intro h a b hs
    refine h (String.ofList a) (String.ofList b) (append_eq_iff_toList.2 ?_)
    simpa using hs

/-- **The cut of a text falls at the first occurrence of the separator.** -/
theorem splitFirst_eq_some_iff {sep s before after : String} :
    splitFirst sep s = some (before, after) ↔ FirstCut sep s before after := by
  rw [splitFirst, Option.map_eq_some_iff]
  constructor
  · rintro ⟨⟨a, b⟩, hcut, hab⟩
    simp only [Prod.mk.injEq] at hab
    obtain ⟨rfl, rfl⟩ := hab
    obtain ⟨heq, hfirst⟩ := splitFirstList_eq_some_iff.1 hcut
    refine ⟨append_eq_iff_toList.2 (by simpa using heq), fun a' b' h => ?_⟩
    simpa [String.length_toList] using hfirst a'.toList b'.toList (append_eq_iff_toList.1 h)
  · rintro ⟨heq, hfirst⟩
    refine ⟨(before.toList, after.toList),
      splitFirstList_eq_some_iff.2 ⟨append_eq_iff_toList.1 heq, fun a' b' h => ?_⟩, by simp⟩
    have := hfirst (String.ofList a') (String.ofList b') (append_eq_iff_toList.2 (by simpa using h))
    simpa [String.length_toList, String.length_ofList] using this

/-- A text has one first cut at a separator. -/
theorem FirstCut.unique {sep s before after before' after' : String}
    (h : FirstCut sep s before after) (h' : FirstCut sep s before' after') :
    before = before' ∧ after = after' := by
  rw [← splitFirst_eq_some_iff] at h h'
  rw [h] at h'
  exact Prod.mk.inj (Option.some.inj h')

/-- With a one-character separator, there is no cut exactly when the text does not hold the
character. -/
theorem splitFirst_eq_none_iff_not_mem {sep s : String} {c : Char} (hsep : sep.toList = [c]) :
    splitFirst sep s = none ↔ c ∉ s.toList := by
  refine ⟨fun h hc => ?_, splitFirst_eq_none hsep⟩
  obtain ⟨a, b, hab⟩ := List.append_of_mem hc
  refine splitFirst_eq_none_iff.1 h (String.ofList a) (String.ofList b) (append_eq_iff_toList.2 ?_)
  simp [hab, hsep]

/-- With a one-character separator, the cut is first exactly when the text before it does not
hold the character. -/
theorem firstCut_singleton_iff {sep s before after : String} {c : Char} (hsep : sep.toList = [c]) :
    FirstCut sep s before after ↔ s = before ++ sep ++ after ∧ c ∉ before.toList := by
  rw [← splitFirst_eq_some_iff]
  constructor
  · intro h
    exact ⟨splitFirst_some h, not_mem_of_splitFirst hsep h⟩
  · rintro ⟨rfl, hc⟩
    exact splitFirst_append hsep hc

end Text

end BuildTargets
