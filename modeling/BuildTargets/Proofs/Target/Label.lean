import BuildTargets.Proofs.Flavor.Set
import BuildTargets.Proofs.Package.Directory
import BuildTargets.Target.Parse

/-!
# Labels read back

A target is written `cell//package:name`, with `#` and its flavors after it when it has any,
and the reader cuts a label at the first `//`, then at the first `:`, then at the first `#`.
Cell names, target names and flavors carry the checks they passed, and those checks refuse the
separators after them, so each cut falls where the printer put the separator, except the cut
at `:`: a package path may hold a `:`, and then the reader ends the package there.

Principal results:

* `Target.parse_display` — a target whose package holds no `:` is read back from its label;
* `Target.colon_not_mem_package_of_parse` — no label reads as a package that holds a `:`;
* `Target.parse_display_eq_ok_iff` — so a target is read back from its label exactly when its
  package holds no `:`.
-/

namespace BuildTargets

namespace Text

/-! ## Cutting at the first separator -/

/-- A separator that starts with a character the text before it lacks is found right after
that text. -/
theorem splitFirstList_append {sep sep' before after : List Char} {c : Char}
    (hsep : sep = c :: sep') (hc : c ∉ before) :
    splitFirstList sep (before ++ sep ++ after) = some (before, after) := by
  induction before with
  | nil =>
    subst hsep
    have hp : (c :: sep').isPrefixOf (c :: (sep' ++ after)) = true :=
      List.isPrefixOf_iff_prefix.2 (by simp)
    simp only [List.nil_append, List.cons_append, splitFirstList]
    rw [if_pos hp]
    simp
  | cons b bs ih =>
    have hbc : b ≠ c := fun h => hc (h ▸ List.mem_cons_self)
    have hbs : c ∉ bs := fun h => hc (List.mem_cons_of_mem b h)
    have hcb : (c == b) = false := by simpa using hbc.symm
    subst hsep
    simp only [List.cons_append, splitFirstList, List.isPrefixOf, hcb, Bool.false_and,
      Bool.false_eq_true, if_false]
    rw [ih hbs]
    rfl

theorem splitFirstList_singleton_eq_none {c : Char} {cs : List Char} (hc : c ∉ cs) :
    splitFirstList [c] cs = none := by
  induction cs with
  | nil => rfl
  | cons x xs ih =>
    have hxc : c ≠ x := fun h => hc (h ▸ List.mem_cons_self)
    simp [splitFirstList, List.isPrefixOf, hxc, ih fun h => hc (List.mem_cons_of_mem x h)]

/-- What comes before the first separator holds no separator. -/
theorem not_mem_of_splitFirstList_singleton {c : Char} {cs before after : List Char}
    (h : splitFirstList [c] cs = some (before, after)) : c ∉ before := by
  induction cs generalizing before with
  | nil => simp [splitFirstList] at h
  | cons x xs ih =>
    simp only [splitFirstList] at h
    split at h
    · cases h
      simp
    · rename_i hpre
      obtain ⟨⟨b, a⟩, hs, he⟩ := Option.map_eq_some_iff.1 h
      cases he
      have hxc : c ≠ x := fun hcx => hpre (by simp [List.isPrefixOf, hcx])
      simp [hxc, ih hs]

theorem splitFirst_append {sep before after : String} {c : Char} {sep' : List Char}
    (hsep : sep.toList = c :: sep') (hc : c ∉ before.toList) :
    splitFirst sep (before ++ sep ++ after) = some (before, after) := by
  rw [splitFirst, String.toList_append, String.toList_append, splitFirstList_append hsep hc]
  simp

theorem splitFirst_eq_none {sep s : String} {c : Char} (hsep : sep.toList = [c])
    (hc : c ∉ s.toList) : splitFirst sep s = none := by
  simp [splitFirst, hsep, splitFirstList_singleton_eq_none hc]

theorem not_mem_of_splitFirst {sep s before after : String} {c : Char}
    (hsep : sep.toList = [c]) (h : splitFirst sep s = some (before, after)) :
    c ∉ before.toList := by
  obtain ⟨⟨b, a⟩, hs, he⟩ := Option.map_eq_some_iff.1 h
  cases he
  rw [hsep] at hs
  simpa using not_mem_of_splitFirstList_singleton hs

end Text


/-! ## Labels read back -/

theorem bind_eq_ok_iff {ε α β : Type} {x : Except ε α} {f : α → Except ε β} {b : β} :
    x >>= f = .ok b ↔ ∃ a, x = .ok a ∧ f a = .ok b := by
  cases x <;> simp [bind, Except.bind]

namespace LabelParts

/-- A printed label is cut where its parts meet, as long as the cell holds no `/`, the package
no `:` and the name no `#`. -/
theorem cut_display {t : Target} (hcell : '/' ∉ t.cell.text.toList)
    (hpkg : ':' ∉ t.package.text.toList) (hname : '#' ∉ t.name.text.toList) :
    cut t.display = .ok ⟨t.cell.text, t.package.text, t.name.text,
      if t.flavors.isEmpty then none else some t.flavors.display⟩ := by
  have hslashes : ("//" : String).toList = '/' :: ['/'] := rfl
  have hcolon : (":" : String).toList = [':'] := rfl
  have hhash : ("#" : String).toList = ['#'] := rfl
  -- The label is the cell, `//`, the package, `:`, and the name with any flavors after it.
  have hlabel : t.display = t.cell.text ++ "//" ++ (t.package.text ++ ":" ++
      (t.name.text ++ if t.flavors.isEmpty then "" else "#" ++ t.flavors.display)) := by
    unfold Target.display
    cases t.flavors.isEmpty <;> simp [String.append_assoc]
  unfold cut
  rw [hlabel, Text.splitFirst_append hslashes hcell]
  dsimp only
  rw [Text.splitFirst_append hcolon hpkg]
  dsimp only
  cases t.flavors.isEmpty
  · simp only [Bool.false_eq_true, if_false]
    rw [← String.append_assoc, Text.splitFirst_append hhash hname]
  · simp only [if_true, String.append_empty]
    rw [Text.splitFirst_eq_none hhash hname]

/-- The package of a cut label holds no `:`: it ends at the first one. -/
theorem colon_not_mem_package {s : String} {parts : LabelParts} (h : cut s = .ok parts) :
    ':' ∉ parts.package.toList := by
  unfold cut at h
  split at h
  · cases h
  · split at h
    · cases h
    · rename_i hsplit
      split at h <;>
        · cases h
          exact Text.not_mem_of_splitFirst rfl hsplit

end LabelParts

namespace Target

variable {t : Target}

/-- A name holds no `#`, so the first `#` after the name's `:` comes after it. -/
theorem hash_not_mem_name : '#' ∉ t.name.text.toList :=
  fun h => t.name.isName.2 '#' h (by decide)

/-- A target whose package holds no `:` is read back from its label: each part is read back
from its text, and the flavors, when there are any, from their printed list. -/
theorem parse_display (hpkg : ':' ∉ t.package.text.toList) : parse t.display = .ok t := by
  unfold parse
  rw [LabelParts.cut_display t.cell.slash_not_mem_text hpkg hash_not_mem_name]
  cases hfe : t.flavors.isEmpty
  · have hne : t.flavors.toList ≠ [] := by simpa [FlavorSet.isEmpty] using hfe
    simp [bind, Except.bind, CellName.ofLabel_text, FlavorSet.parse_display hne,
      PackagePath.ofString_text, TargetName.ofString_text, pure, Except.pure]
  · have hempty : FlavorSet.empty = t.flavors :=
      FlavorSet.ext (by simpa [FlavorSet.isEmpty, FlavorSet.empty] using hfe.symm)
    simp [bind, Except.bind, CellName.ofLabel_text, PackagePath.ofString_text,
      TargetName.ofString_text, pure, Except.pure, hempty]

/-- No label reads as a target whose package holds a `:`. -/
theorem colon_not_mem_package_of_parse {s : String} (h : parse s = .ok t) :
    ':' ∉ t.package.text.toList := by
  unfold parse at h
  simp only [bind_eq_ok_iff] at h
  obtain ⟨parts, hcut, cell, -, h⟩ := h
  -- The package is checked after the flavors, whether there are any or not.
  split at h <;>
  · simp only [bind_eq_ok_iff] at h
    obtain ⟨fl, -, pkg, hpkg, nm, -, hpure⟩ := h
    cases hpure
    rw [PackagePath.text_of_ofString_eq_ok (mapError_eq_ok_iff.1 hpkg)]
    exact LabelParts.colon_not_mem_package hcut

/-- **A printed label reads back as its target exactly when the package holds no `:`.** The
reader ends the package at the first `:` after `//`, and a package path may hold one. -/
theorem parse_display_eq_ok_iff (t : Target) :
    parse t.display = .ok t ↔ ':' ∉ t.package.text.toList :=
  ⟨colon_not_mem_package_of_parse, parse_display⟩

/-- The label //a:b:c of the target c in the package a:b does not read back: the reader ends
the package at the `:`. -/
theorem parse_display_colon_package :
    parse (display ⟨CellName.root, ⟨"a:b", by decide⟩, ⟨"c", by decide⟩,
        FlavorSet.empty⟩) ≠
      .ok ⟨CellName.root, ⟨"a:b", by decide⟩, ⟨"c", by decide⟩, FlavorSet.empty⟩ :=
  fun h => colon_not_mem_package_of_parse h (by decide)

/-- The flavored target cell//a/b:c#x,y. -/
theorem parse_display_flavored :
    parse (display ⟨.named "cell" (by decide), ⟨"a/b", by decide⟩, ⟨"c", by decide⟩,
        FlavorSet.ofList [⟨"y", by decide⟩, ⟨"x", by decide⟩]⟩) =
        .ok ⟨.named "cell" (by decide), ⟨"a/b", by decide⟩, ⟨"c", by decide⟩,
          FlavorSet.ofList [⟨"y", by decide⟩, ⟨"x", by decide⟩]⟩ ↔
      ':' ∉ ("a/b" : String).toList :=
  parse_display_eq_ok_iff _

end Target

end BuildTargets
