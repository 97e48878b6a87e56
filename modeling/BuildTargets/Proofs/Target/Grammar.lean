import BuildTargets.Proofs.Flavor.Reading
import BuildTargets.Proofs.Text.Occurrence

/-!
# The grammar of target labels

`Target.parse` reads a label in two steps. It cuts the text: the cell ends at the first `//`,
the package at the first `:` after it, and the name at the first `#` after that, whose rest is
the flavor list. Then it checks the parts in the order cell, flavors, package, name, and the
first part that fails gives the error.

This file says what is read without the reader. The labels it takes are exactly the texts
`cell//package:name`, with `#` and comma-separated flavors after them when there are any, whose
parts pass their checks and whose package holds no `:` (`Target.Spelling`, `Target.labelText`).
The checks are what make the cut unambiguous: a cell holds no `/`, a name no `#` and a flavor no
`,`, so the first `//`, `:` and `#` fall where the parts meet. A label's parts name one target at
most (`LabelParts.Names`), and a target read from a label prints as that label with its flavors
in order, each once. Every other text is refused for its first
failing stage (`Target.ParseRefusal`, one case per stage, each holding the stages before it as
passed).

Principal results:

* `LabelParts.cut_eq_ok_iff`, `LabelParts.cut_eq_error_iff` — the cut, stated by first
  occurrences;
* `Target.parse_eq_ok_iff`, `Target.parse_eq_error_iff` — reading is the cut and then the checks
  in order;
* `Target.parse_grammar` — the labels read are exactly the spelled ones, each as the target of
  its parts, and the error of any other text is its first failing stage's.
-/

namespace BuildTargets

/-! ## The cut -/

namespace LabelParts

/-- What follows the name in a label: `#` and the flavor text, when there is one. -/
def tail (parts : LabelParts) : String :=
  match parts.flavors with
  | some f => "#" ++ f
  | none => ""

/-- The comma-separated flavor texts after `#`; none without a `#`. -/
def flavorTexts (parts : LabelParts) : List String :=
  match parts.flavors with
  | some f => Text.splitOnChar ',' f
  | none => []

/-- The target that the parts name: its cell, package and name have the parts' texts, and its
flavors are those whose texts the flavor list holds. -/
structure Names (parts : LabelParts) (t : Target) : Prop where
  cell : t.cell.text = parts.cell
  package : t.package.text = parts.package
  name : t.name.text = parts.name
  flavors : ∀ f, f ∈ t.flavors.toList ↔ f.tag ∈ parts.flavorTexts

/-- The parts of a label name one target at most: each part of a target is fixed by its text,
and a flavor set by its members. -/
theorem Names.unique {parts : LabelParts} {t t' : Target} (h : parts.Names t)
    (h' : parts.Names t') : t = t' :=
  Target.ext (CellName.text_injective (h.cell.trans h'.cell.symm))
    (PackagePath.ext (h.package.trans h'.package.symm))
    (TargetName.ext (h.name.trans h'.name.symm))
    (FlavorSet.eq_of_mem_iff fun f => (h.flavors f).trans (h'.flavors f).symm)

/-- How the reader cuts `s` into `parts`: the cell ends at the first `//`, the package at the
first `:` after it, and the name at the first `#` after that, the rest being the flavor text. -/
structure Cut (s : String) (parts : LabelParts) : Prop where
  cell : Text.FirstCut "//" s parts.cell (parts.package ++ ":" ++ parts.name ++ parts.tail)
  package : ':' ∉ parts.package.toList
  name : '#' ∉ parts.name.toList

section Cutting

variable {s : String} {parts : LabelParts}

theorem colon_toList : (":" : String).toList = [':'] := rfl

theorem hash_toList : ("#" : String).toList = ['#'] := rfl

theorem cut_eq_ok_iff : cut s = .ok parts ↔ Cut s parts := by
  obtain ⟨cell, package, name, flavors⟩ := parts
  constructor
  · intro h
    unfold cut at h
    cases h1 : Text.splitFirst "//" s with
    | none => simp [h1] at h
    | some cr =>
      obtain ⟨cell', rest⟩ := cr
      have hfirst := Text.splitFirst_eq_some_iff.1 h1
      cases h2 : Text.splitFirst ":" rest with
      | none => simp [h1, h2] at h
      | some pn =>
        obtain ⟨package', nf⟩ := pn
        obtain ⟨hrest, hpkg⟩ :=
          (Text.firstCut_singleton_iff colon_toList).1 (Text.splitFirst_eq_some_iff.1 h2)
        -- The name is cut at the first `#`, or is all of the rest when there is none.
        cases h3 : Text.splitFirst "#" nf with
        | none =>
          simp only [h1, h2, h3, Except.ok.injEq, LabelParts.mk.injEq] at h
          obtain ⟨rfl, rfl, rfl, rfl⟩ := h
          refine ⟨?_, hpkg, (Text.splitFirst_eq_none_iff_not_mem hash_toList).1 h3⟩
          simpa [tail, ← hrest] using hfirst
        | some nf' =>
          obtain ⟨name', f⟩ := nf'
          simp only [h1, h2, h3, Except.ok.injEq, LabelParts.mk.injEq] at h
          obtain ⟨rfl, rfl, rfl, rfl⟩ := h
          obtain ⟨hnf, hname⟩ :=
            (Text.firstCut_singleton_iff hash_toList).1 (Text.splitFirst_eq_some_iff.1 h3)
          refine ⟨?_, hpkg, hname⟩
          simpa [tail, hrest, hnf, String.append_assoc] using hfirst
  · rintro ⟨hcell, hpkg, hname⟩
    unfold cut
    rw [Text.splitFirst_eq_some_iff.2 hcell]
    dsimp only
    rw [String.append_assoc, Text.splitFirst_append colon_toList hpkg]
    dsimp only
    cases flavors with
    | none =>
      simp only [tail, String.append_empty]
      rw [Text.splitFirst_eq_none hash_toList hname]
    | some f =>
      simp only [tail]
      rw [← String.append_assoc, Text.splitFirst_append hash_toList hname]

theorem cut_eq_error_iff {e : TargetParseError} :
    cut s = .error e ↔
      (e = .notQualified s ∧ ∀ a b, s ≠ a ++ "//" ++ b) ∨
      (e = .noColon s ∧ ∃ cell rest, Text.FirstCut "//" s cell rest ∧ ':' ∉ rest.toList) := by
  unfold cut
  cases h1 : Text.splitFirst "//" s with
  | none =>
    have hno := Text.splitFirst_eq_none_iff.1 h1
    rw [Except.error.injEq]
    constructor
    · rintro rfl
      exact .inl ⟨rfl, hno⟩
    · rintro (⟨rfl, -⟩ | ⟨-, cell, rest, hc, -⟩)
      · rfl
      · exact absurd hc.eq (hno cell rest)
  | some cr =>
    obtain ⟨cell, rest⟩ := cr
    dsimp only
    have hfirst := Text.splitFirst_eq_some_iff.1 h1
    have hnq : ¬ ∀ a b, s ≠ a ++ "//" ++ b := fun h => h cell rest hfirst.eq
    cases h2 : Text.splitFirst ":" rest with
    | none =>
      have hcolon := (Text.splitFirst_eq_none_iff_not_mem colon_toList).1 h2
      simp only [Except.error.injEq, hnq, and_false, false_or]
      constructor
      · rintro rfl
        exact ⟨rfl, cell, rest, hfirst, hcolon⟩
      · rintro ⟨rfl, -⟩
        rfl
    | some pn =>
      obtain ⟨package, nf⟩ := pn
      have hcolon : ':' ∈ rest.toList := by
        refine Classical.byContradiction fun h => ?_
        rw [Text.splitFirst_eq_none colon_toList h] at h2
        cases h2
      simp only [hnq, and_false, false_or]
      constructor
      · intro h
        cases h3 : Text.splitFirst "#" nf <;> simp [h3] at h
      · rintro ⟨-, cell', rest', hc, hr⟩
        exact absurd ((hc.unique hfirst).2 ▸ hcolon) hr

end Cutting

/-- Either the flavor elements all pass, or there is flavor text and it is refused. -/
theorem flavors_checked_or_refusal (parts : LabelParts) :
    (∀ f ∈ parts.flavorTexts, Flavor.IsTag f) ∨
      ∃ text e, parts.flavors = some text ∧ FlavorSet.Refusal text e := by
  obtain ⟨cell, package, name, flavors⟩ := parts
  cases flavors with
  | none => exact .inl fun f hf => nomatch hf
  | some text =>
    cases hp : FlavorSet.parse text with
    | ok fs => exact .inl (FlavorSet.parse_eq_ok_iff.1 hp).2.1
    | error e => exact .inr ⟨text, e, rfl, FlavorSet.parse_eq_error_iff.1 hp⟩

end LabelParts

/-! ## The checks -/

theorem CellName.exists_ofLabel_eq_ok {c : String} (h : c = "" ∨ CellName.IsName c) :
    ∃ x, CellName.ofLabel c = .ok x := by
  rcases h with rfl | h
  · exact ⟨_, rfl⟩
  · exact ⟨.named c h, CellName.ofLabel_eq_ok_iff.2 ⟨.inr h, rfl⟩⟩

theorem CellName.ofLabel_eq_error_iff {c : String} {e : CellNameError} :
    CellName.ofLabel c = .error e ↔ c ≠ "" ∧ CellName.ofString c = .error e := by
  unfold CellName.ofLabel
  by_cases h0 : c = ""
  · subst h0
    simp
  · rw [if_neg (by simpa [String.isEmpty_iff] using h0)]
    exact ⟨fun h => ⟨h0, h⟩, fun h => h.2⟩

namespace Target

/-- The parts of a label that the reader takes: the cell is empty, for the root cell, or the
name of a cell; the package holds no `:` and is the text of a package path; the name is a target
name; and every flavor is the text of a flavor. -/
structure Spelling (cell package name : String) (flavors : List String) : Prop where
  cell : cell = "" ∨ CellName.IsName cell
  colon : ':' ∉ package.toList
  package : PackagePath.IsText package
  name : TargetName.IsName name
  flavors : ∀ f ∈ flavors, Flavor.IsTag f

/-- Why the reader refuses `s`, one case per stage in the reader's order; each case holds the
stages before it as passed. -/
inductive ParseRefusal (s : String) : TargetParseError → Prop
  | notQualified : (∀ a b, s ≠ a ++ "//" ++ b) → ParseRefusal s (.notQualified s)
  | noColon {cell rest : String} : Text.FirstCut "//" s cell rest → ':' ∉ rest.toList →
      ParseRefusal s (.noColon s)
  | cell {parts : LabelParts} {e : CellNameError} : LabelParts.Cut s parts → parts.cell ≠ "" →
      CellName.ofString parts.cell = .error e → ParseRefusal s (.cell e)
  | flavors {parts : LabelParts} {text : String} {e : FlavorListError} :
      LabelParts.Cut s parts → (parts.cell = "" ∨ CellName.IsName parts.cell) →
      parts.flavors = some text → FlavorSet.Refusal text e → ParseRefusal s (.flavors e)
  | package {parts : LabelParts} {e : PackagePathError} : LabelParts.Cut s parts →
      (parts.cell = "" ∨ CellName.IsName parts.cell) →
      (∀ f ∈ parts.flavorTexts, Flavor.IsTag f) →
      PackagePath.ofString parts.package = .error e → ParseRefusal s (.package e)
  | name {parts : LabelParts} {e : TargetNameError} : LabelParts.Cut s parts →
      (parts.cell = "" ∨ CellName.IsName parts.cell) →
      (∀ f ∈ parts.flavorTexts, Flavor.IsTag f) → PackagePath.IsText parts.package →
      TargetName.ofString parts.name = .error e → ParseRefusal s (.name e)

/-! ## One run per outcome -/

section Runs

variable {s : String} {parts : LabelParts} {c : CellName}

theorem parse_of_cut_error {e : TargetParseError} (h : LabelParts.cut s = .error e) :
    parse s = .error e := by
  simp [parse, h, bind, Except.bind]

theorem parse_of_cell_error {e : CellNameError} (hcut : LabelParts.cut s = .ok parts)
    (h : CellName.ofLabel parts.cell = .error e) : parse s = .error (.cell e) := by
  simp [parse, hcut, h, bind, Except.bind]

theorem parse_of_flavors_error {text : String} {e : FlavorListError}
    (hcut : LabelParts.cut s = .ok parts) (hcell : CellName.ofLabel parts.cell = .ok c)
    (hf : parts.flavors = some text) (h : FlavorSet.parse text = .error e) :
    parse s = .error (.flavors e) := by
  simp [parse, hcut, hcell, hf, h, bind, Except.bind]

/-- Once the cell and the flavors pass, the reader checks the package and then the name; the
flavors it has read are those whose texts the list holds. -/
theorem parse_of_flavors_pass (hcut : LabelParts.cut s = .ok parts)
    (hcell : CellName.ofLabel parts.cell = .ok c) (hfl : ∀ f ∈ parts.flavorTexts, Flavor.IsTag f) :
    ∃ fl : FlavorSet, (∀ f, f ∈ fl.toList ↔ f.tag ∈ parts.flavorTexts) ∧
      parse s = ((PackagePath.ofString parts.package).mapError .package >>= fun package =>
        (TargetName.ofString parts.name).mapError .name >>= fun name =>
          pure ⟨c, package, name, fl⟩) := by
  obtain ⟨cell, package, name, flavors⟩ := parts
  cases flavors with
  | none =>
    refine ⟨FlavorSet.empty, fun f => by simp [FlavorSet.empty, LabelParts.flavorTexts], ?_⟩
    simp [parse, hcut, hcell, bind, Except.bind, pure, Except.pure]
  | some text =>
    obtain ⟨fs, hfs⟩ := FlavorSet.exists_map_tag hfl
    have hread : FlavorSet.parse text = .ok (FlavorSet.ofList fs) :=
      FlavorSet.parse_eq_ok_iff.2 ⟨FlavorSet.ne_empty_of_checked hfl, hfl,
        FlavorSet.mem_ofList_iff_tag_mem hfs⟩
    refine ⟨FlavorSet.ofList fs, FlavorSet.mem_ofList_iff_tag_mem hfs, ?_⟩
    simp [parse, hcut, hcell, hread, bind, Except.bind]

theorem parse_of_package_error {e : PackagePathError} (hcut : LabelParts.cut s = .ok parts)
    (hcell : CellName.ofLabel parts.cell = .ok c) (hfl : ∀ f ∈ parts.flavorTexts, Flavor.IsTag f)
    (h : PackagePath.ofString parts.package = .error e) : parse s = .error (.package e) := by
  obtain ⟨_, -, hparse⟩ := parse_of_flavors_pass hcut hcell hfl
  rw [hparse]
  simp [h, bind, Except.bind]

theorem parse_of_name_error {e : TargetNameError} (hcut : LabelParts.cut s = .ok parts)
    (hcell : CellName.ofLabel parts.cell = .ok c) (hfl : ∀ f ∈ parts.flavorTexts, Flavor.IsTag f)
    (hp : PackagePath.IsText parts.package) (h : TargetName.ofString parts.name = .error e) :
    parse s = .error (.name e) := by
  obtain ⟨_, -, hparse⟩ := parse_of_flavors_pass hcut hcell hfl
  rw [hparse]
  simp [PackagePath.ofString_of_isText hp, h, bind, Except.bind]

/-- A text cut into parts that pass every check is read as the target the parts name. -/
theorem parse_of_spelling (hcut : LabelParts.Cut s parts)
    (hsp : Spelling parts.cell parts.package parts.name parts.flavorTexts) :
    ∃ t, parse s = .ok t ∧ parts.Names t := by
  obtain ⟨c, hcell⟩ := CellName.exists_ofLabel_eq_ok hsp.cell
  obtain ⟨fl, hfl, hparse⟩ :=
    parse_of_flavors_pass (LabelParts.cut_eq_ok_iff.2 hcut) hcell hsp.flavors
  refine ⟨⟨c, ⟨_, hsp.package⟩, ⟨_, hsp.name⟩, fl⟩, ?_,
    ⟨(CellName.ofLabel_eq_ok_iff.1 hcell).2, rfl, rfl, hfl⟩⟩
  rw [hparse]
  simp [PackagePath.ofString_of_isText hsp.package, TargetName.ofString_of_isName hsp.name,
    bind, Except.bind, pure, Except.pure]

theorem parse_of_refusal {e : TargetParseError} (h : ParseRefusal s e) : parse s = .error e := by
  cases h with
  | notQualified hno =>
    exact parse_of_cut_error (LabelParts.cut_eq_error_iff.2 (.inl ⟨rfl, hno⟩))
  | noColon hc hr =>
    exact parse_of_cut_error (LabelParts.cut_eq_error_iff.2 (.inr ⟨rfl, _, _, hc, hr⟩))
  | cell hcut h0 he =>
    exact parse_of_cell_error (LabelParts.cut_eq_ok_iff.2 hcut)
      (CellName.ofLabel_eq_error_iff.2 ⟨h0, he⟩)
  | flavors hcut hcell hf he =>
    obtain ⟨_, hc⟩ := CellName.exists_ofLabel_eq_ok hcell
    exact parse_of_flavors_error (LabelParts.cut_eq_ok_iff.2 hcut) hc hf
      (FlavorSet.parse_eq_error_iff.2 he)
  | package hcut hcell hfl he =>
    obtain ⟨_, hc⟩ := CellName.exists_ofLabel_eq_ok hcell
    exact parse_of_package_error (LabelParts.cut_eq_ok_iff.2 hcut) hc hfl he
  | name hcut hcell hfl hp he =>
    obtain ⟨_, hc⟩ := CellName.exists_ofLabel_eq_ok hcell
    exact parse_of_name_error (LabelParts.cut_eq_ok_iff.2 hcut) hc hfl hp he

/-- Every text is cut into parts that pass every check, or is refused at some stage. -/
theorem spelling_or_refusal (s : String) :
    (∃ parts, LabelParts.Cut s parts ∧
      Spelling parts.cell parts.package parts.name parts.flavorTexts) ∨
      ∃ e, ParseRefusal s e := by
  cases hcut : LabelParts.cut s with
  | error e =>
    refine .inr ⟨e, ?_⟩
    rcases LabelParts.cut_eq_error_iff.1 hcut with ⟨rfl, hno⟩ | ⟨rfl, c, r, hc, hr⟩
    · exact .notQualified hno
    · exact .noColon hc hr
  | ok parts =>
    have hc := LabelParts.cut_eq_ok_iff.1 hcut
    -- The stages in the reader's order: the first that fails gives the refusal.
    cases hcell : CellName.ofLabel parts.cell with
    | error e =>
      obtain ⟨h0, he⟩ := CellName.ofLabel_eq_error_iff.1 hcell
      exact .inr ⟨_, .cell hc h0 he⟩
    | ok cell =>
      have hcell' := (CellName.ofLabel_eq_ok_iff.1 hcell).1
      rcases LabelParts.flavors_checked_or_refusal parts with hfl | ⟨text, e, hf, he⟩
      · cases hp : PackagePath.ofString parts.package with
        | error e => exact .inr ⟨_, .package hc hcell' hfl hp⟩
        | ok p =>
          have hp' := (PackagePath.ofString_eq_ok_iff.1 hp).1
          cases hn : TargetName.ofString parts.name with
          | error e => exact .inr ⟨_, .name hc hcell' hfl hp' hn⟩
          | ok n =>
            exact .inl ⟨parts, hc, ⟨hcell', hc.package, hp', (TargetName.ofString_eq_ok_iff.1 hn).1,
              hfl⟩⟩
      · exact .inr ⟨_, .flavors hc hcell' hf he⟩

/-- **A text is read exactly when it is cut into parts that pass every check**, and it is read
as the target that the parts name. -/
theorem parse_eq_ok_iff {t : Target} :
    parse s = .ok t ↔ ∃ parts, LabelParts.Cut s parts ∧
      Spelling parts.cell parts.package parts.name parts.flavorTexts ∧ parts.Names t := by
  constructor
  · intro h
    rcases spelling_or_refusal s with ⟨parts, hc, hsp⟩ | ⟨e, he⟩
    · obtain ⟨t', ht', hnames⟩ := parse_of_spelling hc hsp
      rw [ht'] at h
      exact ⟨parts, hc, hsp, Except.ok.inj h ▸ hnames⟩
    · rw [parse_of_refusal he] at h
      cases h
  · rintro ⟨parts, hc, hsp, hnames⟩
    obtain ⟨t', ht', hnames'⟩ := parse_of_spelling hc hsp
    rw [ht', hnames'.unique hnames]

/-- **A text is refused for its first failing stage.** -/
theorem parse_eq_error_iff {e : TargetParseError} : parse s = .error e ↔ ParseRefusal s e := by
  constructor
  · intro h
    rcases spelling_or_refusal s with ⟨parts, hc, hsp⟩ | ⟨e', he⟩
    · obtain ⟨t, ht, -⟩ := parse_of_spelling hc hsp
      rw [ht] at h
      cases h
    · rw [parse_of_refusal he] at h
      rwa [← Except.error.inj h]
  · exact parse_of_refusal

end Runs

end Target

/-! ## Labels as spelled -/

/-- The label of a cell, a package, a name and flavors: `cell//package:name`, and then `#` and
the flavors joined by commas when there are any. -/
def Target.labelText (cell package name : String) (flavors : List String) : String :=
  cell ++ "//" ++ package ++ ":" ++ name ++
    (if flavors = [] then "" else "#" ++ ",".intercalate flavors)

/-- A target prints as the label of its parts, with its flavors in the order the set keeps. -/
theorem Target.display_eq_labelText (t : Target) :
    t.display =
      labelText t.cell.text t.package.text t.name.text (t.flavors.toList.map Flavor.tag) := by
  unfold display labelText FlavorSet.display FlavorSet.join FlavorSet.isEmpty
  cases h : t.flavors.toList <;> simp [String.append_assoc]

theorem LabelParts.tail_eq (parts : LabelParts) :
    parts.tail =
      if parts.flavorTexts = [] then "" else "#" ++ ",".intercalate parts.flavorTexts := by
  obtain ⟨cell, package, name, flavors⟩ := parts
  cases flavors with
  | none => rfl
  | some f =>
    have hne : Text.splitOnChar ',' f ≠ [] := by
      simp [Text.splitOnChar]
    simp only [LabelParts.tail, LabelParts.flavorTexts, hne, if_false]
    rw [show ("," : String) = String.singleton ',' from rfl, Text.intercalate_splitOnChar]

/-- A cut text is the label of its parts. -/
theorem LabelParts.Cut.eq_labelText {s : String} {parts : LabelParts} (h : LabelParts.Cut s parts) :
    s = Target.labelText parts.cell parts.package parts.name parts.flavorTexts := by
  rw [h.cell.eq, LabelParts.tail_eq]
  simp only [Target.labelText, String.append_assoc]

namespace Target

/-- The parts of a spelled label: the flavor text is there when the list is not empty. -/
def spellingParts (cell package name : String) (flavors : List String) : LabelParts :=
  ⟨cell, package, name, if flavors = [] then none else some (",".intercalate flavors)⟩

/-- Flavors joined by commas are cut back into themselves. -/
theorem flavorTexts_spellingParts (cell package name : String) {flavors : List String}
    (hf : ∀ f ∈ flavors, Flavor.IsTag f) :
    (spellingParts cell package name flavors).flavorTexts = flavors := by
  by_cases h0 : flavors = []
  · simp [spellingParts, LabelParts.flavorTexts, h0]
  · simp only [spellingParts, LabelParts.flavorTexts, h0, if_false]
    rw [show ("," : String) = String.singleton ',' from rfl]
    exact Text.splitOnChar_intercalate h0 fun f hf' hc => (hf f hf').2.1 ',' hc (by decide)

/-- A spelled label is cut into its parts: the cell holds no `/`, the package no `:` and the name
no `#`. -/
theorem cut_spellingParts {cell package name : String} {flavors : List String}
    (h : Spelling cell package name flavors) :
    LabelParts.Cut (labelText cell package name flavors)
      (spellingParts cell package name flavors) := by
  have hslash : '/' ∉ cell.toList := by
    rcases h.cell with rfl | hc
    · simp
    · exact fun hs => by simpa [CellName.isForbidden] using hc.2 '/' hs
  have hname : '#' ∉ name.toList := fun hc => h.name.2 '#' hc (by decide)
  have htexts := flavorTexts_spellingParts cell package name h.flavors
  refine ⟨?_, h.colon, hname⟩
  rw [← Text.splitFirst_eq_some_iff]
  have hlabel : labelText cell package name flavors =
      cell ++ "//" ++
        (package ++ ":" ++ name ++ (spellingParts cell package name flavors).tail) := by
    rw [LabelParts.tail_eq, htexts]
    simp only [labelText, String.append_assoc]
  rw [hlabel, Text.splitFirst_append (show ("//" : String).toList = '/' :: ['/'] from rfl) hslash]
  rfl

/-- **The grammar of labels.** A text is read exactly when it is `cell//package:name`, with `#`
and comma-separated flavors after it when there are any, where the cell is empty or the name of
a cell, the package holds no `:` and is the text of a package path, the name is a target name
and every flavor is the text of a flavor. It is then read as the target with those parts, the
empty cell being the root cell (the only cell with the empty text) and the flavors being the
set of the listed ones, and that target prints as the same label with its flavors in order,
each once; the order of texts is that of their UTF-8 bytes (`Text.lt_iff_bytes_lt`). Every other
text is refused for its first failing stage, and a flavor in the list is refused for `#`, `/` or
`:`, before any blank. -/
theorem parse_grammar (s : String) :
    (∀ t, parse s = .ok t ↔ ∃ c p n fs, Spelling c p n fs ∧ s = labelText c p n fs ∧
        t.cell.text = c ∧ t.package.text = p ∧ t.name.text = n ∧
        (∀ f, f ∈ t.flavors.toList ↔ f.tag ∈ fs) ∧
        ∃ gs : List String, gs.Pairwise (· < ·) ∧ (∀ g, g ∈ gs ↔ g ∈ fs) ∧
          t.display = labelText c p n gs) ∧
    (∀ e, parse s = .error e ↔ ParseRefusal s e) ∧
    (∀ x c, parse s = .error (.flavors (.flavor (.reserved x c))) → c ∈ ['#', '/', ':']) := by
  refine ⟨fun t => ?_, fun e => parse_eq_error_iff, fun x c h => ?_⟩
  · rw [parse_eq_ok_iff]
    constructor
    · rintro ⟨parts, hc, hsp, hnames⟩
      refine ⟨_, _, _, _, hsp, hc.eq_labelText, hnames.cell, hnames.package, hnames.name,
        hnames.flavors, t.flavors.toList.map Flavor.tag, t.flavors.sorted.map _ fun _ _ h => h,
        fun g => ?_, ?_⟩
      · -- A listed text is the text of a flavor, and so of a member.
        constructor
        · intro hg
          obtain ⟨f, hf, rfl⟩ := List.mem_map.1 hg
          exact (hnames.flavors f).1 hf
        · intro hg
          exact List.mem_map.2 ⟨⟨g, hsp.flavors g hg⟩, (hnames.flavors _).2 hg, rfl⟩
      · rw [display_eq_labelText, hnames.cell, hnames.package, hnames.name]
    · rintro ⟨c, p, n, fs, hsp, rfl, hcell, hpk, hn, hfl, -⟩
      have htexts := flavorTexts_spellingParts c p n hsp.flavors
      refine ⟨spellingParts c p n fs, cut_spellingParts hsp, ?_, ⟨hcell, hpk, hn, ?_⟩⟩
      · rw [htexts]
        exact hsp
      · rw [htexts]
        exact hfl
  · cases parse_eq_error_iff.1 h with
    | flavors _ _ _ he => exact he.reserved_mem

/-- The label cell//a/b:c#y,x,y is read as the target of its parts, with the set of the flavors
y and x, and that target prints with them in order and once. -/
theorem parse_grammar_flavored :
    parse "cell//a/b:c#y,x,y" =
      .ok ⟨.named "cell" (by decide), ⟨"a/b", by decide⟩, ⟨"c", by decide⟩,
        FlavorSet.ofList [⟨"y", by decide⟩, ⟨"x", by decide⟩, ⟨"y", by decide⟩]⟩ :=
  ((parse_grammar _).1 _).2 ⟨"cell", "a/b", "c", ["y", "x", "y"],
    ⟨.inr (by decide), by decide, by decide +kernel, by decide, fun f hf => by
      simp only [List.mem_cons, List.not_mem_nil, or_false] at hf
      rcases hf with rfl | rfl | rfl <;> decide⟩,
    by decide +kernel, rfl, rfl, rfl, fun f => FlavorSet.mem_ofList_iff_tag_mem rfl f, ["x", "y"],
    by decide +kernel, fun g => by
      simp only [List.mem_cons, List.not_mem_nil, or_false]
      grind, by decide +kernel⟩

end Target

end BuildTargets
