import BuildTargets.Proofs.Cell.Relativize

/-!
# Which directories name a package, and why the others do not

`PackagePath.ofPath` walks the components of a directory and then checks the names it has
collected, joined by `/`, as a written package path. The walk passes over the current directory
and stops at the first component that no package path can come from (`Component.blocks`): the
root, which makes the directory absolute; the parent directory, which makes it not normalized;
and a name that is not text, which is not UTF-8. Each of these refusals shows the whole
directory.

Only a directory that passes the walk reaches the written check, and there only a backslash can
refuse it. The names of a path are never empty, `.` or `..` and hold no slash, so the joined
text never starts with `/` and never has a bad segment: two of the written check's refusals
cannot happen after the walk.

`Cell.relativize` hands a relative directory to the walk as it is. An absolute one must start
with the components of the cell root, and what is left of it after them goes to the walk.

Principal results:

* `PackagePath.names_eq` — the walk fails at its first blocking component, and otherwise gives
  the names of the directory;
* `PackagePath.ofString_intercalate` — names joined by `/` are refused only for a backslash;
* `Cell.directory_package_or_refusal` — which directories name a package, which package, and
  the error for every other directory, also through `Cell.relativize`.
-/

namespace BuildTargets

namespace Text

theorem mem_intercalate_of_ne {α : Type} {x y : α} (hy : y ≠ x) (l : List (List α)) :
    y ∈ List.intercalate [x] l ↔ ∃ s ∈ l, y ∈ s := by
  induction l with
  | nil => simp
  | cons s l ih =>
    cases l with
    | nil => simp
    | cons t l =>
      rw [List.intercalate_cons_cons]
      simp [ih, hy]

/-- A character other than `/` stands in texts joined by `/` exactly when it stands in one of
them. -/
theorem mem_intercalate_slash {c : Char} (hc : c ≠ '/') (ns : List String) :
    c ∈ ("/".intercalate ns).toList ↔ ∃ s ∈ ns, c ∈ s.toList := by
  rw [String.toList_intercalate]
  simpa using mem_intercalate_of_ne hc (ns.map String.toList)

end Text

namespace Component

/-- A component that no package path can come from: the root, the parent directory, and a name
that is not text. -/
def blocks : Component → Bool
  | .root | .parent => true
  | .normal n => (Text.toString? n).isNone
  | .current => false

/-- The error that refuses a directory, shown as `shown`, at a component that blocks it. -/
def blockError (shown : String) : Component → PackagePathError
  | .root => .absolute shown
  | .parent => .notNormalized shown
  | .normal _ | .current => .notUtf8 shown

/-- The text of a name. -/
def name? : Component → Option String
  | .normal n => Text.toString? n
  | .root | .parent | .current => none

end Component

/-- The text names of a directory, joined by `/`: what the walk hands to the written check. -/
def FsPath.joinedNames (d : FsPath) : String :=
  "/".intercalate (d.components.filterMap Component.name?)

namespace FsPath

/-- A name among a path's components is a piece that reads as itself. -/
theorem classify_of_normal_mem {p : FsPath} {n : List Text.Chunk}
    (h : .normal n ∈ p.components) : classify n = some (.normal n) := by
  rw [components_eq] at h
  rcases List.mem_append.1 h with h | h
  · cases hl : p.layout.1 <;> simp [hl, Lead.component?] at h
  · obtain ⟨x, -, hx⟩ := List.mem_filterMap.1 h
    obtain ⟨rfl, -⟩ := classify_eq_normal_iff.1 hx
    exact hx

end FsPath

namespace PackagePath

/-! ## The walk over the components -/

/-- **The walk stops at the first blocking component**, and otherwise gives the text names. -/
theorem names_eq (shown : String) (cs : List Component) :
    names shown cs = match cs.find? Component.blocks with
      | some c => .error (c.blockError shown)
      | none => .ok (cs.filterMap Component.name?) := by
  induction cs with
  | nil => rfl
  | cons c cs ih =>
    cases c with
    | root => rfl
    | parent => rfl
    | current =>
      rw [List.filterMap_cons_none rfl, List.find?_cons_of_neg (by simp [Component.blocks])]
      exact ih
    | normal n =>
      cases hn : Text.toString? n with
      | none => simp [names, hn, Component.blocks, Component.blockError]
      | some s =>
        simp only [names, hn, List.find?_cons, Component.blocks, Option.isNone_some,
          List.filterMap_cons, Component.name?, ih]
        cases cs.find? Component.blocks <;> rfl

theorem ofPath_eq (d : FsPath) :
    ofPath d = match d.components.find? Component.blocks with
      | some c => .error (c.blockError d.display)
      | none => ofString d.joinedNames := by
  unfold ofPath
  rw [names_eq]
  cases d.components.find? Component.blocks <;> rfl

/-- The names of a directory are proper segments without slash. -/
theorem segment_of_mem_names {d : FsPath} {s : String}
    (h : s ∈ d.components.filterMap Component.name?) :
    isBadSegment s = false ∧ '/' ∉ s.toList := by
  obtain ⟨c, hc, hs⟩ := List.mem_filterMap.1 h
  cases c with
  | normal n =>
    have hn : n = Text.ofString s := Text.toString?_eq_some_iff.1 hs
    subst hn
    refine ⟨classify_segment_iff.1 (FsPath.classify_of_normal_mem hc), fun hslash => ?_⟩
    exact (FsPath.normal_mem_components hc).2 (List.mem_map.2 ⟨'/', hslash, rfl⟩)
  | root | parent | current => cases hs

/-! ## The written check of the joined names -/

/-- **Proper segments joined by `/` are refused only for a backslash.** The text does not start
with `/`, and its segments are the ones joined, none of them empty, `.` or `..`. -/
theorem ofString_intercalate {ns : List String}
    (hns : ∀ s ∈ ns, isBadSegment s = false ∧ '/' ∉ s.toList) :
    (ofString ("/".intercalate ns)).map text =
      if '\\' ∈ ("/".intercalate ns).toList then .error (.backslash ("/".intercalate ns))
      else .ok ("/".intercalate ns) := by
  rcases ns with _ | ⟨a, rest⟩
  · rfl
  · have ha := hns a List.mem_cons_self
    have hfirst : a.toList ≠ [] := by
      have hgood := ha.1
      simp only [isBadSegment, Bool.or_eq_false_iff, String.isEmpty_eq_false_iff] at hgood
      simpa using hgood.1.1
    obtain ⟨c, cs, hc⟩ := List.exists_cons_of_ne_nil hfirst
    -- The joined text starts with the first segment, whose first character is no `/`.
    obtain ⟨t, ht⟩ : ∃ t, ("/".intercalate (a :: rest)).toList = a.toList ++ t := by
      rcases rest with _ | ⟨b, rest⟩
      · exact ⟨[], by simp⟩
      · refine ⟨("/" ++ "/".intercalate (b :: rest)).toList, ?_⟩
        rw [String.intercalate_cons_of_ne_nil (List.cons_ne_nil _ _), String.append_assoc,
          String.toList_append]
    have hc' : c ≠ '/' := fun h => ha.2 (by simp [hc, h])
    have habs : ¬ ("/".intercalate (a :: rest)).startsWith "/" = true := by
      rw [Text.startsWith_slash_iff, ht, hc]
      simpa using hc'
    have hsplit : Text.splitOnChar '/' ("/".intercalate (a :: rest)) = a :: rest :=
      Text.splitOnChar_intercalate (List.cons_ne_nil _ _) fun s hs => (hns s hs).2
    unfold ofString
    rw [if_neg (by simp [← String.toList_eq_nil_iff, ht, hc]), dif_neg habs]
    by_cases hb : '\\' ∈ ("/".intercalate (a :: rest)).toList
    · rw [dif_pos (List.contains_iff_mem.2 hb), if_pos hb]
      rfl
    · have hgood : ¬ (Text.splitOnChar '/' ("/".intercalate (a :: rest))).any isBadSegment =
          true := by
        rw [hsplit]
        simpa using fun s hs => (hns s hs).1
      rw [dif_neg (by simpa using hb), dif_neg hgood, if_neg hb]
      rfl

/-- The written check of a directory's joined names refuses them only for a backslash. -/
theorem ofString_joinedNames (d : FsPath) :
    (ofString d.joinedNames).map text =
      if '\\' ∈ d.joinedNames.toList then .error (.backslash d.joinedNames)
      else .ok d.joinedNames :=
  ofString_intercalate fun _ hs => segment_of_mem_names hs

theorem ofString_joinedNames_eq_ok_iff {d : FsPath} {P : PackagePath} :
    ofString d.joinedNames = .ok P ↔
      '\\' ∉ d.joinedNames.toList ∧ P.text = d.joinedNames := by
  have hj := ofString_joinedNames d
  cases hx : ofString d.joinedNames with
  | error e =>
    rw [hx] at hj
    simp only [reduceCtorEq, false_iff, not_and]
    intro hb
    rw [if_neg hb] at hj
    cases hj
  | ok Q =>
    rw [hx] at hj
    split at hj
    · cases hj
    · rename_i hb
      have hQ : Q.text = d.joinedNames := Except.ok.inj hj
      rw [Except.ok.injEq]
      exact ⟨fun h => ⟨hb, h ▸ hQ⟩, fun h => PackagePath.ext (hQ.trans h.2.symm)⟩

theorem ofString_joinedNames_eq_error_iff {d : FsPath} {e : PackagePathError} :
    ofString d.joinedNames = .error e ↔
      '\\' ∈ d.joinedNames.toList ∧ e = .backslash d.joinedNames := by
  have hj := ofString_joinedNames d
  cases hx : ofString d.joinedNames with
  | error e' =>
    rw [hx] at hj
    split at hj
    · rename_i hb
      have he : e' = .backslash d.joinedNames := Except.error.inj hj
      rw [Except.error.injEq]
      exact ⟨fun h => ⟨hb, h ▸ he⟩, fun h => he.trans h.2.symm⟩
    · cases hj
  | ok Q =>
    rw [hx] at hj
    simp only [reduceCtorEq, false_iff, not_and]
    intro hb
    rw [if_pos hb] at hj
    cases hj

/-! ## Directories that name a package -/

/-- The names of a directory are the texts of its text names. -/
theorem mem_names_iff {d : FsPath} {s : String} :
    s ∈ d.components.filterMap Component.name? ↔
      .normal (Text.ofString s) ∈ d.components := by
  rw [List.mem_filterMap]
  constructor
  · rintro ⟨c, hc, hs⟩
    cases c with
    | normal n => rwa [← Text.toString?_eq_some_iff.1 hs]
    | root | parent | current => cases hs
  · intro h
    exact ⟨_, h, Text.toString?_eq_some_iff.2 rfl⟩

/-- A backslash stands in the joined names exactly when it stands in a text name. -/
theorem backslash_mem_joinedNames_iff {d : FsPath} :
    '\\' ∈ d.joinedNames.toList ↔
      ∃ s, .normal (Text.ofString s) ∈ d.components ∧ '\\' ∈ s.toList := by
  rw [FsPath.joinedNames, Text.mem_intercalate_slash (by decide)]
  simp only [mem_names_iff]

/-- A directory has no blocking component and no backslash in its names exactly when it has no
root and no parent directory, and every name is text without backslash. -/
theorem admissible_iff {d : FsPath} :
    (.root ∉ d.components ∧ .parent ∉ d.components ∧
      ∀ n, .normal n ∈ d.components → ∃ s, n = Text.ofString s ∧ '\\' ∉ s.toList) ↔
    (∀ x ∈ d.components, x.blocks = false) ∧ '\\' ∉ d.joinedNames.toList := by
  rw [backslash_mem_joinedNames_iff]
  constructor
  · rintro ⟨hroot, hparent, hnames⟩
    refine ⟨fun x hx => ?_, fun ⟨s, hs, hb⟩ => ?_⟩
    · cases x with
      | root => exact absurd hx hroot
      | parent => exact absurd hx hparent
      | current => rfl
      | normal n =>
        obtain ⟨s, rfl, -⟩ := hnames n hx
        simp [Component.blocks, Text.toString?_eq_some_iff.2 rfl]
    · obtain ⟨t, hst, ht⟩ := hnames _ hs
      rw [Text.ofString_inj.1 hst] at hb
      exact ht hb
  · rintro ⟨hall, hback⟩
    refine ⟨fun h => by simpa [Component.blocks] using hall _ h,
      fun h => by simpa [Component.blocks] using hall _ h, fun n hn => ?_⟩
    obtain ⟨s, hs⟩ := Option.isSome_iff_exists.1
      (by simpa [Component.blocks] using hall _ hn : (Text.toString? n).isSome)
    obtain rfl := Text.toString?_eq_some_iff.1 hs
    exact ⟨s, rfl, fun hb => hback ⟨s, hn, hb⟩⟩

/-- A component found first by `find?` is the one after a stretch that does not block. -/
theorem find?_blocks_eq_some_iff {cs : List Component} {x : Component} :
    cs.find? Component.blocks = some x ↔
      ∃ pre post, cs = pre ++ x :: post ∧ (∀ y ∈ pre, y.blocks = false) ∧
        x.blocks = true := by
  rw [List.find?_eq_some_iff_append]
  simp only [Bool.not_eq_true']
  constructor
  · rintro ⟨hx, pre, post, rfl, hpre⟩
    exact ⟨pre, post, rfl, hpre, hx⟩
  · rintro ⟨pre, post, rfl, hpre, hx⟩
    exact ⟨hx, pre, post, rfl, hpre⟩

/-- No component blocks exactly when `find?` finds none. -/
theorem find?_blocks_eq_none_iff {cs : List Component} :
    cs.find? Component.blocks = none ↔ ∀ x ∈ cs, x.blocks = false := by
  simp

/-- **The directories that name a package, and the package they name.** -/
theorem ofPath_eq_ok_iff_admissible {d : FsPath} {P : PackagePath} :
    ofPath d = .ok P ↔
      (.root ∉ d.components ∧ .parent ∉ d.components ∧
        ∀ n, .normal n ∈ d.components → ∃ s, n = Text.ofString s ∧ '\\' ∉ s.toList) ∧
      P.text = d.joinedNames := by
  rw [ofPath_eq, admissible_iff]
  cases hf : d.components.find? Component.blocks with
  | some c =>
    have hc : c.blocks = true := List.find?_some hf
    simp only [reduceCtorEq, false_iff]
    rintro ⟨⟨hall, -⟩, -⟩
    simp [hall c (List.mem_of_find?_eq_some hf)] at hc
  | none =>
    have hall := find?_blocks_eq_none_iff.1 hf
    rw [ofString_joinedNames_eq_ok_iff]
    exact ⟨fun ⟨hb, hP⟩ => ⟨⟨hall, hb⟩, hP⟩, fun ⟨⟨_, hb⟩, hP⟩ => ⟨hb, hP⟩⟩

/-- **The first blocking component decides the error**, over the whole directory; only a
directory without one is refused for a backslash, over its joined names. -/
theorem ofPath_eq_error_iff {d : FsPath} {e : PackagePathError} :
    ofPath d = .error e ↔
      (∃ pre x post, d.components = pre ++ x :: post ∧ (∀ y ∈ pre, y.blocks = false) ∧
        x.blocks = true ∧ e = x.blockError d.display) ∨
      ((∀ y ∈ d.components, y.blocks = false) ∧ '\\' ∈ d.joinedNames.toList ∧
        e = .backslash d.joinedNames) := by
  rw [ofPath_eq]
  cases hf : d.components.find? Component.blocks with
  | some c =>
    obtain ⟨pre, post, hcs, hpre, hc⟩ := find?_blocks_eq_some_iff.1 hf
    simp only [Except.error.injEq]
    constructor
    · rintro rfl
      exact .inl ⟨pre, c, post, hcs, hpre, hc, rfl⟩
    · rintro (⟨pre', x, post', hcs', hpre', hx, rfl⟩ | ⟨hall, -⟩)
      · -- Any first blocking component is the one `find?` gives.
        have hfx := find?_blocks_eq_some_iff.2 ⟨pre', post', hcs', hpre', hx⟩
        rw [hf] at hfx
        cases hfx
        rfl
      · simp [hall c (List.mem_of_find?_eq_some hf)] at hc
  | none =>
    have hall := find?_blocks_eq_none_iff.1 hf
    have hfirst : ¬ ∃ pre x post, d.components = pre ++ x :: post ∧
        (∀ y ∈ pre, y.blocks = false) ∧ x.blocks = true ∧ e = x.blockError d.display := by
      rintro ⟨pre, x, post, hcs, -, hx, -⟩
      simp [hall x (hcs ▸ List.mem_append_right _ List.mem_cons_self)] at hx
    rw [ofString_joinedNames_eq_error_iff]
    constructor
    · rintro ⟨hb, rfl⟩
      exact .inr ⟨hall, hb, rfl⟩
    · rintro (hfx | ⟨-, hb, rfl⟩)
      · exact absurd hfx hfirst
      · exact ⟨hb, rfl⟩

/-- **After the walk, the written check never refuses the names as absolute or not
normalized.** -/
theorem ofString_names_ne {d : FsPath} {ns : List String}
    (h : names d.display d.components = .ok ns) (x : String) :
    ofString ("/".intercalate ns) ≠ .error (.absolute x) ∧
      ofString ("/".intercalate ns) ≠ .error (.notNormalized x) := by
  rw [names_eq] at h
  cases hf : d.components.find? Component.blocks with
  | some c => simp [hf] at h
  | none =>
    simp only [hf, Except.ok.injEq] at h
    subst h
    rw [← FsPath.joinedNames]
    constructor <;> intro he <;> cases (ofString_joinedNames_eq_error_iff.1 he).2

end PackagePath

namespace Cell

variable {c : Cell} {d : FsPath}

/-- A relative directory goes to the walk as it is. -/
theorem relativize_of_relative (h : d.isAbsolute = false) :
    c.relativize d = (PackagePath.ofPath d).mapError .package := by
  unfold relativize
  rw [if_neg (by simp [h])]

/-- An absolute directory is refused as lying outside the cell exactly when the root's
components do not start it; the refusal shows the directory, the root and the cell. -/
theorem relativize_eq_notUnderRoot_iff (h : d.isAbsolute = true) {dir : String}
    {root : AbsPath} {name : CellName} :
    c.relativize d = .error (.notUnderRoot dir root name) ↔
      ¬ c.root.toPath.components <+: d.components ∧ dir = d.display ∧ root = c.root ∧
        name = c.name := by
  unfold relativize
  rw [if_pos h]
  cases hs : d.stripPrefix? c.root.toPath with
  | none =>
    have hpre := (FsPath.stripPrefix?_eq_none_iff _ _).1 hs
    simp only [Except.error.injEq, RelativizeError.notUnderRoot.injEq, hpre, not_false_eq_true,
      true_and]
    constructor <;> rintro ⟨rfl, rfl, rfl⟩ <;> exact ⟨rfl, rfl, rfl⟩
  | some r =>
    -- Under the root, whatever the walk answers is no refusal of this kind.
    have hpre : c.root.toPath.components <+: d.components :=
      Classical.byContradiction fun hn => by
        rw [(FsPath.stripPrefix?_eq_none_iff _ _).2 hn] at hs
        cases hs
    cases hr : PackagePath.ofPath r <;> simp [hr, hpre]

/-- Under the root, what is left of an absolute directory after the root's components goes to
the walk. -/
theorem relativize_of_isPrefix (h : d.isAbsolute = true)
    (hpre : c.root.toPath.components <+: d.components) :
    ∃ r, d.stripPrefix? c.root.toPath = some r ∧
      r.components = d.components.drop c.root.toPath.components.length ∧
      c.relativize d = (PackagePath.ofPath r).mapError .package := by
  cases hs : d.stripPrefix? c.root.toPath with
  | none => exact absurd hpre ((FsPath.stripPrefix?_eq_none_iff _ _).1 hs)
  | some r =>
    refine ⟨r, rfl, FsPath.components_stripPrefix? hs, ?_⟩
    unfold relativize
    rw [if_pos h, hs]

/-- **Which directories name a package, and the error for every other one.** A directory names
a package exactly when it has no root and no parent directory and its names are text without
backslash; the package is the names joined by `/`, the current directory passed over. Otherwise
the first root, parent directory or name that is not text decides the error, over the whole
directory, and only a directory without one is refused for a backslash, over its joined names:
the written check never refuses them as absolute or not normalized. A cell reads a relative
directory so; an absolute one is refused as outside the cell exactly when the root's components
do not start it, and otherwise what is left after them is read so. -/
theorem directory_package_or_refusal (c : Cell) (d : FsPath) :
    (∀ P, PackagePath.ofPath d = .ok P ↔
      (.root ∉ d.components ∧ .parent ∉ d.components ∧
        ∀ n, .normal n ∈ d.components → ∃ s, n = Text.ofString s ∧ '\\' ∉ s.toList) ∧
      P.text = d.joinedNames) ∧
    (∀ e, PackagePath.ofPath d = .error e ↔
      (∃ pre x post, d.components = pre ++ x :: post ∧ (∀ y ∈ pre, y.blocks = false) ∧
        x.blocks = true ∧ e = x.blockError d.display) ∨
      ((∀ y ∈ d.components, y.blocks = false) ∧ '\\' ∈ d.joinedNames.toList ∧
        e = .backslash d.joinedNames)) ∧
    (∀ ns, PackagePath.names d.display d.components = .ok ns → ∀ x,
      PackagePath.ofString ("/".intercalate ns) ≠ .error (.absolute x) ∧
        PackagePath.ofString ("/".intercalate ns) ≠ .error (.notNormalized x)) ∧
    (d.isAbsolute = false → c.relativize d = (PackagePath.ofPath d).mapError .package) ∧
    (d.isAbsolute = true →
      (∀ dir root name, c.relativize d = .error (.notUnderRoot dir root name) ↔
        ¬ c.root.toPath.components <+: d.components ∧ dir = d.display ∧ root = c.root ∧
          name = c.name) ∧
      (c.root.toPath.components <+: d.components →
        ∃ r, d.stripPrefix? c.root.toPath = some r ∧
          r.components = d.components.drop c.root.toPath.components.length ∧
          c.relativize d = (PackagePath.ofPath r).mapError .package)) :=
  ⟨fun _ => PackagePath.ofPath_eq_ok_iff_admissible, fun _ => PackagePath.ofPath_eq_error_iff,
    fun _ h => PackagePath.ofString_names_ne h, relativize_of_relative,
    fun h => ⟨fun _ _ _ => relativize_eq_notUnderRoot_iff h, relativize_of_isPrefix h⟩⟩

/-- The directory `/elsewhere/a` lies outside the testing cell rooted at `/repo`. -/
theorem directory_outside_testing_root :
    (FsPath.ofString "/elsewhere/a").isAbsolute = true ∧
      testingRoot.relativize (FsPath.ofString "/elsewhere/a") =
        .error (.notUnderRoot "/elsewhere/a" testingRoot.root CellName.root) :=
  ⟨by decide +kernel,
    (((directory_package_or_refusal testingRoot _).2.2.2.2 (by decide +kernel)).1 _ _ _).2
      ⟨by decide +kernel, by decide +kernel, rfl, rfl⟩⟩

end Cell

end BuildTargets
