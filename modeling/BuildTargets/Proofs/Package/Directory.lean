import BuildTargets.Proofs.Path.Components
import BuildTargets.Cell.Basic

/-!
# The package of a directory

A package is written as text and a directory is a path; `PackagePath.ofPath` and
`Cell.relativize` turn the second into the first. This file says which package a directory
names in terms of the directory's components, so that statements about build files can be made
on components and carried through parents, joins and cell roots.

A package path stands for the directory whose components are its segments, one name each
(`PackagePath.components`).

Principal results:

* `PackagePath.ofPath_eq_ok_iff` — a relative directory names a package exactly when its
  components, the current directory passed over, are the package's;
* `Cell.relativize_eq_ok_iff` — an absolute directory names it exactly when its components are
  the cell root's followed by the package's; a relative directory is read as above.
-/

namespace BuildTargets

@[simp] theorem mapError_ok {ε ε' α : Type} (a : α) (f : ε → ε') :
    (Except.ok a : Except ε α).mapError f = .ok a := rfl

@[simp] theorem mapError_error {ε ε' α : Type} (e : ε) (f : ε → ε') :
    (Except.error e : Except ε α).mapError f = .error (f e) := rfl

theorem mapError_eq_ok_iff {ε ε' α : Type} {x : Except ε α} {f : ε → ε'} {a : α} :
    x.mapError f = .ok a ↔ x = .ok a := by
  cases x <;> simp

/-! ## Names as text -/

namespace Text

theorem toString?_map_char (l : List Char) :
    toString? (l.map Chunk.char) = some (String.ofList l) := by
  induction l with
  | nil => rfl
  | cons c l ih =>
    simp only [List.map_cons, toString?, ih, Option.map_some]
    congr 1
    rw [← String.toList_inj]
    simp

/-- A run of chunks is shown as a string exactly when it is that string's characters. -/
theorem toString?_eq_some_iff {n : List Chunk} {s : String} :
    toString? n = some s ↔ n = ofString s := by
  constructor
  · intro h
    induction n generalizing s with
    | nil => cases h; rfl
    | cons x rest ih =>
      cases x with
      | char c =>
        obtain ⟨t, ht, rfl⟩ := Option.map_eq_some_iff.1 h
        rw [ih ht]
        simp [ofString]
      | invalid bs => cases h
  · rintro rfl
    rw [ofString, toString?_map_char, String.ofList_toList]

theorem ofString_inj {s t : String} : ofString s = ofString t ↔ s = t := by
  rw [ofString, ofString, List.map_inj_right fun _ _ h => Chunk.char.inj h, String.toList_inj]

end Text

/-- The component that a segment of a package path stands for. -/
def Component.ofSegment (s : String) : Component := .normal (Text.ofString s)

theorem Component.ofSegment_injective : Function.Injective Component.ofSegment := by
  intro s t h
  rw [Component.ofSegment, Component.ofSegment, Component.normal.injEq] at h
  exact Text.ofString_inj.1 h

namespace PackagePath

/-- The components of the directory a package path names, one name per segment. -/
def components (p : PackagePath) : List Component := p.segments.map Component.ofSegment

/-! ## Package paths from segments -/

theorem intercalate_segments (p : PackagePath) : "/".intercalate p.segments = p.text := by
  unfold segments
  split
  · simp_all
  · exact Text.intercalate_splitOnChar '/' p.text

/-- Segments without slash, none of them empty, join to a package path exactly when they are
its segments. -/
theorem ofString_intercalate_eq_ok_iff {ns : List String} {P : PackagePath}
    (hns : ∀ s ∈ ns, s ≠ "" ∧ '/' ∉ s.toList) :
    ofString ("/".intercalate ns) = .ok P ↔ ns = P.segments := by
  constructor
  · intro h
    have htext := text_of_ofString_eq_ok h
    rcases ns with _ | ⟨s, ns⟩
    · simp only [String.intercalate_nil] at htext
      simp [segments, htext]
    · have hne : "/".intercalate (s :: ns) ≠ "" := by
        intro h0
        have := congrArg String.toList h0
        simp only [String.toList_intercalate, List.map_cons, String.toList_empty] at this
        cases ns <;> simp_all
      rw [segments, if_neg (by simpa [htext] using hne), htext]
      exact (Text.splitOnChar_intercalate (List.cons_ne_nil _ _) fun t ht => (hns t ht).2).symm
  · rintro rfl
    rw [intercalate_segments]
    exact P.ofString_text

/-! ## Package paths from directories -/

/-- The segments named by the components of a path are non-empty and hold no slash. -/
theorem segment_of_mem_components {d : FsPath} {s : String}
    (h : Component.ofSegment s ∈ d.components) : s ≠ "" ∧ '/' ∉ s.toList := by
  obtain ⟨hne, hslash⟩ := FsPath.normal_mem_components h
  refine ⟨fun h0 => hne (by simp [h0, Text.ofString]), fun hs => hslash ?_⟩
  exact List.mem_map.2 ⟨'/', hs, rfl⟩

/-- The walk over a directory's components succeeds exactly when, the current directory passed
over, they are names that are text, and it gives those names. -/
theorem names_eq_ok_iff {shown : String} {cs : List Component} {ns : List String} :
    names shown cs = .ok ns ↔ cs.filter (· ≠ .current) = ns.map Component.ofSegment := by
  induction cs generalizing ns with
  | nil => cases ns <;> simp [names]
  | cons c cs ih =>
    cases c with
    | root => cases ns <;> simp [names, Component.ofSegment]
    | parent => cases ns <;> simp [names, Component.ofSegment]
    | current => simpa [names] using ih
    | normal n =>
      cases ns with
      | nil =>
        simp only [names]
        cases Text.toString? n <;> cases names shown cs <;> simp [Except.map]
      | cons s ns =>
        -- A name stands for the segment `s` exactly when it is the text `s`.
        have hseg : Component.normal n = Component.ofSegment s ↔ Text.toString? n = some s := by
          rw [Component.ofSegment, Component.normal.injEq, Text.toString?_eq_some_iff]
        rw [List.filter_cons_of_pos (by simp), List.map_cons, List.cons.injEq, hseg, ← ih]
        simp only [names]
        cases Text.toString? n with
        | none => simp
        | some t => cases names shown cs <;> simp [Except.map]

/-- **A relative directory names the package whose segments are its names.** The current
directory is passed over; any other component but a name refuses the directory. -/
theorem ofPath_eq_ok_iff {d : FsPath} {P : PackagePath} :
    ofPath d = .ok P ↔ d.components.filter (· ≠ .current) = P.components := by
  unfold ofPath
  cases hn : names d.display d.components with
  | error e =>
    simp only [bind, Except.bind, reduceCtorEq, false_iff]
    intro h
    rw [names_eq_ok_iff.2 h] at hn
    cases hn
  | ok ns =>
    have hmap := names_eq_ok_iff.1 hn
    have hns : ∀ s ∈ ns, s ≠ "" ∧ '/' ∉ s.toList := fun s hs =>
      segment_of_mem_components (List.mem_filter.1 (hmap ▸ List.mem_map_of_mem hs)).1
    simp only [bind, Except.bind]
    rw [ofString_intercalate_eq_ok_iff hns, hmap, components,
      List.map_inj_right fun _ _ h => Component.ofSegment_injective h]

end PackagePath

namespace Cell

/-- **The package of a directory, by its components.** An absolute directory names the package
whose segments follow the root's components; a relative one names the package whose segments
are its names, the current directory passed over. -/
theorem relativize_eq_ok_iff {c : Cell} {dir : FsPath} {P : PackagePath} :
    c.relativize dir = .ok P ↔
      (dir.isAbsolute = true ∧ dir.components = c.root.toPath.components ++ P.components) ∨
      (dir.isAbsolute = false ∧ dir.components.filter (· ≠ .current) = P.components) := by
  unfold relativize
  cases habs : dir.isAbsolute with
  | false =>
    simp only [Bool.false_eq_true, if_false, mapError_eq_ok_iff,
      PackagePath.ofPath_eq_ok_iff, false_and, true_and, false_or]
  | true =>
    simp only [if_true, true_and, Bool.true_eq_false, false_and, or_false]
    cases hs : dir.stripPrefix? c.root.toPath with
    | none =>
      simp only [reduceCtorEq, false_iff]
      intro h
      exact (FsPath.stripPrefix?_eq_none_iff _ _).1 hs ⟨_, h.symm⟩
    | some rest =>
      have hpre : c.root.toPath.components <+: dir.components :=
        Classical.byContradiction fun hn => by
          rw [(FsPath.stripPrefix?_eq_none_iff _ _).2 hn] at hs
          cases hs
      obtain ⟨tail, htail⟩ := hpre
      -- What follows the root in an absolute directory holds no current directory.
      have hfilter : tail.filter (· ≠ .current) = tail :=
        List.filter_eq_self.2 fun x hx => by
          simpa using fun he : x = .current => FsPath.current_not_mem_components habs
            (htail ▸ List.mem_append_right _ (he ▸ hx))
      simp only [mapError_eq_ok_iff, PackagePath.ofPath_eq_ok_iff,
        FsPath.components_stripPrefix? hs, ← htail, List.drop_left, hfilter,
        List.append_cancel_left_eq]

end Cell

end BuildTargets
