import Mathlib.Data.List.Basic
import BuildTargets.Proofs.Package.Directory

/-!
# Relativizing undoes joining

A package path is also a path: its text, read under the path rules, has one name per segment,
because a package has no empty, `.` or `..` segment and no leading `/`. So the directory a
package names in a cell can be written two ways, as the package's text joined onto the cell
root or as that text alone, read relative to the root, and `Cell.relativize` gives the package
back from either. This holds whatever the spelling of the root: `/`, a trailing `/` (joining then
adds no second one) or an inner `/./`, since relativizing compares components and not text.

Conversely, a directory that relativizes to a package is, component by component, the root
joined with that package when it is absolute, and the package's segments, the current directory
passed over, when it is relative.

Principal results:

* `PackagePath.components_ofString_text` — a package's text has its segments as names;
* `Cell.relativize_inverts_join` — relativizing inverts joining a package onto the root, and
  pins down the components of every directory that names a package.
-/

namespace BuildTargets

namespace Text

theorem map_intercalate {α β : Type} (f : α → β) (sep : List α) (l : List (List α)) :
    (List.intercalate sep l).map f = List.intercalate (sep.map f) (l.map (List.map f)) := by
  induction l with
  | nil => rfl
  | cons x xs ih =>
    cases xs with
    | nil => simp
    | cons y ys =>
      rw [List.intercalate_cons_cons, List.map_cons, List.map_cons, List.intercalate_cons_cons,
        ← List.map_cons, ← ih]
      simp

end Text

namespace FsPath

/-- A piece reads as a name exactly when it is neither skipped nor `..`, and the name is the
piece itself. -/
theorem classify_eq_normal_iff {x n : List Text.Chunk} :
    classify x = some (.normal n) ↔
      x = n ∧ isSkippable x = false ∧ x ≠ [.char '.', .char '.'] := by
  unfold classify
  by_cases hs : isSkippable x = true
  · simp [hs]
  · by_cases hd : x = [.char '.', .char '.']
    · rw [if_neg hs, if_pos (beq_iff_eq.2 hd)]
      simp only [Option.some.injEq, reduceCtorEq, false_iff, not_and]
      exact fun _ _ h => h hd
    · rw [if_neg hs, if_neg (by simpa using hd)]
      simp only [Option.some.injEq, Component.normal.injEq]
      constructor
      · rintro rfl
        exact ⟨rfl, by simpa using hs, hd⟩
      · rintro ⟨rfl, -, -⟩
        rfl

end FsPath

namespace PackagePath

/-- Every segment of a package path is a proper name without slash: the text passed the segment
check. -/
theorem segment_of_mem_segments {P : PackagePath} {s : String} (hs : s ∈ P.segments) :
    isBadSegment s = false ∧ '/' ∉ s.toList := by
  rcases P.isText with h0 | ⟨-, -, hgood⟩
  · simp [segments, h0] at hs
  · -- A non-empty text has segments; the empty one would have the bad segment `""`.
    have hne : P.text ≠ "" := by
      intro h0
      have := hgood "" (by simp [h0, Text.splitOnChar])
      simp [isBadSegment] at this
    rw [segments, if_neg (by simpa using hne)] at hs
    refine ⟨hgood s hs, ?_⟩
    obtain ⟨piece, hpiece, rfl⟩ := List.mem_map.1 hs
    simpa using Text.not_mem_of_mem_splitOn hpiece

/-- A package's text is its segments written as pieces with `/` between them. -/
theorem fsPath_eq_ofLayout (P : PackagePath) :
    FsPath.ofString P.text = FsPath.ofLayout .plain (P.segments.map Text.ofString) := by
  simp only [FsPath.ofString, FsPath.ofLayout, Text.ofString]
  congr 1
  rw [← intercalate_segments P, String.toList_intercalate, Text.map_intercalate, List.map_map]
  rfl

/-- A segment is a proper name exactly when, as a piece of a path, it is neither skipped nor
`..`. -/
theorem isBadSegment_eq_false_iff {s : String} :
    isBadSegment s = false ↔
      FsPath.isSkippable (Text.ofString s) = false ∧
        Text.ofString s ≠ [.char '.', .char '.'] := by
  have hdot : FsPath.dot = Text.ofString "." := rfl
  have hdots : [Text.Chunk.char '.', .char '.'] = Text.ofString ".." := rfl
  have hnil : Text.ofString s = [] ↔ s = "" := by simp [Text.ofString]
  simp [isBadSegment, FsPath.isSkippable, hdot, hdots, Text.ofString_inj, hnil, and_assoc]

/-- A segment reads as the name it is exactly when it is a proper name. -/
theorem classify_segment_iff {s : String} :
    FsPath.classify (Text.ofString s) = some (Component.ofSegment s) ↔
      isBadSegment s = false := by
  rw [Component.ofSegment, FsPath.classify_eq_normal_iff, isBadSegment_eq_false_iff]
  simp

/-- **A package's text, read as a path, has one name per segment.** -/
theorem components_ofString_text (P : PackagePath) :
    (FsPath.ofString P.text).components = P.components := by
  have hseg : ∀ s ∈ P.segments, isBadSegment s = false ∧ '/' ∉ s.toList :=
    fun _ hs => segment_of_mem_segments hs
  rw [fsPath_eq_ofLayout, FsPath.components_ofLayout_plain, List.filterMap_map, components]
  · exact List.filterMap_eq_map_iff_forall_eq_some.2 fun s hs =>
      classify_segment_iff.2 (hseg s hs).1
  · intro x hx hslash
    obtain ⟨s, hs, rfl⟩ := List.mem_map.1 hx
    exact (hseg s hs).2 (by simpa [Text.ofString, FsPath.slash] using hslash)
  · intro x hx
    obtain ⟨s, hs, rfl⟩ := List.mem_map.1 (List.mem_of_mem_head? hx)
    exact (isBadSegment_eq_false_iff.1 (hseg s hs).1).1

/-- A package's directory holds only names. -/
theorem filter_components (P : PackagePath) :
    P.components.filter (· ≠ .current) = P.components :=
  List.filter_eq_self.2 fun c hc => by
    obtain ⟨s, -, rfl⟩ := List.mem_map.1 hc
    simp [Component.ofSegment]

/-- A package's text is a relative path. -/
theorem isAbsolute_ofString_text (P : PackagePath) :
    (FsPath.ofString P.text).isAbsolute = false := by
  rw [Bool.eq_false_iff, Ne, FsPath.isAbsolute_iff_head?, components_ofString_text, components]
  cases P.segments <;> simp [Component.ofSegment]

end PackagePath

namespace Cell

variable {c : Cell} {P : PackagePath}

/-- Joined onto the root, a package's text gives the root's components and then the package's. -/
theorem components_root_join (c : Cell) (P : PackagePath) :
    (c.root.join (FsPath.ofString P.text)).components =
      c.root.toPath.components ++ P.components := by
  have hne : c.root.toPath.chunks ≠ [] := by
    intro h0
    simpa [FsPath.isAbsolute, h0] using c.root.absolute
  rw [AbsPath.join, FsPath.components_join hne (PackagePath.isAbsolute_ofString_text P),
    PackagePath.components_ofString_text, PackagePath.filter_components]

/-- A package joined onto the root relativizes back to the package. -/
theorem relativize_root_join (c : Cell) (P : PackagePath) :
    c.relativize (c.root.join (FsPath.ofString P.text)) = .ok P := by
  have hcomps := components_root_join c P
  have habs : (c.root.join (FsPath.ofString P.text)).isAbsolute = true := by
    rw [FsPath.isAbsolute_iff_head?, hcomps, List.head?_append,
      (FsPath.isAbsolute_iff_head? _).1 c.root.absolute]
    rfl
  exact relativize_eq_ok_iff.2 (.inl ⟨habs, hcomps⟩)

/-- A package's text, read relative to the root, relativizes to the package. -/
theorem relativize_package_text (c : Cell) (P : PackagePath) :
    c.relativize (FsPath.ofString P.text) = .ok P := by
  refine relativize_eq_ok_iff.2 (.inr ⟨PackagePath.isAbsolute_ofString_text P, ?_⟩)
  rw [PackagePath.components_ofString_text, PackagePath.filter_components]

/-- **Relativizing inverts joining a package onto the root.** For every cell, every package
comes back from the root joined with its text and from its text alone. Conversely, a directory
that relativizes to a package has the components of the root joined with the package when it
is absolute, and the package's segments as names, the current directory passed over, when it
is relative. -/
theorem relativize_inverts_join (c : Cell) :
    (∀ P : PackagePath,
      c.relativize (c.root.join (FsPath.ofString P.text)) = .ok P ∧
        c.relativize (FsPath.ofString P.text) = .ok P) ∧
    (∀ (d : FsPath) (P : PackagePath), c.relativize d = .ok P →
      (d.isAbsolute = true → (c.root.join (FsPath.ofString P.text)).components = d.components) ∧
      (d.isAbsolute = false → d.components.filter (· ≠ .current) = P.components)) := by
  refine ⟨fun P => ⟨relativize_root_join c P, relativize_package_text c P⟩, ?_⟩
  intro d P h
  rcases relativize_eq_ok_iff.1 h with ⟨habs, hd⟩ | ⟨habs, hd⟩
  · exact ⟨fun _ => (components_root_join c P).trans hd.symm, by simp [habs]⟩
  · exact ⟨by simp [habs], fun _ => hd⟩

/-- The root `/` of a cell and the package `a/b`: the package comes back from `/a/b`. -/
theorem relativize_inverts_join_slash_root :
    (⟨CellName.root, ⟨FsPath.ofString "/", by decide, by decide⟩⟩ : Cell).relativize
        ((⟨CellName.root, ⟨FsPath.ofString "/", by decide, by decide⟩⟩ : Cell).root.join
          (FsPath.ofString "a/b")) =
      .ok ⟨"a/b", by decide⟩ :=
  ((relativize_inverts_join _).1 ⟨"a/b", by decide⟩).1

end Cell

end BuildTargets
