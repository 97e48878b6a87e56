import BuildTargets.Proofs.Verify.Verdict

/-!
# The build file a node is read from

`verify` takes the build file only for the package its directory names and for the text two
of its reports show. So a build file can be named relative to the cell root or joined to that
root: the directories differ in kind, one relative and one absolute, and `Cell.relativize`
reads them by different routes, but they name the same package.

The directory of a file drops its last component (`components_directoryOf`); joining to the
root puts the root's components first and passes over the current directory
(`FsPath.components_join`); and a file that names anything ends in a name, so dropping the last
component and passing over the current directory commute.

Principal results:

* `Verifier.verify_eraseBuildFile_congr` — build files whose directories name the same package
  get the same verdict, the file shown in a report aside;
* `Verifier.verify_root_join` — a relative build file and the same file joined to the cell root
  verify alike.
-/

namespace BuildTargets

/-- Filtering and dropping the last element commute when the last element passes. -/
theorem dropLast_filter_of_getLast? {α : Type} {p : α → Bool} {l : List α}
    (h : ∀ x ∈ l.getLast?, p x = true) : (l.filter p).dropLast = l.dropLast.filter p := by
  rcases List.eq_nil_or_concat l with rfl | ⟨init, last, rfl⟩
  · rfl
  · have hlast : p last = true := h last (by simp)
    simp [List.filter_append, hlast]

/-- The failure with the build file it shows left out. -/
def Mismatch.eraseBuildFile : Mismatch → Mismatch
  | .malformedRecord _ attrs => .malformedRecord default attrs
  | .unrootedBuildFile _ c r => .unrootedBuildFile default c r
  | m => m

namespace Verifier

/-- The directory of a build file has its components but the last. -/
theorem components_directoryOf (bf : FsPath) :
    (directoryOf bf).components = bf.components.dropLast := by
  unfold directoryOf
  cases h : bf.parent? with
  | none => rw [FsPath.dropLast_components_of_parent?_eq_none h]; rfl
  | some q => exact FsPath.components_parent? h

/-- The directory of a build file is absolute when the file is, unless the file is the root. -/
theorem isAbsolute_directoryOf (bf : FsPath) :
    (directoryOf bf).isAbsolute = (bf.isAbsolute && decide (1 < bf.components.length)) := by
  rw [Bool.eq_iff_iff, FsPath.isAbsolute_iff_head?, components_directoryOf, List.head?_dropLast,
    Bool.and_eq_true, FsPath.isAbsolute_iff_head?, decide_eq_true_iff]
  split <;> simp_all

section RootJoin

variable {v : Verifier} {cell : Cell} {b : FsPath} {t : Target} {desc : RuleDescription}
  {node : RawNode}

/-- Joined to the root, a relative build file that names something lies in the root followed by
its own directory, the current directory passed over. -/
theorem components_directoryOf_join (hb : b.isAbsolute = false)
    (hc : ∃ c ∈ b.components, c ≠ .current) :
    (directoryOf (cell.root.join b)).components =
      cell.root.toPath.components ++ (directoryOf b).components.filter (· ≠ .current) := by
  -- What the file adds to the root is not empty, and it ends in a name.
  have hfne : b.components.filter (· ≠ .current) ≠ [] := by
    obtain ⟨c, hc, hcur⟩ := hc
    exact List.ne_nil_of_mem (List.mem_filter.2 ⟨hc, by simpa using hcur⟩)
  have hdrop : (b.components.filter (· ≠ .current)).dropLast =
      b.components.dropLast.filter (· ≠ .current) :=
    dropLast_filter_of_getLast? fun c hlast => by
      simpa using FsPath.getLast?_components_ne_current hc c hlast
  have hne : cell.root.toPath.chunks ≠ [] := by
    intro h0
    simpa [FsPath.isAbsolute, h0] using cell.root.absolute
  rw [components_directoryOf, components_directoryOf, AbsPath.join,
    FsPath.components_join hne hb, List.dropLast_append_of_ne_nil hfne, hdrop]

theorem isAbsolute_directoryOf_join (hb : b.isAbsolute = false)
    (hc : ∃ c ∈ b.components, c ≠ .current) :
    (directoryOf (cell.root.join b)).isAbsolute = true := by
  rw [FsPath.isAbsolute_iff_head?, components_directoryOf_join hb hc, List.head?_append,
    (FsPath.isAbsolute_iff_head? _).1 cell.root.absolute]
  rfl

/-- A relative build file and the same file joined to an absolute cell root lie in directories
that name the same package, or none. -/
theorem relativize_directoryOf_join (hb : b.isAbsolute = false)
    (hc : ∃ c ∈ b.components, c ≠ .current) (P : PackagePath) :
    cell.relativize (directoryOf b) = .ok P ↔
      cell.relativize (directoryOf (cell.root.join b)) = .ok P := by
  rw [Cell.relativize_eq_ok_iff, Cell.relativize_eq_ok_iff, isAbsolute_directoryOf_join hb hc,
    isAbsolute_directoryOf, hb, components_directoryOf_join hb hc]
  simp

/-- `verify` reads the build file through the package its directory names, and otherwise only
shows it: build files whose directories name the same package, or none, get the same verdict,
the file shown in a report aside. -/
theorem verify_eraseBuildFile_congr {bf₁ bf₂ : FsPath}
    (h : ∀ P, cell.relativize (directoryOf bf₁) = .ok P ↔
      cell.relativize (directoryOf bf₂) = .ok P) :
    (v.verify cell bf₁ t desc node).mapError Mismatch.eraseBuildFile =
      (v.verify cell bf₂ t desc node).mapError Mismatch.eraseBuildFile := by
  cases hf : flavorStage v t desc with
  | error e => rw [verify_of_flavorStage_error hf, verify_of_flavorStage_error hf]
  | ok u =>
    cases u
    cases hn : node.name? with
    | none => rw [verify_of_name_none hf hn, verify_of_name_none hf hn]; rfl
    | some n =>
      cases hr : cell.relativize (directoryOf bf₁) with
      | error r =>
        -- Neither directory names a package.
        obtain ⟨r₂, hr₂⟩ : ∃ r₂, cell.relativize (directoryOf bf₂) = .error r₂ := by
          cases h₂ : cell.relativize (directoryOf bf₂) with
          | error r₂ => exact ⟨r₂, rfl⟩
          | ok P =>
            rw [← h P, hr] at h₂
            cases h₂
        rw [verify_of_relativize_error hf hn hr, verify_of_relativize_error hf hn hr₂]
        rfl
      | ok P =>
        -- Both directories name `P`, and the checks after it are the same.
        rw [verify_of_flavorStage_ok hf, verify_of_flavorStage_ok hf]
        simp only [verify, hn, hr, (h P).1 hr, mapError_ok, Target.isFlavored_unflavored,
          Bool.false_eq_true, if_false]

/-- **A build file named relative to the cell root, and the same file joined to the root, verify
alike.** Both runs accept, or both report the same failure with the same data but for the build
file shown; the file must name something besides the current directory. -/
theorem verify_root_join (hb : b.isAbsolute = false) (hc : ∃ c ∈ b.components, c ≠ .current) :
    (v.verify cell b t desc node).mapError Mismatch.eraseBuildFile =
      (v.verify cell (cell.root.join b) t desc node).mapError Mismatch.eraseBuildFile :=
  verify_eraseBuildFile_congr (relativize_directoryOf_join hb hc)

end RootJoin

/-- The testing cell's root /repo and the build file a/BUCK in it. -/
theorem verify_root_join_testing :
    (FsPath.ofString "a/BUCK").isAbsolute = false ∧
      (∃ c ∈ (FsPath.ofString "a/BUCK").components, c ≠ .current) ∧
      (Verifier.verify {} Cell.testingRoot (FsPath.ofString "a/BUCK")
          ⟨CellName.root, ⟨"a", by decide⟩, ⟨"c", by decide⟩, FlavorSet.empty⟩
          RuleDescription.plain
          (RawNode.testing ⟨"a", by decide⟩ [("name", "c")])).mapError
          Mismatch.eraseBuildFile =
        (Verifier.verify {} Cell.testingRoot
          (Cell.testingRoot.root.join (FsPath.ofString "a/BUCK"))
          ⟨CellName.root, ⟨"a", by decide⟩, ⟨"c", by decide⟩, FlavorSet.empty⟩
          RuleDescription.plain
          (RawNode.testing ⟨"a", by decide⟩ [("name", "c")])).mapError
          Mismatch.eraseBuildFile :=
  ⟨by decide +kernel, by decide +kernel,
    verify_root_join (by decide +kernel) (by decide +kernel)⟩

end Verifier

end BuildTargets
