import BuildTargets.Proofs.Package.Directory
import BuildTargets.Verify.Basic

/-!
# What `verify` decides

`verify` runs its checks in a fixed order and stops at the first that fails. This file gives
the verdict two ways.

* Operationally, one lemma per outcome (`verify_of_name_none`, `verify_of_pathMismatch`, ...):
  once the checks before it pass, each check's result fixes the verdict and its report.
* Declaratively, `Accepts` says when a node passes every check and `Refusal` says which failure
  is reported, constructor by constructor in the order of the checks. The two cover every case
  (`accepts_or_refusal`), which is all the inversion the iffs below need.

Principal results:

* `Verifier.verify_eq_ok_iff` — a node is accepted exactly when the rule accepts the flavors,
  the name and the claimed package are the target's, and the build file's directory names that
  package, read off its components;
* `Verifier.verify_eq_error_iff` — a node is refused exactly with the first failing check's
  report, and that report is the user's to fix exactly when the flavor check made it.
-/

namespace BuildTargets

@[simp] theorem Target.unflavored_cell (t : Target) : t.unflavored.cell = t.cell := rfl
@[simp] theorem Target.unflavored_package (t : Target) : t.unflavored.package = t.package := rfl
@[simp] theorem Target.unflavored_name (t : Target) : t.unflavored.name = t.name := rfl
@[simp] theorem Target.isFlavored_unflavored (t : Target) : t.unflavored.isFlavored = false :=
  rfl
@[simp] theorem Target.unflavored_unflavored (t : Target) : t.unflavored.unflavored = t.unflavored :=
  rfl

namespace Verifier

/-- The flavor check as `verify` runs it: only a flavored target is checked. -/
def flavorStage (v : Verifier) (t : Target) (desc : RuleDescription) : Except Mismatch Unit :=
  if t.isFlavored then v.checkFlavors t desc else pure ()

/-- The rule accepts the target's flavors: the target has none, or the rule takes flavors in
the verifier's configuration and each flavor is in one of the domains it gives there. -/
def FlavorsAccepted (v : Verifier) (t : Target) (desc : RuleDescription) : Prop :=
  t.flavors.toList = [] ∨ ∃ ds, desc.query v.configuration = .supported ds ∧
    ∀ f ∈ t.flavors.toList, ∃ d ∈ ds, d.contains f = true

theorem unknownFlavors_isEmpty_iff (t : Target) (ds : List FlavorDomain.View) :
    (unknownFlavors t ds).isEmpty = true ↔
      ∀ f ∈ t.flavors.toList, ∃ d ∈ ds, d.contains f = true := by
  simp [unknownFlavors, FlavorSet.difference, FlavorSet.isEmpty, List.filter_eq_nil_iff]

theorem flavorStage_eq_ok_iff {v : Verifier} {t : Target} {desc : RuleDescription} :
    flavorStage v t desc = .ok () ↔ FlavorsAccepted v t desc := by
  unfold flavorStage FlavorsAccepted
  cases hfl : t.isFlavored
  · have : t.flavors.toList = [] := by simpa [Target.isFlavored, FlavorSet.isEmpty] using hfl
    simp [this, pure, Except.pure]
  · have : t.flavors.toList ≠ [] := by simpa [Target.isFlavored, FlavorSet.isEmpty] using hfl
    simp only [if_true, this, false_or]
    unfold checkFlavors
    cases hq : desc.query v.configuration with
    | unsupported => simp
    | supported ds =>
      simp only [Capability.supported.injEq, exists_eq_left']
      split
      · rename_i hu
        simpa using (unknownFlavors_isEmpty_iff t ds).1 hu
      · rename_i hu
        simp only [reduceCtorEq, false_iff]
        exact fun h => hu ((unknownFlavors_isEmpty_iff t ds).2 h)

/-- The domains listed as available when a flavor is unknown: each domain's name and user
flavors. -/
def available (ds : List FlavorDomain.View) : List AvailableFlavors :=
  ds.map fun d => ⟨d.name, d.userFlavors⟩

theorem flavorStage_eq_error_iff {v : Verifier} {t : Target} {desc : RuleDescription}
    {e : Mismatch} : flavorStage v t desc = .error e ↔
      (t.isFlavored = true ∧ desc.query v.configuration = .unsupported ∧
        e = .noFlavorSupport t.unflavored t.flavors) ∨
      (∃ ds, t.isFlavored = true ∧ desc.query v.configuration = .supported ds ∧
        (∃ f ∈ t.flavors.toList, ∀ d ∈ ds, d.contains f = false) ∧
        e = .unknownFlavors t (unknownFlavors t ds) (available ds)) := by
  unfold flavorStage
  cases hfl : t.isFlavored
  · simp [pure, Except.pure]
  · simp only [if_true, true_and]
    unfold checkFlavors
    cases hq : desc.query v.configuration with
    | unsupported =>
      simp only [Except.error.injEq, reduceCtorEq, false_and, exists_false, or_false, true_and]
      exact eq_comm
    | supported ds =>
      simp only [reduceCtorEq, false_and, Capability.supported.injEq, exists_eq_left', false_or]
      split
      · rename_i hu
        have := (unknownFlavors_isEmpty_iff t ds).1 hu
        simp only [reduceCtorEq, false_iff, not_and]
        intro ⟨f, hf, hno⟩
        obtain ⟨d, hd, hc⟩ := this f hf
        simp [hno d hd] at hc
      · rename_i hu
        have hex : ∃ f ∈ t.flavors.toList, ∀ d ∈ ds, d.contains f = false := by
          have h1 : ¬ ∀ f ∈ t.flavors.toList, ∃ d ∈ ds, d.contains f = true :=
            fun h => hu ((unknownFlavors_isEmpty_iff t ds).2 h)
          simpa using h1
        simp only [Except.error.injEq, hex, true_and, available]
        exact eq_comm

/-! ## One run per outcome -/

section Runs

variable {v : Verifier} {cell : Cell} {bf : FsPath} {t : Target} {desc : RuleDescription}
  {node : RawNode} {n : String} {P : PackagePath}

theorem verify_of_flavorStage_error {e : Mismatch} (h : flavorStage v t desc = .error e) :
    v.verify cell bf t desc node = .error e := by
  unfold flavorStage at h
  unfold verify
  cases hfl : t.isFlavored <;> simp only [hfl, if_true, Bool.false_eq_true, if_false] at h
  · cases h
  · simp [h, bind, Except.bind]

/-- Once the flavors pass, the verdict is the unflavored target's: no later check reads the
flavors. -/
theorem verify_of_flavorStage_ok (hf : flavorStage v t desc = .ok ()) :
    v.verify cell bf t desc node = v.verify cell bf t.unflavored desc node := by
  unfold flavorStage at hf
  unfold verify
  -- Past the flavor check, `verify` reads only the unflavored target.
  cases hfl : t.isFlavored with
  | false =>
    simp only [Target.isFlavored_unflavored, Target.unflavored_unflavored, if_false,
      Bool.false_eq_true]
    rfl
  | true =>
    simp only [hfl, if_true] at hf
    simp only [hf, Target.isFlavored_unflavored, Target.unflavored_unflavored, if_false,
      Bool.false_eq_true]
    rfl

theorem verify_of_name_none (hf : flavorStage v t desc = .ok ()) (hn : node.name? = none) :
    v.verify cell bf t desc node = .error (.malformedRecord bf node.attrs.entries) := by
  rw [verify_of_flavorStage_ok hf]
  simp [verify, hn, throw, throwThe, MonadExceptOf.throw]

theorem verify_of_relativize_error {r : RelativizeError} (hf : flavorStage v t desc = .ok ())
    (hn : node.name? = some n) (hr : cell.relativize (directoryOf bf) = .error r) :
    v.verify cell bf t desc node = .error (.unrootedBuildFile bf cell.name cell.root) := by
  rw [verify_of_flavorStage_ok hf]
  simp [verify, hn, hr, bind, Except.bind]

theorem verify_of_pathMismatch (hf : flavorStage v t desc = .ok ()) (hn : node.name? = some n)
    (hr : cell.relativize (directoryOf bf) = .ok P) (hb : node.basePath ≠ P) :
    v.verify cell bf t desc node = .error (.pathMismatch node.basePath P) := by
  rw [verify_of_flavorStage_ok hf]
  simp [verify, hn, hr, hb, bind, Except.bind, throw, throwThe, MonadExceptOf.throw]

theorem verify_of_identityMismatch (hf : flavorStage v t desc = .ok ())
    (hn : node.name? = some n) (hr : cell.relativize (directoryOf bf) = .ok P)
    (hb : node.basePath = P) (hi : t.package ≠ P ∨ t.name.text ≠ n) :
    v.verify cell bf t desc node = .error (.identityMismatch t.cell P n t.unflavored) := by
  rw [verify_of_flavorStage_ok hf]
  simp [verify, hn, hr, hb, hi, bind, Except.bind, throw, throwThe, MonadExceptOf.throw]

theorem verify_of_pass (hf : flavorStage v t desc = .ok ()) (hn : node.name? = some n)
    (hr : cell.relativize (directoryOf bf) = .ok P) (hb : node.basePath = P)
    (hp : t.package = P) (hname : t.name.text = n) :
    v.verify cell bf t desc node = .ok () := by
  rw [verify_of_flavorStage_ok hf]
  simp [verify, hn, hr, hb, hp, hname, bind, Except.bind, pure, Except.pure]

end Runs

/-! ## The verdict, declaratively -/

/-- A node passes every check: the rule accepts the flavors, the node's name is the target's,
its build file's directory names the target's package, and the node claims that package. -/
structure Accepts (v : Verifier) (cell : Cell) (bf : FsPath) (t : Target)
    (desc : RuleDescription) (node : RawNode) : Prop where
  flavors : FlavorsAccepted v t desc
  name : node.name? = some t.name.text
  directory : cell.relativize (directoryOf bf) = .ok t.package
  basePath : node.basePath = t.package

/-- The failure `verify` reports: the first of its checks that fails, with what it shows. -/
inductive Refusal (v : Verifier) (cell : Cell) (bf : FsPath) (t : Target)
    (desc : RuleDescription) (node : RawNode) : Mismatch → Prop
  | noFlavorSupport : t.isFlavored = true → desc.query v.configuration = .unsupported →
      Refusal v cell bf t desc node (.noFlavorSupport t.unflavored t.flavors)
  | unknownFlavors (ds : List FlavorDomain.View) : t.isFlavored = true →
      desc.query v.configuration = .supported ds →
      (∃ f ∈ t.flavors.toList, ∀ d ∈ ds, d.contains f = false) →
      Refusal v cell bf t desc node (.unknownFlavors t (unknownFlavors t ds) (available ds))
  | malformedRecord : FlavorsAccepted v t desc → node.name? = none →
      Refusal v cell bf t desc node (.malformedRecord bf node.attrs.entries)
  | unrootedBuildFile (n : String) (r : RelativizeError) : FlavorsAccepted v t desc →
      node.name? = some n → cell.relativize (directoryOf bf) = .error r →
      Refusal v cell bf t desc node (.unrootedBuildFile bf cell.name cell.root)
  | pathMismatch (n : String) (P : PackagePath) : FlavorsAccepted v t desc →
      node.name? = some n → cell.relativize (directoryOf bf) = .ok P → node.basePath ≠ P →
      Refusal v cell bf t desc node (.pathMismatch node.basePath P)
  | identityMismatch (n : String) (P : PackagePath) : FlavorsAccepted v t desc →
      node.name? = some n → cell.relativize (directoryOf bf) = .ok P → node.basePath = P →
      t.package ≠ P ∨ t.name.text ≠ n →
      Refusal v cell bf t desc node (.identityMismatch t.cell P n t.unflavored)

section Verdict

variable {v : Verifier} {cell : Cell} {bf : FsPath} {t : Target} {desc : RuleDescription}
  {node : RawNode}

theorem verify_of_accepts (h : Accepts v cell bf t desc node) :
    v.verify cell bf t desc node = .ok () :=
  verify_of_pass (flavorStage_eq_ok_iff.2 h.flavors) h.name h.directory h.basePath rfl rfl

theorem verify_of_refusal {e : Mismatch} (h : Refusal v cell bf t desc node e) :
    v.verify cell bf t desc node = .error e := by
  cases h with
  | noFlavorSupport hfl hq =>
    exact verify_of_flavorStage_error (flavorStage_eq_error_iff.2 (.inl ⟨hfl, hq, rfl⟩))
  | unknownFlavors ds hfl hq hu =>
    exact verify_of_flavorStage_error (flavorStage_eq_error_iff.2 (.inr ⟨ds, hfl, hq, hu, rfl⟩))
  | malformedRecord hf hn => exact verify_of_name_none (flavorStage_eq_ok_iff.2 hf) hn
  | unrootedBuildFile n r hf hn hr =>
    exact verify_of_relativize_error (flavorStage_eq_ok_iff.2 hf) hn hr
  | pathMismatch n P hf hn hr hb =>
    exact verify_of_pathMismatch (flavorStage_eq_ok_iff.2 hf) hn hr hb
  | identityMismatch n P hf hn hr hb hi =>
    exact verify_of_identityMismatch (flavorStage_eq_ok_iff.2 hf) hn hr hb hi

/-- Every node passes, or fails one of the checks: the checks leave no case out. -/
theorem accepts_or_refusal :
    Accepts v cell bf t desc node ∨ ∃ e, Refusal v cell bf t desc node e := by
  cases hf : flavorStage v t desc with
  | error e =>
    rcases flavorStage_eq_error_iff.1 hf with ⟨hfl, hq, rfl⟩ | ⟨ds, hfl, hq, hu, rfl⟩
    · exact .inr ⟨_, .noFlavorSupport hfl hq⟩
    · exact .inr ⟨_, .unknownFlavors ds hfl hq hu⟩
  | ok u =>
    have ha := flavorStage_eq_ok_iff.1 hf
    cases hn : node.name? with
    | none => exact .inr ⟨_, .malformedRecord ha hn⟩
    | some n =>
      cases hr : cell.relativize (directoryOf bf) with
      | error r => exact .inr ⟨_, .unrootedBuildFile n r ha hn hr⟩
      | ok P =>
        by_cases hb : node.basePath = P
        · by_cases hi : t.package = P ∧ t.name.text = n
          · obtain ⟨rfl, rfl⟩ := hi
            exact .inl ⟨ha, hn, hr, hb⟩
          · exact .inr
              ⟨_, .identityMismatch n P ha hn hr hb (Classical.not_and_iff_not_or_not.1 hi)⟩
        · exact .inr ⟨_, .pathMismatch n P ha hn hr hb⟩

theorem verify_eq_ok_iff_accepts :
    v.verify cell bf t desc node = .ok () ↔ Accepts v cell bf t desc node := by
  refine ⟨fun h => ?_, verify_of_accepts⟩
  rcases accepts_or_refusal with ha | ⟨e, he⟩
  · exact ha
  · rw [verify_of_refusal he] at h
    cases h

theorem verify_eq_error_iff_refusal {e : Mismatch} :
    v.verify cell bf t desc node = .error e ↔ Refusal v cell bf t desc node e := by
  refine ⟨fun h => ?_, verify_of_refusal⟩
  rcases accepts_or_refusal with ha | ⟨e', he⟩
  · rw [verify_of_accepts ha] at h
    cases h
  · rw [verify_of_refusal he] at h
    cases h
    exact he

/-- A reported failure is the user's to fix exactly when the flavor check made it. -/
theorem Refusal.category_eq_user_iff {e : Mismatch} (h : Refusal v cell bf t desc node e) :
    e.category = .user ↔ flavorStage v t desc = .error e := by
  cases h with
  | noFlavorSupport hfl hq =>
    exact iff_of_true rfl (flavorStage_eq_error_iff.2 (.inl ⟨hfl, hq, rfl⟩))
  | unknownFlavors ds hfl hq hu =>
    exact iff_of_true rfl (flavorStage_eq_error_iff.2 (.inr ⟨ds, hfl, hq, hu, rfl⟩))
  | malformedRecord hf _ => simp [Mismatch.category, flavorStage_eq_ok_iff.2 hf]
  | unrootedBuildFile _ _ hf _ _ => simp [Mismatch.category, flavorStage_eq_ok_iff.2 hf]
  | pathMismatch _ _ hf _ _ _ => simp [Mismatch.category, flavorStage_eq_ok_iff.2 hf]
  | identityMismatch _ _ hf _ _ _ _ => simp [Mismatch.category, flavorStage_eq_ok_iff.2 hf]

/-- **When `verify` accepts a node.** Exactly when the rule accepts the target's flavors, the
node's name is the target's, the node claims the target's package, and the build file's
directory names that package: an absolute directory by the cell root's components followed by
one name per segment, a relative one by those names alone, the current directory passed over.
The cell of the target plays no part. -/
theorem verify_eq_ok_iff :
    v.verify cell bf t desc node = .ok () ↔
      FlavorsAccepted v t desc ∧ node.name? = some t.name.text ∧ node.basePath = t.package ∧
      ((directoryOf bf).isAbsolute = true ∧
          (directoryOf bf).components = cell.root.toPath.components ++ t.package.components ∨
        (directoryOf bf).isAbsolute = false ∧
          (directoryOf bf).components.filter (· ≠ .current) = t.package.components) := by
  rw [verify_eq_ok_iff_accepts, ← Cell.relativize_eq_ok_iff]
  constructor
  · rintro ⟨hf, hn, hd, hb⟩
    exact ⟨hf, hn, hb, hd⟩
  · rintro ⟨hf, hn, hb, hd⟩
    exact ⟨hf, hn, hd, hb⟩

/-- **Which failure `verify` reports.** It fails exactly with the refusal of the first check
that fails, and that failure is the user's to fix exactly when it is the flavor check's. -/
theorem verify_eq_error_iff (e : Mismatch) :
    (v.verify cell bf t desc node = .error e ↔ Refusal v cell bf t desc node e) ∧
      (v.verify cell bf t desc node = .error e →
        (e.category = .user ↔ flavorStage v t desc = .error e)) :=
  ⟨verify_eq_error_iff_refusal, fun h => (verify_eq_error_iff_refusal.1 h).category_eq_user_iff⟩

end Verdict

/-- A node for the package a/b of the testing cell, read from /repo/a/b/BUCK. -/
theorem verify_testing_accepts :
    Verifier.verify {} Cell.testingRoot (FsPath.ofString "/repo/a/b/BUCK")
        ⟨CellName.root, ⟨"a/b", by decide⟩, ⟨"c", by decide⟩, FlavorSet.empty⟩
        RuleDescription.plain (RawNode.testing ⟨"a/b", by decide⟩ [("name", "c")]) =
      .ok () :=
  verify_eq_ok_iff.2 ⟨.inl rfl, by decide +kernel, rfl,
    .inl ⟨by decide +kernel, by decide +kernel⟩⟩

end Verifier

end BuildTargets
