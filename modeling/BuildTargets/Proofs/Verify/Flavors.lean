import BuildTargets.Proofs.Flavor.Canonical
import BuildTargets.Proofs.Flavor.Domain
import BuildTargets.Proofs.Verify.Verdict

/-!
# The flavor check

The first check of `verify` asks the target's rule which flavors it takes. A rule that takes
none, or none in the verifier's configuration, refuses every flavored target, and that refusal
alone logs a warning. A rule that takes flavors gives its domains, and the check refuses the
flavors that no domain knows. Which flavors those are depends only on the flavors the domains
know together, not on the domains' order (`unknownFlavors_congr`); the refusal lists every
domain, in the rule's order, with the flavors users may write from it.

Principal result:

* `Verifier.flavor_check` — what the flavor check decides for a flavored target, what it
  reports, and what it logs.
-/

namespace BuildTargets

namespace RuleDescription

/-- A rule refuses flavors when it takes none at all, or none in the configuration asked. -/
theorem query_eq_unsupported_iff {d : RuleDescription} {cfg : Configuration} :
    d.query cfg = .unsupported ↔
      d.flavorDomains? = none ∨
        ∃ domainsIn, d.flavorDomains? = some domainsIn ∧ domainsIn cfg = none := by
  unfold query
  cases d.flavorDomains? with
  | none => simp
  | some domainsIn => cases h : domainsIn cfg <;> simp [h]

end RuleDescription

namespace Verifier

/-! ## The unknown flavors -/

section Unknown

variable {t : Target} {ds ds' : List FlavorDomain.View}

theorem mem_unknownFlavors {f : Flavor} :
    f ∈ (unknownFlavors t ds).toList ↔
      f ∈ t.flavors.toList ∧ ∀ d ∈ ds, d.contains f = false := by
  simp [unknownFlavors, FlavorSet.mem_difference]

/-- The unknown flavors depend on the domains only through the flavors they know together. -/
theorem unknownFlavors_congr
    (h : ∀ f, (∃ d ∈ ds, d.contains f = true) ↔ ∃ d ∈ ds', d.contains f = true) :
    unknownFlavors t ds = unknownFlavors t ds' := by
  unfold unknownFlavors
  congr 1
  funext f
  exact Bool.eq_iff_iff.2 (by simpa [List.any_eq_true] using h f)

theorem unknownFlavors_perm (h : ds.Perm ds') : unknownFlavors t ds = unknownFlavors t ds' :=
  unknownFlavors_congr fun _ =>
    ⟨fun ⟨d, hd, hc⟩ => ⟨d, h.mem_iff.1 hd, hc⟩, fun ⟨d, hd, hc⟩ => ⟨d, h.mem_iff.2 hd, hc⟩⟩

/-- The unknown flavors keep the order of the target's flavors, which is strictly increasing. -/
theorem pairwise_unknownFlavors (h : t.flavors.toList.Pairwise (· < ·)) :
    (unknownFlavors t ds).toList.Pairwise (· < ·) :=
  h.filter _

/-- Some flavor is unknown exactly when the set of unknown flavors is not empty. -/
theorem exists_unknown_of_isEmpty_eq_false (h : (unknownFlavors t ds).isEmpty = false) :
    ∃ f ∈ t.flavors.toList, ∀ d ∈ ds, d.contains f = false := by
  have hne : (unknownFlavors t ds).toList ≠ [] := by
    simpa [FlavorSet.isEmpty] using h
  obtain ⟨f, hf⟩ := List.exists_mem_of_ne_nil _ hne
  exact ⟨f, (mem_unknownFlavors.1 hf).1, (mem_unknownFlavors.1 hf).2⟩

end Unknown

/-! ## The check and the verdict -/

section Check

variable {v : Verifier} {cell : Cell} {bf : FsPath} {t : Target} {desc : RuleDescription}
  {node : RawNode} {ds : List FlavorDomain.View}

theorem checkFlavors_eq_ok_iff (hq : desc.query v.configuration = .supported ds) :
    v.checkFlavors t desc = .ok () ↔ (unknownFlavors t ds).isEmpty = true := by
  unfold checkFlavors
  rw [hq]
  dsimp only
  split
  · rename_i hu
    simp [hu]
  · rename_i hu
    simp [hu]

theorem verify_of_unsupported (ht : t.isFlavored = true)
    (hq : desc.query v.configuration = .unsupported) :
    v.verify cell bf t desc node = .error (.noFlavorSupport t.unflavored t.flavors) :=
  verify_of_flavorStage_error (flavorStage_eq_error_iff.2 (.inl ⟨ht, hq, rfl⟩))

theorem verify_of_unknownFlavors (ht : t.isFlavored = true)
    (hq : desc.query v.configuration = .supported ds)
    (hu : (unknownFlavors t ds).isEmpty = false) :
    v.verify cell bf t desc node =
      .error (.unknownFlavors t (unknownFlavors t ds) (available ds)) :=
  verify_of_flavorStage_error
    (flavorStage_eq_error_iff.2 (.inr ⟨ds, ht, hq, exists_unknown_of_isEmpty_eq_false hu, rfl⟩))

/-- The only refusal that names no flavor support is the flavor check's, for a flavored target
whose rule takes no flavors, and it names the target without its flavors and those flavors. -/
theorem verify_eq_noFlavorSupport_iff {u : Target} {fs : FlavorSet} :
    v.verify cell bf t desc node = .error (.noFlavorSupport u fs) ↔
      t.isFlavored = true ∧ desc.query v.configuration = .unsupported ∧
        u = t.unflavored ∧ fs = t.flavors := by
  rw [verify_eq_error_iff_refusal]
  constructor
  · intro h
    cases h with
    | noFlavorSupport hfl hq => exact ⟨hfl, hq, rfl, rfl⟩
  · rintro ⟨hfl, hq, rfl, rfl⟩
    exact .noFlavorSupport hfl hq

end Check

/-! ## The warning -/

/-- Of the events of a check, the warnings: one for a refusal for want of flavor support, and
none otherwise. -/
theorem events_warnings (rule : RuleType) (bf : FsPath) (t : Target)
    (r : Except Mismatch Unit) :
    (events rule bf t r).filter (·.level == .warn) =
      match r with
      | .error (.noFlavorSupport u fs) =>
        [⟨.warn, logTarget, "Target " ++ u.display ++ " (type " ++ rule.display ++
          ") has flavors but its rule does not declare flavor support: " ++ fs.display⟩]
      | _ => [] := by
  rcases r with e | ⟨⟩
  · cases e <;> rfl
  · rfl

theorem warnings_of_verify (v : Verifier) (cell : Cell) (bf : FsPath) (t : Target)
    (desc : RuleDescription) (node : RawNode) (rule : RuleType) :
    (events rule bf t (v.verify cell bf t desc node)).filter (·.level == .warn) =
      if t.isFlavored = true ∧ desc.query v.configuration = .unsupported then
        [⟨.warn, logTarget, "Target " ++ t.unflavored.display ++ " (type " ++ rule.display ++
          ") has flavors but its rule does not declare flavor support: " ++ t.flavors.display⟩]
      else [] := by
  rw [events_warnings]
  split
  · rename_i u fs h
    obtain ⟨hfl, hq, rfl, rfl⟩ := verify_eq_noFlavorSupport_iff.1 h
    rw [if_pos ⟨hfl, hq⟩]
  · rename_i hne
    rw [if_neg]
    rintro ⟨hfl, hq⟩
    exact hne _ _ (verify_of_unsupported hfl hq)

/-- **The flavor check of a flavored target.** A rule refuses flavors when it takes none at
all or none in the verifier's configuration, and then the target is refused for want of flavor
support, with its unflavored self and its flavors; that refusal, and no other outcome, logs one
warning, which names the unflavored target, the rule and the flavors. A rule that takes flavors
gives its domains, and the unknown flavors are exactly the target's flavors that no domain
knows, in the target's strictly increasing order; they depend only on the flavors the domains
know together, so not on the domains' order. The check passes exactly when no flavor is unknown,
and otherwise the target is refused with its flavors, the unknown ones, and each domain in the
rule's order with its name and user flavors. In a domain as built, those are its user flavors in
declaration order: an internal flavor is known but never offered. -/
theorem flavor_check (v : Verifier) (cell : Cell) (bf : FsPath) (t : Target)
    (desc : RuleDescription) (node : RawNode) (rule : RuleType) (ht : t.isFlavored = true) :
    (desc.query v.configuration = .unsupported ↔
      desc.flavorDomains? = none ∨
        ∃ domainsIn, desc.flavorDomains? = some domainsIn ∧ domainsIn v.configuration = none) ∧
    (desc.query v.configuration = .unsupported →
      v.verify cell bf t desc node = .error (.noFlavorSupport t.unflavored t.flavors)) ∧
    ((events rule bf t (v.verify cell bf t desc node)).filter (·.level == .warn) =
      if desc.query v.configuration = .unsupported then
        [⟨.warn, logTarget, "Target " ++ t.unflavored.display ++ " (type " ++ rule.display ++
          ") has flavors but its rule does not declare flavor support: " ++ t.flavors.display⟩]
      else []) ∧
    (∀ ds, desc.query v.configuration = .supported ds →
      (∀ f, f ∈ (unknownFlavors t ds).toList ↔
        f ∈ t.flavors.toList ∧ ∀ d ∈ ds, d.contains f = false) ∧
      (t.flavors.toList.Pairwise (· < ·) → (unknownFlavors t ds).toList.Pairwise (· < ·)) ∧
      (∀ ds', (∀ f, (∃ d ∈ ds, d.contains f = true) ↔ ∃ d ∈ ds', d.contains f = true) →
        unknownFlavors t ds' = unknownFlavors t ds) ∧
      (∀ ds', ds'.Perm ds → unknownFlavors t ds' = unknownFlavors t ds) ∧
      (v.checkFlavors t desc = .ok () ↔ (unknownFlavors t ds).isEmpty = true) ∧
      ((unknownFlavors t ds).isEmpty = false →
        v.verify cell bf t desc node = .error (.unknownFlavors t (unknownFlavors t ds)
          (ds.map fun d => ⟨d.name, d.userFlavors⟩)))) ∧
    (∀ (α : Type) (name : String) (entries : List (Flavor × FlavorKind × α))
      (d : FlavorDomain α), FlavorDomain.withKinds name entries = .ok d →
        d.view.name = name ∧
        d.view.userFlavors = (entries.filter (·.2.1 == .user)).map (·.1) ∧
        ∀ f x, (f, .internal, x) ∈ entries →
          d.view.contains f = true ∧ f ∉ d.view.userFlavors) := by
  have hwarn := warnings_of_verify v cell bf t desc node rule
  simp only [ht, true_and] at hwarn
  refine ⟨RuleDescription.query_eq_unsupported_iff, verify_of_unsupported ht, hwarn,
    fun ds hq => ⟨fun _ => mem_unknownFlavors, pairwise_unknownFlavors,
      fun ds' h => (unknownFlavors_congr h).symm, fun ds' h => unknownFlavors_perm h,
      checkFlavors_eq_ok_iff hq, verify_of_unknownFlavors ht hq⟩, ?_⟩
  intro α name entries d hd
  obtain ⟨-, -, rfl⟩ := FlavorDomain.withKinds_eq_ok_iff.1 hd
  exact ⟨rfl, rfl, fun f x hf => FlavorDomain.view_internal hd hf⟩

/-- The flavored target //a:b#x under a rule that takes no flavors is refused for want of
flavor support. -/
theorem flavor_check_plain :
    Target.isFlavored ⟨CellName.root, ⟨"a", by decide⟩, ⟨"b", by decide⟩,
        FlavorSet.ofList [⟨"x", by decide⟩]⟩ = true ∧
      (RuleDescription.plain.query Configuration.unconfigured = .unsupported →
        Verifier.verify {} Cell.testingRoot (FsPath.ofString "/repo/a/BUCK")
            ⟨CellName.root, ⟨"a", by decide⟩, ⟨"b", by decide⟩,
              FlavorSet.ofList [⟨"x", by decide⟩]⟩ RuleDescription.plain
            (RawNode.testing ⟨"a", by decide⟩ [("name", "b")]) =
          .error (.noFlavorSupport
            (Target.unflavored ⟨CellName.root, ⟨"a", by decide⟩, ⟨"b", by decide⟩,
              FlavorSet.ofList [⟨"x", by decide⟩]⟩)
            (FlavorSet.ofList [⟨"x", by decide⟩]))) :=
  ⟨rfl, (flavor_check {} Cell.testingRoot (FsPath.ofString "/repo/a/BUCK")
    ⟨CellName.root, ⟨"a", by decide⟩, ⟨"b", by decide⟩,
      FlavorSet.ofList [⟨"x", by decide⟩]⟩ RuleDescription.plain
    (RawNode.testing ⟨"a", by decide⟩ [("name", "b")]) (RuleType.build "java_library")
    rfl).2.1⟩

end Verifier

end BuildTargets
