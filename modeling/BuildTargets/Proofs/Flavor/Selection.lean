import BuildTargets.Proofs.Flavor.Canonical
import BuildTargets.Proofs.Flavor.Domain
import BuildTargets.Proofs.Text.ByteOrder

/-!
# The value a flavor set selects from a domain

A target's flavors pick at most one value from each domain of a rule: the members of the set
that are flavors of the domain are its selection. `FlavorDomain.getValue` keeps the members of
the set that the domain contains, in the set's order, and answers by how many there are: no
value for none, the value of the one flavor for one, and for more an error that lists them.

Nothing in that code says that the selection is listed once each, or in byte order: both come
from the set itself, which keeps its members strictly increasing (`FlavorSet.sorted`).
Keeping the members in the order of the set keeps that order, and so the listed flavors are
exactly the selection, ascending by their UTF-8 bytes.

Principal result:

* `FlavorDomain.getValue_selects` — no value exactly when nothing is selected, the value of `f`
  exactly when `f` alone is selected, and an error exactly when two flavors are, listing the
  selection in ascending byte order.
-/

namespace BuildTargets

namespace FlavorDomain

variable {α : Type} (d : FlavorDomain α) {fs : FlavorSet}

/-- The members of a flavor set that are flavors of the domain: what the set selects from it. -/
def Selects (fs : FlavorSet) (f : Flavor) : Prop := f ∈ fs.toList ∧ f ∈ d.flavors

instance (fs : FlavorSet) (f : Flavor) : Decidable (d.Selects fs f) :=
  inferInstanceAs (Decidable (_ ∧ _))

/-- The members `getValue` keeps are the selection. -/
theorem mem_filter_contains_iff {f : Flavor} :
    f ∈ fs.toList.filter d.contains ↔ d.Selects fs f := by
  simp [Selects, contains]

/-- The members kept are strictly increasing, as the set is. -/
theorem pairwise_filter_contains : (fs.toList.filter d.contains).Pairwise (· < ·) :=
  fs.sorted.filter _

/-- A flavor of the domain has a value. -/
theorem get?_isSome_of_mem {f : Flavor} (h : f ∈ d.flavors) : ∃ v, d.get? f = some v := by
  obtain ⟨e, he, rfl⟩ := List.mem_map.1 h
  have hsome : (d.entries.find? (·.1 == e.1)).isSome := List.find?_isSome.2 ⟨e, he, by simp⟩
  obtain ⟨x, hx⟩ := Option.isSome_iff_exists.1 hsome
  exact ⟨x.2.2, by simp [get?, find?, hx]⟩

/-- **What `getValue` can answer.** It answers no value and the set selects nothing; or the
value of a flavor that the set alone selects; or an error listing the selection, strictly
increasing, when it holds two flavors or more. -/
theorem getValue_cases :
    (d.getValue fs = .ok none ∧ ∀ f, ¬ d.Selects fs f) ∨
    (∃ f, d.getValue fs = .ok (d.get? f) ∧ ∀ g, d.Selects fs g ↔ g = f) ∨
    (∃ a b rest, d.getValue fs = .error (.multiple d.name (a :: b :: rest)) ∧
      (a :: b :: rest).Pairwise (· < ·) ∧ ∀ g, d.Selects fs g ↔ g ∈ a :: b :: rest) := by
  have hmem : ∀ g, d.Selects fs g ↔ g ∈ fs.toList.filter d.contains :=
    fun g => (d.mem_filter_contains_iff).symm
  have hsorted : (fs.toList.filter d.contains).Pairwise (· < ·) := d.pairwise_filter_contains
  unfold getValue
  -- The answer is decided by the shape of the kept members, the selection in the set's order.
  generalize fs.toList.filter d.contains = L at hmem hsorted ⊢
  rcases L with _ | ⟨a, _ | ⟨b, rest⟩⟩
  · exact .inl ⟨rfl, fun f hf => by simpa using (hmem f).1 hf⟩
  · exact .inr (.inl ⟨a, rfl, fun g => by simpa using hmem g⟩)
  · exact .inr (.inr ⟨a, b, rest, rfl, hsorted, hmem⟩)

/-- **A flavor set selects at most one value from a domain.** No value exactly when the set
selects nothing; the value `v` exactly when the set selects one flavor alone, whose
value `v` is; and an error exactly when it selects two flavors, an error that lists the selection
ascending by UTF-8 bytes, joined by `, `. -/
theorem getValue_selects :
    (d.getValue fs = .ok none ↔ ∀ f, ¬ d.Selects fs f) ∧
    (∀ v, d.getValue fs = .ok (some v) ↔
      ∃ f, (∀ g, d.Selects fs g ↔ g = f) ∧ d.get? f = some v) ∧
    (∀ f, (∀ g, d.Selects fs g ↔ g = f) → ∃ v, d.get? f = some v) ∧
    ((∃ e, d.getValue fs = .error e) ↔ ∃ f g, f ≠ g ∧ d.Selects fs f ∧ d.Selects fs g) ∧
    (∀ e, d.getValue fs = .error e →
      ∃ L : List Flavor, e = .multiple d.name L ∧ (∀ g, g ∈ L ↔ d.Selects fs g) ∧
        (L.map fun f => f.tag.toByteArray.data.toList).Pairwise (· < ·) ∧
        e.message = "Multiple flavors from domain `" ++ d.name ++ "` are present: " ++
          ", ".intercalate (L.map Flavor.tag)) := by
  have hvalue : ∀ f, (∀ g, d.Selects fs g ↔ g = f) → ∃ v, d.get? f = some v :=
    fun f hf => d.get?_isSome_of_mem ((hf f).2 rfl).2
  rcases d.getValue_cases with ⟨h, hnone⟩ | ⟨f, h, hone⟩ | ⟨a, b, rest, h, hsorted, hsel⟩
  · -- Nothing is selected.
    rw [h]
    refine ⟨iff_of_true rfl hnone, fun v => iff_of_false (by simp) ?_, hvalue,
      iff_of_false (by simp) ?_, by simp⟩
    · rintro ⟨f, hf, -⟩
      exact hnone f ((hf f).2 rfl)
    · rintro ⟨f, -, -, hf, -⟩
      exact hnone f hf
  · -- `f` alone is selected.
    obtain ⟨v, hv⟩ := hvalue f hone
    rw [h, hv]
    refine ⟨iff_of_false (by simp) fun hn => hn f ((hone f).2 rfl), fun w => ?_, hvalue,
      iff_of_false (by simp) ?_, by simp⟩
    · constructor
      · intro hw
        exact ⟨f, hone, hv.trans (by simpa using hw)⟩
      · rintro ⟨f', hf', hw⟩
        -- Two flavors selected alone are the same one.
        obtain rfl : f' = f := (hone f').1 ((hf' f').2 rfl)
        rw [hv] at hw
        exact hw ▸ rfl
    · rintro ⟨x, y, hxy, hx, hy⟩
      exact hxy (((hone x).1 hx).trans ((hone y).1 hy).symm)
  · -- Two flavors or more are selected, and the first two differ.
    have hab : a ≠ b := Flavor.ne_of_lt (List.rel_of_pairwise_cons hsorted List.mem_cons_self)
    have ha : d.Selects fs a := (hsel a).2 List.mem_cons_self
    have hb : d.Selects fs b := (hsel b).2 (List.mem_cons_of_mem _ List.mem_cons_self)
    rw [h]
    refine ⟨iff_of_false (by simp) fun hn => hn a ha, fun v => iff_of_false (by simp) ?_, hvalue,
      iff_of_true ⟨_, rfl⟩ ⟨a, b, hab, ha, hb⟩, ?_⟩
    · rintro ⟨f, hf, -⟩
      exact hab (((hf a).1 ha).trans ((hf b).1 hb).symm)
    · rintro e he
      cases he
      exact ⟨a :: b :: rest, rfl, fun g => (hsel g).symm,
        hsorted.map _ fun _ _ hlt => Flavor.lt_iff_bytes_lt.1 hlt, rfl⟩

end FlavorDomain

end BuildTargets
