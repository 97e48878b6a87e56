import BuildTargets.Proofs.Flavor.Canonical
import BuildTargets.Target.Basic

/-!
# Orders that agree with equality

Flavors, cell names and targets are sorted and kept in ordered containers, so each of their
comparisons has to be a total order whose ties are exactly the equal values. Flavors and cell
names compare by their text, the root cell by the empty text. Flavor sets compare member by
member, and targets by cell, package, name and flavors, in that order. Equality, on the other
hand, is equality of the values themselves.

The two agree because each comparison is put together from comparisons of text by lexicographic
combination, and each value is fixed by the texts it is compared on. For cell names this is not
a matter of representation: the root has no name at all, while its text is empty, so a named
cell with the empty name would tie with the root without being equal to it. No such cell
exists, because a named cell carries the check its name passed, and the check refuses the empty
text (`CellName.text_eq_empty_iff`).

Principal results:

* the instances `Std.TransOrd` and `Std.LawfulEqOrd` for `Flavor`, `CellName`, `FlavorSet` and
  `Target`;
* `Target.compare_eq_eq_iff` — two targets tie exactly when their four parts are equal;
* `CellName.text_eq_empty_iff`, `CellName.text_injective` — only the root has the empty text,
  so cell names are told apart by their text;
* `compare_lawful` — the comparisons of flavors, cell names and targets are total orders that
  tie exactly on equal values.
-/

namespace BuildTargets

open Std

/-! ## Flavors and flavor sets -/

namespace Flavor

theorem compare_def (a b : Flavor) : compare a b = compare a.tag b.tag := rfl

instance : TransOrd Flavor := inferInstanceAs (TransCmp (compareOn Flavor.tag))

instance : LawfulEqOrd Flavor where
  eq_of_compare h := compare_eq_eq_iff.1 h

end Flavor

namespace FlavorSet

theorem compare_def (a b : FlavorSet) : compare a b = compare a.toList b.toList := rfl

instance : TransOrd FlavorSet := inferInstanceAs (TransCmp (compareOn FlavorSet.toList))

instance : LawfulEqOrd FlavorSet where
  eq_of_compare h := FlavorSet.ext (LawfulEqOrd.eq_of_compare h)

end FlavorSet

/-! ## Cell names -/

namespace CellName

theorem compare_def (a b : CellName) : compare a b = compare a.text b.text := rfl

instance : TransOrd CellName := inferInstanceAs (TransCmp (compareOn CellName.text))

instance : LawfulEqOrd CellName where
  eq_of_compare {a b} h :=
    text_injective (LawfulEqOrd.eq_of_compare ((compare_def a b).symm.trans h))

end CellName

/-! ## Targets -/

namespace Target

theorem compare_def (a b : Target) : compare a b =
    (compare a.cell b.cell).then ((compare a.package.text b.package.text).then
      ((compare a.name.text b.name.text).then (compare a.flavors b.flavors))) := rfl

instance : TransOrd Target :=
  inferInstanceAs (TransCmp (compareLex (compareOn Target.cell)
    (compareLex (compareOn fun t : Target => t.package.text)
      (compareLex (compareOn fun t : Target => t.name.text) (compareOn Target.flavors)))))

/-- **Two targets tie exactly when their four parts are equal.** -/
theorem compare_eq_eq_iff {a b : Target} : compare a b = .eq ↔
    a.cell = b.cell ∧ a.package = b.package ∧ a.name = b.name ∧ a.flavors = b.flavors := by
  rw [compare_def]
  simp only [Ordering.then_eq_eq, LawfulEqOrd.compare_eq_iff_eq, PackagePath.ext_iff,
    TargetName.ext_iff]

instance : LawfulEqOrd Target where
  eq_of_compare h := Target.ext_iff.2 (compare_eq_eq_iff.1 h)

end Target

/-- **Labels are ordered consistently with equality.** Flavors, cell names and targets each
compare by a total order (`TransOrd`: swapping the arguments reverses the answer, and "not
greater" is transitive) that ties exactly on equal values (`LawfulEqOrd`). For cell names this
rests on the root being the only cell with the empty text, which holds because the check of a
named cell refuses the empty text. -/
theorem compare_lawful :
    (TransOrd Flavor ∧ LawfulEqOrd Flavor) ∧
      (TransOrd CellName ∧ LawfulEqOrd CellName ∧
        ∀ c : CellName, c.text = "" ↔ c = CellName.root) ∧
      (TransOrd Target ∧ LawfulEqOrd Target) :=
  ⟨⟨inferInstance, inferInstance⟩,
    ⟨inferInstance, inferInstance, fun _ => CellName.text_eq_empty_iff⟩,
    ⟨inferInstance, inferInstance⟩⟩

end BuildTargets
