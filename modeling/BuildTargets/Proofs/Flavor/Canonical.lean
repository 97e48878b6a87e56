import Mathlib.Data.Finset.Card
import BuildTargets.Proofs.Flavor.Set
import BuildTargets.Proofs.Text.ByteOrder

/-!
# The canonical form of flavor sets

A flavor set keeps its members in a list that is strictly increasing in the order of their
text, and carries that fact with it: `empty`, `ofList` and `difference` each prove it of the
list they build. The binary search in `contains` is right only on such a list, and so is the
printed form's claim to stand for the set.

The search keeps a stretch of the list that holds the place of the flavor sought, if it is
there at all (`FlavorSet.Brackets`); each probe keeps that true of the half it goes on with
(`Brackets.lower`, `Brackets.upper`), and the one member left at the end is the flavor or the
flavor is missing (`probe_eq_eq_iff`).

Principal result:

* `FlavorSet.canonical` — every set is strictly increasing, in text and in UTF-8 bytes;
  `ofList` and `difference` keep exactly the members they should; `contains` finds exactly the
  members and `size` counts them; and two sets are equal, and print the same, exactly when they
  have the same members.
-/

namespace BuildTargets

namespace Flavor

theorem compare_eq_eq_iff {a b : Flavor} : compare a b = .eq ↔ a = b := by
  show compareOfLessAndEq a.tag b.tag = .eq ↔ a = b
  rw [compareOfLessAndEq_eq_eq String.le_refl String.not_le]
  cases a
  cases b
  simp

theorem compare_eq_gt_iff {a b : Flavor} : compare a b = .gt ↔ b < a :=
  compareOfLessAndEq_eq_gt String.le_antisymm String.le_total String.not_le a.tag b.tag

end Flavor

namespace FlavorSet

/-! ## Binary search -/

section Search

variable {xs : List Flavor} {f : Flavor} {base size : Nat}

/-- Of an ascending list, a member at a later place is larger. -/
theorem getElem_lt_getElem (hs : xs.Pairwise (· < ·)) {i j : Nat} (hi : i < xs.length)
    (hj : j < xs.length) (hij : i < j) : xs[i] < xs[j] :=
  List.pairwise_iff_getElem.1 hs i j hi hj hij

/-- The stretch of `size` places from `base` holds every place where `f` stands. -/
def Brackets (xs : List Flavor) (f : Flavor) (base size : Nat) : Prop :=
  ∀ i (hi : i < xs.length), xs[i] = f → base ≤ i ∧ i < base + size

theorem brackets_whole : Brackets xs f 0 xs.length :=
  fun i hi _ => ⟨Nat.zero_le i, by omega⟩

/-- A middle member larger than `f` leaves `f` before it. -/
theorem Brackets.lower (hs : xs.Pairwise (· < ·)) (hb : Brackets xs f base size)
    (hmid : base + size / 2 < xs.length)
    (hgt : compare xs[base + size / 2] f = .gt) : Brackets xs f base (size - size / 2) := by
  intro i hi hf
  have hflt : f < xs[base + size / 2] := Flavor.compare_eq_gt_iff.1 hgt
  -- `f` cannot stand at the middle or after it: there the members are at least the middle one.
  have hbefore : i < base + size / 2 := by
    refine Nat.lt_of_not_le fun hle => ?_
    rcases Nat.lt_or_eq_of_le hle with hlt | heq
    · exact Flavor.lt_irrefl f
        (Flavor.lt_trans hflt (hf ▸ getElem_lt_getElem hs hmid hi hlt))
    · subst heq
      exact Flavor.lt_irrefl f (hf ▸ hflt)
  have := hb i hi hf
  omega

/-- A middle member that is not larger than `f` leaves `f` at it or after it. -/
theorem Brackets.upper (hs : xs.Pairwise (· < ·)) (hb : Brackets xs f base size)
    (hmid : base + size / 2 < xs.length)
    (hgt : ¬ compare xs[base + size / 2] f = .gt) :
    Brackets xs f (base + size / 2) (size - size / 2) := by
  intro i hi hf
  -- Before the middle, `f` would be smaller than the middle member.
  have hafter : base + size / 2 ≤ i := by
    refine Nat.le_of_not_lt fun hlt => hgt ?_
    exact Flavor.compare_eq_gt_iff.2 (hf ▸ getElem_lt_getElem hs hi hmid hlt)
  have := hb i hi hf
  omega

/-- **The search finds exactly the members.** On an ascending list, a search over a stretch
that holds every place of `f` ends on `f` exactly when `f` is a member. -/
theorem probe_eq_eq_iff (hs : xs.Pairwise (· < ·)) {hsize : 0 < size}
    {hfit : base + size ≤ xs.length} (hb : Brackets xs f base size) :
    probe xs f base size hsize hfit = .eq ↔ f ∈ xs := by
  fun_induction probe xs f base size hsize hfit with
  | case1 base size hsize hfit h hmid hgt ih => exact ih (hb.lower hs hmid hgt)
  | case2 base size hsize hfit h hmid hgt ih => exact ih (hb.upper hs hmid hgt)
  | case3 base size hsize hfit h hbase =>
    rw [Flavor.compare_eq_eq_iff]
    constructor
    · intro heq
      exact heq ▸ List.getElem_mem hbase
    · intro hmem
      -- One place is left, and `f` can stand nowhere else.
      obtain ⟨i, hi, hf⟩ := List.mem_iff_getElem.1 hmem
      have hib := hb i hi hf
      have hi_eq : i = base := by omega
      subst hi_eq
      exact hf

end Search

theorem contains_iff_mem (s : FlavorSet) (f : Flavor) : s.contains f = true ↔ f ∈ s.toList := by
  unfold contains
  split
  · rw [beq_iff_eq, probe_eq_eq_iff s.sorted brackets_whole]
  · rename_i hlen
    have hnil : s.toList = [] := List.eq_nil_of_length_eq_zero (by omega)
    simp [hnil]

/-! ## Members -/

theorem mem_difference {s : FlavorSet} {known : Flavor → Bool} {f : Flavor} :
    f ∈ (s.difference known).toList ↔ f ∈ s.toList ∧ known f = false := by
  simp [difference]

theorem size_eq_card (s : FlavorSet) : s.size = s.toList.toFinset.card :=
  (List.toFinset_card_of_nodup (s.sorted.imp Flavor.ne_of_lt)).symm

/-- Two sets with the same members are the same set: both lists are strictly increasing. -/
theorem eq_of_mem_iff {a b : FlavorSet} (h : ∀ f, f ∈ a.toList ↔ f ∈ b.toList) : a = b := by
  have hperm : a.toList.Perm b.toList :=
    (List.perm_ext_iff_of_nodup (a.sorted.imp Flavor.ne_of_lt) (b.sorted.imp Flavor.ne_of_lt)).2 h
  exact FlavorSet.ext (hperm.eq_of_pairwise (fun x y _ _ hxy hyx => absurd
    (Flavor.lt_trans hxy hyx) (Flavor.lt_irrefl x)) a.sorted b.sorted)

/-! ## The printed form -/

/-- Sets that print the same hold the same list: no flavor holds the comma that separates
them. -/
theorem toList_eq_of_display_eq {a b : FlavorSet} (h : a.display = b.display) :
    a.toList = b.toList := by
  by_cases hna : a.toList = []
  · by_cases hnb : b.toList = []
    · rw [hna, hnb]
    · have ha0 : a.display = "" := by simp [display, join, hna]
      exact absurd (h.symm.trans ha0) (display_ne_empty hnb)
  · by_cases hnb : b.toList = []
    · have hb0 : b.display = "" := by simp [display, join, hnb]
      exact absurd (h.trans hb0) (display_ne_empty hna)
    · -- Both print as their flavors joined by commas, which the comma splits back apart.
      have htags : a.toList.map Flavor.tag = b.toList.map Flavor.tag := by
        rw [← splitOnChar_display hna, ← splitOnChar_display hnb, h]
      exact (List.map_inj_right fun x y hxy => Flavor.tag_injective hxy).1 htags

/-- **The representation invariant of flavor sets, and what it gives.** Every set holds its
members in strictly increasing order of their text, which is also the order of their UTF-8
bytes. `ofList` keeps exactly the flavors it is given, and `difference` exactly the members that
`known` refuses. The binary search of `contains` finds exactly the members, and `size` is the
number of distinct members. So two sets are equal exactly when they have the same members,
whatever the order and repeats of the flavors they were built from, and they print the same
exactly then too. -/
theorem canonical :
    (∀ s : FlavorSet, s.toList.Pairwise (· < ·) ∧
      (s.toList.map fun f => f.tag.toByteArray.data.toList).Pairwise (· < ·)) ∧
    (∀ fs f, f ∈ (ofList fs).toList ↔ f ∈ fs) ∧
    (∀ (s : FlavorSet) (known : Flavor → Bool) (f : Flavor),
      f ∈ (s.difference known).toList ↔ f ∈ s.toList ∧ known f = false) ∧
    (∀ (s : FlavorSet) f, s.contains f = true ↔ f ∈ s.toList) ∧
    (∀ s : FlavorSet, s.size = s.toList.toFinset.card) ∧
    (∀ a b : FlavorSet, a = b ↔ ∀ f, f ∈ a.toList ↔ f ∈ b.toList) ∧
    (∀ a b : FlavorSet, a.display = b.display ↔ ∀ f, f ∈ a.toList ↔ f ∈ b.toList) := by
  have hext : ∀ a b : FlavorSet, a = b ↔ ∀ f, f ∈ a.toList ↔ f ∈ b.toList :=
    fun _ _ => ⟨fun h _ => h ▸ Iff.rfl, eq_of_mem_iff⟩
  refine ⟨fun s => ⟨s.sorted, pairwise_bytes s⟩, fun _ _ => mem_ofList,
    fun _ _ _ => mem_difference, contains_iff_mem, size_eq_card, hext, fun a b => ?_⟩
  rw [← hext a b]
  exact ⟨fun h => FlavorSet.ext (toList_eq_of_display_eq h), fun h => h ▸ rfl⟩

end FlavorSet

end BuildTargets
