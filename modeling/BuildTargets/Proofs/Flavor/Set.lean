import BuildTargets.Flavor.Set

/-!
# Flavor sets as ordered lists

A flavor set is kept as the list of its members in strictly increasing order of their text.
`ofList` builds it by inserting the members one at a time; this file shows that the list it
builds holds exactly the members given (`mem_ofList`), and that a list already in that order is
left as it is. So building a set from its own members gives the set back (`ofList_toList`).

Principal result:

* `FlavorSet.parse_display` — a non-empty set is read back from the text that shows it.
-/

namespace BuildTargets

namespace FlavorSet

/-! ## Inserting into the ordered list -/

/-- A flavor larger than every member goes at the end. -/
theorem insertOrdered_of_lt {f : Flavor} {l : List Flavor} (h : ∀ g ∈ l, g < f) :
    insertOrdered f l = l ++ [f] := by
  induction l with
  | nil => rfl
  | cons g gs ih =>
    have hgf := h g List.mem_cons_self
    unfold insertOrdered
    rw [if_neg fun hfg => Flavor.lt_irrefl f (Flavor.lt_trans hfg hgf),
      if_neg (Flavor.ne_of_lt hgf).symm, ih fun x hx => h x (List.mem_cons_of_mem g hx)]
    rfl

/-! ## Sets built from lists -/

theorem toList_ofList (fs : List Flavor) :
    (ofList fs).toList = fs.foldl (fun acc f => insertOrdered f acc) [] := rfl

theorem mem_foldl_insertOrdered {x : Flavor} {acc fs : List Flavor} :
    x ∈ fs.foldl (fun acc f => insertOrdered f acc) acc ↔ x ∈ acc ∨ x ∈ fs := by
  induction fs generalizing acc with
  | nil => simp
  | cons f fs ih =>
    rw [List.foldl_cons, ih, mem_insertOrdered, List.mem_cons, or_assoc]
    exact or_left_comm

/-- Inserting the members of an ordered list, each larger than what is there, appends them. -/
theorem foldl_insertOrdered_of_pairwise {acc fs : List Flavor}
    (h : (acc ++ fs).Pairwise (· < ·)) :
    fs.foldl (fun acc f => insertOrdered f acc) acc = acc ++ fs := by
  induction fs generalizing acc with
  | nil => simp
  | cons f fs ih =>
    have hlt : ∀ g ∈ acc, g < f := fun g hg =>
      (List.pairwise_append.1 h).2.2 g hg f List.mem_cons_self
    rw [List.foldl_cons, insertOrdered_of_lt hlt, ih (by simpa using h)]
    simp

theorem mem_ofList {x : Flavor} {fs : List Flavor} : x ∈ (ofList fs).toList ↔ x ∈ fs := by
  simp [toList_ofList, mem_foldl_insertOrdered]

/-- A set is the set of its own members: they are in strictly increasing order, so inserting
them one by one appends each. -/
theorem ofList_toList (s : FlavorSet) : ofList s.toList = s :=
  FlavorSet.ext (foldl_insertOrdered_of_pairwise (by simpa using s.sorted))

end FlavorSet

/-! ## Reading a set back -/

namespace FlavorSet

theorem mapM_ofString_tags (l : List Flavor) :
    (l.map Flavor.tag).mapM Flavor.ofString = .ok l := by
  induction l with
  | nil => rfl
  | cons f fs ih =>
    rw [List.map_cons, List.mapM_cons, Flavor.ofString_tag, ih]
    rfl

/-- A non-empty set prints as text that the comma cuts back into its flavors: no flavor holds
a comma. -/
theorem splitOnChar_display {s : FlavorSet} (hne : s.toList ≠ []) :
    Text.splitOnChar ',' s.display = s.toList.map Flavor.tag :=
  Text.splitOnChar_intercalate (by simpa using hne) fun x hx => by
    obtain ⟨f, -, rfl⟩ := List.mem_map.1 hx
    exact fun hc => f.isTag.2.1 ',' hc (by decide)

/-- A non-empty set does not print as the empty text: its first flavor is not empty. -/
theorem display_ne_empty {s : FlavorSet} (hne : s.toList ≠ []) : s.display ≠ "" := by
  intro h0
  obtain ⟨f, hf⟩ := List.exists_mem_of_ne_nil _ hne
  have htag : f.tag ∈ Text.splitOnChar ',' "" := by
    rw [← h0, splitOnChar_display hne]
    exact List.mem_map_of_mem hf
  exact f.isTag.1 (List.mem_singleton.1 htag)

/-- A non-empty set is read back from its text. -/
theorem parse_display {s : FlavorSet} (hne : s.toList ≠ []) : parse s.display = .ok s := by
  unfold parse
  rw [if_neg (by simpa using display_ne_empty hne), splitOnChar_display hne,
    mapM_ofString_tags]
  exact congrArg Except.ok (ofList_toList s)

end FlavorSet

end BuildTargets
