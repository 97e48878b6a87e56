import BuildTargets.Proofs.Flavor.Canonical
import BuildTargets.Proofs.Path.Components

/-!
# Reading flavors

`Flavor.ofString` checks a text in three steps: it refuses the empty text, then a text that
holds a delimiter, naming the first one, and only then a text that holds a blank.
`FlavorSet.parse` refuses the empty text and otherwise checks the comma-separated elements in
order, stopping at the first that is no flavor. This file states both checks as relations
between a text and its error (`Flavor.Refusal`, `FlavorSet.Refusal`), with no search in them,
and says which set a list that passes gives.

Principal results:

* `Flavor.ofString_eq_error_iff` — a flavor is refused for its first failing step, and a
  delimiter is reported before any blank;
* `FlavorSet.parse_eq_ok_iff` — a list is read exactly when it is not empty and every element
  is a flavor, and it gives the set whose members have those texts;
* `FlavorSet.parse_eq_error_iff` — otherwise the error is the empty list's or the first failing
  element's;
* `FlavorSet.Refusal.reserved_mem` — a flavor in a list is never refused for a comma, only for
  `#`, `/` or `:`.
-/

namespace BuildTargets

/-! ## Traversals that stop at the first error -/

/-- A traversal in `Except` fails with `e` exactly when some element fails with `e` and every
element before it succeeds; the elements after it are not looked at. -/
theorem mapM_eq_error_iff {α β ε : Type} {f : α → Except ε β} {l : List α} {e : ε} :
    l.mapM f = .error e ↔
      ∃ pre x post, l = pre ++ x :: post ∧ (∀ y ∈ pre, ∃ v, f y = .ok v) ∧ f x = .error e := by
  induction l with
  | nil =>
    simp only [List.mapM_nil, pure, Except.pure, reduceCtorEq, false_iff, not_exists, not_and]
    intro pre x post h
    simp at h
  | cons y l ih =>
    rw [List.mapM_cons]
    cases hy : f y with
    | error e' =>
      simp only [bind, Except.bind, Except.error.injEq]
      constructor
      · rintro rfl
        exact ⟨[], y, l, rfl, (fun _ h => nomatch h), hy⟩
      · rintro ⟨pre, x, post, h, hpre, hx⟩
        cases pre with
        | nil =>
          obtain ⟨rfl, -⟩ := List.cons.inj h
          rw [hy] at hx
          exact Except.error.inj hx
        | cons z pre =>
          -- The first element succeeds as a member of the prefix, against `hy`.
          obtain ⟨rfl, -⟩ := List.cons.inj h
          obtain ⟨v, hv⟩ := hpre _ List.mem_cons_self
          rw [hy] at hv
          cases hv
    | ok v =>
      have hbind : (l.mapM f >>= fun vs => (pure (v :: vs) : Except ε (List β))) = .error e ↔
          l.mapM f = .error e := by
        cases l.mapM f <;> simp [bind, Except.bind, pure, Except.pure]
      simp only [bind, Except.bind] at hbind ⊢
      rw [hbind, ih]
      constructor
      · rintro ⟨pre, x, post, rfl, hpre, hx⟩
        refine ⟨y :: pre, x, post, rfl, fun z hz => ?_, hx⟩
        rcases List.mem_cons.1 hz with rfl | hz
        · exact ⟨v, hy⟩
        · exact hpre z hz
      · rintro ⟨pre, x, post, h, hpre, hx⟩
        cases pre with
        | nil =>
          obtain ⟨rfl, -⟩ := List.cons.inj h
          rw [hy] at hx
          cases hx
        | cons z pre =>
          obtain ⟨-, rfl⟩ := List.cons.inj h
          exact ⟨pre, x, post, rfl, fun w hw => hpre w (List.mem_cons_of_mem z hw), hx⟩

/-! ## One flavor -/

namespace Flavor

/-- Why a text is no flavor, step by step: it is empty; or it holds a delimiter, and the error
names the first; or it holds no delimiter but a blank. -/
inductive Refusal (x : String) : FlavorError → Prop
  | empty : x = "" → Refusal x .empty
  | reserved {before after : List Char} {c : Char} : x.toList = before ++ c :: after →
      c ∈ reserved → (∀ d ∈ before, d ∉ reserved) → Refusal x (.reserved x c)
  | blank : (∀ d ∈ x.toList, d ∉ reserved) → (∃ d ∈ x.toList, Text.isBlank d = true) →
      Refusal x (.blank x)

/-- A text that holds a character is not empty. -/
theorem isEmpty_eq_false_of_mem {x : String} {d : Char} (hd : d ∈ x.toList) :
    x.isEmpty = false := by
  rw [Bool.eq_false_iff, Ne, String.isEmpty_iff]
  rintro rfl
  simp at hd

theorem ofString_eq_error_iff {x : String} {e : FlavorError} :
    ofString x = .error e ↔ Refusal x e := by
  constructor
  · intro h
    unfold ofString at h
    split at h
    · rename_i h0
      cases h
      exact .empty (String.isEmpty_iff.1 h0)
    · split at h
      · rename_i c hfind
        cases h
        obtain ⟨hc, before, after, hx, hbefore⟩ := List.find?_eq_some_iff_append.1 hfind
        exact .reserved hx (by simpa using hc) (by simpa using hbefore)
      · rename_i hfind
        split at h
        · rename_i hbl
          cases h
          exact .blank (fun d hd => by simpa using List.find?_eq_none.1 hfind d hd)
            (by simpa [Text.hasBlank] using hbl)
        · cases h
  · intro h
    unfold ofString
    cases h with
    | empty h0 =>
      subst h0
      rfl
    | @reserved before after c hx hc hbefore =>
      have hfind : x.toList.find? (· ∈ reserved) = some c :=
        List.find?_eq_some_iff_append.2
          ⟨by simpa using hc, before, after, hx, by simpa using hbefore⟩
      rw [dif_neg (by simp [isEmpty_eq_false_of_mem (show c ∈ x.toList by simp [hx])])]
      split
      · rename_i c' hc'
        rw [hfind] at hc'
        cases hc'
        rfl
      · rename_i hnone
        rw [hfind] at hnone
        cases hnone
    | blank hres hbl =>
      obtain ⟨d, hd, hdb⟩ := hbl
      have hfind : x.toList.find? (· ∈ reserved) = none :=
        List.find?_eq_none.2 fun d hd => by simpa using hres d hd
      rw [dif_neg (by simp [isEmpty_eq_false_of_mem hd])]
      split
      · rename_i c' hc'
        rw [hfind] at hc'
        cases hc'
      · rw [dif_pos (show Text.hasBlank x = true from List.any_eq_true.2 ⟨d, hd, hdb⟩)]

end Flavor

/-! ## Lists of flavors -/

namespace FlavorSet

/-- The traversal passes exactly when the elements are the texts of flavors, and it gives
those flavors, in order. -/
theorem mapM_ofString_eq_ok_iff {xs : List String} {fs : List Flavor} :
    xs.mapM Flavor.ofString = .ok fs ↔ fs.map Flavor.tag = xs := by
  refine ⟨fun h => ?_, fun h => h ▸ mapM_ofString_tags fs⟩
  induction xs generalizing fs with
  | nil =>
    simp only [List.mapM_nil, pure, Except.pure, Except.ok.injEq] at h
    subst h
    rfl
  | cons x xs ih =>
    rw [List.mapM_cons] at h
    cases hx : Flavor.ofString x with
    | error e => simp [hx, bind, Except.bind] at h
    | ok f =>
      cases hxs : xs.mapM Flavor.ofString with
      | error e => simp [hx, hxs, bind, Except.bind] at h
      | ok gs =>
        simp only [hx, hxs, bind, Except.bind, pure, Except.pure, Except.ok.injEq] at h
        subst h
        rw [List.map_cons, Flavor.tag_of_ofString_eq_ok hx, ih hxs]

/-- Texts that all pass the check are the texts of some flavors. -/
theorem exists_map_tag {xs : List String} (h : ∀ x ∈ xs, Flavor.IsTag x) :
    ∃ fs : List Flavor, fs.map Flavor.tag = xs := by
  induction xs with
  | nil => exact ⟨[], rfl⟩
  | cons x xs ih =>
    obtain ⟨fs, hfs⟩ := ih fun y hy => h y (List.mem_cons_of_mem x hy)
    exact ⟨⟨x, h x List.mem_cons_self⟩ :: fs, by rw [List.map_cons, hfs]⟩

/-- The set of some flavors holds exactly the flavors whose texts theirs are. -/
theorem mem_ofList_iff_tag_mem {fs : List Flavor} {xs : List String}
    (hfs : fs.map Flavor.tag = xs) (f : Flavor) : f ∈ (ofList fs).toList ↔ f.tag ∈ xs := by
  rw [mem_ofList, ← hfs, List.mem_map_of_injective Flavor.tag_injective]

/-- Why a text is no flavor list: it is empty, or some comma-separated element is no flavor
while every element before it is one. -/
inductive Refusal (text : String) : FlavorListError → Prop
  | emptyList : text = "" → Refusal text .emptyList
  | flavor {pre post : List String} {x : String} {e : FlavorError} : text ≠ "" →
      Text.splitOnChar ',' text = pre ++ x :: post → (∀ y ∈ pre, Flavor.IsTag y) →
      Flavor.Refusal x e → Refusal text (.flavor e)

/-- A text whose comma-separated elements are all flavors is not empty: the empty text is one
element, the empty one, and that is no flavor. -/
theorem ne_empty_of_checked {text : String}
    (h : ∀ x ∈ Text.splitOnChar ',' text, Flavor.IsTag x) : text ≠ "" := by
  rintro rfl
  exact (h "" (by simp [Text.splitOnChar])).1 rfl

/-- **A flavor list is read exactly when it is not empty and every element is a flavor**, and
it gives the set of the flavors with those texts. -/
theorem parse_eq_ok_iff {text : String} {s : FlavorSet} :
    parse text = .ok s ↔ text ≠ "" ∧ (∀ x ∈ Text.splitOnChar ',' text, Flavor.IsTag x) ∧
      ∀ f, f ∈ s.toList ↔ f.tag ∈ Text.splitOnChar ',' text := by
  unfold parse
  by_cases h0 : text = ""
  · simp [h0]
  · have hne : text.isEmpty = false := by simpa [String.isEmpty_iff] using h0
    simp only [hne, Bool.false_eq_true, if_false, ne_eq, h0, not_false_eq_true, true_and]
    cases hm : (Text.splitOnChar ',' text).mapM Flavor.ofString with
    | error e =>
      simp only [reduceCtorEq, false_iff, not_and]
      intro hall _
      obtain ⟨fs, hfs⟩ := exists_map_tag hall
      rw [← hfs, mapM_ofString_tags] at hm
      cases hm
    | ok fs =>
      have hfs := mapM_ofString_eq_ok_iff.1 hm
      simp only [Except.ok.injEq]
      constructor
      · rintro rfl
        refine ⟨fun x hx => ?_, mem_ofList_iff_tag_mem hfs⟩
        obtain ⟨f, -, rfl⟩ := List.mem_map.1 (hfs ▸ hx)
        exact f.isTag
      · rintro ⟨-, hs⟩
        exact eq_of_mem_iff fun f => (mem_ofList_iff_tag_mem hfs f).trans (hs f).symm

/-- A refused text is refused by the reader with the same error. -/
theorem parse_of_refusal {text : String} {e : FlavorListError} (h : Refusal text e) :
    parse text = .error e := by
  cases h with
  | emptyList h0 =>
    subst h0
    rfl
  | @flavor pre post x e hne hsplit hpre hx =>
    have hm : (Text.splitOnChar ',' text).mapM Flavor.ofString = .error e :=
      mapM_eq_error_iff.2 ⟨pre, x, post, hsplit,
        fun y hy => ⟨_, Flavor.ofString_of_isTag (hpre y hy)⟩, Flavor.ofString_eq_error_iff.2 hx⟩
    have hne' : text.isEmpty = false := by simpa [String.isEmpty_iff] using hne
    simp [parse, hne', hm]

/-- **A flavor list is refused for the empty text or for its first failing element.** -/
theorem parse_eq_error_iff {text : String} {e : FlavorListError} :
    parse text = .error e ↔ Refusal text e := by
  refine ⟨fun h => ?_, parse_of_refusal⟩
  unfold parse at h
  by_cases h0 : text = ""
  · subst h0
    rw [if_pos (String.isEmpty_iff.2 rfl)] at h
    cases h
    exact .emptyList rfl
  · have hne : text.isEmpty = false := by simpa [String.isEmpty_iff] using h0
    simp only [hne, Bool.false_eq_true, if_false] at h
    cases hm : (Text.splitOnChar ',' text).mapM Flavor.ofString with
    | error e' =>
      rw [hm] at h
      cases h
      -- The traversal stops at the first element that is no flavor.
      obtain ⟨pre, x, post, hsplit, hpre, hx⟩ := mapM_eq_error_iff.1 hm
      refine .flavor h0 hsplit (fun y hy => ?_) (Flavor.ofString_eq_error_iff.1 hx)
      obtain ⟨v, hv⟩ := hpre y hy
      exact Flavor.tag_of_ofString_eq_ok hv ▸ v.isTag
    | ok fs =>
      rw [hm] at h
      cases h

/-- **A flavor in a list is refused for `#`, `/` or `:`, never for a comma**: the list is cut at
the commas, so no element holds one. -/
theorem Refusal.reserved_mem {text x : String} {c : Char}
    (h : Refusal text (.flavor (.reserved x c))) : c ∈ ['#', '/', ':'] := by
  cases h with
  | flavor _ hsplit _ hx =>
    cases hx with
    | reserved hxs hc _ =>
      have hmem : x ∈ Text.splitOnChar ',' text := by
        rw [hsplit]
        exact List.mem_append_right _ List.mem_cons_self
      obtain ⟨piece, hpiece, rfl⟩ := List.mem_map.1 hmem
      have hcomma : ',' ∉ (String.ofList piece).toList := by
        simpa using Text.not_mem_of_mem_splitOn hpiece
      have hcx : c ∈ (String.ofList piece).toList := by
        rw [hxs]
        exact List.mem_append_right _ List.mem_cons_self
      simp only [Flavor.reserved, List.mem_cons, List.not_mem_nil, or_false] at hc
      rcases hc with rfl | rfl | rfl | rfl
      · decide
      · exact absurd hcx hcomma
      · decide
      · decide

end FlavorSet

end BuildTargets
