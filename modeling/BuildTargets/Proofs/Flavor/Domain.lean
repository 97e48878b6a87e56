import Mathlib.Data.List.Nodup
import BuildTargets.Flavor.Domain

/-!
# Flavor domains as built

A domain is built from its name and its entries, and the build refuses an empty name and a
flavor declared twice. So every domain that is built has distinct flavors (`withKinds_eq_ok_iff`),
and what the rest of the library sees of it, its view, knows every one of its flavors while
offering users only the user flavors, in the order they were declared.

Principal results:

* `FlavorDomain.withKinds_eq_ok_iff` — a domain is built exactly when its name is not empty and
  no flavor is declared twice, and it is then the name with the entries as given;
* `FlavorDomain.view_internal` — an internal flavor of a built domain is known to its view but
  never offered to users;
* `FlavorDomain.withKinds_spec` — what a build gives: a domain that answers for its entries
  through every accessor (`FlavorDomain.Declares`), or the refusal of the empty name or of the
  first flavor declared again.
-/

namespace BuildTargets

namespace FlavorDomain

variable {α : Type}

/-- The search for a repeat finds none exactly when the flavors are distinct and none of them
was seen before. -/
theorem firstRepeat_eq_none_iff {seen fs : List Flavor} :
    firstRepeat seen fs = none ↔ (∀ f ∈ fs, f ∉ seen) ∧ fs.Nodup := by
  induction fs generalizing seen with
  | nil => simp [firstRepeat]
  | cons f rest ih =>
    by_cases hseen : f ∈ seen
    · simp only [firstRepeat, List.contains_iff_mem, hseen, if_true, reduceCtorEq, false_iff,
        not_and]
      exact fun hall => absurd hseen (hall f List.mem_cons_self)
    · simp only [firstRepeat, List.contains_iff_mem, hseen, if_false, ih]
      rw [List.forall_mem_cons, List.nodup_cons]
      simp only [List.mem_cons, not_or]
      constructor
      · rintro ⟨hall, hnd⟩
        exact ⟨⟨hseen, fun g hg => (hall g hg).2⟩, fun hf => (hall f hf).1 rfl, hnd⟩
      · rintro ⟨⟨-, hall⟩, hnot, hnd⟩
        exact ⟨fun g hg => ⟨fun hgf => hnot (hgf ▸ hg), hall g hg⟩, hnd⟩

/-- The search for a repeat finds `f` exactly at the first flavor that was seen before or
repeats an earlier one of the list. -/
theorem firstRepeat_eq_some_iff {seen fs : List Flavor} {f : Flavor} :
    firstRepeat seen fs = some f ↔
      ∃ pre post, fs = pre ++ f :: post ∧ (∀ x ∈ pre, x ∉ seen) ∧ pre.Nodup ∧
        (f ∈ seen ∨ f ∈ pre) := by
  induction fs generalizing seen with
  | nil => simp [firstRepeat]
  | cons g rest ih =>
    by_cases hg : g ∈ seen
    · simp only [firstRepeat, List.contains_iff_mem, hg, if_true, Option.some.injEq]
      constructor
      · rintro rfl
        exact ⟨[], rest, rfl, by simp, List.nodup_nil, .inl hg⟩
      · rintro ⟨_ | ⟨x, pre⟩, post, hfs, hpre, -, hf⟩
        · simp only [List.nil_append, List.cons.injEq] at hfs
          exact hfs.1
        · simp only [List.cons_append, List.cons.injEq] at hfs
          exact absurd (hfs.1 ▸ hg) (hpre x List.mem_cons_self)
    · simp only [firstRepeat, List.contains_iff_mem, hg, if_false, ih]
      constructor
      · rintro ⟨pre, post, rfl, hpre, hnd, hf⟩
        refine ⟨g :: pre, post, rfl, ?_, ?_, ?_⟩
        · intro x hx
          rcases List.mem_cons.1 hx with rfl | hx
          · exact hg
          · exact fun h => (hpre x hx) (List.mem_cons_of_mem _ h)
        · exact List.nodup_cons.2 ⟨fun h => hpre g h List.mem_cons_self, hnd⟩
        · rcases hf with hf | hf
          · rcases List.mem_cons.1 hf with rfl | hf
            · exact .inr List.mem_cons_self
            · exact .inl hf
          · exact .inr (List.mem_cons_of_mem _ hf)
      · rintro ⟨_ | ⟨x, pre⟩, post, hfs, hpre, hnd, hf⟩
        · simp only [List.nil_append, List.cons.injEq] at hfs
          rcases hf with hf | hf
          · exact absurd (hfs.1 ▸ hf) hg
          · cases hf
        · simp only [List.cons_append, List.cons.injEq] at hfs
          obtain ⟨rfl, rfl⟩ := hfs
          obtain ⟨hx, hnd⟩ := List.nodup_cons.1 hnd
          refine ⟨pre, post, rfl, fun y hy hmem => ?_, hnd, ?_⟩
          · rcases List.mem_cons.1 hmem with rfl | hmem
            · exact hx hy
            · exact hpre y (List.mem_cons_of_mem _ hy) hmem
          · rcases hf with hf | hf
            · exact .inl (List.mem_cons_of_mem _ hf)
            · rcases List.mem_cons.1 hf with rfl | hf
              · exact .inl List.mem_cons_self
              · exact .inr hf

/-- **A domain is built exactly from a non-empty name and distinct flavors**, and it is then that
name with the entries in the order given. -/
theorem withKinds_eq_ok_iff {name : String} {entries : List (Flavor × FlavorKind × α)}
    {d : FlavorDomain α} :
    withKinds name entries = .ok d ↔
      name ≠ "" ∧ (entries.map (·.1)).Nodup ∧ d = ⟨name, entries⟩ := by
  unfold withKinds
  by_cases hname : name.isEmpty = true
  · have h0 : name = "" := String.isEmpty_iff.1 hname
    simp [h0]
  · have h0 : name ≠ "" := fun h => hname (String.isEmpty_iff.2 h)
    simp only [hname, Bool.false_eq_true, if_false]
    cases hrep : firstRepeat [] (entries.map (·.1)) with
    | some f =>
      have hnd : ¬ (entries.map (·.1)).Nodup := fun hnd =>
        absurd (firstRepeat_eq_none_iff.2 ⟨fun _ _ => List.not_mem_nil, hnd⟩) (by simp [hrep])
      simp [hnd]
    | none =>
      have hnd := (firstRepeat_eq_none_iff.1 hrep).2
      simp only [Except.ok.injEq, h0, ne_eq, not_false_eq_true, hnd, true_and]
      exact eq_comm

/-- The view knows every flavor of the domain, of either kind. -/
theorem view_contains_iff (d : FlavorDomain α) (f : Flavor) :
    d.view.contains f = true ↔ ∃ k x, (f, k, x) ∈ d.entries := by
  simp [view, View.contains, flavors]

/-- **An internal flavor is known but not offered.** In a built domain, the view counts an
internal flavor as known, and lists it among the user flavors never: its one entry has the
internal kind. -/
theorem view_internal {name : String} {entries : List (Flavor × FlavorKind × α)}
    {d : FlavorDomain α} (hd : withKinds name entries = .ok d) {f : Flavor} {x : α}
    (hf : (f, .internal, x) ∈ entries) :
    d.view.contains f = true ∧ f ∉ d.view.userFlavors := by
  obtain ⟨-, hnd, rfl⟩ := withKinds_eq_ok_iff.1 hd
  refine ⟨(view_contains_iff _ f).2 ⟨.internal, x, hf⟩, fun hu => ?_⟩
  simp only [view, userFlavors, List.mem_map, List.mem_filter] at hu
  obtain ⟨e, ⟨he, hkind⟩, hef⟩ := hu
  -- The flavors are distinct, so the user entry for `f` is the internal one.
  have heq : e = (f, .internal, x) := List.inj_on_of_nodup_map hnd he hf hef
  subst heq
  simp at hkind

/-! ## The domain a build gives -/

/-- What a domain answers when it holds exactly `entries` under `name`: its name; its flavors and
values in the order of the entries; for the flavor of an entry, that entry's value and kind; for
any other flavor, nothing; and the user flavors in the order of the entries. -/
structure Declares (name : String) (entries : List (Flavor × FlavorKind × α))
    (d : FlavorDomain α) : Prop where
  name_eq : d.name = name
  flavors_eq : d.flavors = entries.map (·.1)
  values_eq : d.values = entries.map (·.2.2)
  lookup : ∀ f k v, (f, k, v) ∈ entries →
    d.get? f = some v ∧ d.kind? f = some k ∧ d.contains f = true
  absent : ∀ f, f ∉ entries.map (·.1) →
    d.get? f = none ∧ d.kind? f = none ∧ d.contains f = false
  userFlavors_eq : d.userFlavors = (entries.filter (·.2.1 == .user)).map (·.1)

/-- With distinct flavors, the entry found for a flavor is its one entry. -/
theorem find?_of_mem {d : FlavorDomain α} (hnd : d.flavors.Nodup) {f : Flavor} {k : FlavorKind}
    {v : α} (h : (f, k, v) ∈ d.entries) : d.find? f = some (f, k, v) := by
  unfold find?
  have hsome : (d.entries.find? (·.1 == f)).isSome :=
    List.find?_isSome.2 ⟨(f, k, v), h, by simp⟩
  obtain ⟨e, he⟩ := Option.isSome_iff_exists.1 hsome
  have hkey : e.1 = f := by simpa using List.find?_some he
  rw [he, List.inj_on_of_nodup_map hnd (List.mem_of_find?_eq_some he) h hkey]

/-- No entry is found for a flavor the domain does not have. -/
theorem find?_of_not_mem {d : FlavorDomain α} {f : Flavor} (h : f ∉ d.flavors) :
    d.find? f = none := by
  unfold find?
  rw [List.find?_eq_none]
  intro e he hkey
  exact h (List.mem_map.2 ⟨e, he, beq_iff_eq.1 hkey⟩)

/-- **A domain with distinct flavors answers for its entries.** -/
theorem declares_of_nodup {name : String} {entries : List (Flavor × FlavorKind × α)}
    (hnd : (entries.map (·.1)).Nodup) :
    (⟨name, entries⟩ : FlavorDomain α).Declares name entries where
  name_eq := rfl
  flavors_eq := rfl
  values_eq := rfl
  lookup f k v h := by
    have hfind :=
      find?_of_mem (show (⟨name, entries⟩ : FlavorDomain α).flavors.Nodup from hnd) h
    refine ⟨by simp [get?, hfind], by simp [kind?, hfind], ?_⟩
    simp only [contains, flavors, List.contains_iff_mem]
    exact List.mem_map.2 ⟨_, h, rfl⟩
  absent f h := by
    have hfind :=
      find?_of_not_mem (show f ∉ (⟨name, entries⟩ : FlavorDomain α).flavors from h)
    refine ⟨by simp [get?, hfind], by simp [kind?, hfind], ?_⟩
    simpa [contains, flavors] using h
  userFlavors_eq := rfl

/-- The first repeated flavor, read on the entries. -/
theorem firstRepeat_entries_eq_some_iff {entries : List (Flavor × FlavorKind × α)} {f : Flavor} :
    firstRepeat [] (entries.map (·.1)) = some f ↔
      ∃ pre x post, entries = pre ++ x :: post ∧ (pre.map (·.1)).Nodup ∧
        x.1 ∈ pre.map (·.1) ∧ x.1 = f := by
  rw [firstRepeat_eq_some_iff]
  simp only [List.not_mem_nil, not_false_eq_true, implies_true, false_or, true_and]
  constructor
  · rintro ⟨pre, post, hmap, hnd, hf⟩
    obtain ⟨l₁, l₂, rfl, rfl, h₂⟩ := List.map_eq_append_iff.1 hmap
    obtain ⟨x, l₃, rfl, rfl, rfl⟩ := List.map_eq_cons_iff.1 h₂
    exact ⟨l₁, x, l₃, rfl, hnd, hf, rfl⟩
  · rintro ⟨pre, x, post, rfl, hnd, hx, rfl⟩
    exact ⟨pre.map (·.1), post.map (·.1), by simp, hnd, hx⟩

/-- With a non-empty name, a build is refused exactly at the first entry whose flavor repeats an
earlier one, and the refusal names that flavor. -/
theorem withKinds_eq_error_iff {name : String} {entries : List (Flavor × FlavorKind × α)}
    (hname : name ≠ "") {e : FlavorDomainError} :
    withKinds name entries = .error e ↔
      ∃ pre x post, entries = pre ++ x :: post ∧ (pre.map (·.1)).Nodup ∧
        x.1 ∈ pre.map (·.1) ∧ e = .duplicate name x.1 := by
  unfold withKinds
  rw [if_neg (by simpa using hname)]
  cases hrep : firstRepeat [] (entries.map (·.1)) with
  | none =>
    simp only [reduceCtorEq, false_iff]
    rintro ⟨pre, x, post, hentries, hnd, hx, -⟩
    have := firstRepeat_entries_eq_some_iff.2 ⟨pre, x, post, hentries, hnd, hx, rfl⟩
    rw [hrep] at this
    cases this
  | some f =>
    obtain ⟨pre, x, post, hentries, hnd, hx, rfl⟩ := firstRepeat_entries_eq_some_iff.1 hrep
    simp only [Except.error.injEq]
    constructor
    · rintro rfl
      exact ⟨pre, x, post, hentries, hnd, hx, rfl⟩
    · rintro ⟨pre', x', post', hentries', hnd', hx', rfl⟩
      -- The first repeat is unique: `firstRepeat` finds the one of any such decomposition.
      have := firstRepeat_entries_eq_some_iff.2 ⟨pre', x', post', hentries', hnd', hx', rfl⟩
      rw [hrep, Option.some.injEq] at this
      rw [this]

/-- **How a flavor domain is built.** It is built exactly from a non-empty name and entries with
distinct flavors, and it then answers for those entries (`Declares`): flavors and values in the
order given, the value and kind of each flavor's one entry, nothing for other flavors, and the
user flavors in order. The empty name is refused first; any other refusal names the flavor of the
first entry that repeats an earlier one. An internal or a user domain is the same build with
every kind internal or user. -/
theorem withKinds_spec (name : String) (entries : List (Flavor × FlavorKind × α)) :
    ((∃ d, withKinds name entries = .ok d) ↔ name ≠ "" ∧ (entries.map (·.1)).Nodup) ∧
    (∀ d, withKinds name entries = .ok d → d.Declares name entries) ∧
    (name = "" → withKinds name entries = .error .emptyName) ∧
    (name ≠ "" → ∀ e, withKinds name entries = .error e ↔
      ∃ pre x post, entries = pre ++ x :: post ∧ (pre.map (·.1)).Nodup ∧
        x.1 ∈ pre.map (·.1) ∧ e = .duplicate name x.1) ∧
    (∀ es : List (Flavor × α),
      internal name es = withKinds name (es.map fun (f, v) => (f, .internal, v)) ∧
        user name es = withKinds name (es.map fun (f, v) => (f, .user, v))) := by
  refine ⟨⟨fun ⟨_, h⟩ => ?_,
      fun ⟨hname, hnd⟩ => ⟨_, withKinds_eq_ok_iff.2 ⟨hname, hnd, rfl⟩⟩⟩,
    fun d h => ?_, fun hname => by simp [withKinds, hname],
    fun hname _ => withKinds_eq_error_iff hname, fun _ => ⟨rfl, rfl⟩⟩
  · obtain ⟨hname, hnd, -⟩ := withKinds_eq_ok_iff.1 h
    exact ⟨hname, hnd⟩
  · obtain ⟨-, hnd, rfl⟩ := withKinds_eq_ok_iff.1 h
    exact declares_of_nodup hnd

/-- The domain `dup` that declares `a` twice is refused for `a`. -/
theorem withKinds_spec_duplicate :
    ("dup" : String) ≠ "" ∧
      withKinds "dup" [(⟨"a", by decide⟩, .internal, 1), (⟨"a", by decide⟩, .internal, 2)] =
        .error (.duplicate "dup" ⟨"a", by decide⟩) :=
  ⟨by decide, ((withKinds_spec "dup" _).2.2.2.1 (by decide) _).2
    ⟨[(⟨"a", by decide⟩, .internal, 1)], (⟨"a", by decide⟩, .internal, 2), [], rfl, by decide,
      by decide, rfl⟩⟩

end FlavorDomain

end BuildTargets
