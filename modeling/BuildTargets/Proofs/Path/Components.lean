import BuildTargets.Path.Basic

/-!
# Paths through their components

The operations on paths are written on the text: `parent?` trims pieces, `join` glues text and
`stripPrefix?` cuts the text after a matched component. This file says what each of them does
to the list of components, which is all that the package of a directory depends on.

Principal results:

* `isAbsolute_iff_head?` — a path is absolute exactly when its first component is the root;
* `components_parent?` — the parent of a path has its components but the last;
* `components_join` — joining a relative path onto a non-empty one appends the relative path's
  components, less the current directory;
* `stripPrefix?_eq_none_iff`, `components_stripPrefix?` — a base comes off a path exactly when its
  components start the path's, and what is left has the remaining components.

The one piece of text-level reasoning underneath is `components_ofLayout_plain` and its two
siblings: writing a lead and a body back as text and reading it again gives the same
components, as long as no piece holds a slash and a body without lead does not start with a
piece that would be read as a lead.
-/

namespace BuildTargets.Text

/-- No piece of a list cut at a separator holds the separator. -/
theorem not_mem_of_mem_splitOn {α : Type} [BEq α] [LawfulBEq α] {xs piece : List α} {sep : α}
    (h : piece ∈ xs.splitOn sep) : sep ∉ piece := by
  induction xs generalizing piece with
  | nil => simp [List.splitOn_nil] at h; simp [h]
  | cons x xs ih =>
    rw [List.splitOn_cons_eq_if_modifyHead] at h
    split at h
    · rcases List.mem_cons.1 h with rfl | h
      · simp
      · exact ih h
    · obtain ⟨r, rs, hr⟩ := List.exists_cons_of_ne_nil (List.splitOn_ne_nil sep xs)
      rw [hr, List.modifyHead_cons] at h
      rcases List.mem_cons.1 h with rfl | h
      · rintro (_ | ⟨_, hm⟩)
        · simp_all
        · exact ih (hr ▸ List.mem_cons_self ..) hm
      · exact ih (hr ▸ List.mem_cons_of_mem _ h)

end BuildTargets.Text

namespace BuildTargets.FsPath

open Text

/-! ## Pieces -/

theorem pieces_ne_nil (p : FsPath) : p.pieces ≠ [] := List.splitOn_ne_nil _ _

theorem slash_not_mem_of_mem_pieces {p : FsPath} {x : List Chunk} (h : x ∈ p.pieces) :
    slash ∉ x := not_mem_of_mem_splitOn h

theorem pieces_cons {p : FsPath} {c : Chunk} {cs : List Chunk} (hp : p.chunks = c :: cs)
    (hc : c ≠ slash) : ∃ first rest, p.pieces = (c :: first) :: rest := by
  obtain ⟨r, rs, hr⟩ := List.exists_cons_of_ne_nil (List.splitOn_ne_nil slash cs)
  refine ⟨r, rs, ?_⟩
  rw [pieces, hp, List.splitOn_cons_eq_if_modifyHead, if_neg (by simpa using hc), hr]
  rfl

theorem layout_of_pieces {p : FsPath} {first : List Chunk} {rest : List (List Chunk)}
    (h : p.pieces = first :: rest) :
    p.layout = if p.isAbsolute then (.root, rest)
      else if first = dot then (.current, rest) else (.plain, first :: rest) := by
  unfold layout
  rw [h]

/-- The body of a layout is made of the path's pieces. -/
theorem mem_pieces_of_mem_layout {p : FsPath} {x : List Chunk} (h : x ∈ p.layout.2) :
    x ∈ p.pieces := by
  obtain ⟨first, rest, hp⟩ := List.exists_cons_of_ne_nil p.pieces_ne_nil
  rw [layout_of_pieces hp] at h
  rw [hp]
  split at h
  · exact List.mem_cons_of_mem _ h
  · split at h
    · exact List.mem_cons_of_mem _ h
    · exact h

theorem slash_not_mem_of_isPrefix {p : FsPath} {body : List (List Chunk)}
    (h : body <+: p.layout.2) : ∀ x ∈ body, slash ∉ x :=
  fun _ hx => slash_not_mem_of_mem_pieces (mem_pieces_of_mem_layout (h.subset hx))

theorem layout_fst_eq_root_iff (p : FsPath) : p.layout.1 = .root ↔ p.isAbsolute = true := by
  obtain ⟨first, rest, hp⟩ := List.exists_cons_of_ne_nil p.pieces_ne_nil
  rw [layout_of_pieces hp]
  split
  · simp_all
  · split <;> simp_all

/-- Without a lead, the first piece of a non-empty path is a name or `..`. -/
theorem layout_plain_head {p : FsPath} (hl : p.layout.1 = .plain) (hne : p.chunks ≠ []) :
    ∀ x ∈ p.layout.2.head?, isSkippable x = false := by
  obtain ⟨c, cs, hp⟩ := List.exists_cons_of_ne_nil hne
  have hc : c ≠ slash := by
    rintro rfl
    have habs : p.isAbsolute = true := by simp [isAbsolute, hp]
    exact absurd ((layout_fst_eq_root_iff p).2 habs) (by simp [hl])
  obtain ⟨first, rest, hpieces⟩ := pieces_cons hp hc
  rw [layout_of_pieces hpieces] at hl ⊢
  have habs : p.isAbsolute = false := by simp [isAbsolute, hp, hc]
  by_cases hd : c :: first = dot
  · simp [habs, hd] at hl
  · simp [habs, hd, isSkippable]

/-! ## Components -/

theorem classify_ne_current (x : List Chunk) : classify x ≠ some .current := by
  unfold classify
  split
  · simp
  · split <;> simp

theorem classify_ne_root (x : List Chunk) : classify x ≠ some .root := by
  unfold classify
  split
  · simp
  · split <;> simp

theorem classify_eq_none_iff (x : List Chunk) : classify x = none ↔ isSkippable x := by
  unfold classify
  split
  · simp_all
  · split <;> simp_all

theorem root_not_mem_filterMap (body : List (List Chunk)) :
    .root ∉ body.filterMap classify := by
  simp [classify_ne_root]

theorem current_not_mem_filterMap (body : List (List Chunk)) :
    .current ∉ body.filterMap classify := by
  simp [classify_ne_current]

/-- No piece after the lead reads as the current directory. -/
@[simp] theorem filter_filterMap_classify (body : List (List Chunk)) :
    (body.filterMap classify).filter (fun c => !decide (c = .current)) =
      body.filterMap classify :=
  List.filter_eq_self.2 fun c hc => by
    simpa using fun he : c = .current => current_not_mem_filterMap body (he ▸ hc)

theorem filterMap_classify_eq_nil {body : List (List Chunk)} (h : ∀ x ∈ body, isSkippable x) :
    body.filterMap classify = [] :=
  List.filterMap_eq_nil_iff.2 fun x hx => (classify_eq_none_iff x).2 (h x hx)

theorem components_eq (p : FsPath) :
    p.components = p.layout.1.component?.toList ++ p.layout.2.filterMap classify := rfl

/-- **A path is absolute exactly when its first component is the root.** -/
theorem isAbsolute_iff_head? (p : FsPath) :
    p.isAbsolute = true ↔ p.components.head? = some .root := by
  rw [← layout_fst_eq_root_iff, components_eq]
  cases h : p.layout.1 with
  | root => simp [Lead.component?]
  | current => simp [Lead.component?]
  | plain =>
    simp only [Lead.component?, Option.toList_none, List.nil_append, reduceCtorEq, false_iff]
    intro hh
    exact root_not_mem_filterMap _ (List.mem_of_mem_head? hh)

/-- The current directory can only lead a relative path. -/
theorem current_not_mem_components {p : FsPath} (h : p.isAbsolute = true) :
    .current ∉ p.components := by
  rw [components_eq, (layout_fst_eq_root_iff p).2 h]
  simpa [Lead.component?] using current_not_mem_filterMap _

/-- The root can only lead an absolute path. -/
theorem root_not_mem_components {p : FsPath} (h : p.isAbsolute = false) :
    .root ∉ p.components := by
  have hl : p.layout.1 ≠ .root := by simp [layout_fst_eq_root_iff, h]
  rw [components_eq]
  cases hp : p.layout.1 with
  | root => exact absurd hp hl
  | current => simpa [Lead.component?] using root_not_mem_filterMap _
  | plain => simpa [Lead.component?] using root_not_mem_filterMap _

/-- The current directory can only come first. -/
theorem current_not_mem_tail_components (p : FsPath) : .current ∉ p.components.tail := by
  rw [components_eq]
  cases p.layout.1 with
  | plain => exact fun h => current_not_mem_filterMap _ (List.mem_of_mem_tail h)
  | root => simpa [Lead.component?] using current_not_mem_filterMap _
  | current => simpa [Lead.component?] using current_not_mem_filterMap _

/-- A path with a component other than the current directory does not end in one. -/
theorem getLast?_components_ne_current {p : FsPath} (h : ∃ c ∈ p.components, c ≠ .current) :
    ∀ c ∈ p.components.getLast?, c ≠ .current := by
  intro c hc
  have htail := current_not_mem_tail_components p
  match hl : p.components, hc, htail with
  | [], hc, _ => cases hc
  | [x], hc, _ =>
    obtain ⟨y, hy, hne⟩ := h
    simp only [hl, List.mem_singleton] at hy
    simp only [List.getLast?_singleton, Option.mem_def, Option.some.injEq] at hc
    rw [← hc, ← hy]
    exact hne
  | x :: y :: rest, hc, htail =>
    rintro rfl
    exact htail (List.mem_of_getLast? (by simpa using hc))

/-- A name among the components of a path is a non-empty piece without slash. -/
theorem normal_mem_components {p : FsPath} {n : List Chunk} (h : .normal n ∈ p.components) :
    n ≠ [] ∧ slash ∉ n := by
  rw [components_eq] at h
  rcases List.mem_append.1 h with h | h
  · cases hl : p.layout.1 <;> simp [hl, Lead.component?] at h
  · obtain ⟨x, hx, hc⟩ := List.mem_filterMap.1 h
    unfold classify at hc
    split at hc
    · cases hc
    · split at hc
      · cases hc
      · cases hc
        rename_i hskip _
        refine ⟨fun h0 => hskip (by simp [h0, isSkippable]), ?_⟩
        exact slash_not_mem_of_mem_pieces (mem_pieces_of_mem_layout hx)

/-- The pieces of a relative path name its components, less the current directory. -/
theorem filterMap_pieces {p : FsPath} (h : p.isAbsolute = false) :
    p.pieces.filterMap classify = p.components.filter (· ≠ .current) := by
  obtain ⟨first, rest, hfirst⟩ := List.exists_cons_of_ne_nil p.pieces_ne_nil
  rw [components_eq, layout_of_pieces hfirst, hfirst, h]
  by_cases hd : first = dot
  · subst hd
    simp [Lead.component?, classify, isSkippable]
  · simp [hd, Lead.component?]

/-! ## Writing a layout back -/

section ofLayout

variable {body : List (List Chunk)}

theorem pieces_ofLayout_root (h : ∀ x ∈ body, slash ∉ x) (hb : body ≠ []) :
    (ofLayout .root body).pieces = [] :: body := by
  simp only [pieces, ofLayout]
  rw [← List.nil_append (slash :: _), List.splitOn_append_cons_self,
    List.splitOn_intercalate _ h hb]
  rfl

theorem pieces_ofLayout_current (h : ∀ x ∈ body, slash ∉ x) (hb : body ≠ []) :
    (ofLayout .current body).pieces = dot :: body := by
  obtain ⟨b, bs, rfl⟩ := List.exists_cons_of_ne_nil hb
  simp only [pieces, ofLayout]
  rw [List.splitOn_append_cons_self, List.splitOn_intercalate _ h hb]
  rfl

theorem pieces_ofLayout_plain (h : ∀ x ∈ body, slash ∉ x) (hb : body ≠ []) :
    (ofLayout .plain body).pieces = body := by
  simp only [pieces, ofLayout]
  rw [List.splitOn_intercalate _ h hb]

theorem components_ofLayout_root (h : ∀ x ∈ body, slash ∉ x) :
    (ofLayout .root body).components = .root :: body.filterMap classify := by
  rcases body with _ | ⟨b, bs⟩
  · rfl
  · rw [components, layout_of_pieces (pieces_ofLayout_root h (List.cons_ne_nil _ _))]
    simp [isAbsolute, ofLayout, Lead.component?]

theorem components_ofLayout_current (h : ∀ x ∈ body, slash ∉ x) :
    (ofLayout .current body).components = .current :: body.filterMap classify := by
  rcases body with _ | ⟨b, bs⟩
  · rfl
  · rw [components, layout_of_pieces (pieces_ofLayout_current h (List.cons_ne_nil _ _))]
    simp [isAbsolute, ofLayout, dot, slash, Lead.component?]

/-- Without a lead, the body must not start with a piece that `layout` would read as the root
or the current directory. -/
theorem components_ofLayout_plain (h : ∀ x ∈ body, slash ∉ x)
    (hhead : ∀ x ∈ body.head?, isSkippable x = false) :
    (ofLayout .plain body).components = body.filterMap classify := by
  rcases body with _ | ⟨b, bs⟩
  · rfl
  · have hb : isSkippable b = false := hhead b rfl
    obtain ⟨c, cs, rfl⟩ : ∃ c cs, b = c :: cs := by
      cases b with
      | nil => simp [isSkippable] at hb
      | cons c cs => exact ⟨c, cs, rfl⟩
    have hc : c ≠ slash := fun hc => h _ (List.mem_cons_self ..) (hc ▸ List.mem_cons_self ..)
    have hdot : c :: cs ≠ dot := by simp_all [isSkippable]
    rw [components, layout_of_pieces (pieces_ofLayout_plain h (List.cons_ne_nil _ _))]
    simp [isAbsolute, ofLayout, hc, hdot, Lead.component?]

end ofLayout

/-! ## Trimming skippable pieces -/

section Trim

variable {body : List (List Chunk)}

/-- `trimEnd` drops skippable pieces from the end and nothing else. -/
theorem trimEnd_append (body : List (List Chunk)) :
    ∃ dropped, body = trimEnd body ++ dropped ∧ ∀ x ∈ dropped, isSkippable x := by
  refine ⟨(body.reverse.takeWhile isSkippable).reverse, ?_, ?_⟩
  · calc body = (body.reverse.takeWhile isSkippable ++
          body.reverse.dropWhile isSkippable).reverse := by
          rw [List.takeWhile_append_dropWhile, List.reverse_reverse]
      _ = _ := by rw [List.reverse_append]; rfl
  · intro x hx
    exact List.all_eq_true.1 List.all_takeWhile x (List.mem_reverse.1 hx)

/-- `trimStart` drops skippable pieces from the start and nothing else. -/
theorem trimStart_append (body : List (List Chunk)) :
    ∃ dropped, body = dropped ++ trimStart body ∧ ∀ x ∈ dropped, isSkippable x :=
  ⟨body.takeWhile isSkippable, (List.takeWhile_append_dropWhile).symm,
    fun x hx => List.all_eq_true.1 List.all_takeWhile x hx⟩

theorem getLast_trimEnd (h : trimEnd body ≠ []) :
    isSkippable ((trimEnd body).getLast h) = false := by
  simp only [trimEnd, List.getLast_reverse]
  exact List.head_dropWhile_not _ _

theorem head?_trimStart : ∀ x ∈ (trimStart body).head?, isSkippable x = false := by
  intro x hx
  have := List.head?_dropWhile_not isSkippable body
  rw [← trimStart, Option.mem_def.1 hx] at this
  exact this

theorem trimEnd_isPrefix (body : List (List Chunk)) : trimEnd body <+: body := by
  obtain ⟨dropped, hd, -⟩ := trimEnd_append body
  exact ⟨dropped, hd.symm⟩

theorem mem_of_mem_trimEnd {x : List Chunk} (h : x ∈ trimEnd body) : x ∈ body :=
  (trimEnd_isPrefix body).subset h

theorem filterMap_trimEnd (body : List (List Chunk)) :
    (trimEnd body).filterMap classify = body.filterMap classify := by
  obtain ⟨dropped, hd, hs⟩ := trimEnd_append body
  conv => rhs; rw [hd]
  rw [List.filterMap_append, filterMap_classify_eq_nil hs, List.append_nil]

end Trim

theorem mem_head?_of_isPrefix {α : Type} {l₁ l₂ : List α} {x : α} (h : l₁ <+: l₂)
    (hx : x ∈ l₁.head?) : x ∈ l₂.head? := by
  obtain ⟨t, rfl⟩ := h
  cases l₁ with
  | nil => simp at hx
  | cons y ys => simpa using hx

/-- Writing back the lead of a path with a front part of its body, trimmed at the end, keeps
the components of that part. -/
theorem components_ofLayout_trimEnd {p : FsPath} {body : List (List Chunk)}
    (h : body <+: p.layout.2) :
    (ofLayout p.layout.1 (trimEnd body)).components =
      p.layout.1.component?.toList ++ body.filterMap classify := by
  have hslash : ∀ x ∈ trimEnd body, slash ∉ x :=
    fun x hx => slash_not_mem_of_isPrefix h x (mem_of_mem_trimEnd hx)
  rw [← filterMap_trimEnd body]
  cases hl : p.layout.1 with
  | root => exact components_ofLayout_root hslash
  | current => exact components_ofLayout_current hslash
  | plain =>
    refine components_ofLayout_plain hslash fun x hx => ?_
    have hne : trimEnd body ≠ [] := by rintro h'; simp [h'] at hx
    -- A nonempty trimmed body ends in a piece that is not skippable, so the path is not empty.
    have hchunks : p.chunks ≠ [] := by
      intro h0
      have hmem : (trimEnd body).getLast hne ∈ p.pieces :=
        mem_pieces_of_mem_layout (h.subset (mem_of_mem_trimEnd (List.getLast_mem hne)))
      rw [pieces, h0, List.splitOn_nil, List.mem_singleton] at hmem
      have := getLast_trimEnd hne
      simp [hmem, isSkippable] at this
    exact layout_plain_head hl hchunks x
      (mem_head?_of_isPrefix ((trimEnd_isPrefix body).trans h) hx)

/-- The pieces after a component, trimmed at both ends and written without lead, read back as
the components they hold. -/
theorem components_trim {body : List (List Chunk)} (hslash : ∀ x ∈ body, slash ∉ x) :
    (ofLayout .plain (trimEnd (trimStart body))).components = body.filterMap classify := by
  obtain ⟨dropped, hd, hs⟩ := trimStart_append body
  have hsuf : trimStart body <:+ body := ⟨dropped, hd.symm⟩
  rw [components_ofLayout_plain, filterMap_trimEnd]
  · conv => rhs; rw [hd]
    rw [List.filterMap_append, filterMap_classify_eq_nil hs, List.nil_append]
  · exact fun x hx => hslash x (hsuf.subset (mem_of_mem_trimEnd hx))
  · exact fun x hx => head?_trimStart x (mem_head?_of_isPrefix (trimEnd_isPrefix _) hx)

/-! ## The parent -/

theorem parent?_eq (p : FsPath) : p.parent? =
    if (trimEnd p.layout.2).isEmpty then
      (match p.layout.1 with
        | .current => some ⟨[]⟩
        | _ => none)
    else some (ofLayout p.layout.1 (trimEnd (trimEnd p.layout.2).dropLast)) := rfl

/-- **The parent drops the last component.** -/
theorem components_parent? {p q : FsPath} (h : p.parent? = some q) :
    q.components = p.components.dropLast := by
  have hcomps : p.components = p.layout.1.component?.toList ++
      (trimEnd p.layout.2).filterMap classify := by
    rw [components_eq, filterMap_trimEnd]
  rw [parent?_eq] at h
  split at h
  · -- Only skippable pieces follow the lead, so the lead is all there is; only `.` has a parent.
    rename_i hk
    rw [List.isEmpty_iff.1 hk, List.filterMap_nil, List.append_nil] at hcomps
    split at h
    · rename_i hl
      cases h
      rw [hcomps, hl]
      rfl
    · cases h
  · rename_i hk
    cases h
    obtain ⟨init, last, hkl⟩ := (List.eq_nil_or_concat (trimEnd p.layout.2)).resolve_left
      (by simpa using hk)
    rw [List.concat_eq_append] at hkl
    have hlast : isSkippable last = false := by
      have := @getLast_trimEnd p.layout.2 (by simp [hkl])
      simpa [hkl] using this
    obtain ⟨c, hc⟩ : ∃ c, classify last = some c := by
      rw [← Option.ne_none_iff_exists', Ne, classify_eq_none_iff]
      simp [hlast]
    have hinit : init <+: p.layout.2 :=
      (List.prefix_append init [last]).trans (by rw [← hkl]; exact trimEnd_isPrefix _)
    rw [hkl, List.dropLast_concat, components_ofLayout_trimEnd hinit, hcomps, hkl,
      List.filterMap_append]
    simp [hc]

/-- A path without parent has at most one component: it is empty or the root. -/
theorem dropLast_components_of_parent?_eq_none {p : FsPath} (h : p.parent? = none) :
    p.components.dropLast = [] := by
  rw [parent?_eq] at h
  split at h
  · rename_i hk
    rw [components_eq, ← filterMap_trimEnd, List.isEmpty_iff.1 hk]
    cases p.layout.1 <;> simp_all [Lead.component?]
  · cases h

/-! ## Joining -/

/-- Appending `/` and more text to a non-empty path keeps its lead and adds pieces. -/
theorem layout_append_slash {p q : FsPath} {r : List Chunk} (hp : p.chunks ≠ [])
    (hq : q.chunks = p.chunks ++ slash :: r) :
    q.layout = (p.layout.1, p.layout.2 ++ r.splitOn slash) := by
  obtain ⟨first, rest, hfirst⟩ := List.exists_cons_of_ne_nil p.pieces_ne_nil
  have hpieces : q.pieces = first :: (rest ++ r.splitOn slash) := by
    rw [pieces, hq, List.splitOn_append_cons_self, ← pieces, hfirst, List.cons_append]
  have habs : q.isAbsolute = p.isAbsolute := by
    obtain ⟨c, cs, hc⟩ := List.exists_cons_of_ne_nil hp
    simp [isAbsolute, hq, hc]
  rw [layout_of_pieces hpieces, layout_of_pieces hfirst, habs]
  split
  · rfl
  · split <;> rfl

theorem components_append_slash {p q : FsPath} {r : List Chunk} (hp : p.chunks ≠ [])
    (hq : q.chunks = p.chunks ++ slash :: r) :
    q.components = p.components ++ (r.splitOn slash).filterMap classify := by
  rw [components_eq, components_eq p, layout_append_slash hp hq, List.filterMap_append,
    List.append_assoc]

/-- **Joining a relative path adds its components, less the current directory.** The base must
not be empty: joining onto the empty path gives the relative path itself. -/
theorem components_join {base rel : FsPath} (hb : base.chunks ≠ [])
    (hr : rel.isAbsolute = false) :
    (base.join rel).components = base.components ++ rel.components.filter (· ≠ .current) := by
  rw [← filterMap_pieces hr, join, if_neg (by simp [hr])]
  split
  · -- The base ends in `/`, and the relative path goes right after it.
    rename_i htrail
    obtain ⟨init, hinit⟩ : ∃ init, base.chunks = init ++ [slash] := by
      simpa [hb, List.getLast?_eq_some_iff] using htrail
    by_cases hi : init = []
    · -- The base is the root directory `/`.
      subst hi
      have hbase : base = ⟨[slash]⟩ := by cases base; simp_all
      subst hbase
      have hpieces : (FsPath.mk ([slash] ++ rel.chunks)).pieces = [] :: rel.pieces := by
        rw [pieces, List.singleton_append, ← List.nil_append (slash :: _),
          List.splitOn_append_cons_self]
        rfl
      rw [components_eq, layout_of_pieces hpieces]
      simp [isAbsolute, Lead.component?]
      rfl
    · have hbase : base.components = (FsPath.mk init).components := by
        rw [@components_append_slash ⟨init⟩ base [] hi (by simpa using hinit)]
        simp [List.splitOn_nil, classify, isSkippable]
      rw [hbase, @components_append_slash ⟨init⟩ ⟨base.chunks ++ rel.chunks⟩ rel.chunks hi
        (by simp [hinit])]
      rfl
  · exact components_append_slash hb rfl

/-! ## Taking a base off a path -/

/-- The entry of `locate` for the `k`-th component holds the pieces after it, whose components
are the ones after the `k`-th. -/
theorem locate_take_getLast? (body : List (List Chunk)) (k : Nat) (hk : 0 < k)
    (hlen : k ≤ (body.filterMap classify).length) :
    ∃ c rest, ((locate body).take k).getLast? = some (c, rest) ∧ rest <:+ body ∧
      rest.filterMap classify = (body.filterMap classify).drop k := by
  induction body generalizing k with
  | nil => simp at hlen; omega
  | cons piece body ih =>
    cases hc : classify piece with
    | none =>
      simp only [List.filterMap_cons, hc] at hlen ⊢
      obtain ⟨c, rest, hget, hsuf, hdrop⟩ := ih k hk hlen
      refine ⟨c, rest, ?_, hsuf.trans (List.suffix_cons _ _), hdrop⟩
      simpa [locate, hc] using hget
    | some c =>
      simp only [List.filterMap_cons, hc, List.length_cons] at hlen ⊢
      obtain _ | _ | k := k
      · omega
      · exact ⟨c, body, by simp [locate, hc], List.suffix_cons _ _, by simp⟩
      · obtain ⟨c', rest, hget, hsuf, hdrop⟩ := ih (k + 1) (by omega) (by omega)
        refine ⟨c', rest, ?_, hsuf.trans (List.suffix_cons _ _), by simpa using hdrop⟩
        simp only [locate, hc, List.take_succ_cons]
        rw [List.getLast?_cons, hget]
        rfl

theorem located_take_getLast? (p : FsPath) (k : Nat) (hk : 0 < k)
    (hlen : k ≤ p.components.length) :
    ∃ c rest, (p.located.take k).getLast? = some (c, rest) ∧ rest <:+ p.layout.2 ∧
      rest.filterMap classify = p.components.drop k := by
  rw [components_eq] at hlen ⊢
  unfold located
  cases hl : p.layout.1.component? with
  | none =>
    simp only [hl, Option.toList_none, List.nil_append] at hlen ⊢
    exact locate_take_getLast? _ k hk hlen
  | some c =>
    simp only [hl, Option.toList_some, List.singleton_append, List.length_cons] at hlen ⊢
    obtain _ | _ | k := k
    · omega
    · exact ⟨c, p.layout.2, by simp, List.suffix_refl _, by simp⟩
    · obtain ⟨c', rest, hget, hsuf, hdrop⟩ := locate_take_getLast? p.layout.2 (k + 1)
        (by omega) (by omega)
      refine ⟨c', rest, ?_, hsuf, by simpa using hdrop⟩
      rw [List.take_succ_cons, List.getLast?_cons, hget]
      rfl

/-- **A base comes off a path exactly when its components start the path's.** -/
theorem stripPrefix?_eq_none_iff (p base : FsPath) :
    p.stripPrefix? base = none ↔ ¬ base.components <+: p.components := by
  dsimp only [stripPrefix?]
  split
  · rename_i h
    simp only [List.isPrefixOf_iff_prefix] at h
    simp only [h, not_true_eq_false, iff_false]
    split <;> simp
  · rename_i h
    simpa using h

/-- What is left after a base comes off a path has the path's remaining components. -/
theorem components_stripPrefix? {p base r : FsPath} (h : p.stripPrefix? base = some r) :
    r.components = p.components.drop base.components.length := by
  dsimp only [stripPrefix?] at h
  split at h
  · rename_i hpre
    have hlen : base.components.length ≤ p.components.length :=
      (List.isPrefixOf_iff_prefix.1 hpre).length_le
    split at h
    · rename_i c rest hget
      cases h
      have hk : 0 < base.components.length := by
        refine Nat.pos_of_ne_zero fun h0 => ?_
        simp [h0] at hget
      obtain ⟨c', rest', hget', hsuf, hdrop⟩ := located_take_getLast? p _ hk hlen
      obtain ⟨-, rfl⟩ := Prod.mk.inj (Option.some.inj (hget.symm.trans hget'))
      rw [components_trim fun x hx => slash_not_mem_of_mem_pieces
        (mem_pieces_of_mem_layout (hsuf.subset hx)), hdrop]
    · rename_i hget
      cases h
      -- Nothing was matched: the base has no components, and the path is written back whole.
      have hk : base.components.length = 0 := by
        refine Nat.eq_zero_of_not_pos fun hk => ?_
        obtain ⟨c', rest', hget', -⟩ := located_take_getLast? p _ hk hlen
        simp [hget'] at hget
      rw [hk, List.drop_zero, components_ofLayout_trimEnd (List.prefix_refl _), components_eq]
  · cases h

end BuildTargets.FsPath
