import BuildTargets.Proofs.Cell.Relativize

/-!
# Which texts are absolute roots

`AbsPath.ofString` asks two things of a text: that the path it names is absolute, and that none
of its components is `.` or `..`. Under the component rules the first means that the text starts
with `/`, and then `.` can never be a component: a `.` piece after the root stands for nothing.
So the check refuses exactly the texts with a `..` piece, and keeps `/a/./b`, `/a//b` and
`/repo/.` as they are written.

Principal results:

* `FsPath.pieces_ofString` — the pieces of a text are its `/`-separated parts;
* `FsPath.components_of_isAbsolute` — an absolute path is the root and then what its pieces read
  as, one by one;
* `AbsPath.ofString_eq` — the check, said on the text alone;
* `AbsPath.components_eq` — every root is the root directory followed by names only;
* `AbsPath.ofString_accepts` — the check, the component that can never trip it, and the shape
  of every accepted root.
-/

namespace BuildTargets

open Text

namespace FsPath

/-! ## Pieces and components of a text -/

/-- The pieces of a text are its parts between slashes. -/
theorem pieces_ofString (s : String) :
    (ofString s).pieces = (splitOnChar '/' s).map Text.ofString := by
  have hsep : ∀ x ∈ (s.toList.splitOn '/').map (List.map Chunk.char), slash ∉ x := by
    intro x hx
    obtain ⟨y, hy, rfl⟩ := List.mem_map.1 hx
    simpa [slash] using not_mem_of_mem_splitOn hy
  calc (ofString s).pieces
      = ((List.intercalate ['/'] (s.toList.splitOn '/')).map Chunk.char).splitOn slash := by
        rw [List.intercalate_splitOn]
        rfl
    _ = (s.toList.splitOn '/').map (List.map Chunk.char) := by
        rw [map_intercalate]
        exact List.splitOn_intercalate _ hsep (by simp)
    _ = (splitOnChar '/' s).map Text.ofString := by
        simp [splitOnChar, Text.ofString, Function.comp_def]

theorem isAbsolute_ofString (s : String) : (ofString s).isAbsolute = s.startsWith "/" := by
  rw [Bool.eq_iff_iff, Text.startsWith_slash_iff]
  simp [isAbsolute, ofString, Text.ofString, slash, List.head?_map]

/-- **An absolute path is the root followed by what its pieces read as.** Its text starts with
`/`, so its first piece is empty, and the root stands for it. -/
theorem components_of_isAbsolute {p : FsPath} (h : p.isAbsolute = true) :
    ∃ rest, p.pieces = [] :: rest ∧ p.components = .root :: rest.filterMap classify := by
  obtain ⟨cs, hcs⟩ : ∃ cs, p.chunks = slash :: cs := by
    simpa [isAbsolute, List.head?_eq_some_iff] using h
  have hpieces : p.pieces = [] :: cs.splitOn slash := by
    rw [pieces, hcs, List.splitOn_cons_eq_if_modifyHead, if_pos (beq_self_eq_true _)]
  refine ⟨_, hpieces, ?_⟩
  rw [components_eq, layout_of_pieces hpieces, if_pos h]
  rfl

theorem classify_eq_parent_iff {x : List Chunk} :
    classify x = some .parent ↔ x = [.char '.', .char '.'] := by
  unfold classify
  by_cases hs : isSkippable x = true
  · rw [if_pos hs]
    refine iff_of_false (by simp) ?_
    rintro rfl
    simp [isSkippable, dot] at hs
  · rw [if_neg hs]
    by_cases hd : x = [.char '.', .char '.']
    · simp [hd]
    · simp [hd]

/-- A piece reads as a name unless it reads as `..`. -/
theorem exists_normal_of_classify {x : List Chunk} {c : Component} (hx : classify x = some c)
    (hc : c ≠ .parent) : ∃ n, c = .normal n := by
  cases c with
  | normal n => exact ⟨n, rfl⟩
  | root => exact absurd hx (classify_ne_root x)
  | current => exact absurd hx (classify_ne_current x)
  | parent => exact absurd rfl hc

/-- A text has the piece `..` exactly when `..` is one of its `/`-separated parts. -/
theorem parent_piece_mem_ofString_iff {s : String} :
    [.char '.', .char '.'] ∈ (ofString s).pieces ↔ ".." ∈ splitOnChar '/' s := by
  have hdots : [Chunk.char '.', .char '.'] = Text.ofString ".." := rfl
  rw [pieces_ofString, hdots]
  exact List.mem_map_of_injective fun _ _ => ofString_inj.1

end FsPath

/-! ## The check of a root -/

namespace AbsPath

open FsPath

theorem isUnnormal_eq_true_iff {c : Component} :
    isUnnormal c = true ↔ c = .current ∨ c = .parent := by
  cases c <;> simp [isUnnormal]

/-- In an absolute path `.` is no component, so only a `..` piece makes it unnormal. -/
theorem any_isUnnormal {p : FsPath} (h : p.isAbsolute = true) :
    p.components.any isUnnormal = decide ([.char '.', .char '.'] ∈ p.pieces) := by
  obtain ⟨rest, hpieces, hcomps⟩ := components_of_isAbsolute h
  rw [hcomps, hpieces, Bool.eq_iff_iff, decide_eq_true_iff]
  simp only [List.any_cons, isUnnormal, Bool.false_or, List.any_eq_true, List.mem_filterMap,
    List.mem_cons, reduceCtorEq, false_or]
  constructor
  · rintro ⟨c, ⟨x, hx, hc⟩, hun⟩
    rcases isUnnormal_eq_true_iff.1 hun with rfl | rfl
    · exact absurd hc (classify_ne_current x)
    · exact classify_eq_parent_iff.1 hc ▸ hx
  · intro hx
    exact ⟨.parent, ⟨_, hx, classify_eq_parent_iff.2 rfl⟩, rfl⟩

theorem any_isUnnormal_ofString {s : String} (h : s.startsWith "/" = true) :
    (FsPath.ofString s).components.any isUnnormal = decide (".." ∈ splitOnChar '/' s) := by
  rw [any_isUnnormal (by rw [isAbsolute_ofString, h])]
  exact decide_eq_decide.2 parent_piece_mem_ofString_iff

/-- **The check of a root, on its text.** A text that does not start with `/` is not absolute;
one that does is refused exactly when some `/`-separated part of it is `..`, and otherwise the
root is the path of the text as it is written. -/
theorem ofString_eq (s : String) :
    (ofString s).map AbsPath.toPath =
      if s.startsWith "/" then
        if ".." ∈ splitOnChar '/' s then .error (.notNormalized s) else .ok (FsPath.ofString s)
      else .error (.notAbsolute s) := by
  unfold ofString ofPath
  by_cases h : s.startsWith "/" = true
  · have habs : (FsPath.ofString s).isAbsolute = true := by rw [isAbsolute_ofString, h]
    rw [dif_pos habs, if_pos h]
    by_cases hdots : ".." ∈ splitOnChar '/' s
    · rw [dif_pos (by simpa [any_isUnnormal_ofString h] using hdots), if_pos hdots,
        display_ofString]
      rfl
    · rw [dif_neg (by simpa [any_isUnnormal_ofString h] using hdots), if_neg hdots]
      rfl
  · rw [dif_neg (by rwa [isAbsolute_ofString]), if_neg h, display_ofString]
    rfl

/-- **Every root is the root directory followed by names.** It is absolute, so it starts with
the root directory; every other component is read from a piece, as `..` or as a name, and the
root carries the check that none of its components is `..`. -/
theorem components_eq (a : AbsPath) :
    ∃ rest, a.toPath.components = .root :: rest ∧ ∀ c ∈ rest, ∃ n, c = .normal n := by
  obtain ⟨rest, -, hcomps⟩ := components_of_isAbsolute a.absolute
  refine ⟨_, hcomps, fun c hc => ?_⟩
  obtain ⟨x, -, hcx⟩ := List.mem_filterMap.1 hc
  refine exists_normal_of_classify hcx ?_
  rintro rfl
  have hparent : a.toPath.components.any isUnnormal = true :=
    List.any_eq_true.2 ⟨.parent, hcomps ▸ List.mem_cons_of_mem _ hc, rfl⟩
  rw [a.normalized] at hparent
  cases hparent

/-- **Which texts are roots.** A text is an absolute root exactly when it starts with `/` and no
`/`-separated part of it is `..`; otherwise it is refused as not absolute when it does not start
with `/`, and as not normalized when it does. The current directory is never a component of a
text that starts with `/`, so that half of the normalization check never decides. An accepted
root keeps its text, and is the root directory followed by names only. -/
theorem ofString_accepts (s : String) :
    (ofString s).map AbsPath.toPath =
        (if s.startsWith "/" then
          if ".." ∈ splitOnChar '/' s then .error (.notNormalized s) else .ok (FsPath.ofString s)
        else .error (.notAbsolute s)) ∧
      (s.startsWith "/" = true → .current ∉ (FsPath.ofString s).components) ∧
      ∀ a, ofString s = .ok a →
        a.display = s ∧
          ∃ rest, a.toPath.components = .root :: rest ∧ ∀ c ∈ rest, ∃ n, c = .normal n := by
  refine ⟨ofString_eq s, fun h => current_not_mem_components (by rw [isAbsolute_ofString, h]),
    fun a h => ⟨?_, components_eq a⟩⟩
  -- The only root the check gives is the path of the text itself.
  have hpath := ofString_eq s
  rw [h] at hpath
  split at hpath
  · split at hpath
    · cases hpath
    · rw [display, ← display_ofString s]
      exact congrArg FsPath.display (Except.ok.inj hpath)
  · cases hpath

/-- Inner `.` pieces, doubled slashes and a trailing `.` are kept as written; a `..` piece and a
missing leading `/` are refused. -/
theorem ofString_accepts_spellings :
    (ofString "/a/./b").map AbsPath.toPath = .ok (FsPath.ofString "/a/./b") ∧
      (ofString "/a//b").map AbsPath.toPath = .ok (FsPath.ofString "/a//b") ∧
      (ofString "/repo/.").map AbsPath.toPath = .ok (FsPath.ofString "/repo/.") ∧
      (ofString "/a/../b").map AbsPath.toPath = .error (.notNormalized "/a/../b") ∧
      (ofString "a/b").map AbsPath.toPath = .error (.notAbsolute "a/b") := by
  refine ⟨?_, ?_, ?_, ?_, ?_⟩ <;> rw [(ofString_accepts _).1]
  · rw [if_pos (by simp), if_neg (by decide)]
  · rw [if_pos (by simp), if_neg (by decide)]
  · rw [if_pos (by simp), if_neg (by decide)]
  · rw [if_pos (by simp), if_pos (by decide)]
  · rw [if_neg (by simp)]

end AbsPath

end BuildTargets
