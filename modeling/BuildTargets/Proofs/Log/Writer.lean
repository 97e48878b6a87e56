import Mathlib.Data.List.Basic
import Mathlib.Data.List.Induction
import Mathlib.Data.List.TakeDrop
import Mathlib.Data.List.TakeWhile
import BuildTargets.Log.Session

/-!
# What a log writer lets through and writes

A filter judges each event by one of its directives: of the directives that apply to the
event's target, the most specific one, and the later of two that are equally specific
(`Filter.JudgedBy`). `judge?` finds it in one pass over the directives, keeping the best one
so far; each step keeps that invariant (`Filter.searched_snoc`), so the pass ends at the judging
directive of the whole filter, and at none exactly when no directive applies.

A filter that is a level word has one directive without a target, which applies to every
event. Without a setting the filter is `warn`, so it lets through the errors and the warnings
whatever their target, and nothing else.

A writer writes the lines of each event that its filter lets through while it exists. A
replacement filter is read first: a text that is no filter is refused, and a good one is
refused once the writer is gone. A replacement changes the filter and nothing else, so what a
run writes after it is what the new filter lets through.

A field value of ASCII letters and digits is a pattern: the reader of patterns takes each of
its characters as a literal, so a field `name=value` with such a value is read as written.

A message is written with the characters that steer a terminal escaped, and no such character
is left in what is written: the escapes are made of a backslash, letters, digits and braces.
A message without them is written as it is.

Principal results:

* `Filter.judge?_eq_some_iff`, `Filter.judge?_eq_none_iff` — the judging directive, or none;
* `Filter.enabled_iff` — what a filter lets through;
* `enabled_parse_display`, `enabled_filterOf_none` — level words, and the default filter;
* `Writer.update_eq_ok_iff`, `Writer.update_eq_error_iff` — replacing the filter;
* `Writer.output_run`, `Writer.output_run_update` — what a run of events writes;
* `escapeMessage_not_steering`, `line_not_steering` — the line as written steers no terminal;
* `Text.Pattern.valid_of_isAlphanum`, `FieldMatch.parse?_name_value` — field values of letters
  and digits.
-/

namespace BuildTargets.Log

/-! ## Specificity -/

namespace Directive

theorem atLeastAsSpecific_iff {a b : Directive} :
    a.atLeastAsSpecific b = true ↔ b.specificity.1 < a.specificity.1 ∨
      (b.specificity.1 = a.specificity.1 ∧ b.specificity.2 ≤ a.specificity.2) := by
  simp [atLeastAsSpecific]

theorem atLeastAsSpecific_refl (a : Directive) : a.atLeastAsSpecific a = true := by
  simp [atLeastAsSpecific_iff]

theorem atLeastAsSpecific_trans {a b c : Directive} (hab : a.atLeastAsSpecific b = true)
    (hbc : b.atLeastAsSpecific c = true) : a.atLeastAsSpecific c = true := by
  rw [atLeastAsSpecific_iff] at *
  omega

/-- Specificity is total: of two directives, one is at least as specific as the other. -/
theorem atLeastAsSpecific_of_eq_false {a b : Directive} (h : a.atLeastAsSpecific b = false) :
    b.atLeastAsSpecific a = true := by
  rw [← Bool.not_eq_true, atLeastAsSpecific_iff] at h
  rw [atLeastAsSpecific_iff]
  omega

/-- A directive with no target, span or field applies to every event. -/
theorem judges_levelOnly (lf : LevelFilter) (target : String) (fields : List String) :
    (⟨none, none, [], lf⟩ : Directive).judges target fields = true := rfl

end Directive

/-! ## The judging directive -/

namespace Filter

section Judge

variable (target : String)

/-- `d`, at its place in `ds`, judges the events of `target`: it applies to them, it is at least
as specific as every directive before it that applies too, and more specific than every one
after it that applies too. -/
def JudgedBy (ds : List Directive) (d : Directive) : Prop :=
  ∃ pre post, ds = pre ++ d :: post ∧ d.judges target eventFields = true ∧
    (∀ d' ∈ pre, d'.judges target eventFields = true → d.atLeastAsSpecific d' = true) ∧
    (∀ d' ∈ post, d'.judges target eventFields = true → d'.atLeastAsSpecific d = false)

/-- What the search keeps after each directive: the judging directive of those read so far, and
none exactly when none of them applies. -/
def Searched (ds : List Directive) (best : Option Directive) : Prop :=
  (best = none ↔ ∀ d ∈ ds, d.judges target eventFields = false) ∧
    ∀ b, best = some b → JudgedBy target ds b

variable {target}

/-- The judging directive is at least as specific as every directive that applies. -/
theorem JudgedBy.atLeastAsSpecific {ds : List Directive} {d d' : Directive}
    (h : JudgedBy target ds d) (hd' : d' ∈ ds) (hj : d'.judges target eventFields = true) :
    d.atLeastAsSpecific d' = true := by
  obtain ⟨pre, post, rfl, -, hpre, hpost⟩ := h
  rcases List.mem_append.1 hd' with hmem | hmem
  · exact hpre d' hmem hj
  · rcases List.mem_cons.1 hmem with rfl | hmem
    · exact Directive.atLeastAsSpecific_refl d'
    · exact Directive.atLeastAsSpecific_of_eq_false (hpost d' hmem hj)

theorem JudgedBy.mem {ds : List Directive} {d : Directive} (h : JudgedBy target ds d) :
    d ∈ ds := by
  obtain ⟨pre, post, rfl, -⟩ := h
  simp

theorem JudgedBy.judges {ds : List Directive} {d : Directive} (h : JudgedBy target ds d) :
    d.judges target eventFields = true :=
  h.choose_spec.choose_spec.2.1

/-- One judging directive at most: of two places where the invariant holds, the later directive
would follow the earlier one while being at least as specific as it. -/
theorem JudgedBy.unique {ds : List Directive} {a b : Directive} (ha : JudgedBy target ds a)
    (hb : JudgedBy target ds b) : a = b := by
  obtain ⟨pa, qa, hsa, hja, hpa, hqa⟩ := ha
  obtain ⟨pb, qb, hsb, hjb, hpb, hqb⟩ := hb
  rcases List.append_eq_append_iff.1 (hsa.symm.trans hsb) with ⟨m, rfl, hm⟩ | ⟨m, rfl, hm⟩
  · -- `a` stands at the place of `b` or before it.
    cases m with
    | nil => exact (List.cons.inj hm).1
    | cons x m =>
      obtain ⟨rfl, rfl⟩ := List.cons.inj hm
      have hlater := hqa b (by simp) hjb
      rw [hpb a (by simp) hja] at hlater
      cases hlater
  · -- `b` stands before the place of `a`.
    cases m with
    | nil => exact (List.cons.inj hm).1.symm
    | cons x m =>
      obtain ⟨rfl, rfl⟩ := List.cons.inj hm
      have hlater := hqb a (by simp) hja
      rw [hpa b (by simp) hjb] at hlater
      cases hlater

/-- One step of the search: a directive that applies replaces the best one so far when it is
at least as specific. -/
theorem judge?_snoc (ds : List Directive) (d : Directive) :
    judge? ⟨ds ++ [d]⟩ target =
      if d.judges target eventFields then
        match judge? ⟨ds⟩ target with
        | some b => if d.atLeastAsSpecific b then some d else some b
        | none => some d
      else judge? ⟨ds⟩ target := by
  rw [judge?, judge?, List.foldl_append]
  rfl

/-- A directive put at the end leaves the judging directive where it was, when it does not apply
or applies but is less specific. -/
theorem JudgedBy.snoc {ds : List Directive} {b d : Directive} (h : JudgedBy target ds b)
    (hd : d.judges target eventFields = true → d.atLeastAsSpecific b = false) :
    JudgedBy target (ds ++ [d]) b := by
  obtain ⟨pre, post, rfl, hj, hpre, hpost⟩ := h
  refine ⟨pre, post ++ [d], by simp, hj, hpre, fun d' hd' hj' => ?_⟩
  rcases List.mem_append.1 hd' with hmem | hmem
  · exact hpost d' hmem hj'
  · rw [List.mem_singleton.1 hmem] at hj' ⊢
    exact hd hj'

/-- A directive at the end that applies, and that is at least as specific as every directive
before it that applies, judges. -/
theorem judgedBy_last {ds : List Directive} {d : Directive} (hd : d.judges target eventFields)
    (hge : ∀ d' ∈ ds, d'.judges target eventFields = true → d.atLeastAsSpecific d' = true) :
    JudgedBy target (ds ++ [d]) d :=
  ⟨ds, [], rfl, hd, hge, by simp⟩

/-- **One step keeps the invariant of the search.** -/
theorem searched_snoc {ds : List Directive} (d : Directive)
    (h : Searched target ds (judge? ⟨ds⟩ target)) :
    Searched target (ds ++ [d]) (judge? ⟨ds ++ [d]⟩ target) := by
  obtain ⟨hnone, hsome⟩ := h
  rw [judge?_snoc]
  by_cases hd : d.judges target eventFields = true
  · rw [if_pos hd]
    cases hbest : judge? ⟨ds⟩ target with
    | none =>
      -- No directive before `d` applies, so `d` judges.
      have hnot := hnone.1 hbest
      refine ⟨by simp [hd], fun b hb => ?_⟩
      cases hb
      exact judgedBy_last hd fun d' hd' hj' => by rw [hnot d' hd'] at hj'; cases hj'
    | some b =>
      dsimp only
      have hb := hsome b hbest
      by_cases hge : d.atLeastAsSpecific b = true
      · -- `d` is at least as specific as the best so far, so as every directive that applies.
        rw [if_pos hge]
        refine ⟨by simp [hd], fun b' hb' => ?_⟩
        cases hb'
        exact judgedBy_last hd fun d' hd' hj' =>
          Directive.atLeastAsSpecific_trans hge (hb.atLeastAsSpecific hd' hj')
      · -- `b` stays, and `d` after it is less specific.
        rw [if_neg hge]
        refine ⟨by simp [hd], fun b' hb' => ?_⟩
        cases hb'
        exact hb.snoc fun _ => by simpa using hge
  · rw [if_neg hd]
    rw [Bool.not_eq_true] at hd
    refine ⟨?_, fun b hb => (hsome b hb).snoc fun h => absurd h (by simp [hd])⟩
    simp [hnone, or_imp, forall_and, hd]

/-- **The search over a whole filter ends at its judging directive.** By induction over the
directives from the last: the invariant holds of no directive, and each step keeps it. -/
theorem searched_judge? (ds : List Directive) : Searched target ds (judge? ⟨ds⟩ target) := by
  induction ds using List.reverseRecOn with
  | nil => exact ⟨by simp [judge?], fun b hb => by cases hb⟩
  | append_singleton ds d ih => exact searched_snoc d ih

/-- **The directive that judges an event.** The search gives a directive exactly when it is the
most specific one that applies to the target, and the later of two that are equally specific. -/
theorem judge?_eq_some_iff (f : Filter) (d : Directive) :
    f.judge? target = some d ↔ JudgedBy target f.directives d := by
  have hs : Searched target f.directives (f.judge? target) := searched_judge? f.directives
  refine ⟨hs.2 d, fun h => ?_⟩
  cases hbest : f.judge? target with
  | none =>
    have hj := h.judges
    rw [hs.1.1 hbest d h.mem] at hj
    cases hj
  | some b => rw [(hs.2 b hbest).unique h]

/-- The search gives no directive exactly when none applies to the target. -/
theorem judge?_eq_none_iff (f : Filter) :
    f.judge? target = none ↔ ∀ d ∈ f.directives, d.judges target eventFields = false :=
  (searched_judge? f.directives).1

/-- **What a filter lets through.** An event passes exactly when a directive judges its target
and that directive's level lets the event's level through. -/
theorem enabled_iff (f : Filter) (e : Event) :
    f.enabled e = true ↔ ∃ d, JudgedBy e.target f.directives d ∧ d.level.allows e.level = true := by
  unfold enabled
  cases hj : f.judge? e.target with
  | none =>
    simp only [Bool.false_eq_true, false_iff, not_exists, not_and]
    intro d hd
    rw [← judge?_eq_some_iff, hj] at hd
    cases hd
  | some d =>
    refine ⟨fun h => ⟨d, (judge?_eq_some_iff f d).1 hj, h⟩, ?_⟩
    rintro ⟨d', hd', hallow⟩
    rw [← judge?_eq_some_iff, hj] at hd'
    cases hd'
    exact hallow

end Judge

/-! ## Level words and the default filter -/

/-- A filter of one directive without a target, span or field judges every event by its level
alone. -/
theorem enabled_levelOnly (lf : LevelFilter) (e : Event) :
    (⟨[⟨none, none, [], lf⟩]⟩ : Filter).enabled e = lf.allows e.level := rfl

/-- A level word reads as one directive without a target. -/
theorem parse_levelFilter_display (lf : LevelFilter) :
    parse lf.display = .ok ⟨[⟨none, none, [], lf⟩]⟩ := by
  cases lf with
  | off => rfl
  | upTo l => cases l <;> rfl

end Filter

/-- **A level word lets through the events up to its level, whatever their target.** -/
theorem enabled_parse_display (lf : LevelFilter) (e : Event) :
    (Filter.parse lf.display).map (·.enabled e) = .ok (lf.allows e.level) := by
  rw [Filter.parse_levelFilter_display]
  rfl

theorem filterOf_none : filterOf none = .ok ⟨[⟨none, none, [], .upTo .warn⟩]⟩ :=
  Filter.parse_levelFilter_display (.upTo .warn)

/-- **Without a setting, the filter lets through the errors and the warnings, whatever their
target, and nothing else.** -/
theorem enabled_filterOf_none (e : Event) :
    (filterOf none).map (·.enabled e) = .ok (decide (e.level = .error ∨ e.level = .warn)) := by
  rw [filterOf_none]
  obtain ⟨l, target, message⟩ := e
  cases l <;> rfl

example : (filterOf none).map (fun f => (f.enabled ⟨.info, "app", "hidden by default"⟩,
    f.enabled ⟨.warn, "app", "shown by default"⟩)) = .ok (false, true) := rfl

/-! ## Writers -/

namespace Writer

@[simp] theorem record_filter (w : Writer) (e : Event) : (w.record e).filter = w.filter := by
  unfold record
  split <;> rfl

@[simp] theorem record_attached (w : Writer) (e : Event) :
    (w.record e).attached = w.attached := by
  unfold record
  split <;> rfl

theorem record_output (w : Writer) (e : Event) :
    (w.record e).output =
      w.output ++ if w.attached && w.filter.enabled e then linesRead e else [] := by
  unfold record
  split <;> simp_all

/-- **What a run of events writes.** The run keeps the filter and whether the writer exists; it
writes, in order, the lines of the events that the filter lets through, and nothing once the
writer is gone. By induction over the events, each written by `record`. -/
theorem output_run (w : Writer) (es : List Event) :
    (es.foldl record w).filter = w.filter ∧ (es.foldl record w).attached = w.attached ∧
      (es.foldl record w).output =
        w.output ++ if w.attached then (es.filter w.filter.enabled).flatMap linesRead else [] := by
  induction es generalizing w with
  | nil => simp
  | cons e es ih =>
    obtain ⟨hf, ha, ho⟩ := ih (w.record e)
    rw [List.foldl_cons, hf, ha, ho, record_filter, record_attached, record_output]
    refine ⟨rfl, rfl, ?_⟩
    cases hatt : w.attached <;> by_cases hen : w.filter.enabled e = true <;>
      simp [hen]

/-- A replacement succeeds exactly when the text reads as a filter and the writer still exists;
the writer then has the new filter and is otherwise as it was. -/
theorem update_eq_ok_iff {w w' : Writer} {text : String} :
    w.update text = .ok w' ↔
      w.attached = true ∧ ∃ f, Filter.parse text = .ok f ∧ w' = { w with filter := f } := by
  unfold update
  cases hp : Filter.parse text with
  | error err => simp
  | ok f =>
    simp only [Except.ok.injEq, exists_eq_left']
    by_cases ha : w.attached = true
    · simp only [ha, if_true, Except.ok.injEq, true_and]
      exact eq_comm
    · simp [ha]

/-- A replacement fails for a text that is no filter, and, the text read, for a writer that is
gone. The text is read first, so a bad text is reported even when the writer is gone. -/
theorem update_eq_error_iff {w : Writer} {text : String} {e : ReloadError} :
    w.update text = .error e ↔
      (∃ err, Filter.parse text = .error err) ∧ e = .invalid text ∨
        (∃ f, Filter.parse text = .ok f) ∧ w.attached = false ∧ e = .detached := by
  unfold update
  cases hp : Filter.parse text with
  | error err =>
    simp only [Except.error.injEq, exists_eq', true_and, reduceCtorEq, exists_false, false_and,
      or_false]
    exact eq_comm
  | ok f =>
    by_cases ha : w.attached = true
    · simp [ha]
    · simp only [ha, Bool.false_eq_true, if_false, Except.error.injEq, Except.ok.injEq,
        reduceCtorEq, exists_false, false_and, exists_eq', true_and, false_or]
      exact eq_comm

/-- **After a replacement, a run writes what the new filter lets through.** What was written
stays, and the events after the replacement are written, in order, exactly when the new filter
lets them through. -/
theorem output_run_update {w w' : Writer} {text : String} {f : Filter}
    (hf : Filter.parse text = .ok f) (hw : w.update text = .ok w') (es : List Event) :
    (es.foldl record w').output = w.output ++ (es.filter f.enabled).flatMap linesRead := by
  obtain ⟨ha, f', hf', rfl⟩ := update_eq_ok_iff.1 hw
  rw [hf] at hf'
  cases hf'
  rw [(output_run _ es).2.2]
  simp [ha]

/-- A dropped writer writes nothing more and takes no replacement. -/
theorem detach_run (w : Writer) (es : List Event) :
    (es.foldl record w.detach).output = w.output ∧
      ∀ text w', w.detach.update text ≠ .ok w' := by
  refine ⟨by simp [(output_run _ es).2.2, detach], fun text w' h => ?_⟩
  obtain ⟨ha, -⟩ := update_eq_ok_iff.1 h
  cases ha

end Writer

/-! ## Escapes -/

/-- A character that steers a terminal: escape, bell, backspace, form feed, delete, or a C1
control character. -/
def IsSteering (c : Char) : Prop :=
  c.toNat = 0x1b ∨ c.toNat = 0x07 ∨ c.toNat = 0x08 ∨ c.toNat = 0x0c ∨ c.toNat = 0x7f ∨
    0x80 ≤ c.toNat ∧ c.toNat ≤ 0x9f

instance (c : Char) : Decidable (IsSteering c) :=
  inferInstanceAs (Decidable (c.toNat = 0x1b ∨ c.toNat = 0x07 ∨ c.toNat = 0x08 ∨
    c.toNat = 0x0c ∨ c.toNat = 0x7f ∨ 0x80 ≤ c.toNat ∧ c.toNat ≤ 0x9f))

/-- The digits of a number in a positive base are digit characters of that base. -/
theorem mem_toDigitsCore {b : Nat} (hb : 0 < b) {fuel n : Nat} {ds : List Char} {c : Char}
    (hc : c ∈ Nat.toDigitsCore b fuel n ds) : c ∈ ds ∨ ∃ k < b, c = k.digitChar := by
  induction fuel generalizing n ds with
  | zero => exact .inl hc
  | succ fuel ih =>
    have hdigit : ∀ {x}, x ∈ (n % b).digitChar :: ds → x ∈ ds ∨ ∃ k < b, x = k.digitChar := by
      intro x hx
      rcases List.mem_cons.1 hx with rfl | hx
      · exact .inr ⟨n % b, Nat.mod_lt n hb, rfl⟩
      · exact .inl hx
    unfold Nat.toDigitsCore at hc
    dsimp only at hc
    split at hc
    · exact hdigit hc
    · rcases ih hc with hc | hc
      · exact hdigit hc
      · exact .inr hc

theorem mem_hexDigits {n : Nat} {c : Char} (hc : c ∈ (hexDigits n).toList) :
    ∃ k < 16, c = k.digitChar := by
  rw [hexDigits, String.toList_ofList, Nat.toDigits] at hc
  simpa using mem_toDigitsCore (by decide) hc

theorem digitChar_not_steering : ∀ k < 16, ¬ IsSteering k.digitChar := by
  decide

/-- A text steers no terminal when the check of each of its characters says so; for a fixed
text, `decide` runs the check. -/
theorem not_steering_of_all {t : String}
    (h : (t.toList.all fun c => !decide (IsSteering c)) = true) :
    ∀ c ∈ t.toList, ¬ IsSteering c := by
  simpa using h

/-- No character of an escaped character steers a terminal: an escape is a backslash, a letter,
hexadecimal digits and braces, and a character that is not escaped steers nothing. -/
theorem not_steering_of_mem_escapeChar {c d : Char} (hd : d ∈ (escapeChar c).toList) :
    ¬ IsSteering d := by
  have hhex : d ∈ (hexDigits c.toNat).toList → ¬ IsSteering d := fun h => by
    obtain ⟨k, hk, rfl⟩ := mem_hexDigits h
    exact digitChar_not_steering k hk
  unfold escapeChar at hd
  dsimp only at hd
  split at hd
  · simp only [String.toList_append, List.mem_append] at hd
    rcases hd with (hd | hd) | hd
    · exact not_steering_of_all (by decide) d hd
    · split at hd
      · exact not_steering_of_all (by decide) d hd
      · exact not_steering_of_all (by decide) d hd
    · exact hhex hd
  · split at hd
    · simp only [String.toList_append, List.mem_append] at hd
      rcases hd with (hd | hd) | hd
      · exact not_steering_of_all (by decide) d hd
      · exact hhex hd
      · exact not_steering_of_all (by decide) d hd
    · rename_i hesc hc1
      rw [String.toList_singleton, List.mem_singleton] at hd
      subst hd
      simp only [IsSteering]
      simp only [Bool.or_eq_true, beq_iff_eq, Bool.and_eq_true, decide_eq_true_eq] at hesc hc1
      omega

theorem escapeChar_of_not_steering {c : Char} (hc : ¬ IsSteering c) :
    escapeChar c = String.singleton c := by
  simp only [IsSteering, not_or, not_and, Nat.not_le] at hc
  obtain ⟨h1, h2, h3, h4, h5, h6⟩ := hc
  unfold escapeChar
  dsimp only
  rw [if_neg (by simp [h1, h2, h3, h4, h5]), if_neg (by simpa using h6)]

/-- **A message as written steers no terminal.** No character of the written message steers a
terminal, and a message without such characters is written as it is. -/
theorem escapeMessage_not_steering (s : String) :
    (∀ c ∈ (escapeMessage s).toList, ¬ IsSteering c) ∧
      ((∀ c ∈ s.toList, ¬ IsSteering c) → escapeMessage s = s) := by
  refine ⟨fun d hd => ?_, fun hs => ?_⟩
  · rw [escapeMessage, String.toList_join, List.flatMap_map] at hd
    obtain ⟨c, -, hd⟩ := List.mem_flatMap.1 hd
    exact not_steering_of_mem_escapeChar hd
  · rw [← String.toList_inj, escapeMessage, String.toList_join, List.flatMap_map]
    calc s.toList.flatMap (fun c => (escapeChar c).toList)
        = s.toList.flatMap (fun c => [c]) :=
          List.flatMap_congr fun c hc => by rw [escapeChar_of_not_steering (hs c hc),
            String.toList_singleton]
      _ = s.toList := List.flatMap_singleton' _

theorem padded_not_steering (l : Level) : ∀ c ∈ l.padded.toList, ¬ IsSteering c := by
  cases l <;> exact not_steering_of_all (by decide)

/-- **An event's line steers no terminal unless its target does.** The level and the separators
are plain text, and the message is escaped. -/
theorem line_not_steering (e : Event) (htarget : ∀ c ∈ e.target.toList, ¬ IsSteering c) :
    ∀ c ∈ e.line.toList, ¬ IsSteering c := by
  intro c hc
  simp only [Event.line, String.toList_append, List.mem_append] at hc
  rcases hc with (((hc | hc) | hc) | hc) | hc
  · exact padded_not_steering e.level c hc
  · exact not_steering_of_all (by decide) c hc
  · exact htarget c hc
  · exact not_steering_of_all (by decide) c hc
  · exact (escapeMessage_not_steering e.message).1 c hc

end BuildTargets.Log

/-! ## Field values -/

namespace BuildTargets.Text.Pattern

/-- A letter or digit is none of the characters that the reader of patterns treats as syntax. -/
theorem not_syntax_of_isAlphanum {c : Char} (hc : c.isAlphanum = true) :
    c ≠ ')' ∧ c ≠ '|' ∧ c ≠ '(' ∧ c ≠ '*' ∧ c ≠ '+' ∧ c ≠ '?' ∧ c ≠ '{' ∧ c ≠ '[' ∧
      c ≠ '\\' ∧ c ≠ '.' := by
  refine ⟨?_, ?_, ?_, ?_, ?_, ?_, ?_, ?_, ?_, ?_⟩ <;> (rintro rfl; revert hc; decide)

/-- One step of the reader: a letter or digit is one more literal item of the pattern. -/
theorem sequence_literal {fuel : Nat} {names : List String} {items : List Nat} {c : Char}
    {rest : List Char} (hc : c.isAlphanum = true) :
    sequence (fuel + 1) false Flags.initial names [] items false (c :: rest) =
      sequence fuel false Flags.initial names [] (0 :: items) false rest := by
  -- The first three facts are what passes over the arms `)`, `|` and `(` of the match.
  obtain ⟨h1, h2, h3, h4, h5, h6, h7, h8, h9, h10⟩ := not_syntax_of_isAlphanum hc
  rw [sequence]
  simp [space, Flags.initial, h4, h5, h6, h7, h8, h9, h10, literalOk]

/-- **The reader over a text of letters and digits.** By induction over the text: each
character is a literal item, and at the end of the text the pattern is the sequence of them. -/
theorem sequence_literals (names : List String) (cs : List Char)
    (hcs : ∀ c ∈ cs, c.isAlphanum = true) (items : List Nat) (fuel : Nat)
    (hfuel : cs.length < fuel) :
    sequence fuel false Flags.initial names [] items false cs =
      some ⟨[], Flags.initial, names, seqDepth [seqDepth (List.replicate cs.length 0 ++ items)]⟩ := by
  induction cs generalizing items fuel with
  | nil =>
    cases fuel with
    | zero => exact absurd hfuel (Nat.lt_irrefl 0)
    | succ k =>
      rw [sequence]
      rfl
  | cons c cs ih =>
    cases fuel with
    | zero => exact absurd hfuel (Nat.not_lt_zero _)
    | succ k =>
      rw [sequence_literal (hcs c List.mem_cons_self),
        ih (fun d hd => hcs d (List.mem_cons_of_mem c hd)) _ k (by simpa using hfuel)]
      simp [List.replicate_succ']

/-- A sequence of literals nests at most one deep. -/
theorem seqDepth_replicate_zero_le (n : Nat) : seqDepth (List.replicate n 0) ≤ 1 := by
  have hzero : ∀ m, (List.replicate m 0).foldl max 0 = 0 := by
    intro m
    induction m with
    | zero => rfl
    | succ m ih => simpa [List.replicate_succ] using ih
  match n with
  | 0 => decide
  | 1 => decide
  | n + 2 =>
    have hmany : seqDepth (List.replicate (n + 2) 0) =
        (List.replicate (n + 2) 0).foldl max 0 + 1 := rfl
    have hfold := hzero (n + 2)
    omega

theorem wellFormed_of_isAlphanum {s : String} (h : ∀ c ∈ s.toList, c.isAlphanum = true) :
    wellFormed s = true := by
  rw [wellFormed, ← String.length_toList, sequence_literals [] s.toList h [] _ (Nat.lt_succ_self _)]
  have hdepth := seqDepth_replicate_zero_le s.toList.length
  have hsingle : ∀ d, seqDepth [d] = d := fun _ => rfl
  simp only [List.append_nil, hsingle, decide_eq_true_eq, nestLimit]
  omega

/-- **A text of ASCII letters and digits is a field value.** -/
theorem valid_of_isAlphanum {s : String} (h : ∀ c ∈ s.toList, c.isAlphanum = true) :
    valid s = true := by
  simp [valid, wellFormed_of_isAlphanum h]

end BuildTargets.Text.Pattern

namespace BuildTargets.Log.FieldMatch

theorem span_name {name rest : List Char} (hname : '=' ∉ name) :
    (name ++ '=' :: rest).span (· != '=') = (name, '=' :: rest) := by
  have hpass : ∀ c ∈ name, (c != '=') = true := fun c hc => by
    simpa using fun h : c = '=' => hname (h ▸ hc)
  rw [List.span_eq_takeWhile_dropWhile, List.takeWhile_append_of_pos hpass,
    List.dropWhile_append_of_pos hpass]
  simp

/-- **A field whose value is letters and digits is read as written.** The name runs to the first
`=`, and the value is a pattern that matches itself. -/
theorem parse?_name_value {name value : List Char} (hname : '=' ∉ name)
    (hvalue : ∀ c ∈ value, c.isAlphanum = true) :
    parse? (name ++ '=' :: value) = some ⟨String.ofList name, some (String.ofList value)⟩ := by
  have htake : value.takeWhile (· != '=') = value := by
    rw [List.takeWhile_eq_self_iff]
    intro c hc
    have : c ≠ '=' := by
      rintro rfl
      exact absurd (hvalue '=' hc) (by decide)
    simpa using this
  have hvalid : Text.Pattern.valid (String.ofList value) = true :=
    Text.Pattern.valid_of_isAlphanum (by simpa using hvalue)
  unfold parse?
  split
  · simp at *
  · rw [span_name hname]
    dsimp only
    rw [htake, if_pos hvalid]

end BuildTargets.Log.FieldMatch
