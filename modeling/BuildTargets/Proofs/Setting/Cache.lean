import Mathlib.Control.Monad.Basic
import BuildTargets.Verify.Basic

/-!
# What a setting keeps

A setting reads its variable when it is first asked for, and keeps the result of its first
read that succeeds. This file gives the answers of a whole run without the kept state: each read
answers what `resultAfter` computes from the history of the variable alone, namely the first
earlier read whose fresh read succeeded or, when there was none, a fresh read of the variable
as it is at that moment (`run_getElem_of_fresh`).

So a success is kept whatever the variable holds afterwards (`resultAfter_append_of_ok`), and a
failure is not: after a failed read, the next read looks at the variable again, as a setting
that had never been read would (`resultAfter_append_of_error`). Changing the variable to a
value that parses after a failure makes the next read succeed
(`Verifier.platform_failure_not_kept`).

Principal result:

* `Setting.fresh_run_answers` — how every step of a run of a fresh setting is answered.
-/

namespace BuildTargets

namespace Setting

variable {α : Type}

/-! ## Steps -/

/-- The variable's value after a step: `set` and `unset` change it, and the other steps leave
it. -/
def Step.valueAfter (value : Option (List Text.Chunk)) : Step → Option (List Text.Chunk)
  | .set v => some v
  | .unset => none
  | _ => value

/-- Whether a step reads the setting. -/
def Step.isRead : Step → Bool
  | .get | .getOrDefault => true
  | _ => false

/-- The answer of a step at a point where a read of the setting gives `r`: a read without a
default answers `r`, one with a default answers the value or the default. -/
def Step.answerWith [Inhabited α] (var : String) (r : Except SettingError (Option α)) :
    Step → Answer α
  | .set _ | .unset => .done
  | .var => .var var
  | .get =>
    match r with
    | .ok v => .value v
    | .error e => .failed e
  | .getOrDefault =>
    match r with
    | .ok v => .valueOrDefault (v.getD default)
    | .error e => .failed e

/-! ## A read -/

/-- Reading the variable afresh: no value when it is unset, the parse of its text when the text
is UTF-8 and parses, and a failure naming the variable otherwise. -/
def readFresh (s : Setting α) : Option (List Text.Chunk) → Except SettingError (Option α)
  | none => .ok none
  | some chunks =>
    match Text.toString? chunks with
    | none => .error (.notUnicode s.var)
    | some raw =>
      match s.parse raw with
      | .ok v => .ok (some v)
      | .error cause => .error (.unparsable s.var cause)

theorem get_of_kept {s : Setting α} {v : Option α} (h : s.kept = some v)
    (value : Option (List Text.Chunk)) : s.get value = ⟨.ok v, s, []⟩ := by
  simp [get, h]

theorem get_result_of_fresh {s : Setting α} (h : s.kept = none)
    (value : Option (List Text.Chunk)) : (s.get value).result = s.readFresh value := by
  unfold get
  rw [h]
  cases value with
  | none => rfl
  | some chunks =>
    simp only [readFresh]
    cases Text.toString? chunks with
    | none => rfl
    | some raw =>
      dsimp only
      cases s.parse raw <;> rfl

/-- A read of a setting that had kept nothing keeps what it read when that succeeded, and
leaves the setting as it was when it failed. -/
theorem get_next_of_fresh {s : Setting α} (h : s.kept = none)
    (value : Option (List Text.Chunk)) :
    (s.get value).next =
      match s.readFresh value with
      | .ok v => { s with kept := some v }
      | .error _ => s := by
  unfold get
  rw [h]
  cases value with
  | none => rfl
  | some chunks =>
    simp only [readFresh]
    cases Text.toString? chunks with
    | none => rfl
    | some raw =>
      dsimp only
      cases s.parse raw <;> rfl

theorem readFresh_error_var {s : Setting α} {value : Option (List Text.Chunk)}
    {e : SettingError} (h : s.readFresh value = .error e) : e.var = s.var := by
  cases value with
  | none => cases h
  | some chunks =>
    simp only [readFresh] at h
    split at h
    · cases h
      rfl
    · split at h
      · cases h
      · cases h
        rfl

/-! ## One step -/

section Step

variable [Inhabited α] {s : Setting α} {value : Option (List Text.Chunk)}

theorem step_answer (st : Step) :
    (s.step value st).answer = st.answerWith s.var (s.get value).result := by
  cases st with
  | set v => rfl
  | unset => rfl
  | var => rfl
  | get =>
    simp only [step]
    split <;> simp_all [Step.answerWith]
  | getOrDefault =>
    simp only [step]
    split <;> simp_all [Step.answerWith]

theorem step_value (st : Step) : (s.step value st).value = st.valueAfter value := by
  cases st with
  | set v => rfl
  | unset => rfl
  | var => rfl
  | get =>
    simp only [step]
    split <;> rfl
  | getOrDefault =>
    simp only [step]
    split <;> rfl

theorem step_next (st : Step) :
    (s.step value st).next = if st.isRead then (s.get value).next else s := by
  cases st with
  | set v => rfl
  | unset => rfl
  | var => rfl
  | get =>
    simp only [step, Step.isRead, if_true]
    split <;> rfl
  | getOrDefault =>
    simp only [step, Step.isRead, if_true]
    split <;> rfl

theorem run_cons_answers (st : Step) (rest : List Step) :
    (s.run value (st :: rest)).1 =
      (s.step value st).answer :: ((s.step value st).next.run (s.step value st).value rest).1 :=
  rfl

end Step

/-! ## The history of the variable -/

/-- What a read of `s` gets after the steps `pre`, played from the variable's value `value`,
when `s` had kept nothing: the result of the first read among them whose fresh read
succeeded, or, when no read did, a fresh read of the variable as it is now. -/
def resultAfter (s : Setting α) :
    Option (List Text.Chunk) → List Step → Except SettingError (Option α)
  | value, [] => s.readFresh value
  | value, st :: rest =>
    match st.isRead, s.readFresh value with
    | true, .ok v => .ok v
    | _, _ => s.resultAfter (st.valueAfter value) rest

theorem valueAfter_of_isRead {st : Step} (hst : st.isRead = true)
    (value : Option (List Text.Chunk)) : st.valueAfter value = value := by
  cases st <;> first | rfl | cases hst

/-- A read that succeeds is kept: every later read gets its result, whatever the steps in
between do to the variable. -/
theorem resultAfter_append_of_ok {s : Setting α} {value : Option (List Text.Chunk)}
    {pre : List Step} {st : Step} {v : Option α} (hst : st.isRead = true)
    (h : s.resultAfter value pre = .ok v) (mid : List Step) :
    s.resultAfter value (pre ++ st :: mid) = .ok v := by
  induction pre generalizing value with
  | nil =>
    simp only [resultAfter] at h
    simp only [List.nil_append, resultAfter, hst, h]
  | cons p pre ih =>
    simp only [List.cons_append, resultAfter] at h ⊢
    -- Both sides look at the first step alike: a read that succeeded there decides both.
    split at h
    · cases h
      rfl
    · exact ih h

/-- A read that fails keeps nothing: the reads after it get what they would get from a setting
that had never been read, with the variable as it is then. -/
theorem resultAfter_append_of_error {s : Setting α} {value : Option (List Text.Chunk)}
    {pre : List Step} {st : Step} {e : SettingError} (hst : st.isRead = true)
    (h : s.resultAfter value pre = .error e) (mid : List Step) :
    s.resultAfter value (pre ++ st :: mid) =
      s.resultAfter (pre.foldl Step.valueAfter value) mid := by
  induction pre generalizing value with
  | nil =>
    simp only [resultAfter] at h
    simp only [List.nil_append, resultAfter, hst, h, List.foldl_nil, valueAfter_of_isRead hst]
  | cons p pre ih =>
    simp only [List.cons_append, resultAfter, List.foldl_cons] at h ⊢
    split at h
    · cases h
    · exact ih h

theorem resultAfter_error_var {s : Setting α} {value : Option (List Text.Chunk)}
    {pre : List Step} {e : SettingError} (h : s.resultAfter value pre = .error e) :
    e.var = s.var := by
  induction pre generalizing value with
  | nil => exact readFresh_error_var h
  | cons p pre ih =>
    simp only [resultAfter] at h
    split at h
    · cases h
    · exact ih h

/-! ## Runs -/

section Run

variable [Inhabited α]

/-- Once a value is kept, every read of the rest of the run answers it, whatever the variable
holds. -/
theorem run_of_kept {s : Setting α} {v : Option α} (h : s.kept = some v)
    (value : Option (List Text.Chunk)) (steps : List Step) :
    (s.run value steps).1 = steps.map (Step.answerWith s.var (.ok v)) := by
  induction steps generalizing value with
  | nil => rfl
  | cons st rest ih =>
    have hnext : (s.step value st).next = s := by
      rw [step_next, get_of_kept h]
      split <;> rfl
    rw [run_cons_answers, hnext, ih, step_answer, get_of_kept h]
    rfl

/-- **Each step of a run answers from the variable's history alone.** A setting that has kept
nothing answers the step after `pre` as a read that gets `resultAfter` would. -/
theorem run_getElem_of_fresh {s : Setting α} (h : s.kept = none)
    (value : Option (List Text.Chunk)) (pre : List Step) (st : Step) (post : List Step) :
    (s.run value (pre ++ st :: post)).1[pre.length]? =
      some (st.answerWith s.var (s.resultAfter value pre)) := by
  induction pre generalizing value with
  | nil =>
    rw [List.nil_append, run_cons_answers, step_answer, get_result_of_fresh h]
    rfl
  | cons p pre ih =>
    rw [List.cons_append, run_cons_answers, List.length_cons, List.getElem?_cons_succ,
      step_next, step_value]
    -- The first step either kept its read, or left the setting with nothing kept.
    cases hp : p.isRead with
    | false =>
      simp only [Bool.false_eq_true, if_false]
      rw [ih]
      simp only [resultAfter, hp]
    | true =>
      simp only [if_true]
      rw [get_next_of_fresh h, valueAfter_of_isRead hp]
      cases hr : s.readFresh value with
      | ok v =>
        simp only
        rw [run_of_kept rfl, List.getElem?_map, List.getElem?_append_right (Nat.le_refl _),
          Nat.sub_self, List.getElem?_cons_zero]
        simp only [resultAfter, hp, hr, Option.map_some]
      | error e =>
        simp only
        rw [ih]
        simp only [resultAfter, hp, hr, valueAfter_of_isRead hp]

/-- **How a fresh setting answers a run.** The step after any steps `pre` answers as a read
that gets `resultAfter` would: a read answers the value kept by the first read that succeeded
(no value if the variable was unset then, else the parse of its text then), with the default
for no value when it asks for one, or a fresh read of the variable when no read has succeeded
yet. Once a read has succeeded, every later read gets that value whatever the variable holds.
A failed read names the variable in its message and keeps nothing: the reads after it look at
the variable again. -/
theorem fresh_run_answers (var : String) (parse : String → Except String α)
    (value : Option (List Text.Chunk)) (pre : List Step) (st : Step) :
    (∀ post, ((fresh var parse).run value (pre ++ st :: post)).1[pre.length]? =
        some (st.answerWith var ((fresh var parse).resultAfter value pre))) ∧
    (∀ mid v, st.isRead = true → (fresh var parse).resultAfter value pre = .ok v →
        (fresh var parse).resultAfter value (pre ++ st :: mid) = .ok v) ∧
    (∀ mid e, st.isRead = true → (fresh var parse).resultAfter value pre = .error e →
        e.message = "Invalid value for `$" ++ var ++ "`" ∧
        (fresh var parse).resultAfter value (pre ++ st :: mid) =
          (fresh var parse).resultAfter (pre.foldl Step.valueAfter value) mid) := by
  have hfresh : (fresh var parse).kept = none := rfl
  refine ⟨fun post => run_getElem_of_fresh hfresh value pre st post,
    fun mid v hst h => resultAfter_append_of_ok hst h mid,
    fun mid e hst h => ⟨?_, resultAfter_append_of_error hst h mid⟩⟩
  have hvar : e.var = var := resultAfter_error_var h
  rw [← hvar]
  rfl

end Run

end Setting

namespace Verifier

/-- Once the process-wide platform setting has kept a read, every later verifier is built from
what it kept, whatever the variable holds, and the setting stays as it is. -/
theorem fromEnv_of_kept {platform : Setting Configuration} {c : Option Configuration}
    (h : platform.kept = some c) (value : Option (List Text.Chunk)) :
    fromEnv platform value = (.ok ⟨c.getD .unconfigured⟩, ⟨.ok c, platform, []⟩) := by
  rw [fromEnv, Setting.get_of_kept h]
  rfl

/-- The platform setting read while the variable holds `linux x86`, which does not parse, and
then `linux`: the first read fails and the second succeeds. -/
theorem platform_failure_not_kept :
    (platformSetting.run none
        [.set (Text.ofString "linux x86"), .get, .set (Text.ofString "linux"), .get]).1 =
      [.done,
        .failed (.unparsable "BUCK_TARGET_PLATFORM"
          "Invalid platform name `linux x86`: platform names must not contain whitespace"),
        .done, .value (some (.platform "linux"))] := by
  decide +kernel

/-- After the failed read of `linux x86`, a read looks at the variable again. -/
theorem platform_failure_reads_again :
    Setting.Step.isRead .get = true ∧
      platformSetting.resultAfter none [.set (Text.ofString "linux x86")] =
        .error (.unparsable "BUCK_TARGET_PLATFORM"
          "Invalid platform name `linux x86`: platform names must not contain whitespace") ∧
      ((SettingError.unparsable "BUCK_TARGET_PLATFORM"
          "Invalid platform name `linux x86`: platform names must not contain whitespace").message =
        "Invalid value for `$BUCK_TARGET_PLATFORM`" ∧
      platformSetting.resultAfter none
          ([.set (Text.ofString "linux x86")] ++ .get :: [.set (Text.ofString "linux")]) =
        platformSetting.resultAfter
          ([Setting.Step.set (Text.ofString "linux x86")].foldl Setting.Step.valueAfter none)
          [.set (Text.ofString "linux")]) := by
  have hread : Setting.Step.isRead .get = true := rfl
  have hfail : platformSetting.resultAfter none [.set (Text.ofString "linux x86")] =
      .error (.unparsable "BUCK_TARGET_PLATFORM"
        "Invalid platform name `linux x86`: platform names must not contain whitespace") := by
    decide +kernel
  exact ⟨hread, hfail, (Setting.fresh_run_answers _ _ none _ _).2.2 _ _ hread hfail⟩

end Verifier

end BuildTargets
