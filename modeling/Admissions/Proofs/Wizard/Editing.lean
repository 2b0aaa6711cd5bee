import Admissions.Proofs.Wizard.Event
import Admissions.Proofs.Wizard.Submission
import Admissions.Proofs.Wizard.ValidationErrors

namespace Admissions.Wizard

open Json (Value Object)

/-- What a value under a name makes of the answers on a page, if the value can be read, and the
    objects in which assigning it does the same. -/
structure Definition.Editing (wizard : Definition) where
  edit : wizard.Step → String → Value → Option (wizard.Answers → wizard.Answers)
  good : wizard.Step → Object → Prop
  start : ∀ step answers, ∃ given, wizard.toJson answers = .object given ∧
    wizard.ofJson? (.object given) = some answers ∧ good step given
  reads : ∀ {step members answers name}, good step members →
    wizard.ofJson? (.object members) = some answers →
    (wizard.permitted step).contains name = true → ∀ value,
    wizard.ofJson? (.object (wizard.assign step members name value)) =
      (edit step name value).map (· answers)
  keeps : ∀ {step members name value}, good step members →
    (wizard.permitted step).contains name = true → (edit step name value).isSome = true →
    good step (wizard.assign step members name value)

/-- An answer that others depend on: another one in its place takes them away, and the same one
    changes nothing. -/
structure Governing (α β : Type) where
  value : α → β
  replace : α → β → α
  value_replace : ∀ answers given, value (replace answers given) = given

namespace Governing

variable {α β : Type} [DecidableEq β] (governing : Governing α β)

def choose (answers : α) (given : β) : α :=
  if governing.value answers = given then answers else governing.replace answers given

variable {governing} {answers : α} {given : β}

theorem choose_of_eq (same : governing.value answers = given) :
    governing.choose answers given = answers := if_pos same

theorem value_choose : governing.value (governing.choose answers given) = given := by
  unfold choose
  split
  · assumption
  · exact governing.value_replace answers given

theorem choose_eq_self_iff :
    governing.choose answers given = answers ↔ governing.value answers = given := by
  constructor
  · intro same
    rw [← same]
    exact value_choose
  · exact choose_of_eq

theorem choose_choose :
    governing.choose (governing.choose answers given) given = governing.choose answers given :=
  choose_of_eq value_choose

end Governing

namespace Definition

variable {wizard : Definition}

def judge (wizard : Definition) (step : wizard.Step) (answers : wizard.Answers)
    (context : wizard.Context) : wizard.Result (Handle.Submission wizard) := do
  let errors ← wizard.validate step answers context
  if !errors.isEmpty then return .invalid errors
  let target ← wizard.nextAfterSubmit step answers context
  let target ← wizard.resolve target
  if wizard.stepWritable step && wizard.writable answers then return .accepted answers target
  else throw .unwritableState

theorem accepted_of_judge {step : wizard.Step} {answers accepted : wizard.Answers}
    {context : wizard.Context} {target : Target wizard.Step}
    (judged : wizard.judge step answers context = .ok (.accepted accepted target)) :
    accepted = answers ∧ wizard.writable answers = true := by
  obtain ⟨errors, -, judged⟩ := exists_of_bind_eq_ok judged
  split at judged
  · simp [pure, Except.pure] at judged
  obtain ⟨following, -, judged⟩ := exists_of_bind_eq_ok judged
  obtain ⟨reached, -, judged⟩ := exists_of_bind_eq_ok judged
  split at judged
  · rename_i writable
    obtain ⟨rfl, -⟩ := Handle.Submission.accepted.inj (Except.ok.inj judged)
    rw [Bool.and_eq_true] at writable
    exact ⟨rfl, writable.2⟩
  · contradiction

theorem validated_of_judge {step : wizard.Step} {answers : wizard.Answers}
    {context : wizard.Context} {errors : ValidationErrors}
    (judged : wizard.judge step answers context = .ok (.invalid errors)) :
    wizard.validate step answers context = .ok errors := by
  obtain ⟨found, validated, judged⟩ := exists_of_bind_eq_ok judged
  split at judged
  · obtain rfl := Handle.Submission.invalid.inj (Except.ok.inj judged)
    exact validated
  obtain ⟨following, -, judged⟩ := exists_of_bind_eq_ok judged
  obtain ⟨reached, -, judged⟩ := exists_of_bind_eq_ok judged
  split at judged
  · simp [pure, Except.pure] at judged
  · contradiction

namespace Editing

variable (editing : wizard.Editing) (step : wizard.Step)

/-- The answers after a parameter. One that is not permitted, or cannot be read, changes nothing. -/
def edited (answers : wizard.Answers) (param : String × Value) : wizard.Answers :=
  if (wizard.permitted step).contains param.1 then
    match editing.edit step param.1 param.2 with
    | some change => change answers
    | none => answers
  else answers

def editAll (answers : wizard.Answers) (params : Object) : wizard.Answers :=
  params.foldl (editing.edited step) answers

def refuses (param : String × Value) : Bool :=
  (wizard.permitted step).contains param.1 && (editing.edit step param.1 param.2).isNone

def refusals (errors : ValidationErrors) (params : Object) : ValidationErrors :=
  (params.filter (editing.refuses step)).foldl
    (fun errors param => errors.add param.1 "is not a valid value") errors

variable {editing step}

theorem edited_of_foreign {param : String × Value}
    (foreign : (wizard.permitted step).contains param.1 = false) (answers : wizard.Answers) :
    editing.edited step answers param = answers := by
  rw [edited, foreign]
  rfl

theorem edited_of_none {param : String × Value} (unread : editing.edit step param.1 param.2 = none)
    (answers : wizard.Answers) : editing.edited step answers param = answers := by
  rw [edited, unread]
  split <;> rfl

theorem edited_of_some {param : String × Value} {change : wizard.Answers → wizard.Answers}
    (permitted : (wizard.permitted step).contains param.1 = true)
    (read : editing.edit step param.1 param.2 = some change) (answers : wizard.Answers) :
    editing.edited step answers param = change answers := by
  rw [edited, permitted, read]
  rfl

/-- A parameter changes nothing, or makes the one edit that it is read as. -/
theorem edited_cases (editing : wizard.Editing) (step : wizard.Step) (param : String × Value) :
    (∀ answers, editing.edited step answers param = answers) ∨
    ∃ change, (wizard.permitted step).contains param.1 = true ∧
      editing.edit step param.1 param.2 = some change ∧
      ∀ answers, editing.edited step answers param = change answers := by
  cases permitted : (wizard.permitted step).contains param.1 with
  | false => exact .inl (edited_of_foreign permitted)
  | true =>
    cases read : editing.edit step param.1 param.2 with
    | none => exact .inl (edited_of_none read)
    | some change => exact .inr ⟨change, rfl, rfl, edited_of_some permitted read⟩

theorem edited_eq_self_iff {param : String × Value} {answers : wizard.Answers} :
    editing.edited step answers param = answers ↔
      ∀ change, (wizard.permitted step).contains param.1 = true →
        editing.edit step param.1 param.2 = some change → change answers = answers := by
  constructor
  · intro made change permitted read
    rwa [edited_of_some permitted read] at made
  · intro made
    rcases editing.edited_cases step param with same | ⟨change, permitted, read, makes⟩
    · exact same answers
    · rw [makes]
      exact made change permitted read

theorem refusals_cons_of_fine {param : String × Value}
    (fine : editing.refuses step param = false) (errors : ValidationErrors) (params : Object) :
    editing.refusals step errors (param :: params) = editing.refusals step errors params := by
  rw [refusals, refusals, List.filter_cons_of_neg (Bool.eq_false_iff.mp fine)]

theorem refusals_cons_of_refuses {param : String × Value}
    (refused : editing.refuses step param = true) (errors : ValidationErrors) (params : Object) :
    editing.refusals step errors (param :: params) =
      editing.refusals step (errors.add param.1 "is not a valid value") params := by
  rw [refusals, refusals, List.filter_cons_of_pos refused, List.foldl_cons]

theorem assignAll_eq {handle : Handle wizard} {given : Object} {answers : wizard.Answers}
    (good : editing.good handle.step given) (reads : wizard.ofJson? (.object given) = some answers)
    (errors : ValidationErrors) (params : Object) :
    ∃ members, handle.assignAll given errors params =
        (members, editing.refusals handle.step errors params) ∧
      wizard.ofJson? (.object members) = some (editing.editAll handle.step answers params) := by
  -- Over every good object and the answers that it holds, as each parameter leaves others behind.
  induction params generalizing given answers errors with
  | nil => exact ⟨given, rfl, reads⟩
  | cons param params ih =>
    cases permitted : (wizard.permitted handle.step).contains param.1 with
    | false =>
      obtain ⟨members, assigned, later⟩ := ih good reads errors
      refine ⟨members, ?_, ?_⟩
      · rw [Handle.assignAll, if_neg (Bool.eq_false_iff.mp permitted), assigned,
          refusals_cons_of_fine (by rw [refuses, permitted, Bool.false_and])]
      · rw [later, editAll, editAll, List.foldl_cons, edited_of_foreign permitted]
    | true =>
      have after := editing.reads good reads permitted param.2
      cases change : editing.edit handle.step param.1 param.2 with
      | none =>
        rw [change, Option.map_none] at after
        obtain ⟨members, assigned, later⟩ :=
          ih good reads (errors.add param.1 "is not a valid value")
        refine ⟨members, ?_, ?_⟩
        · rw [Handle.assignAll, if_pos permitted]
          simp only [after, Option.isSome_none, Bool.false_eq_true, ↓reduceIte]
          have refused : editing.refuses handle.step param = true := by
            rw [refuses, permitted, change]
            rfl
          rw [assigned, refusals_cons_of_refuses refused]
        · rw [later, editAll, editAll, List.foldl_cons, edited_of_none change]
      | some apply =>
        have read : (editing.edit handle.step param.1 param.2).isSome = true := by
          rw [change, Option.isSome_some]
        rw [change, Option.map_some] at after
        obtain ⟨members, assigned, later⟩ := ih (editing.keeps good permitted read) after errors
        refine ⟨members, ?_, ?_⟩
        · rw [Handle.assignAll, if_pos permitted]
          simp only [after, Option.isSome_some, ↓reduceIte]
          have fine : editing.refuses handle.step param = false := by
            rw [refuses, change, Option.isNone_some, Bool.and_false]
          rw [assigned, refusals_cons_of_fine fine]
        · rw [later, editAll, editAll, List.foldl_cons, edited_of_some permitted change]

theorem submission_eq (editing : wizard.Editing) (handle : Handle wizard) (params : Object) :
    handle.submission params =
      if !wizard.writable handle.answers then .error .unwritableState
      else if !(editing.refusals handle.step .empty params).isEmpty then
        .ok (.invalid (editing.refusals handle.step .empty params))
      else wizard.judge handle.step (editing.editAll handle.step handle.answers params)
        handle.context := by
  obtain ⟨given, written, reads, good⟩ := editing.start handle.step handle.answers
  obtain ⟨members, assigned, after⟩ := editing.assignAll_eq good reads .empty params
  unfold Handle.submission
  simp only [written, assigned, after]
  rfl

theorem editAll_of_made {answers : wizard.Answers} {params : Object}
    (made : ∀ param ∈ params, editing.edited step answers param = answers) :
    editing.editAll step answers params = answers := by
  induction params with
  | nil => rfl
  | cons first params ih =>
    have rest := ih fun param later => made param (List.mem_cons_of_mem first later)
    rw [editAll, List.foldl_cons, made first List.mem_cons_self]
    exact rest

theorem editAll_induction (editing : wizard.Editing) (step : wizard.Step)
    {holds : wizard.Answers → Prop} {answers : wizard.Answers} (start : holds answers)
    (keeps : ∀ now name value change, holds now → (wizard.permitted step).contains name = true →
      editing.edit step name value = some change → holds (change now)) (params : Object) :
    holds (editing.editAll step answers params) := by
  induction params generalizing answers with
  | nil => exact start
  | cons param params ih =>
    refine ih ?_
    rcases editing.edited_cases step param with same | ⟨change, permitted, read, makes⟩
    · rwa [same]
    · rw [makes]
      exact keeps answers param.1 param.2 change start permitted read

theorem accepted_eq_editAll (editing : wizard.Editing) {handle : Handle wizard} {params : Object}
    {answers : wizard.Answers} {target : Target wizard.Step}
    (accepted : handle.submission params = .ok (.accepted answers target)) :
    answers = editing.editAll handle.step handle.answers params := by
  rw [editing.submission_eq] at accepted
  split at accepted
  · contradiction
  split at accepted
  · simp at accepted
  exact (accepted_of_judge accepted).1

theorem isEmpty_refusals {params : Object} :
    (editing.refusals step .empty params).isEmpty = true ↔
      ∀ param ∈ params, editing.refuses step param = false := by
  have each : ∀ (errors : ValidationErrors), ∀ param ∈ params.filter (editing.refuses step),
      (errors.add param.1 "is not a valid value").isEmpty = true ↔
        errors.isEmpty = true ∧ False := by
    intro errors param _
    rw [ValidationErrors.isEmpty_add, and_false]
    exact iff_of_false Bool.false_ne_true not_false
  rw [refusals, ValidationErrors.isEmpty_foldl (fun _ => False) each]
  simp

/-- Answers before and after a page that no edit of the page takes out of the relation. -/
structure Within (editing : wizard.Editing)
    (edits : wizard.Step → wizard.Answers → wizard.Answers → Prop) : Prop where
  refl : ∀ step answers, edits step answers answers
  keeps : ∀ {step before now name value change}, edits step before now →
    (wizard.permitted step).contains name = true → editing.edit step name value = some change →
    edits step before (change now)

theorem Within.of_submission {edits : wizard.Step → wizard.Answers → wizard.Answers → Prop}
    (within : editing.Within edits) {handle : Handle wizard} {params : Object}
    {answers : wizard.Answers} {target : Target wizard.Step}
    (submitted : handle.submission params = .ok (.accepted answers target)) :
    edits handle.step handle.answers answers ∧
      wizard.Passes handle.step answers handle.context := by
  obtain ⟨-, -, -, passes, -⟩ := submission_accepted submitted
  have made : answers = editing.editAll handle.step handle.answers params :=
    editing.accepted_eq_editAll submitted
  have all : edits handle.step handle.answers
      (editing.editAll handle.step handle.answers params) :=
    editing.editAll_induction handle.step (within.refl handle.step handle.answers)
      (fun now name value change => within.keeps) params
  exact ⟨made ▸ all, passes⟩

theorem read_of_accepted (editing : wizard.Editing) {handle : Handle wizard} {params : Object}
    {answers : wizard.Answers} {target : Target wizard.Step}
    (accepted : handle.submission params = .ok (.accepted answers target)) {name : String}
    {value : Value} (member : (name, value) ∈ params)
    (permitted : (wizard.permitted handle.step).contains name = true) :
    ∃ change, editing.edit handle.step name value = some change := by
  rw [editing.submission_eq] at accepted
  split at accepted
  · contradiction
  split at accepted
  · simp at accepted
  rename_i fine
  have fine := isEmpty_refusals.mp (by simpa using fine) (name, value) member
  rw [refuses, permitted, Bool.true_and, Option.isNone_eq_false_iff] at fine
  exact Option.isSome_iff_exists.mp fine

section Fields

variable {β : Type} {field : wizard.Answers → β} {params : Object}

def Spares (editing : wizard.Editing) (step : wizard.Step) (field : wizard.Answers → β)
    (param : String × Value) : Prop :=
  ∀ change, (wizard.permitted step).contains param.1 = true →
    editing.edit step param.1 param.2 = some change → ∀ answers,
    field (change answers) = field answers

theorem field_edited {param : String × Value} (spares : editing.Spares step field param)
    (answers : wizard.Answers) : field (editing.edited step answers param) = field answers := by
  rcases editing.edited_cases step param with same | ⟨change, permitted, read, makes⟩
  · rw [same]
  · rw [makes]
    exact spares change permitted read answers

theorem field_editAll (spares : ∀ param ∈ params, editing.Spares step field param)
    (answers : wizard.Answers) : field (editing.editAll step answers params) = field answers := by
  induction params generalizing answers with
  | nil => rfl
  | cons first params ih =>
    have rest := ih fun param later => spares param (List.mem_cons_of_mem first later)
    rw [editAll, List.foldl_cons]
    exact (rest _).trans (field_edited (spares first List.mem_cons_self) answers)

theorem field_editAll_of_mem {name : String} {value : Value} {made : β}
    {change : wizard.Answers → wizard.Answers}
    (permitted : (wizard.permitted step).contains name = true)
    (read : editing.edit step name value = some change)
    (makes : ∀ answers, field (change answers) = made)
    (others : ∀ param ∈ params, param.1 ≠ name → editing.Spares step field param)
    (distinct : (params.map Prod.fst).Nodup) (member : (name, value) ∈ params)
    (answers : wizard.Answers) : field (editing.editAll step answers params) = made := by
  induction params generalizing answers with
  | nil => contradiction
  | cons first params ih =>
    have later : ∀ param ∈ params, param ∈ first :: params :=
      fun param member => List.mem_cons_of_mem first member
    have fresh := (List.nodup_cons.mp distinct).1
    have distinct := (List.nodup_cons.mp distinct).2
    rw [editAll, List.foldl_cons]
    cases List.mem_cons.mp member with
    | inl own =>
      -- No later parameter has the name again, so that what is made here stays.
      subst own
      have apart : ∀ param ∈ params, param.1 ≠ name := by
        intro param found same
        have repeated : param.1 ∈ params.map Prod.fst := List.mem_map_of_mem found
        exact fresh (same ▸ repeated)
      have kept := field_editAll fun param member =>
        others param (later param member) (apart param member)
      rw [edited_of_some permitted read]
      exact (kept _).trans (makes answers)
    | inr member =>
      exact ih (fun param found => others param (later param found)) distinct member _

variable {handle : Handle wizard} {accepted : wizard.Answers} {target : Target wizard.Step}
variable {params : SortedMap String Value} {name : String} {value : Value}

theorem field_of_missing (editing : wizard.Editing)
    (submitted : handle.submission params.entries = .ok (.accepted accepted target))
    (others : ∀ param, param.1 ≠ name → editing.Spares handle.step field param)
    (missing : params.get? name = none) : field accepted = field handle.answers := by
  have apart : ∀ param ∈ params.entries, param.1 ≠ name := by
    intro param member same
    have found : params.get? param.1 = some param.2 := SortedMap.get?_eq_some_iff.mpr member
    rw [same, missing] at found
    contradiction
  rw [editing.accepted_eq_editAll submitted]
  exact field_editAll (fun param member => others param (apart param member)) handle.answers

theorem field_of_given (editing : wizard.Editing)
    (submitted : handle.submission params.entries = .ok (.accepted accepted target))
    (others : ∀ param, param.1 ≠ name → editing.Spares handle.step field param)
    (permitted : (wizard.permitted handle.step).contains name = true)
    (given : params.get? name = some value) :
    ∃ change, editing.edit handle.step name value = some change ∧
      ∀ made, (∀ answers, field (change answers) = made) → field accepted = made := by
  have member : (name, value) ∈ params.entries := SortedMap.get?_eq_some_iff.mp given
  obtain ⟨change, read⟩ := editing.read_of_accepted submitted member permitted
  refine ⟨change, read, fun made makes => ?_⟩
  rw [editing.accepted_eq_editAll submitted]
  exact field_editAll_of_mem permitted read makes (fun param _ => others param) params.nodup_keys
    member handle.answers

end Fields

/-- An edit made again changes nothing, and edits under different names commute. -/
structure Settles (editing : wizard.Editing) : Prop where
  twice : ∀ {step name value change}, (wizard.permitted step).contains name = true →
    editing.edit step name value = some change → ∀ answers,
    change (change answers) = change answers
  apart : ∀ {step name value change other otherValue otherChange},
    (wizard.permitted step).contains name = true → editing.edit step name value = some change →
    (wizard.permitted step).contains other = true →
    editing.edit step other otherValue = some otherChange → other ≠ name → ∀ answers,
    change (otherChange answers) = otherChange (change answers)

namespace Settles

variable {answers : wizard.Answers} {param other : String × Value} {params : Object}

theorem edited_edited (settles : editing.Settles) (answers : wizard.Answers)
    (param : String × Value) :
    editing.edited step (editing.edited step answers param) param =
      editing.edited step answers param := by
  rcases editing.edited_cases step param with same | ⟨change, permitted, read, makes⟩
  · exact same (editing.edited step answers param)
  · rw [makes, makes]
    exact settles.twice permitted read answers

theorem edited_of_made (settles : editing.Settles) (different : other.1 ≠ param.1)
    (made : editing.edited step answers param = answers) :
    editing.edited step (editing.edited step answers other) param =
      editing.edited step answers other := by
  rcases editing.edited_cases step param with same | ⟨change, permitted, read, makes⟩
  · exact same (editing.edited step answers other)
  · rw [makes] at made ⊢
    rcases editing.edited_cases step other with same | ⟨otherChange, also, otherRead, otherMakes⟩
    · rw [same, made]
    · rw [otherMakes, settles.apart permitted read also otherRead different, made]

theorem edited_editAll_of_made (settles : editing.Settles)
    (different : ∀ other ∈ params, other.1 ≠ param.1)
    (made : editing.edited step answers param = answers) :
    editing.edited step (editing.editAll step answers params) param =
      editing.editAll step answers params := by
  induction params generalizing answers with
  | nil => exact made
  | cons first params ih =>
    have apart := different first List.mem_cons_self
    exact ih (fun other later => different other (List.mem_cons_of_mem first later))
      (settles.edited_of_made apart made)

theorem edited_editAll (settles : editing.Settles) (distinct : (params.map Prod.fst).Nodup)
    (answers : wizard.Answers) (member : param ∈ params) :
    editing.edited step (editing.editAll step answers params) param =
      editing.editAll step answers params := by
  induction params generalizing answers with
  | nil => contradiction
  | cons first params ih =>
    obtain ⟨fresh, distinct⟩ := List.nodup_cons.mp distinct
    rcases List.mem_cons.mp member with rfl | member
    · have made : editing.edited step (editing.edited step answers param) param =
          editing.edited step answers param := settles.edited_edited answers param
      have apart : ∀ other ∈ params, other.1 ≠ param.1 :=
        fun other later same => fresh (same ▸ List.mem_map_of_mem later)
      have still := settles.edited_editAll_of_made apart made
      exact still
    · exact ih distinct _ member

theorem accepted_eq_of_made (settles : editing.Settles) {handle : Handle wizard}
    {params : SortedMap String Value} {target : Target wizard.Step}
    (accepted : handle.submission params.entries = .ok (.accepted answers target))
    (made : ∀ name value change, (wizard.permitted handle.step).contains name = true →
      editing.edit handle.step name value = some change → change answers = answers →
      change handle.answers = handle.answers) :
    answers = handle.answers := by
  obtain rfl := editing.accepted_eq_editAll accepted
  refine editAll_of_made fun param member => ?_
  let reached := editing.editAll handle.step handle.answers params.entries
  have still : editing.edited handle.step reached param = reached :=
    settles.edited_editAll params.nodup_keys handle.answers member
  rw [edited_eq_self_iff] at still ⊢
  exact fun change permitted read => made _ _ change permitted read (still change permitted read)

theorem submission_again (settles : editing.Settles) {handle : Handle wizard}
    (distinct : (params.map Prod.fst).Nodup) {target : Target wizard.Step}
    (accepted : handle.submission params = .ok (.accepted answers target)) :
    Handle.submission { handle with answers } params = .ok (.accepted answers target) := by
  rw [editing.submission_eq] at accepted ⊢
  split at accepted
  · contradiction
  split at accepted
  · simp at accepted
  rename_i fine
  obtain ⟨rfl, writable⟩ := accepted_of_judge accepted
  have again : editing.editAll handle.step (editing.editAll handle.step handle.answers params)
      params = editing.editAll handle.step handle.answers params :=
    editAll_of_made fun param member => settles.edited_editAll distinct handle.answers member
  simp only [writable, Bool.not_true, Bool.false_eq_true, ↓reduceIte, fine, again, accepted]

end Settles

end Editing

end Definition

theorem Session.persisted_persisted {wizard : Definition} (session : Session wizard)
    (answers : wizard.Answers) :
    (session.persisted answers).persisted answers = session.persisted answers := by
  unfold Session.persisted Store.putRaw
  dsimp only
  rw [SortedMap.insert_insert]

/-- Submitting the same parameters twice is the same as submitting them once. -/
theorem Session.advance_advance {wizard : Definition} {editing : wizard.Editing}
    (settles : editing.Settles) (session : Session wizard) (params : SortedMap String Value) :
    (session.advance params.entries).2.advance params.entries = session.advance params.entries := by
  rcases session.advance_cases params.entries with
    ⟨answers, target, accepted, writable, advanced⟩ | ⟨outcome, advanced, -⟩
  · have again := settles.submission_again params.nodup_keys accepted
    rw [advanced, (session.persisted answers).advance_of_accepted again writable,
      session.persisted_persisted]
  · rw [advanced]
    exact advanced

end Admissions.Wizard
