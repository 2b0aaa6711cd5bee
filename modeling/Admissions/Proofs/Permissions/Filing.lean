import Admissions.Proofs.Permissions.Editing

namespace Admissions.Permissions

open Json (Value Object)
open Wizard (Handle Session Target)
open Wizard.Definition.Editing (field_editAll)

def Answers.answer? (answers : Answers) (relationship : UInt64) (name : String) :
    Option (List String) :=
  (answers.ticks? relationship).bind (·.get? name)

variable {answers : Answers} {relationship other : UInt64} {name : String} {ticked : List String}

theorem ticks?_tick_of_ne (different : other ≠ relationship) :
    (answers.tick relationship name ticked).ticks? other = answers.ticks? other :=
  answers.permissions.get?_insert_of_ne different _

@[simp] theorem answer?_tick_self :
    (answers.tick relationship name ticked).answer? relationship name = some ticked := by
  simp [Answers.answer?, Answers.tick, Answers.ticks?]

theorem answer?_tick_of_ne {permission : String} (different : permission ≠ name) :
    (answers.tick relationship name ticked).answer? relationship permission =
      answers.answer? relationship permission := by
  simp only [Answers.answer?, Answers.tick, Answers.ticks?, SortedMap.get?_insert_self,
    Option.bind_some, SortedMap.get?_insert_of_ne _ different]
  cases answers.permissions.get? relationship <;> rfl

section Sparing

variable {step : Step} (param : String × Value)

theorem spares_ticks? (different : other ≠ relationship) :
    editing.Spares (Step.permissions relationship) (fun now : Answers => now.ticks? other)
      param := by
  apply spares_of_writes
  · intro _ _ _ _
    rfl
  · intro _ _ _
    rfl
  · intro own page now ticked
    have same : relationship = own := Step.permissions.inj page
    exact ticks?_tick_of_ne (same ▸ different)

theorem spares_answer? (apart : param.1 ≠ name) :
    editing.Spares (Step.permissions relationship)
      (fun now : Answers => now.answer? relationship name) param := by
  apply spares_of_writes
  · intro _ _ _ _
    rfl
  · intro _ _ _
    rfl
  · intro own page now ticked
    have same : relationship = own := Step.permissions.inj page
    rw [← same]
    exact answer?_tick_of_ne apart.symm

theorem spares_checkingAnswers (apart : param.1 ≠ "checking_answers") :
    editing.Spares step Answers.checkingAnswers param := by
  apply spares_of_writes
  · intro _ _ _ _
    rfl
  · intro named
    exact absurd named apart
  · intro _ _ _ _
    rfl

theorem spares_permissions (ordinary : ∀ relationship, step ≠ .permissions relationship) :
    editing.Spares step Answers.permissions param := by
  apply spares_of_writes
  · intro _ _ _ _
    rfl
  · intro _ _ _
    rfl
  · intro relationship page
    exact absurd page (ordinary relationship)

theorem spares_selection (apart : param.1 ≠ "provider_relationships") :
    editing.Spares step Answers.relationships param := by
  apply spares_of_writes
  · intro named
    exact absurd named apart
  · intro _ _ _
    rfl
  · intro _ _ _ _
    rfl

end Sparing

/-- Nothing is filed under a name that is not one of a permission. -/
theorem spares_answer?_of_unknown (unknown : Permission.ofKey? name = none)
    (param : String × Value) :
    editing.Spares (Step.permissions relationship)
      (fun now : Answers => now.answer? relationship name) param := by
  by_cases own : param.1 = name
  · intro change permitted read now
    have unlisted := List.find?_eq_none.mp unknown
    have foreign : ∀ permission ∈ Permission.all, permission.key ≠ name :=
      fun permission listed => by simpa using unlisted permission listed
    rw [own] at permitted read
    have checking : name = "checking_answers" := by
      have decisions := foreign .makeDecisions (by decide)
      have safeguarding := foreign .viewSafeguardingInformation (by decide)
      have diversity := foreign .viewDiversityInformation (by decide)
      simp only [Permission.key, ne_comm] at decisions safeguarding diversity
      have permitted : (Step.permissions relationship).permitted.contains name = true := permitted
      simpa [Step.permitted, decisions, safeguarding, diversity] using permitted
    subst checking
    obtain ⟨checked, -, rfl⟩ := Option.map_eq_some_iff.mp read
    rfl
  · exact spares_answer? param own

theorem edit_permission (relationship : UInt64) (permission : Permission) (value : Value) :
    edit (.permissions relationship) permission.key value =
      (Value.list? Value.string? value).map fun ticked answers =>
        answers.tick relationship permission.key ticked := by
  cases permission <;> rfl

theorem permitted_permission (relationship : UInt64) (permission : Permission) :
    (Step.permissions relationship).permitted.contains permission.key = true := by
  cases permission <;> rfl

structure Filed (relationship : UInt64) (params : SortedMap String Value) (before now : Answers) :
    Prop where
  relationships : now.relationships = before.relationships
  others : ∀ other, other ≠ relationship → now.ticks? other = before.ticks? other
  submitted : ∀ (permission : Permission) value, params.get? permission.key = some value →
    ∃ ticked, value = .list .string ticked ∧
      now.answer? relationship permission.key = some ticked
  kept : ∀ name, params.get? name = none ∨ Permission.ofKey? name = none →
    now.answer? relationship name = before.answer? relationship name
  checking : ∀ value, params.get? "checking_answers" = some value →
    value = .bool now.checkingAnswers
  unchecked : params.get? "checking_answers" = none →
    now.checkingAnswers = before.checkingAnswers

structure Chosen (params : SortedMap String Value) (before now : Answers) : Prop where
  permissions : now.permissions = before.permissions
  submitted : ∀ value, params.get? "provider_relationships" = some value →
    ∃ ids, value = .list .uint64 ids ∧ now.relationships = ids.eraseDups
  kept : params.get? "provider_relationships" = none → now.relationships = before.relationships
  checking : ∀ value, params.get? "checking_answers" = some value →
    value = .bool now.checkingAnswers
  unchecked : params.get? "checking_answers" = none →
    now.checkingAnswers = before.checkingAnswers

section Submitting

variable {handle : Handle wizard} {params : SortedMap String Value} {now : Answers}
variable {target : Target Step}

theorem checkingAnswers_of_given
    (accepted : handle.submission params.entries = .ok (.accepted now target))
    (permitted : (wizard.permitted handle.step).contains "checking_answers" = true) {value : Value}
    (given : params.get? "checking_answers" = some value) : value = .bool now.checkingAnswers := by
  obtain ⟨change, read, writes⟩ :=
    editing.field_of_given accepted spares_checkingAnswers permitted given
  obtain ⟨checked, reads, rfl⟩ := Option.map_eq_some_iff.mp read
  rw [writes checked fun _ => rfl, Value.eq_bool_of_bool? reads]

theorem filed_of_submission
    (accepted : handle.submission params.entries = .ok (.accepted now target))
    (page : handle.step = Step.permissions relationship) :
    Filed relationship params handle.answers now := by
  have made := editing.accepted_eq_editAll accepted
  have later : handle.step ≠ Step.providerRelationships := by
    rw [page]
    exact Step.noConfusion
  have spares (name : String) : ∀ param : String × Value, param.1 ≠ name →
      editing.Spares handle.step (fun now : Answers => now.answer? relationship name) param := by
    rw [page]
    exact spares_answer?
  constructor
  case relationships => exact relationships_of_submission later accepted
  case others =>
    intro other different
    rw [made, page]
    exact field_editAll (fun param _ => spares_ticks? param different) handle.answers
  case submitted =>
    intro permission value given
    have permitted : (wizard.permitted handle.step).contains permission.key = true := by
      rw [page]
      exact permitted_permission relationship permission
    obtain ⟨change, read, writes⟩ :=
      editing.field_of_given accepted (spares permission.key) permitted given
    rw [page] at read
    -- A list of texts has one spelling, so the value is the text of what is ticked.
    have reads := (edit_permission relationship permission value).symm.trans read
    obtain ⟨ticked, listed, rfl⟩ := Option.map_eq_some_iff.mp reads
    have own := Value.eq_list_of_list? Value.eq_string_of_string? listed
    exact ⟨ticked, own, writes (some ticked) fun _ => answer?_tick_self⟩
  case kept =>
    intro name left
    cases left with
    | inl missing => exact editing.field_of_missing accepted (spares name) missing
    | inr unknown =>
      rw [made, page]
      exact field_editAll (fun param _ => spares_answer?_of_unknown unknown param) handle.answers
  case checking =>
    intro value given
    exact checkingAnswers_of_given accepted (page ▸ rfl) given
  case unchecked => exact editing.field_of_missing accepted spares_checkingAnswers

theorem chosen_of_submission
    (accepted : handle.submission params.entries = .ok (.accepted now target))
    (page : handle.step = Step.providerRelationships) :
    Chosen params handle.answers now := by
  constructor
  case permissions =>
    rw [editing.accepted_eq_editAll accepted, page]
    exact field_editAll (fun param _ => spares_permissions param (fun _ => Step.noConfusion))
      handle.answers
  case submitted =>
    intro value given
    have permitted : (wizard.permitted handle.step).contains "provider_relationships" = true := by
      rw [page]
      rfl
    obtain ⟨change, read, writes⟩ :=
      editing.field_of_given accepted spares_selection permitted given
    obtain ⟨ids, reads, rfl⟩ := Option.map_eq_some_iff.mp read
    have own := Value.eq_list_of_list? Value.eq_uint64_of_uint64? reads
    exact ⟨ids, own, writes ids.eraseDups fun _ => rfl⟩
  case kept => exact editing.field_of_missing accepted spares_selection
  case checking =>
    intro value given
    exact checkingAnswers_of_given accepted (page ▸ rfl) given
  case unchecked => exact editing.field_of_missing accepted spares_checkingAnswers

end Submitting

/-- A page that is left writes what it asks for, as it was submitted, and nothing else. -/
theorem submitted_page_writes_its_own (session : Session wizard) (params : SortedMap String Value)
    {target : Target Step} {after : Session wizard}
    (advanced : session.advance params.entries = (.ok (.next target), after)) :
    (∀ relationship, session.handle.step = Step.permissions relationship →
      Filed relationship params session.handle.answers after.handle.answers) ∧
    (session.handle.step = Step.providerRelationships →
      Chosen params session.handle.answers after.handle.answers) := by
  obtain ⟨now, accepted, rfl⟩ := session.advance_of_next advanced
  constructor
  · intro relationship page
    exact filed_of_submission accepted page
  · intro page
    exact chosen_of_submission accepted page

def halfSetUp (step : Step) : Session wizard :=
  let ticks (name : String) : Ticks := SortedMap.empty.insert name ["training_provider"]
  let given := (SortedMap.empty.insert 7 (ticks "make_decisions")).insert 12 (ticks "other")
  ⟨.empty, ⟨⟨"k"⟩, ⟨[⟨7, "Coast SCITT", "Hill College"⟩, ⟨12, "Coast SCITT", "Vale College"⟩]⟩,
    step, ⟨[12, 7], given, false⟩⟩⟩

def submittedAnswers : SortedMap String Value :=
  .ofList [("checking_answers", .bool true),
    ("make_decisions", .list .string ["ratifying_provider", ""]),
    ("view_diversity_information", .list .string ["training_provider"]),
    ("view_safeguarding_information", .list .string ["training_provider"]),
    ("provider_relationships", .list .uint64 [7, 7])]

def filedFrom (step : Step) : Session wizard :=
  ((halfSetUp step).advance submittedAnswers.entries).2

theorem submitted_page_writes_its_own_half_set_up :
    Filed 12 submittedAnswers (halfSetUp (.permissions 12)).handle.answers
      (filedFrom (.permissions 12)).handle.answers ∧
    Chosen submittedAnswers (halfSetUp .providerRelationships).handle.answers
      (filedFrom .providerRelationships).handle.answers := by
  have permissions : (halfSetUp (.permissions 12)).advance submittedAnswers.entries =
      (.ok (.next (.step (Step.permissions 7))), filedFrom (.permissions 12)) := rfl
  have selection : (halfSetUp .providerRelationships).advance submittedAnswers.entries =
      (.ok (.next (.step (Step.permissions 7))), filedFrom .providerRelationships) := rfl
  exact ⟨(submitted_page_writes_its_own _ _ permissions).1 12 rfl,
    (submitted_page_writes_its_own _ _ selection).2 rfl⟩

end Admissions.Permissions
