import Admissions.Proofs.Applications.Requests
import Admissions.Proofs.CourseSelection.Soundness

namespace Admissions

open Calendar (Instant)
open Wizard (Session)

namespace Catalog

variable {catalog : Catalog} {selection : NewApplicationChoice}
variable {course : Course} {option : CourseOption}

structure Lists (catalog : Catalog) (selection : NewApplicationChoice) (course : Course)
    (option : CourseOption) : Prop where
  known : catalog.courses.find? (·.id == selection.courseId) = some course
  offered : catalog.Offers selection.courseId option
  chosen : option.id = selection.courseOptionId

namespace Lists

theorem number (lists : catalog.Lists selection course option) :
    course.id = selection.courseId := by
  simpa using List.find?_some lists.known

theorem isAvailable (lists : catalog.Lists selection course option) :
    option.isAvailable = true := by
  simp [CourseOption.isAvailable, CourseOption.hasVacancies, lists.offered.vacant,
    lists.offered.siteValid]

theorem mem_options (lists : catalog.Lists selection course option) :
    option ∈ catalog.options.filter (·.courseId == selection.courseId) := by
  simp [lists.offered.listed, lists.offered.ofCourse]

theorem find?_option (lists : catalog.Lists selection course option)
    (distinct : (catalog.options.map (·.id)).Nodup) :
    (catalog.options.filter (·.courseId == selection.courseId)).find?
      (·.id == selection.courseOptionId) = some option := by
  rw [← lists.chosen]
  exact find?_eq_some_of_nodup (distinct.sublist (List.filter_sublist.map _)) lists.mem_options

end Lists

theorem lists_of_created (catalog : Catalog) {session : Session CourseSelection.wizard}
    (agrees : catalog.Agrees session.handle.context.catalog)
    (saved : session.save.1 = .ok (.created selection)) :
    ∃ course option, catalog.Lists selection course option := by
  obtain ⟨-, -, made⟩ := Session.finished_eq_some (session.finished_of_created saved)
  obtain ⟨found, option, looked, picked, rfl⟩ := CourseSelection.materialize_eq_ok made
  have course := (CourseSelection.course_of_agrees agrees).symm.trans looked
  obtain ⟨providerId, courseId, -, -, records⟩ := named_eq_some course
  obtain ⟨known, rfl, rfl, offered⟩ := shapeOf_eq_some records
  obtain ⟨member, -⟩ := CourseShape.pick_eq_some picked
  obtain ⟨available, -⟩ := CourseShape.mem_optionsFor.mp member
  exact ⟨found.course, option, known, (offered option).mp available, rfl⟩

end Catalog

namespace ApplicationService

variable {service : ApplicationService} {selection : NewApplicationChoice}
variable {course : Course} {option : CourseOption} {choice : ApplicationChoice}

/-- What a create may come to where the option is available: the form applies for it already, there
    is a new choice, or there is no id left for one and the call is cut short. -/
inductive Accepts (service : ApplicationService) (selection : NewApplicationChoice) :
    Reply ApplicationChoice → Prop where
  | conflict (taken : service.repository.isTaken selection = true) :
      Accepts service selection (some (.error (.repository .conflict)))
  | choice (record : ApplicationChoice) (free : service.repository.isTaken selection = false)
      (hasIds : service.repository.HasIds) : Accepts service selection (some (.ok record))
  | cut (free : service.repository.isTaken selection = false)
      (full : ¬service.repository.HasIds) : Accepts service selection none

theorem create_of_lists (lists : service.catalog.Lists selection course option)
    (available : service.catalog.Available)
    (distinct : (service.catalog.options.map (·.id)).Nodup)
    (working : service.repository.Working) (now : Instant) :
    service.Accepts selection (service.create selection now).1 := by
  have found : service.catalog.courseOption selection.courseId selection.courseOptionId =
      .ok (some option) := by
    simp only [Catalog.courseOption, Catalog.courseOptions, available.check, bind, Except.bind,
      pure, Except.pure, lists.find?_option distinct]
  have hasIds : service.repository.HasIds ↔ service.repository.nextId? ≠ none := by
    rw [ne_eq, Repository.nextId?_eq_none_iff, not_not]
  rw [create_of_selected (selectedOption_of_available found lists.isAvailable)
    (working.reach .insert)]
  cases taken : service.repository.isTaken selection with
  | true => exact .conflict taken
  | false =>
    cases next : service.repository.nextId? with
    | none => exact .cut taken (by simp [hasIds, next])
    | some id => exact .choice _ taken (by simp [hasIds, next])

theorem snapshot_of_lists (lists : service.catalog.Lists selection course option)
    (available : service.catalog.Available)
    (distinct : (service.catalog.options.map (·.id)).Nodup)
    (working : service.repository.Working) (records : choice.Records selection) :
    service.snapshot choice = (do
      let form ← present (service.repository.forms.get? choice.applicationFormId)
        (.form choice.id choice.applicationFormId)
      return {
        id := choice.id
        status := choice.status
        course
        courseOption := option
        courseOptions := service.catalog.options.filter (·.courseId == course.id)
        form }) := by
  have known := records.course ▸ lists.known
  have picked := lists.find?_option distinct
  rw [← lists.number, ← records.option] at picked
  simp only [snapshot, Catalog.course, Catalog.courseOptions, Repository.applicationForm,
    available.check, working.check, known, picked, present, ofRecords_ok, bind,
    Except.bind, pure, Except.pure]

theorem get_of_kept {id : UInt64} (working : service.repository.Working)
    (kept : service.repository.choice? id = some choice) : service.get id = .ok choice := by
  unfold Repository.choice? at kept
  simp only [get, Repository.fetch, working.reach, kept, ofRecords_ok, bind,
    Except.bind, pure, Except.pure]

/-- With a place left at the site, only that the course is hidden makes it unavailable. -/
theorem hidden_of_courseUnavailable {snapshot : ChoiceSnapshot} {context : SubmissionContext}
    {error : EligibilityError} {rules : SubmissionRules}
    (blocked : rules.evaluate snapshot context = some error)
    (unavailable : error.check = .courseUnavailable)
    (listed : snapshot.courseOption ∈ snapshot.courseOptions)
    (available : snapshot.courseOption.isAvailable = true) :
    snapshot.course.exposedInFind = false := by
  obtain ⟨check, -, fails⟩ := List.exists_of_findSome?_eq_some blocked
  obtain rfl : .courseUnavailable = check :=
    unavailable.symm.trans (SubmissionCheck.check_of_evaluate fails)
  obtain ⟨vacant, valid⟩ : snapshot.courseOption.hasVacancies = true ∧
      snapshot.courseOption.siteStillValid = true := by
    simpa [CourseOption.isAvailable] using available
  have places : snapshot.courseFull = false := by
    simp only [ChoiceSnapshot.courseFull, Bool.not_eq_false', List.any_eq_true]
    exact ⟨_, listed, vacant⟩
  cases hidden : snapshot.course.exposedInFind with
  | false => rfl
  | true =>
    simp [SubmissionCheck.evaluate, SubmissionCheck.courseUnavailableError, places, valid,
      hidden] at fails

/-- The checks find the course and the option of the choice. Only a missing form keeps them from
    running, and only a hidden course is reported as unavailable. -/
structure Checkable (service : ApplicationService) (choice : ApplicationChoice) (time : Instant) :
    Prop where
  failed : ∀ error, service.submissionErrors choice.id time = .error error →
    error = .precondition (.form choice.id choice.applicationFormId) ∧
    service.repository.forms.get? choice.applicationFormId = none
  unavailable : ∀ blocked, service.submissionErrors choice.id time = .ok (some blocked) →
    blocked.check = .courseUnavailable →
    ∃ course, service.catalog.courses.find? (·.id == choice.courseId) = some course ∧
      course.exposedInFind = false

theorem checkable_of_lists (lists : service.catalog.Lists selection course option)
    (available : service.catalog.Available)
    (distinct : (service.catalog.options.map (·.id)).Nodup)
    (working : service.repository.Working) (records : choice.Records selection)
    (kept : service.repository.choice? choice.id = some choice) (time : Instant) :
    service.Checkable choice time := by
  have errors : service.submissionErrors choice.id time =
      (do return service.blocking (← service.snapshot choice) time) := by
    rw [submissionErrors, get_of_kept working kept]
    rfl
  rw [snapshot_of_lists lists available distinct working records] at errors
  cases missing : service.repository.forms.get? choice.applicationFormId with
  | none =>
    rw [missing] at errors
    constructor
    · intro error failed
      cases errors.symm.trans failed
      exact ⟨rfl, missing⟩
    · intro blocked reported
      cases errors.symm.trans reported
  | some form =>
    rw [missing] at errors
    constructor
    · intro error failed
      cases errors.symm.trans failed
    · intro blocked reported hidden
      have evaluated := Except.ok.inj (errors.symm.trans reported)
      refine ⟨course, records.course ▸ lists.known, ?_⟩
      refine hidden_of_courseUnavailable evaluated hidden ?_ lists.isAvailable
      exact lists.number ▸ lists.mem_options

/-- A selection that is saved, in whatever state of the handle, becomes a choice unless its form
    already applies for the option or there is no id left. The choice can be checked for as long as
    its record goes on, sent or not, whatever else the repository holds by then. -/
theorem created_selection_accepted (available : service.catalog.Available)
    (distinct : (service.catalog.options.map (·.id)).Nodup)
    (working : service.repository.Working) {session : Session CourseSelection.wizard}
    (agrees : service.catalog.Agrees session.handle.context.catalog)
    (saved : session.save.1 = .ok (.created selection)) (now : Instant) :
    service.Accepts selection (service.create selection now).1 ∧
    ∀ choice, (service.create selection now).1 = some (.ok choice) →
      (service.create selection now).2.repository.choice? choice.id = some choice ∧
      ∀ (later : Repository) (record : ApplicationChoice) (time : Instant), later.Working →
        later.choice? choice.id = some record → choice.Continues record →
        Checkable { service with repository := later } record time := by
  obtain ⟨course, option, lists⟩ := service.catalog.lists_of_created agrees saved
  refine ⟨create_of_lists lists available distinct working now, fun choice created => ?_⟩
  refine ⟨choice?_of_created created, fun later record time working kept continues => ?_⟩
  have own : record.id = choice.id := by
    rw [continues]
  have records : record.Records selection := by
    obtain ⟨id, -, rfl, -⟩ := create_eq_ok created
    exact continues.records (ApplicationChoice.records_newRecord id selection now)
  let next : ApplicationService := { service with repository := later }
  have listed : next.catalog.Lists selection course option := lists
  rw [← own] at kept
  exact checkable_of_lists listed available distinct working records kept time

def reviewed : Session CourseSelection.wizard where
  store := .empty
  handle := ⟨⟨"k"⟩, ⟨CourseSelection.twoModes, 77⟩, CourseSelection.Step.courseReview,
    ⟨some .yes, some 1, some 6, some .fullTime, some 61⟩⟩

theorem created_selection_accepted_reviewed :
    let service := opened [draft 3 88] [⟨77, FormSection.all⟩] CourseSelection.twoModes midCycle
    let selection : NewApplicationChoice := ⟨77, 1, 6, 61, 2024⟩
    let (created, after) := service.create selection noon
    service.catalog.Available ∧ (service.catalog.options.map (·.id)).Nodup ∧
    service.repository.Working ∧ service.catalog.Agrees reviewed.handle.context.catalog ∧
    reviewed.save.1 = .ok (.created selection) ∧
    ∃ choice, created = some (.ok choice) ∧
      Checkable { service with repository := after.repository } choice noon := by
  intro service selection
  have available : service.catalog.Available := rfl
  have working : service.repository.Working := ⟨rfl, rfl⟩
  have agrees : service.catalog.Agrees reviewed.handle.context.catalog := ⟨rfl, rfl, rfl⟩
  have distinct : (service.catalog.options.map (·.id)).Nodup := by decide
  have saved : reviewed.save.1 = .ok (.created selection) := by decide +kernel
  have created : (service.create selection noon).1 =
      some (.ok (Repository.newRecord 4 selection noon)) := by decide +kernel
  obtain ⟨-, checks⟩ := created_selection_accepted available distinct working agrees saved noon
  obtain ⟨kept, checkable⟩ := checks _ created
  exact ⟨available, distinct, working, agrees, saved, _, created,
    checkable _ _ noon ⟨rfl, rfl⟩ kept rfl⟩

/-- The one record there is has the last id. -/
theorem created_selection_cut_short :
    let service := opened [draft Repository.lastId 88] [⟨77, FormSection.all⟩]
      CourseSelection.twoModes midCycle
    let selection : NewApplicationChoice := ⟨77, 1, 6, 61, 2024⟩
    reviewed.save.1 = .ok (.created selection) ∧ (service.create selection noon).1 = none := by
  decide +kernel

end ApplicationService

end Admissions
