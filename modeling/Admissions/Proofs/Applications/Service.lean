import Admissions.Applications.Service
import Admissions.Proofs.Applications.Repository
import Admissions.Proofs.Catalog
import Admissions.Proofs.Except

namespace Admissions

open Calendar (Instant)

namespace SubmissionCheck

variable {check : SubmissionCheck} {snapshot : ChoiceSnapshot} {context : SubmissionContext}
variable {error : EligibilityError}

theorem check_of_evaluate (fails : check.evaluate snapshot context = some error) :
    error.check = check := by
  cases check with
  | applicationsClosed =>
    obtain ⟨date, -, rfl⟩ := Option.map_eq_some_iff.mp fails
    rfl
  | courseUnavailable =>
    simp only [evaluate, courseUnavailableError] at fails
    split at fails
    · contradiction
    · rw [← Option.some.inj fails]
  | incompleteDetails =>
    simp only [evaluate, incompleteDetailsError] at fails
    split at fails
    · contradiction
    · rw [← Option.some.inj fails]
    · rw [← Option.some.inj fails]
  | alreadySubmitted =>
    simp only [evaluate, alreadySubmittedError] at fails
    split at fails
    · contradiction
    · rw [← Option.some.inj fails]

theorem unsubmitted_of_passes (passes : alreadySubmitted.evaluate snapshot context = none) :
    snapshot.status = .unsubmitted := by
  simp only [evaluate, alreadySubmittedError] at passes
  split at passes
  · assumption
  · contradiction

end SubmissionCheck

namespace ApplicationService

variable {service : ApplicationService} {id : UInt64} {now : Instant}
variable {choice : ApplicationChoice} {snapshot : ChoiceSnapshot}

def keep (service : ApplicationService) (choice : ApplicationChoice) : ApplicationService :=
  { service with repository := service.repository.put choice }

/-- The service once a call was cut short while it held the choices. -/
def cutShort (service : ApplicationService) : ApplicationService :=
  { service with repository := { service.repository with poisoned := true } }

@[simp] theorem ofRecords_ok {α : Type} (found : α) : ofRecords (.ok found) = .ok found := rfl

theorem eq_ok_of_ofRecords {α : Type} {result : Except RecordError α} {found : α}
    (looked : ofRecords result = .ok found) : result = .ok found := by
  cases result with
  | error error => contradiction
  | ok given => exact congrArg Except.ok (Except.ok.inj looked)

theorem choice?_of_get (found : service.get id = .ok choice) :
    service.repository.choice? id = some choice := by
  obtain ⟨kept, fetched, found⟩ := exists_of_bind_eq_ok found
  obtain ⟨-, -, fetched⟩ := exists_of_bind_eq_ok (eq_ok_of_ofRecords fetched)
  obtain rfl := Except.ok.inj fetched
  unfold Repository.choice?
  cases kept : service.repository.choices.get? id with
  | none => simp [kept, throw, throwThe, MonadExceptOf.throw] at found
  | some other =>
    simp only [kept] at found
    exact congrArg some (Except.ok.inj found)

theorem snapshot_status (read : service.snapshot choice = .ok snapshot) :
    snapshot.status = choice.status := by
  unfold ApplicationService.snapshot at read
  obtain ⟨_, -, read⟩ := exists_of_bind_eq_ok read
  obtain ⟨_, -, read⟩ := exists_of_bind_eq_ok read
  obtain ⟨_, -, read⟩ := exists_of_bind_eq_ok read
  obtain ⟨_, -, read⟩ := exists_of_bind_eq_ok read
  obtain ⟨_, -, read⟩ := exists_of_bind_eq_ok read
  obtain ⟨_, -, read⟩ := exists_of_bind_eq_ok read
  obtain rfl := Except.ok.inj read
  rfl

theorem submittable_eq_bind (service : ApplicationService) (id : UInt64) (now : Instant) :
    service.submittable id now = (service.submissionErrors id now >>= fun blocked =>
      match blocked with
      | some error => throw (.ineligible error)
      | none => service.get id) := by
  unfold submittable submissionErrors
  cases found : service.get id with
  | error error => rfl
  | ok choice =>
    cases read : service.snapshot choice with
    | error error => simp only [bind, Except.bind, read]
    | ok snapshot =>
      cases blocked : service.blocking snapshot now <;>
        simp [bind, Except.bind, read, pure, Except.pure, blocked]

theorem submittable_eq_ok (submittable : service.submittable id now = .ok choice) :
    service.submissionErrors id now = .ok none ∧ service.get id = .ok choice := by
  rw [submittable_eq_bind] at submittable
  obtain ⟨blocked, clear, found⟩ := exists_of_bind_eq_ok submittable
  cases blocked with
  | some error => simp [throw, throwThe, MonadExceptOf.throw] at found
  | none => exact ⟨clear, found⟩

theorem unsubmitted_of_clear (clear : service.submissionErrors id now = .ok none)
    (blocks : .alreadySubmitted ∈ service.policy.rules.checks)
    (kept : service.repository.choice? id = some choice) : choice.status = .unsubmitted := by
  obtain ⟨found, gets, checked⟩ := exists_of_bind_eq_ok clear
  obtain ⟨snapshot, read, evaluated⟩ := exists_of_bind_eq_ok checked
  obtain rfl := Option.some.inj (kept.symm.trans (choice?_of_get gets))
  have passes := List.findSome?_eq_none_iff.mp (Except.ok.inj evaluated) _ blocks
  rw [← snapshot_status read]
  exact SubmissionCheck.unsubmitted_of_passes passes

theorem selectedOption_of_available {selection : NewApplicationChoice} {option : CourseOption}
    (found : service.catalog.courseOption selection.courseId selection.courseOptionId =
      .ok (some option))
    (available : option.isAvailable = true) : service.selectedOption selection = .ok option := by
  simp only [selectedOption, found, ofRecords_ok, present, available, bind,
    Except.bind, pure, Except.pure, ↓reduceIte]

theorem create_of_selected {selection : NewApplicationChoice} {option : CourseOption}
    (selected : service.selectedOption selection = .ok option)
    (reached : service.repository.reach .insert = .ok ()) (now : Instant) :
    service.create selection now =
      if service.repository.isTaken selection then (some (.error (.repository .conflict)), service)
      else
        match service.repository.nextId? with
        | none => (none, service.cutShort)
        | some id =>
          let record := Repository.newRecord id selection now
          (some (.ok record), service.keep record) := by
  simp only [create, selected, Repository.insert, reached]
  split
  · rfl
  · cases service.repository.nextId? <;> rfl

theorem create_cases (service : ApplicationService) (selection : NewApplicationChoice)
    (now : Instant) :
    (∃ id, service.repository.isTaken selection = false ∧ service.repository.nextId? = some id ∧
      service.create selection now = (some (.ok (Repository.newRecord id selection now)),
        service.keep (Repository.newRecord id selection now))) ∨
    (service.repository.isTaken selection = false ∧ service.repository.nextId? = none ∧
      service.create selection now = (none, service.cutShort)) ∨
    ∃ error, service.create selection now = (some (.error error), service) := by
  cases selected : service.selectedOption selection with
  | error error => exact .inr (.inr ⟨error, by simp only [create, selected]⟩)
  | ok option =>
    cases reached : service.repository.reach .insert with
    | error error =>
      refine .inr (.inr ⟨.repository error, ?_⟩)
      simp only [create, selected, Repository.insert, reached]
      rfl
    | ok done =>
      have created := create_of_selected selected reached now
      cases taken : service.repository.isTaken selection with
      | true => exact .inr (.inr ⟨_, by simpa [taken] using created⟩)
      | false =>
        cases next : service.repository.nextId? with
        | none => exact .inr (.inl ⟨rfl, rfl, by simpa [taken, next] using created⟩)
        | some id => exact .inl ⟨id, rfl, rfl, by simpa [taken, next] using created⟩

theorem create_eq_ok {selection : NewApplicationChoice}
    (created : (service.create selection now).1 = some (.ok choice)) :
    ∃ id, service.repository.nextId? = some id ∧
      choice = Repository.newRecord id selection now ∧
      (service.create selection now).2 = service.keep choice := by
  rcases service.create_cases selection now with ⟨id, -, next, made⟩ | ⟨-, -, cut⟩ | ⟨error, refused⟩
  · rw [made] at created ⊢
    cases created
    exact ⟨id, next, rfl, rfl⟩
  · rw [cut] at created
    cases created
  · rw [refused] at created
    cases created

theorem choice?_of_created {selection : NewApplicationChoice}
    (created : (service.create selection now).1 = some (.ok choice)) :
    (service.create selection now).2.repository.choice? choice.id = some choice := by
  obtain ⟨_, -, -, kept⟩ := create_eq_ok created
  rw [kept]
  exact Repository.choice?_put_self _ choice

theorem create_eq_error {selection : NewApplicationChoice} {error : ServiceError BrokenReference}
    (refused : (service.create selection now).1 = some (.error error)) :
    (service.create selection now).2 = service := by
  rcases service.create_cases selection now with ⟨id, -, -, made⟩ | ⟨-, -, cut⟩ | ⟨other, same⟩
  · rw [made] at refused
    cases refused
  · rw [cut] at refused
    cases refused
  · rw [same]

theorem create_eq_none {selection : NewApplicationChoice}
    (cut : (service.create selection now).1 = none) :
    service.repository.isTaken selection = false ∧ ¬service.repository.HasIds ∧
      (service.create selection now).2 = service.cutShort := by
  rcases service.create_cases selection now with ⟨id, -, -, made⟩ | ⟨free, full, same⟩ | ⟨_, refused⟩
  · rw [made] at cut
    cases cut
  · rw [same]
    exact ⟨free, Repository.nextId?_eq_none_iff.mp full, rfl⟩
  · rw [refused] at cut
    cases cut

theorem submit_of_error {error : ServiceError BrokenReference}
    (refused : service.submittable id now = .error error) :
    service.submit id now = (.error error, service) := by
  simp only [submit, refused]

theorem submit_of_ok (submittable : service.submittable id now = .ok choice)
    (reached : service.repository.reach .update = .ok ())
    (held : service.repository.choices.contains choice.id = true) :
    service.submit id now = (.ok (submitted choice now), service.keep (submitted choice now)) := by
  have own : service.repository.choices.contains (submitted choice now).id = true := held
  simp only [submit, submittable, Repository.update, reached, own, ↓reduceIte]
  rfl

theorem submit_cases (service : ApplicationService) (id : UInt64) (now : Instant) :
    (∃ choice, service.submittable id now = .ok choice ∧
      service.submit id now =
        (.ok (submitted choice now), service.keep (submitted choice now))) ∨
    ∃ error, service.submit id now = (.error error, service) := by
  cases able : service.submittable id now with
  | error error => exact .inr ⟨error, submit_of_error able⟩
  | ok choice =>
    cases reached : service.repository.reach .update with
    | error error =>
      refine .inr ⟨.repository error, ?_⟩
      simp only [submit, able, Repository.update, reached]
      rfl
    | ok done =>
      cases held : service.repository.choices.contains choice.id with
      | true => exact .inl ⟨choice, rfl, submit_of_ok able reached held⟩
      | false =>
        have own : service.repository.choices.contains (submitted choice now).id = false := held
        refine .inr ⟨.repository .notFound, ?_⟩
        simp only [submit, able, Repository.update, reached, own, Bool.false_eq_true, ↓reduceIte]
        rfl

end ApplicationService

end Admissions
