import Admissions.Proofs.Applications.Requests

namespace Admissions.ApplicationService

open Calendar (Instant)

section

variable {α β : Type} {result : Result α}

/-- Whatever goes wrong, it is not a submission check. -/
def Unchecked (result : Result α) : Prop := ∀ reason, result ≠ .error (.ineligible reason)

theorem Unchecked.bind {following : α → Result β} (first : Unchecked result)
    (rest : ∀ given, Unchecked (following given)) : Unchecked (result >>= following) := by
  cases result with
  | error error =>
    intro reason same
    cases same
    exact first reason rfl
  | ok given => exact rest given

theorem unchecked_ok (value : α) : Unchecked (.ok value) := fun _ same => nomatch same

theorem unchecked_ofRecords (looked : Except RecordError α) : Unchecked (ofRecords looked) := by
  cases looked <;> exact fun _ same => nomatch same

theorem unchecked_present (found : Option α) (cause : BrokenReference) :
    Unchecked (present found cause) := by
  cases found <;> exact fun _ same => nomatch same

end

variable {service : ApplicationService}

theorem unchecked_get (service : ApplicationService) (id : UInt64) :
    Unchecked (service.get id) := by
  refine (unchecked_ofRecords _).bind fun found => ?_
  cases found with
  | none => exact fun _ same => nomatch same
  | some choice => exact unchecked_ok choice

theorem unchecked_snapshot (service : ApplicationService) (choice : ApplicationChoice) :
    Unchecked (service.snapshot choice) := by
  refine (unchecked_ofRecords _).bind fun _ => (unchecked_present _ _).bind fun _ => ?_
  refine (unchecked_ofRecords _).bind fun _ => (unchecked_present _ _).bind fun _ => ?_
  refine (unchecked_ofRecords _).bind fun _ => (unchecked_present _ _).bind fun _ => ?_
  exact unchecked_ok _

theorem unchecked_submissionErrors (service : ApplicationService) (id : UInt64) (now : Instant) :
    Unchecked (service.submissionErrors id now) :=
  (unchecked_get service id).bind fun choice =>
    (unchecked_snapshot service choice).bind fun _ => unchecked_ok _

def Steady (service : ApplicationService) : Prop :=
  service.repository.reach .fetch = .ok () → service.repository.reach .update = .ok ()

theorem reach_of_get {id : UInt64} {choice : ApplicationChoice}
    (found : service.get id = .ok choice) : service.repository.reach .fetch = .ok () := by
  obtain ⟨kept, fetched, -⟩ := exists_of_bind_eq_ok found
  obtain ⟨done, reached, -⟩ := exists_of_bind_eq_ok (eq_ok_of_ofRecords fetched)
  exact reached

theorem submit_outcomes (keyed : service.repository.Keyed) (steady : service.Steady)
    (id : UInt64) (now : Instant) :
    (∃ error, service.submissionErrors id now = .error error ∧
      service.submit id now = (.error error, service)) ∨
    (∃ reason, service.submissionErrors id now = .ok (some reason) ∧
      service.submit id now = (.error (.ineligible reason), service)) ∨
    ∃ choice, service.submissionErrors id now = .ok none ∧
      service.repository.choice? id = some choice ∧
      service.submit id now = (.ok (submitted choice now), service.keep (submitted choice now)) := by
  have able := submittable_eq_bind service id now
  cases errors : service.submissionErrors id now with
  | error error =>
    rw [errors] at able
    exact .inl ⟨error, rfl, submit_of_error able⟩
  | ok blocked =>
    rw [errors] at able
    cases blocked with
    | some reason => exact .inr (.inl ⟨reason, rfl, submit_of_error able⟩)
    | none =>
      obtain ⟨choice, found, -⟩ := exists_of_bind_eq_ok errors
      have kept := choice?_of_get found
      have held : service.repository.choices.contains choice.id = true := by
        rw [keyed kept]
        exact Option.isSome_iff_exists.mpr ⟨choice, kept⟩
      have reached := steady (reach_of_get found)
      exact .inr (.inr ⟨choice, rfl, kept, submit_of_ok (able.trans found) reached held⟩)

/-- Of all that the service has, one record is new: it is on its way to the provider. -/
structure Sends (before : ApplicationService) (id : UInt64) (now : Instant)
    (sent : ApplicationChoice) (after : ApplicationService) : Prop where
  changed : ∃ choice, before.repository.choice? id = some choice ∧
    sent = { choice with
      status := .awaitingProviderDecision, sentToProviderAt := some now, updatedAt := now }
  stored : after.repository.choice? id = some sent
  others : ∀ other, other ≠ id →
    after.repository.choice? other = before.repository.choice? other
  forms : after.repository.forms = before.repository.forms
  outside : after.catalog = before.catalog ∧ after.policy = before.policy

theorem sends_keep_submitted (keyed : service.repository.Keyed) {id : UInt64}
    {choice : ApplicationChoice} (kept : service.repository.choice? id = some choice)
    (now : Instant) :
    service.Sends id now (submitted choice now) (service.keep (submitted choice now)) := by
  obtain rfl : choice.id = id := keyed kept
  constructor
  case changed => exact ⟨choice, kept, rfl⟩
  case stored => exact Repository.choice?_put_self _ (submitted choice now)
  case others =>
    intro other different
    have apart : other ≠ (submitted choice now).id := different
    exact Repository.choice?_put_of_ne apart
  case forms => rfl
  case outside => exact ⟨rfl, rfl⟩

structure Foretold (service : ApplicationService) (id : UInt64) (now : Instant) : Prop where
  blocked : ∀ reason, service.submissionErrors id now = .ok (some reason) ↔
    (service.submit id now).1 = .error (.ineligible reason)
  clear : service.submissionErrors id now = .ok none ↔
    ∃ sent, (service.submit id now).1 = .ok sent
  failed : ∀ error, service.submissionErrors id now = .error error ↔
    (service.submit id now).1 = .error error ∧ ∀ reason, error ≠ .ineligible reason
  refused : ∀ error, (service.submit id now).1 = .error error →
    (service.submit id now).2 = service
  sent : ∀ sent, (service.submit id now).1 = .ok sent →
    service.Sends id now sent (service.submit id now).2

theorem foretold_of_keyed (keyed : service.repository.Keyed) (steady : service.Steady)
    (id : UInt64) (now : Instant) : service.Foretold id now := by
  rcases submit_outcomes keyed steady id now with
    ⟨error, errors, submits⟩ | ⟨reason, errors, submits⟩ | ⟨choice, errors, kept, submits⟩
  · have unchecked (reason : EligibilityError) : error ≠ .ineligible reason := by
      rintro rfl
      exact unchecked_submissionErrors service id now reason errors
    constructor
    case blocked => simp [errors, submits, unchecked]
    case failed =>
      intro other
      simp only [errors, submits, Except.error.injEq]
      refine ⟨?_, And.left⟩
      rintro rfl
      exact ⟨rfl, unchecked⟩
    all_goals simp [errors, submits]
  · constructor
    case failed =>
      intro error
      simp only [errors, submits, reduceCtorEq, Except.error.injEq, false_iff, not_and]
      rintro rfl other
      exact other reason rfl
    all_goals simp [errors, submits]
  · constructor
    case sent =>
      intro sent same
      rw [submits] at same ⊢
      cases same
      exact sends_keep_submitted keyed kept now
    all_goals simp [errors, submits]

/-- The submission errors foretell a submit for all that the repository may hold while its calls
    work, and whatever look-ups of the catalog are down. -/
theorem submission_errors_foretell_submit (choices : List ApplicationChoice)
    (forms : List ApplicationForm) (start catalog : Catalog) (policy : ApplicationPolicy)
    (requests : List Request) (id : UInt64) (now : Instant) :
    let held := ((opened choices forms start policy).run requests).repository
    Foretold ⟨{ held with outage := .none }, catalog, policy⟩ id now := by
  intro held
  let service : ApplicationService := ⟨{ held with outage := .none }, catalog, policy⟩
  have keyed : service.repository.Keyed :=
    keyed_run (keyed_opened choices forms start policy) requests
  -- Without outages all calls get at the choices alike.
  have steady : service.Steady := fun reached => reached
  exact foretold_of_keyed keyed steady id now

end Admissions.ApplicationService
