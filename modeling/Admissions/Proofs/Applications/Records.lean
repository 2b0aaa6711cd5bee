import Admissions.Proofs.Applications.Requests
import Mathlib.Control.Monad.Basic

namespace Admissions.ApplicationService

open Calendar (Instant)

variable {service : ApplicationService} {selection : NewApplicationChoice} {now : Instant}

def Applied (service : ApplicationService) (selection : NewApplicationChoice) : Prop :=
  ∃ id choice, service.repository.choice? id = some choice ∧
    choice.applicationFormId = selection.applicationFormId ∧
    choice.courseOptionId = selection.courseOptionId

/-- A create makes the one record that it answers with, under a new id, or changes nothing. -/
structure Creates (service : ApplicationService) (selection : NewApplicationChoice)
    (now : Instant) : Prop where
  fresh : ∀ choice, (service.create selection now).1 = some (.ok choice) →
    ∀ id kept, service.repository.choice? id = some kept → id < choice.id
  records : ∀ choice, (service.create selection now).1 = some (.ok choice) →
    choice.status = .unsubmitted ∧ choice.Records selection
  stored : ∀ choice, (service.create selection now).1 = some (.ok choice) →
    (service.create selection now).2.repository.choice? choice.id = some choice ∧
    ∀ other, other ≠ choice.id →
      (service.create selection now).2.repository.choice? other =
        service.repository.choice? other
  refused : ∀ error, (service.create selection now).1 = some (.error error) →
    (service.create selection now).2 = service
  cut : (service.create selection now).1 = none → ¬service.repository.HasIds ∧
    ∀ id, (service.create selection now).2.repository.choice? id = service.repository.choice? id
  conflict : ∀ option, service.repository.outage.check .insert = .ok () →
    service.catalog.courseOption selection.courseId selection.courseOptionId =
      .ok (some option) →
    option.isAvailable = true →
    ((service.create selection now).1 = some (.error (.repository .conflict)) ↔
      service.Applied selection)

theorem conflict_iff {option : CourseOption}
    (reached : service.repository.reach .insert = .ok ())
    (found : service.catalog.courseOption selection.courseId selection.courseOptionId =
      .ok (some option))
    (available : option.isAvailable = true) :
    (service.create selection now).1 = some (.error (.repository .conflict)) ↔
      service.Applied selection := by
  have selected := selectedOption_of_available found available
  have taken : service.repository.isTaken selection = true ↔ service.Applied selection :=
    Repository.isTaken_iff
  rw [create_of_selected selected reached, ← taken]
  split
  · rename_i twice
    simp [twice]
  · rename_i once
    cases service.repository.nextId? <;> simp [once]

theorem creates (sound : service.repository.poisoned = false) (selection : NewApplicationChoice)
    (now : Instant) : service.Creates selection now where
  fresh choice created id kept found := by
    obtain ⟨new, next, rfl, -⟩ := create_eq_ok created
    exact Repository.lt_of_nextId? next found
  records choice created := by
    obtain ⟨new, -, rfl, -⟩ := create_eq_ok created
    exact ⟨rfl, ApplicationChoice.records_newRecord _ _ _⟩
  stored choice created := by
    refine ⟨choice?_of_created created, fun other different => ?_⟩
    obtain ⟨_, -, -, kept⟩ := create_eq_ok created
    rw [kept]
    exact Repository.choice?_put_of_ne different
  refused error answers := create_eq_error answers
  cut stopped := by
    obtain ⟨-, full, same⟩ := create_eq_none stopped
    refine ⟨full, fun id => ?_⟩
    rw [same]
    rfl
  conflict option works found available :=
    conflict_iff ((Repository.reach_of_sound sound).trans works) found available

theorem oncePerOption_run (keyed : service.repository.Keyed)
    (once : service.repository.OncePerOption) (requests : List Request) :
    (service.run requests).repository.OncePerOption := by
  have both : (service.run requests).repository.Keyed ∧
      (service.run requests).repository.OncePerOption := by
    refine run_induction (fun now => now.repository.Keyed ∧ now.repository.OncePerOption)
      ⟨keyed, once⟩ (fun before request holds => ?_) requests
    have effect := before.effect request
    exact ⟨effect.keyed holds.1, effect.oncePerOption holds.1 holds.2⟩
  exact both.2

theorem Effect.hasRoom {request : Request} {reply : Reply ApplicationChoice}
    {after : ApplicationService} {count : Nat} (effect : Effect service request reply after)
    (keyed : service.repository.Keyed)
    (room : service.repository.HasRoom (count + 1)) : after.repository.HasRoom count := by
  have less : (service.during request).repository.HasRoom count :=
    ⟨room.lessen.short, room.lessen.below⟩
  cases effect with
  | refused error => exact less
  | cut free full => exact absurd room.hasIds full
  | created selection new asked free next => exact less.put (room.nextId?_lt next)
  | sent id choice asked kept clear =>
    have own : choice.id = id := keyed kept
    exact less.put (own ▸ room.lessen.below kept)

theorem idsSuffice_of_hasRoom {requests : List Request} (keyed : service.repository.Keyed)
    (room : service.repository.HasRoom requests.length) : service.IdsSuffice requests := by
  induction requests generalizing service with
  | nil => trivial
  | cons request later ih =>
    have effect := service.effect request
    have answered : (service.answer request).1 ≠ none := effect.answered room.hasIds
    exact ⟨answered, ih (effect.keyed keyed) (effect.hasRoom keyed room)⟩

theorem continues_run {requests : List Request} (keyed : service.repository.Keyed) {id : UInt64}
    {choice : ApplicationChoice} (kept : service.repository.choice? id = some choice) :
    ∃ now, (service.run requests).repository.choice? id = some now ∧ choice.Continues now := by
  refine choice?_run_induction choice.Continues keyed ?_ kept (.refl choice)
  intro before request record samePolicy found continued clear
  exact continued.trans (continues_submitted record request.now)

/-- No record is lost or doubled, whatever is asked with whatever success, as long as no create is
    cut short for want of an id. A create that comes next may find any catalog and any calls down. -/
theorem records_neither_lost_nor_doubled (choices : List ApplicationChoice)
    (forms : List ApplicationForm) (catalog : Catalog) (policy : ApplicationPolicy)
    {requests : List Request}
    (suffice : (opened choices forms catalog policy).IdsSuffice requests) :
    let start := opened choices forms catalog policy
    let service := start.run requests
    service.repository.Keyed ∧
    (∀ id choice, start.repository.choice? id = some choice →
      ∃ now, service.repository.choice? id = some now ∧ choice.Continues now) ∧
    (∀ request selection, (service.during request).Creates selection request.now) ∧
    (start.repository.OncePerOption → service.repository.OncePerOption) := by
  intro start service
  have keyed : start.repository.Keyed := keyed_opened choices forms catalog policy
  have sound : service.repository.poisoned = false := poisoned_run suffice
  refine ⟨keyed_run keyed requests, fun id choice kept => ?_, fun request selection => ?_,
    fun once => ?_⟩
  · exact continues_run keyed kept
  · have during : (service.during request).repository.poisoned = false := sound
    exact creates during selection request.now
  · exact oncePerOption_run keyed once requests

theorem records_neither_lost_nor_doubled_drafts :
    let start := drafted [(3, 77), (8, 88)]
    let requests := [atNoon (.submit 3)]
    let service := (start.run requests).during (atNoon (.create (selectionOf 99)))
    start.IdsSuffice requests ∧
    (∃ now, (start.run requests).repository.choice? 3 = some now ∧ (draft 3 77).Continues now) ∧
    (service.create (selectionOf 99) noon).1 = some (.ok (draft 9 99)) ∧
    service.Creates (selectionOf 99) noon := by
  intro start requests service
  have suffice : start.IdsSuffice requests := by
    refine idsSuffice_of_hasRoom (keyed_opened _ _ _ _) (Repository.hasRoom_seed ?_ ?_ _)
    · decide
    · decide
  have first : start.repository.choice? 3 = some (draft 3 77) := by decide +kernel
  have created : (service.create (selectionOf 99) noon).1 = some (.ok (draft 9 99)) := by decide +kernel
  obtain ⟨-, continues, creates, -⟩ := records_neither_lost_nor_doubled
    [draft 3 77, draft 8 88] [⟨77, FormSection.all⟩, ⟨99, FormSection.all⟩] openCourse midCycle
    suffice
  exact ⟨suffice, continues 3 _ first, created, creates (atNoon _) _⟩

end Admissions.ApplicationService
