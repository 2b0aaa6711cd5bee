import Admissions.Proofs.Applications.Service

namespace Admissions

open Calendar (Instant)

namespace ApplicationChoice

structure Records (choice : ApplicationChoice) (selection : NewApplicationChoice) : Prop where
  form : choice.applicationFormId = selection.applicationFormId
  provider : choice.providerId = selection.providerId
  course : choice.courseId = selection.courseId
  option : choice.courseOptionId = selection.courseOptionId
  year : choice.recruitmentCycleYear = selection.recruitmentCycleYear

theorem records_newRecord (id : UInt64) (selection : NewApplicationChoice) (now : Instant) :
    (Repository.newRecord id selection now).Records selection := ⟨rfl, rfl, rfl, rfl, rfl⟩

/-- Nothing but the status, the time of sending and that of the last change may be new. -/
def Continues (before now : ApplicationChoice) : Prop :=
  now = { before with
    status := now.status, sentToProviderAt := now.sentToProviderAt, updatedAt := now.updatedAt }

theorem Continues.refl (choice : ApplicationChoice) : choice.Continues choice := rfl

theorem Continues.trans {first second third : ApplicationChoice}
    (earlier : first.Continues second) (later : second.Continues third) :
    first.Continues third := by
  unfold Continues at earlier later ⊢
  rw [later, earlier]

theorem Continues.records {before now : ApplicationChoice} {selection : NewApplicationChoice}
    (continues : before.Continues now) (records : before.Records selection) :
    now.Records selection := by
  unfold Continues at continues
  rw [continues]
  exact ⟨records.form, records.provider, records.course, records.option, records.year⟩

end ApplicationChoice

namespace ApplicationService

theorem continues_submitted (choice : ApplicationChoice) (now : Instant) :
    choice.Continues (submitted choice now) := rfl

def opened (choices : List ApplicationChoice) (forms : List ApplicationForm) (catalog : Catalog)
    (policy : ApplicationPolicy) : ApplicationService :=
  ⟨.seed choices forms, catalog, policy⟩

inductive Demand where
  | create (selection : NewApplicationChoice)
  | submit (id : UInt64)

/-- A demand at some time, with the catalog and the failing calls of the repository as they are
    then. -/
structure Request where
  demand : Demand
  now : Instant
  catalog : Catalog
  outage : Outage Repository.Call

section

variable (service : ApplicationService)

def during (request : Request) : ApplicationService :=
  ⟨{ service.repository with outage := request.outage }, request.catalog, service.policy⟩

def answer (request : Request) : Reply ApplicationChoice × ApplicationService :=
  match request.demand with
  | .create selection => (service.during request).create selection request.now
  | .submit id =>
    let (result, after) := (service.during request).submit id request.now
    (some result, after)

def after (request : Request) : ApplicationService := (service.answer request).2

def run (requests : List Request) : ApplicationService := requests.foldl after service

/-- No create is cut short for want of an id. -/
def IdsSuffice (service : ApplicationService) : List Request → Prop
  | [] => True
  | request :: later =>
    (service.answer request).1 ≠ none ∧ IdsSuffice (service.after request) later

end

inductive Effect (service : ApplicationService) (request : Request) :
    Reply ApplicationChoice → ApplicationService → Prop where
  | refused (error : ServiceError BrokenReference) :
      Effect service request (some (.error error)) (service.during request)
  | cut (free : ∀ selection, request.demand = .create selection →
        service.repository.isTaken selection = false)
      (full : ¬service.repository.HasIds) :
      Effect service request none (service.during request).cutShort
  | created (selection : NewApplicationChoice) (new : UInt64)
      (asked : request.demand = .create selection)
      (free : service.repository.isTaken selection = false)
      (next : service.repository.nextId? = some new) :
      Effect service request (some (.ok (Repository.newRecord new selection request.now)))
        ((service.during request).keep (Repository.newRecord new selection request.now))
  | sent (id : UInt64) (choice : ApplicationChoice) (asked : request.demand = .submit id)
      (kept : service.repository.choice? id = some choice)
      (clear : (service.during request).submissionErrors id request.now = .ok none) :
      Effect service request (some (.ok (submitted choice request.now)))
        ((service.during request).keep (submitted choice request.now))

theorem effect (service : ApplicationService) (request : Request) :
    Effect service request (service.answer request).1 (service.after request) := by
  unfold after answer
  cases asked : request.demand with
  | create selection =>
    dsimp only
    rcases (service.during request).create_cases selection request.now with
      ⟨new, free, next, created⟩ | ⟨free, full, cut⟩ | ⟨error, refused⟩
    · rw [created]
      exact .created selection new asked free next
    · rw [cut]
      refine .cut (fun other demanded => ?_) (Repository.nextId?_eq_none_iff.mp full)
      obtain rfl := Demand.create.inj (asked.symm.trans demanded)
      exact free
    · rw [refused]
      exact .refused error
  | submit id =>
    dsimp only
    rcases (service.during request).submit_cases id request.now with
      ⟨choice, able, done⟩ | ⟨error, refused⟩
    · rw [done]
      obtain ⟨clear, found⟩ := submittable_eq_ok able
      have kept := choice?_of_get found
      exact .sent id choice asked kept clear
    · rw [refused]
      exact .refused error

namespace Effect

variable {service now : ApplicationService} {request : Request} {reply : Reply ApplicationChoice}
variable {id : UInt64} {choice : ApplicationChoice}

theorem policy (effect : Effect service request reply now) : now.policy = service.policy := by
  cases effect <;> rfl

theorem keyed (effect : Effect service request reply now) (keyed : service.repository.Keyed) :
    now.repository.Keyed := by
  cases effect with
  | refused error => exact keyed
  | cut free full => exact keyed
  | created selection new asked free next => exact Repository.Keyed.put keyed _
  | sent id choice asked kept clear => exact Repository.Keyed.put keyed _

theorem poisoned (effect : Effect service request reply now) (answered : reply ≠ none) :
    now.repository.poisoned = service.repository.poisoned := by
  cases effect with
  | cut free full => contradiction
  | refused error | created selection new asked free next | sent id choice asked kept clear => rfl

theorem answered (effect : Effect service request reply now) (hasIds : service.repository.HasIds) :
    reply ≠ none := by
  cases effect with
  | cut free full => contradiction
  | refused error | created selection new asked free next | sent id choice asked kept clear =>
    exact Option.some_ne_none _

theorem oncePerOption (effect : Effect service request reply now)
    (keyed : service.repository.Keyed) (once : service.repository.OncePerOption) :
    now.repository.OncePerOption := by
  cases effect with
  | refused error => exact once
  | cut free full => exact once
  | created selection new asked free next =>
    refine Repository.OncePerOption.put once fun id kept found sameForm sameOption => ?_
    have taken : service.repository.isTaken selection = true :=
      Repository.isTaken_iff.mpr ⟨id, kept, found, sameForm, sameOption⟩
    rw [free] at taken
    contradiction
  | sent id choice asked kept clear =>
    refine Repository.OncePerOption.put once fun other found present sameForm sameOption => ?_
    exact (once present kept sameForm sameOption).trans (keyed kept).symm

theorem kept_or_sent (effect : Effect service request reply now)
    (keyed : service.repository.Keyed) (kept : service.repository.choice? id = some choice) :
    now.repository.choice? id = some choice ∨
      (service.during request).submissionErrors id request.now = .ok none ∧
        now.repository.choice? id = some (submitted choice request.now) := by
  cases effect with
  | refused error => exact .inl kept
  | cut free full => exact .inl kept
  | created selection new asked free next =>
    have before : id < new := Repository.lt_of_nextId? next kept
    have different : id ≠ new := UInt64.ne_of_lt before
    exact .inl ((Repository.choice?_put_of_ne different).trans kept)
  | sent other record asked present clear =>
    by_cases own : id = record.id
    · obtain rfl : id = other := own.trans (keyed present)
      obtain rfl := Option.some.inj (kept.symm.trans present)
      subst own
      exact .inr ⟨clear, Repository.choice?_put_self _ _⟩
    · have different : id ≠ (submitted record request.now).id := own
      exact .inl ((Repository.choice?_put_of_ne different).trans kept)

theorem exists_of_sent {choice : ApplicationChoice}
    (effect : Effect service request (some (.ok choice)) now)
    (keyed : service.repository.Keyed) (asked : request.demand = .submit id) :
    ∃ before, service.repository.choice? id = some before ∧
      (service.during request).submissionErrors id request.now = .ok none ∧
      choice = submitted before request.now ∧ now.repository.choice? id = some choice := by
  cases effect with
  | created selection new created free next =>
    rw [asked] at created
    contradiction
  | sent other before demanded kept clear =>
    obtain rfl : id = other := Demand.submit.inj (asked.symm.trans demanded)
    have own : before.id = id := keyed kept
    subst own
    exact ⟨before, kept, clear, rfl, Repository.choice?_put_self _ _⟩

end Effect

variable {service : ApplicationService} {id : UInt64} {choice : ApplicationChoice}

theorem run_induction (holds : ApplicationService → Prop) (start : holds service)
    (keeps : ∀ before request, holds before → holds (before.after request))
    (requests : List Request) : holds (service.run requests) := by
  induction requests generalizing service with
  | nil => exact start
  | cons request later ih => exact ih (keeps service request start)

theorem keyed_run (keyed : service.repository.Keyed) (requests : List Request) :
    (service.run requests).repository.Keyed :=
  run_induction (·.repository.Keyed) keyed
    (fun before request => (before.effect request).keyed) requests

theorem policy_run (service : ApplicationService) (requests : List Request) :
    (service.run requests).policy = service.policy :=
  run_induction (·.policy = service.policy) rfl
    (fun before request same => (before.effect request).policy.trans same) requests

theorem poisoned_run {requests : List Request} (suffice : service.IdsSuffice requests) :
    (service.run requests).repository.poisoned = service.repository.poisoned := by
  induction requests generalizing service with
  | nil => rfl
  | cons request later ih =>
    obtain ⟨answered, rest⟩ := suffice
    exact (ih rest).trans ((service.effect request).poisoned answered)

theorem keyed_opened (choices : List ApplicationChoice) (forms : List ApplicationForm)
    (catalog : Catalog) (policy : ApplicationPolicy) :
    (opened choices forms catalog policy).repository.Keyed :=
  Repository.keyed_seed choices forms

/-- A property of records that sending keeps, once a record has it, holds under the id for good. -/
theorem choice?_run_induction (holds : ApplicationChoice → Prop) {requests : List Request}
    (keyed : service.repository.Keyed)
    (sends : ∀ (before : ApplicationService) (request : Request) (choice : ApplicationChoice),
      before.policy = service.policy → before.repository.choice? id = some choice → holds choice →
      (before.during request).submissionErrors id request.now = .ok none →
      holds (submitted choice request.now))
    (kept : service.repository.choice? id = some choice) (start : holds choice) :
    ∃ now, (service.run requests).repository.choice? id = some now ∧ holds now := by
  induction requests generalizing service choice with
  | nil => exact ⟨choice, kept, start⟩
  | cons request later ih =>
    have effect := service.effect request
    -- The policy is that of the start throughout, so what is known of sending carries over.
    have sendsLater := fun before request choice (same : before.policy = _) =>
      sends before request choice (same.trans effect.policy)
    rcases effect.kept_or_sent keyed kept with same | ⟨clear, sent⟩
    · exact ih (effect.keyed keyed) sendsLater same start
    · exact ih (effect.keyed keyed) sendsLater sent
        (sends service request choice rfl kept start clear)

def noon : Instant := ⟨⟨19732, by decide⟩, 43200, 0⟩

def openCourse : Catalog where
  providers := [⟨1, "1N1", "Hill College"⟩]
  courses := [⟨5, 1, "C005", "Physics", .secondary, [], 2024, ⟨19640, by decide⟩, true⟩]
  options := [⟨50, 5, 100, "Main Site", .fullTime, .vacancies, true⟩]
  outage := .none

def midCycle : ApplicationPolicy where
  timetable := ⟨⟨19640, by decide⟩, ⟨19983, by decide⟩⟩
  currentCycleYear := 2024
  warningDays := 5
  rules := .standard
  ladder := .standard

def selectionOf (formId : UInt64) : NewApplicationChoice := ⟨formId, 1, 5, 50, 2024⟩

def draft (id formId : UInt64) : ApplicationChoice :=
  Repository.newRecord id (selectionOf formId) noon

def atNoon (demand : Demand) : Request := ⟨demand, noon, openCourse, .none⟩

def drafted (drafts : List (UInt64 × UInt64)) : ApplicationService :=
  opened (drafts.map fun (id, formId) => draft id formId)
    [⟨77, FormSection.all⟩, ⟨99, FormSection.all⟩] openCourse midCycle

end ApplicationService

end Admissions
