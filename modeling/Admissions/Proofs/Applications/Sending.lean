import Admissions.Proofs.Applications.Requests
import Mathlib.Control.Monad.Basic

namespace Admissions.ApplicationService

open Calendar (Instant)

variable {service : ApplicationService} {id : UInt64} {choice : ApplicationChoice}

structure Settled (service : ApplicationService) (id : UInt64) (choice : ApplicationChoice) :
    Prop where
  stands : service.repository.choice? id = some choice
  refused : ∀ request : Request, request.demand = .submit id →
    ∀ sent, (service.answer request).1 ≠ some (.ok sent)

theorem unsubmitted_of_answer {request : Request} {sent : ApplicationChoice}
    (keyed : service.repository.Keyed) (blocks : .alreadySubmitted ∈ service.policy.rules.checks)
    (asked : request.demand = .submit id)
    (accepted : (service.answer request).1 = some (.ok sent)) :
    ∃ before, service.repository.choice? id = some before ∧ before.status = .unsubmitted ∧
      sent = submitted before request.now ∧
      (service.after request).repository.choice? id = some sent := by
  have effect := service.effect request
  rw [accepted] at effect
  obtain ⟨before, kept, clear, same, stored⟩ := effect.exists_of_sent keyed asked
  exact ⟨before, kept, unsubmitted_of_clear clear blocks kept, same, stored⟩

theorem settled_of_sent (keyed : service.repository.Keyed)
    (blocks : .alreadySubmitted ∈ service.policy.rules.checks)
    (kept : service.repository.choice? id = some choice) (past : choice.status ≠ .unsubmitted) :
    service.Settled id choice where
  stands := kept
  refused request asked sent accepted := by
    obtain ⟨before, present, unsubmitted, -⟩ := unsubmitted_of_answer keyed blocks asked accepted
    obtain rfl := Option.some.inj (kept.symm.trans present)
    exact past unsubmitted

theorem settled_run (keyed : service.repository.Keyed)
    (blocks : .alreadySubmitted ∈ service.policy.rules.checks)
    (kept : service.repository.choice? id = some choice) (past : choice.status ≠ .unsubmitted)
    (later : List Request) : (service.run later).Settled id choice := by
  have stands : ∃ now, (service.run later).repository.choice? id = some now ∧ now = choice := by
    -- Only a submit that no check blocks could change it.
    refine choice?_run_induction (· = choice) keyed ?_ kept rfl
    rintro before request _ samePolicy found rfl clear
    exact absurd (unsubmitted_of_clear clear (samePolicy ▸ blocks) found) past
  obtain ⟨now, present, rfl⟩ := stands
  refine settled_of_sent (keyed_run keyed later) ?_ present past
  rwa [policy_run]

/-- An id is submitted at most once, when its record is unsubmitted. From then on the record stays as
    it is, as does every record that is past being unsubmitted. -/
theorem sent_at_most_once (choices : List ApplicationChoice) (forms : List ApplicationForm)
    (catalog : Catalog) {policy : ApplicationPolicy}
    (blocks : .alreadySubmitted ∈ policy.rules.checks) (earlier : List Request) (id : UInt64) :
    let service := (opened choices forms catalog policy).run earlier
    (∀ request sent, request.demand = .submit id → (service.answer request).1 = some (.ok sent) →
      (∃ before, service.repository.choice? id = some before ∧ before.status = .unsubmitted) ∧
      sent.sentToProviderAt = some request.now ∧
      ∀ later, ((service.after request).run later).Settled id sent) ∧
    ∀ choice, service.repository.choice? id = some choice → choice.status ≠ .unsubmitted →
      ∀ later, (service.run later).Settled id choice := by
  intro service
  have keyed : service.repository.Keyed :=
    keyed_run (keyed_opened choices forms catalog policy) earlier
  have kept : service.policy = policy := policy_run _ earlier
  have stays : .alreadySubmitted ∈ service.policy.rules.checks := kept ▸ blocks
  constructor
  · intro request sent asked accepted
    obtain ⟨before, present, unsubmitted, rfl, stored⟩ :=
      unsubmitted_of_answer keyed stays asked accepted
    have effect := service.effect request
    refine ⟨⟨before, present, unsubmitted⟩, rfl, fun later => ?_⟩
    have staysAfter : .alreadySubmitted ∈ (service.after request).policy.rules.checks :=
      effect.policy ▸ stays
    have past : (submitted before request.now).status ≠ .unsubmitted := by simp [submitted]
    exact settled_run (effect.keyed keyed) staysAfter stored past later
  · intro choice present past later
    exact settled_run keyed stays present past later

/-- The new record comes after the last id, so that the create is cut short. -/
theorem sent_at_most_once_full :
    let service := drafted [(0, 77), (Repository.lastId, 88)]
    let sent := submitted (draft 0 77) noon
    let later := [atNoon (.create (selectionOf 99)), atNoon (.submit 0)]
    .alreadySubmitted ∈ midCycle.rules.checks ∧
    (service.answer (atNoon (.submit 0))).1 = some (.ok sent) ∧
    ((service.after (atNoon (.submit 0))).answer (atNoon (.create (selectionOf 99)))).1 = none ∧
    ((service.after (atNoon (.submit 0))).run later).Settled 0 sent := by
  intro service sent later
  have blocks : .alreadySubmitted ∈ midCycle.rules.checks := by decide
  have accepted : (service.answer (atNoon (.submit 0))).1 = some (.ok sent) := by decide +kernel
  obtain ⟨once, -⟩ := sent_at_most_once [draft 0 77, draft Repository.lastId 88]
    [⟨77, FormSection.all⟩, ⟨99, FormSection.all⟩] openCourse blocks [] 0
  obtain ⟨-, -, settles⟩ := once (atNoon (.submit 0)) sent rfl accepted
  exact ⟨blocks, accepted, by decide +kernel, settles later⟩

end Admissions.ApplicationService
