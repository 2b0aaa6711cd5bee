import Admissions.Proofs.Permissions.Soundness

namespace Admissions.Permissions

open Json (Value Object)
open Wizard (Desk Handle Move Session Target Visit WalkedIn)

variable {answers : Answers} {context : Context} {id : UInt64}

def Answers.ready (answers : Answers) : Nat := answers.relationships.findIdx answers.needsSetup

theorem nextNeedingSetup_eq : answers.nextNeedingSetup = answers.relationships[answers.ready]? :=
  List.find?_eq_getElem?_findIdx

theorem ready_le : answers.ready ≤ answers.relationships.length := List.findIdx_le_length

theorem passes_of_ready (member : id ∈ answers.relationships.take answers.ready) :
    wizard.Passes (Step.permissions id) answers context := by
  obtain ⟨index, inside, rfl⟩ := List.mem_take_iff_getElem.mp member
  have before : index < answers.ready := by omega
  have setUp : answers.needsSetup answers.relationships[index] = false :=
    List.not_of_lt_findIdx before
  exact needsSetup_eq_false_iff.mp setUp

/-- The pages before the one that the shortcut takes have nothing against the answers, so that the
    whole way leads there too. -/
theorem walkedIn_nextNeedingSetup (selected : Selected answers context) :
    WalkedIn wizard answers context (answers.ready + 2)
      (Step.pageOf answers.nextNeedingSetup) := by
  have place : answers.pages[answers.ready + 2]? = some (Step.pageOf answers.nextNeedingSetup) := by
    rw [pages_add_two, if_pos ready_le, nextNeedingSetup_eq]
  have passed : ∀ page ∈ answers.pages.take (answers.ready + 2),
      wizard.Passes page answers context :=
    (passed_iff ready_le).mpr
      ⟨passes_providerRelationships_iff.mpr selected, fun _ member => passes_of_ready member⟩
  exact walkedIn_iff.mpr ⟨place, passed⟩

theorem not_passes_of_needing (needing : answers.nextNeedingSetup = some id) :
    ¬wizard.Passes (Step.permissions id) answers context := by
  intro passes
  have needs : answers.needsSetup id = true := List.find?_some needing
  rw [needsSetup_eq_false_iff.mpr passes] at needs
  contradiction

theorem ends_of_needing (needing : answers.nextNeedingSetup = some id) :
    wizard.Ends answers context (Step.permissions id) := by
  refine .refused _ rfl (Bool.eq_false_iff.mpr fun valid => ?_)
  exact not_passes_of_needing needing ⟨_, rfl, valid⟩

theorem ready_lt_of_needing (needing : answers.nextNeedingSetup = some id) :
    answers.ready < answers.relationships.length := by
  rw [nextNeedingSetup_eq] at needing
  exact (List.getElem?_eq_some_iff.mp needing).1

def landing (page : Step) : Visit Step :=
  if page = .check then .show .check else .redirect page

section Visiting

variable {session : Session wizard}
  (selected : Selected session.handle.answers session.handle.context)

include selected

theorem visit_check_of_ready (near : Answers.ready session.handle.answers < 62) :
    (session.visit Step.check).1 =
      .ok (landing (Step.pageOf (Answers.nextNeedingSetup session.handle.answers))) := by
  have stands := walkedIn_nextNeedingSetup selected
  have inside : Answers.ready session.handle.answers + 2 < Handle.longestWalk := by
    have limit : Handle.longestWalk = 64 := rfl
    omega
  cases needing : Answers.nextNeedingSetup session.handle.answers with
  | none =>
    rw [needing] at stands
    exact (session.visit_eq_show_iff Step.check).mpr ⟨_, inside, stands⟩
  | some id =>
    rw [needing] at stands
    -- The check page comes after all that is selected, and the gap is one of those.
    have before := ready_lt_of_needing needing
    refine (session.visit_eq_redirect_iff Step.check _).mpr
      ⟨_, inside, stands, ends_of_needing needing, fun earlier reached stands' => ?_⟩
    have place := check_place (walkedIn_iff.mp stands').1
    omega

theorem visit_check_of_long (far : 62 ≤ Answers.ready session.handle.answers) :
    (session.visit Step.check).1 = .error (.endlessSteps wizard.name) := by
  have setUp : ∀ id ∈ (Answers.relationships session.handle.answers).take 62,
      wizard.Passes (Step.permissions id) session.handle.answers session.handle.context :=
    fun id member => passes_of_ready (List.take_subset_take_left _ far member)
  exact visit_check_endless_of_take (passes_providerRelationships_iff.mpr selected) setUp
    (Nat.le_trans far ready_le)

end Visiting

theorem selected_of_submission {handle : Handle wizard} {params : Object} {target : Target Step}
    (sound : Sound handle.context handle.step handle.answers)
    (accepted : handle.submission params = .ok (.accepted answers target)) :
    Selected answers handle.context := by
  by_cases first : handle.step = Step.providerRelationships
  · obtain ⟨_, _, _, passes, _⟩ := Wizard.submission_accepted accepted
    rw [first] at passes
    exact passes_providerRelationships_iff.mp passes
  · exact (sound first).congr (relationships_of_submission first accepted)

theorem nextAfterSubmit_of_checking {step : Step} (other : step ≠ .check)
    (checking : answers.checkingAnswers = true) :
    step.nextAfterSubmit answers = .step (Step.pageOf answers.nextNeedingSetup) := by
  simp [Step.nextAfterSubmit, checking, other]

theorem target_of_submission {handle : Handle wizard} {params : Object} {target : Step}
    (other : handle.step ≠ Step.check)
    (accepted : handle.submission params = .ok (.accepted answers (.step target)))
    (checking : answers.checkingAnswers = true) :
    target = Step.pageOf answers.nextNeedingSetup := by
  obtain ⟨_, _, _, _, following, leads, resolves⟩ := Wizard.submission_accepted accepted
  have shortcut : wizard.nextAfterSubmit handle.step answers handle.context =
      .ok (.step (Step.pageOf answers.nextNeedingSetup)) :=
    congrArg Except.ok (nextAfterSubmit_of_checking other checking)
  rw [shortcut] at leads
  obtain rfl := Except.ok.inj leads
  rw [Wizard.Definition.resolve_step_of_declared (declared_stepName _)] at resolves
  exact (Target.step.inj (Except.ok.inj resolves)).symm

/-- The page is the check page, and all that is selected is set up, or that of the first selected
    relationship that is not. -/
def FirstGap (answers : Answers) (context : Context) (page : Step) : Prop :=
  (page = .check ∧
    ∀ id ∈ answers.relationships, wizard.Passes (Step.permissions id) answers context) ∨
  ∃ before id later, answers.relationships = before ++ id :: later ∧ page = .permissions id ∧
    (∀ other ∈ before, wizard.Passes (Step.permissions other) answers context) ∧
    ¬wizard.Passes (Step.permissions id) answers context

theorem firstGap_nextNeedingSetup :
    FirstGap answers context (Step.pageOf answers.nextNeedingSetup) := by
  cases needing : answers.nextNeedingSetup with
  | none =>
    refine .inl ⟨rfl, fun id member => needsSetup_eq_false_iff.mp ?_⟩
    exact Bool.eq_false_iff.mpr (List.find?_eq_none.mp needing id member)
  | some id =>
    obtain ⟨-, before, later, split, setUp⟩ := List.find?_eq_some_iff_append.mp needing
    refine .inr ⟨before, id, later, split, rfl, fun other member => ?_,
      not_passes_of_needing needing⟩
    exact needsSetup_eq_false_iff.mp (by simpa using setUp other member)

/-- In every state of any number of handles, the page to which a submitted page leads while answers
    are checked is the first gap, and a visit to the check page leads there too, unless it gives
    up: it does where 62 relationships or more are set up before the gap. -/
theorem checking_leads_where_visit_does (base : Context) {moves : List (Move wizard)}
    (fits : ∀ move ∈ moves, move.Admits (· = base)) {handle : Handle wizard}
    (member : handle ∈ (Desk.run moves).handles) (other : handle.step ≠ Step.check)
    {params : Object} {target : Step} {after : Session wizard}
    (advanced : Session.advance ⟨(Desk.run moves).store, handle⟩ params =
      (.ok (.next (.step target)), after))
    (checking : Answers.checkingAnswers after.handle.answers = true) :
    let visited := (after.visit Step.check).1
    (∀ landed, visited = .ok landed → landed = landing target) ∧
    ((∃ landed, visited = .ok landed) ↔ Answers.ready after.handle.answers < 62) ∧
    FirstGap after.handle.answers base target := by
  intro visited
  obtain ⟨same, sound⟩ := Wizard.held_of_run (sound_kept base) wizard_faithful fits member
  subst same
  obtain ⟨answers, accepted, rfl⟩ := Session.advance_of_next _ advanced
  have selected : Selected answers handle.context := selected_of_submission sound accepted
  have leads : target = Step.pageOf answers.nextNeedingSetup :=
    target_of_submission other accepted checking
  have gap : FirstGap answers handle.context target := leads ▸ firstGap_nextNeedingSetup
  rcases Nat.lt_or_ge answers.ready 62 with near | far
  · have lands : visited = .ok (landing target) :=
      leads ▸ visit_check_of_ready selected near
    refine ⟨fun landed visits => ?_, iff_of_true ⟨_, lands⟩ near, gap⟩
    exact (Except.ok.inj (lands.symm.trans visits)).symm
  · have endless : visited = .error (.endlessSteps wizard.name) := visit_check_of_long selected far
    have fails : ¬∃ landed, visited = .ok landed := by simp [endless]
    refine ⟨fun landed visits => absurd ⟨landed, visits⟩ fails, ?_, gap⟩
    exact iff_of_false fails (Nat.not_lt_of_ge far)

def selectedPair : List (Move wizard) :=
  [.openAnother ⟨"k"⟩ partners .start,
    .act 0 (.advance [("provider_relationships", .list .uint64 [12, 7])]),
    .act 0 (.visit (Step.permissions 12))]

def checkedTicks : Object :=
  [("checking_answers", .bool true), ("make_decisions", .list .string ["ratifying_provider"]),
    ("view_diversity_information", .list .string ["training_provider"]),
    ("view_safeguarding_information", .list .string ["training_provider"])]

def pairChosen : Session wizard :=
  ⟨(Desk.run selectedPair).store,
    ⟨⟨"k"⟩, partners, Step.permissions 12, ⟨[12, 7], .empty, false⟩⟩⟩

theorem checking_leads_where_visit_does_pair :
    pairChosen.handle ∈ (Desk.run selectedPair).handles ∧
    (pairChosen.advance checkedTicks).1 = .ok (.next (.step (Step.permissions 7))) ∧
    ((pairChosen.advance checkedTicks).2.visit Step.check).1 =
      .ok (.redirect (Step.permissions 7)) ∧
    FirstGap (pairChosen.advance checkedTicks).2.handle.answers partners (.permissions 7) := by
  have fits : ∀ move ∈ selectedPair, move.Admits (· = partners) := by
    simp only [selectedPair, List.forall_mem_cons, List.not_mem_nil, false_implies, implies_true]
    exact ⟨rfl, trivial, trivial, trivial⟩
  have handles : (Desk.run selectedPair).handles = [pairChosen.handle] := rfl
  have member : pairChosen.handle ∈ (Desk.run selectedPair).handles := by simp [handles]
  have advanced : pairChosen.advance checkedTicks =
      (.ok (.next (.step (Step.permissions 7))), (pairChosen.advance checkedTicks).2) := rfl
  have other : pairChosen.handle.step ≠ Step.check := Step.noConfusion
  obtain ⟨lands, succeeds, gap⟩ := checking_leads_where_visit_does partners fits member other
    advanced rfl
  have ready : Answers.ready (pairChosen.advance checkedTicks).2.handle.answers = 1 := rfl
  obtain ⟨landed, visited⟩ := succeeds.mpr (by rw [ready]; decide)
  obtain rfl := lands landed visited
  exact ⟨member, rfl, visited, gap⟩

end Admissions.Permissions
