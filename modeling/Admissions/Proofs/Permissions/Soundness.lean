import Admissions.Proofs.Permissions.Editing
import Admissions.Proofs.Permissions.Reach
import Admissions.Proofs.Text.Trim
import Admissions.Proofs.Wizard.Desk

namespace Admissions.Permissions

open Json (Value Object)
open Wizard (Desk Failure Handle Kept Move Session Target ValidationErrors Walked)

variable {answers : Answers} {context : Context} {id : UInt64} {ticks : Ticks}

theorem OrganisationType.name_injective {one other : OrganisationType}
    (same : one.name = other.name) : one = other := by
  cases one <;> cases other <;> first | rfl | exact absurd same (by decide)

theorem OrganisationType.ofTick?_eq_some_iff {tick : String} {organisation : OrganisationType} :
    ofTick? tick = some organisation ↔ Text.trim tick = organisation.name := by
  constructor
  · intro found
    have named := List.find?_some found
    exact (beq_iff_eq.mp named).symm
  · intro named
    have listed : organisation ∈ OrganisationType.all := by cases organisation <;> decide
    have finds : (ofTick? tick).isSome = true :=
      List.find?_isSome.mpr ⟨organisation, listed, by simp [named]⟩
    obtain ⟨found, finds⟩ := Option.isSome_iff_exists.mp finds
    have matching := List.find?_some finds
    have same : found.name = organisation.name := (beq_iff_eq.mp matching).trans named
    rw [finds, name_injective same]

def chosen (ticks : Ticks) (permission : Permission) : List String :=
  ((ticks.get? permission.key).getD []).filter Text.isPresent

def Ticked (ticks : Ticks) (permission : Permission) (organisation : OrganisationType) : Prop :=
  ∃ tick ∈ chosen ticks permission, Text.trim tick = organisation.name

theorem isEmpty_permissionErrors : (permissionErrors ticks).isEmpty = true ↔
    ∀ permission, chosen ticks permission ≠ [] ∧
      ∀ tick ∈ chosen ticks permission, ∃ organisation : OrganisationType,
        Text.trim tick = organisation.name := by
  have each : ∀ (errors : ValidationErrors), ∀ permission ∈ Permission.all,
      (errors.addIf ((chosen ticks permission).isEmpty || (chosen ticks permission).any fun tick =>
        (OrganisationType.ofTick? tick).isNone) permission.key
        ("Select which organisations can " ++ permission.phrase)).isEmpty = true ↔
      errors.isEmpty = true ∧ chosen ticks permission ≠ [] ∧
        ∀ tick ∈ chosen ticks permission, ∃ organisation : OrganisationType,
          Text.trim tick = organisation.name := by
    intro errors permission _
    rw [ValidationErrors.isEmpty_addIf, Bool.and_eq_true, Bool.not_eq_true', and_comm]
    simp only [Bool.or_eq_false_iff, List.isEmpty_eq_false_iff, List.any_eq_false,
      Bool.not_eq_true, Option.isNone_eq_false_iff, Option.isSome_iff_exists,
      OrganisationType.ofTick?_eq_some_iff]
  refine (ValidationErrors.isEmpty_foldl _ each).trans ?_
  constructor
  · rintro ⟨-, fine⟩ permission
    exact fine permission (by cases permission <;> decide)
  · intro fine
    exact ⟨rfl, fun permission _ => fine permission⟩

theorem Setup.mem_inOrder {organisations : List OrganisationType}
    {organisation : OrganisationType} :
    organisation ∈ Setup.inOrder organisations ↔ organisation ∈ organisations := by
  cases organisation <;> simp [Setup.inOrder, OrganisationType.all]

theorem Setup.nodup_inOrder (organisations : List OrganisationType) :
    (Setup.inOrder organisations).Nodup := List.Nodup.filter _ (by decide)

theorem lookup_agreed (ticks : Ticks) (permission : Permission) :
    (agreed ticks).lookup permission = some (Setup.inOrder
      (((ticks.get? permission.key).getD []).filterMap OrganisationType.ofTick?)) := by
  cases permission <;> rfl

/-- A blank value names no organisation, so that leaving it out makes no difference. -/
theorem mem_agreed_iff {permission : Permission} {organisation : OrganisationType} :
    organisation ∈ Setup.inOrder
        (((ticks.get? permission.key).getD []).filterMap OrganisationType.ofTick?) ↔
      Ticked ticks permission organisation := by
  rw [Setup.mem_inOrder, List.mem_filterMap]
  constructor
  · rintro ⟨tick, given, named⟩
    have named := OrganisationType.ofTick?_eq_some_iff.mp named
    have present : Text.isPresent tick = true := by
      cases present : Text.isPresent tick with
      | true => rfl
      | false =>
        rw [Text.trim_eq_empty_iff.mpr present] at named
        cases organisation <;> exact absurd named (by decide)
    exact ⟨tick, List.mem_filter.mpr ⟨given, present⟩, named⟩
  · rintro ⟨tick, given, named⟩
    have given := (List.mem_filter.mp given).1
    exact ⟨tick, given, OrganisationType.ofTick?_eq_some_iff.mpr named⟩

structure Agrees (ticks : Ticks) (setup : Setup) : Prop where
  all : setup.permissions.map Prod.fst = Permission.all
  named : ∀ permission, ∀ tick ∈ chosen ticks permission,
    ∃ organisation : OrganisationType, Text.trim tick = organisation.name
  granted : ∀ permission, ∃ organisations, setup.permissions.lookup permission = some organisations ∧
    organisations ≠ [] ∧ organisations.Nodup ∧
    ∀ organisation, organisation ∈ organisations ↔ Ticked ticks permission organisation
  allows : ∀ permission organisation,
    setup.allows permission organisation = true ↔ Ticked ticks permission organisation

theorem agrees_setup (passes : wizard.Passes (Step.permissions id) answers context) :
    ∃ ticks, answers.ticks? id = some ticks ∧ Agrees ticks (answers.setup id) := by
  obtain ⟨ticks, given, valid⟩ := ticks_of_passes passes
  have fine := isEmpty_permissionErrors.mp valid
  have setup : (answers.setup id).permissions = agreed ticks := by
    simp [Answers.setup, given]
  refine ⟨ticks, given, ?_, fun permission => (fine permission).2, fun permission => ?_,
    fun permission organisation => ?_⟩
  · rw [setup]
    rfl
  · rw [setup]
    refine ⟨_, lookup_agreed ticks permission, ?_, Setup.nodup_inOrder _, fun _ => mem_agreed_iff⟩
    obtain ⟨tick, given⟩ := List.exists_mem_of_ne_nil _ (fine permission).1
    obtain ⟨organisation, named⟩ := (fine permission).2 tick given
    exact List.ne_nil_of_mem (mem_agreed_iff.mpr ⟨tick, given, named⟩)
  · rw [Setup.allows, setup, lookup_agreed]
    simpa using mem_agreed_iff

def Sound (context : Context) (step : Step) (answers : Answers) : Prop :=
  step ≠ .providerRelationships → Selected answers context

theorem Selected.congr {now : Answers} (selected : Selected answers context)
    (same : now.relationships = answers.relationships) : Selected now context := by
  obtain ⟨some, offered, nodup⟩ := selected
  exact ⟨same ▸ some, same ▸ offered, same ▸ nodup⟩

theorem sound_kept (base : Context) : Kept wizard (· = base) (Sound base) where
  fresh _ _ later := absurd rfl later
  visited step answers context requested same _ walked later := by
    obtain rfl := same
    exact passes_providerRelationships_iff.mp (walked.first_passes later)
  advanced handle params answers target _ sound submitted later :=
    (sound later).congr (relationships_of_submission later submitted)

theorem passes_of_completed {step : Step} (context : Context)
    (complete : step.completed answers = true) :
    step = .check ∧ ∀ id ∈ answers.relationships,
      wizard.Passes (Step.permissions id) answers context := by
  obtain ⟨page, ready⟩ : step = .check ∧ answers.nextNeedingSetup = none := by
    simpa [Step.completed] using complete
  refine ⟨page, fun id member => needsSetup_eq_false_iff.mp ?_⟩
  have done := List.find?_eq_none.mp ready id member
  exact Bool.eq_false_iff.mpr done

/-- The setups are those of a selection that has been checked, each with what is ticked for it. -/
structure Complete (answers : Answers) (context : Context) (setups : List Setup) : Prop where
  order : setups.map (·.relationship) = answers.relationships
  nonempty : setups ≠ []
  distinct : (setups.map (·.relationship)).Nodup
  offered : ∀ setup ∈ setups,
    ∃ relationship ∈ context.relationships, relationship.id = setup.relationship
  agreed : ∀ setup ∈ setups, ∃ ticks, answers.ticks? setup.relationship = some ticks ∧
    Agrees ticks setup

theorem complete_of_passes (selected : Selected answers context)
    (permissions : ∀ id ∈ answers.relationships,
      wizard.Passes (Step.permissions id) answers context) :
    Complete answers context (answers.relationships.map answers.setup) := by
  have order : (answers.relationships.map answers.setup).map (·.relationship) =
      answers.relationships := by
    simp [Function.comp_def, Answers.setup]
  have distinct : ((answers.relationships.map answers.setup).map (·.relationship)).Nodup := by
    rw [order]
    exact selected.nodup
  refine ⟨order, by simpa using selected.some, distinct, ?_, ?_⟩
  · intro setup member
    obtain ⟨id, chosen, rfl⟩ := List.mem_map.mp member
    simpa [Context.offers, Answers.setup] using selected.offered id chosen
  · intro setup member
    obtain ⟨id, chosen, rfl⟩ := List.mem_map.mp member
    exact agrees_setup (permissions id chosen)

theorem finished_cases {handle : Handle wizard}
    (sound : Sound handle.context handle.step handle.answers) :
    Session.finished handle = .ok none ∨
    ∃ setups, Session.finished handle = .ok (some setups) ∧
      Complete handle.answers handle.context setups := by
  have checked : handle.errors = .ok (Step.validate handle.step handle.answers handle.context) :=
    rfl
  have completed : handle.isComplete = .ok (Step.completed handle.step handle.answers) := rfl
  unfold Session.finished
  rw [checked, completed]
  simp only [bind, Except.bind]
  cases (Step.validate handle.step handle.answers handle.context).isEmpty with
  | false => exact .inl rfl
  | true =>
    cases complete : Step.completed handle.step handle.answers with
    | false => exact .inl rfl
    | true =>
      obtain ⟨page, permissions⟩ := passes_of_completed handle.context complete
      have later : handle.step ≠ Step.providerRelationships := by
        rw [page]
        exact Step.noConfusion
      have selected := sound later
      refine .inr ⟨_, ?_, complete_of_passes selected permissions⟩
      have makes := materialize_eq_ok permissions selected.offered
      exact congrArg (fun made => made.bind fun setups => .ok (some setups)) makes

/-- A save fails only when the store does, and the setups that it makes are complete. -/
theorem created_setups_complete (base : Context) {moves : List (Move wizard)}
    (fits : ∀ move ∈ moves, move.Admits (· = base)) {handle : Handle wizard}
    (member : handle ∈ (Desk.run moves).handles) :
    let saved := (Session.save ⟨(Desk.run moves).store, handle⟩).1
    (∀ failure, saved = .error failure → ∃ error, failure = .store error) ∧
    ∀ setups, saved = .ok (.created setups) → Complete handle.answers base setups := by
  intro saved
  obtain ⟨same, sound⟩ := Wizard.held_of_run (sound_kept base) wizard_faithful fits member
  subst same
  have cases := finished_cases sound
  constructor
  · intro failure failed
    rcases Session.finished_of_save_error _ failed with refused | ⟨-, error, -, -, store⟩
    · rcases cases with skipped | ⟨setups, made, -⟩
      · simp [skipped] at refused
      · simp [made] at refused
    · exact ⟨error, store⟩
  · intro setups created
    have finished := Session.finished_of_created _ created
    rcases cases with skipped | ⟨made, makes, complete⟩
    · simp [skipped] at finished
    · have same : made = setups := by simpa [makes] using finished
      exact same ▸ complete

instance : DecidableEq wizard.Output := inferInstanceAs (DecidableEq (List Setup))

instance : DecidableEq wizard.Violation := inferInstanceAs (DecidableEq Violation)

def partners : Context :=
  ⟨[⟨7, "Coast SCITT", "Hill College"⟩, ⟨12, "Coast SCITT", "Vale College"⟩]⟩

def sharedSetup : List (Move wizard) :=
  let ticks (decisions view : List Value) : Object :=
    [("make_decisions", .array decisions), ("view_diversity_information", .array view),
      ("view_safeguarding_information", .array view)]
  [.openAnother ⟨"k"⟩ partners .start,
    .act 0 (.advance [("provider_relationships", .array [.nat 12, .nat 7, .nat 12])]),
    .act 0 (.visit (Step.permissions 12)),
    .act 0 (.advance (ticks [.string " ratifying_provider "]
      [.string "", .string "ratifying_provider", .string "training_provider"])),
    .openAnother ⟨"k"⟩ partners .resume, .act 1 (.visit (Step.permissions 7)),
    .act 1 (.advance (ticks [.string "training_provider"] [.string "training_provider"])),
    .act 1 (.visit Step.check)]

def sharedSetups : List Setup :=
  [⟨12, [(.makeDecisions, [.ratifyingProvider]),
      (.viewSafeguardingInformation, [.trainingProvider, .ratifyingProvider]),
      (.viewDiversityInformation, [.trainingProvider, .ratifyingProvider])]⟩,
    ⟨7, [(.makeDecisions, [.trainingProvider]),
      (.viewSafeguardingInformation, [.trainingProvider]),
      (.viewDiversityInformation, [.trainingProvider])]⟩]

theorem created_setups_complete_shared :
    (∀ move ∈ sharedSetup, move.Admits (· = partners)) ∧
    ∃ handle ∈ (Desk.run sharedSetup).handles,
      (Session.save ⟨(Desk.run sharedSetup).store, handle⟩).1 = .ok (.created sharedSetups) ∧
      Complete handle.answers partners sharedSetups := by
  have fits : ∀ move ∈ sharedSetup, move.Admits (· = partners) := by
    simp [sharedSetup, Move.Admits, Wizard.Event.Admits]
    rfl
  have created : ∃ handle ∈ (Desk.run sharedSetup).handles,
      (Session.save ⟨(Desk.run sharedSetup).store, handle⟩).1 =
        .ok (.created sharedSetups) := by decide +kernel
  obtain ⟨handle, member, saved⟩ := created
  exact ⟨fits, handle, member, saved,
    (created_setups_complete partners fits member).2 sharedSetups saved⟩

end Admissions.Permissions
