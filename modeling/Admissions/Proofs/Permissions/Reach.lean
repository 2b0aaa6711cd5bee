import Admissions.Proofs.Except
import Admissions.Proofs.Permissions.Way
import Mathlib.Data.List.Nodup

namespace Admissions.Permissions

open Wizard (Failure Handle Session WalkedIn)

variable {answers : Answers} {context : Context} {id : UInt64} {count : Nat}

theorem passes_permissions_iff :
    wizard.Passes (Step.permissions id) answers context ↔
      (permissionErrors ((answers.ticks? id).getD .empty)).isEmpty = true := by
  constructor
  · rintro ⟨errors, validated, valid⟩
    obtain rfl := Except.ok.inj validated
    exact valid
  · exact fun valid => ⟨_, rfl, valid⟩

theorem passes_info : wizard.Passes Step.info answers context := ⟨_, rfl, rfl⟩

theorem not_fails {step : wizard.Step} {failure : Failure Violation} :
    ¬wizard.Fails answers context step failure :=
  Wizard.Definition.not_fails ⟨_, rfl⟩ ⟨_, rfl⟩ declared_stepName

theorem take_pages (inside : count ≤ answers.relationships.length) :
    answers.pages.take (count + 2) =
      [.providerRelationships, .info] ++
        (answers.relationships.take count).map Step.permissions := by
  have short : count - answers.relationships.length = 0 := by omega
  simp [Answers.pages, List.take_append, List.map_take, short]

theorem passed_iff (inside : count ≤ answers.relationships.length) :
    (∀ page ∈ answers.pages.take (count + 2), wizard.Passes page answers context) ↔
      wizard.Passes Step.providerRelationships answers context ∧
        ∀ id ∈ answers.relationships.take count,
          wizard.Passes (Step.permissions id) answers context := by
  rw [take_pages inside]
  constructor
  · intro passed
    refine ⟨passed _ (by simp), fun id member => passed _ ?_⟩
    exact List.mem_append_right _ (List.mem_map_of_mem member)
  · rintro ⟨selection, permissions⟩ page member
    simp only [List.cons_append, List.nil_append, List.mem_cons, List.mem_map] at member
    rcases member with rfl | rfl | ⟨id, member, rfl⟩
    · exact selection
    · exact passes_info
    · exact permissions id member

theorem check_place {place : Nat} (stands : answers.pages[place]? = some .check) :
    place = answers.relationships.length + 2 := by
  rcases page_cases stands with ⟨-, same⟩ | ⟨-, same⟩ | ⟨index, inside, rfl, same⟩
  · contradiction
  · contradiction
  · cases found : answers.relationships[index]? with
    | none =>
      have last := List.getElem?_eq_none_iff.mp found
      omega
    | some id =>
      rw [found] at same
      contradiction

theorem walkedIn_check (selection : wizard.Passes Step.providerRelationships answers context)
    (permissions : ∀ id ∈ answers.relationships,
      wizard.Passes (Step.permissions id) answers context) :
    WalkedIn wizard answers context (answers.relationships.length + 2) .check := by
  have place : answers.pages[answers.relationships.length + 2]? = some .check := by
    rw [pages_add_two, if_pos (Nat.le_refl _), List.getElem?_eq_none (Nat.le_refl _)]
    rfl
  have permissions' : ∀ id ∈ answers.relationships.take answers.relationships.length,
      wizard.Passes (Step.permissions id) answers context := by
    simpa using permissions
  exact walkedIn_iff.mpr ⟨place, (passed_iff (Nat.le_refl _)).mpr ⟨selection, permissions'⟩⟩

theorem mem_take_iff {limit : Nat} {step : Step}
    (passed : ∀ page ∈ answers.pages.take limit, wizard.Passes page answers context) :
    step ∈ answers.pages.take limit ↔
      ∃ earlier < limit, WalkedIn wizard answers context earlier step := by
  constructor
  · intro member
    obtain ⟨earlier, found⟩ := List.getElem?_of_mem member
    rw [List.getElem?_take] at found
    split at found
    · rename_i before
      refine ⟨earlier, before, walkedIn_iff.mpr ⟨found, fun page member => passed page ?_⟩⟩
      exact List.take_subset_take_left _ (Nat.le_of_lt before) member
    · contradiction
  · rintro ⟨earlier, before, stands⟩
    obtain ⟨place, -⟩ := walkedIn_iff.mp stands
    refine List.mem_of_getElem? (i := earlier) ?_
    rw [List.getElem?_take_of_lt before]
    exact place

theorem exists_walkedIn_iff :
    (∃ step, WalkedIn wizard answers context count step) ↔
      count < answers.relationships.length + 3 ∧
        ∀ page ∈ answers.pages.take count, wizard.Passes page answers context := by
  rw [← length_pages]
  constructor
  · rintro ⟨step, stands⟩
    obtain ⟨place, passed⟩ := walkedIn_iff.mp stands
    exact ⟨(List.getElem?_eq_some_iff.mp place).1, passed⟩
  · rintro ⟨inside, passed⟩
    exact ⟨_, walkedIn_iff.mpr ⟨List.getElem?_eq_getElem inside, passed⟩⟩

theorem visit_endless_iff (session : Session wizard) (requested : Step) :
    (session.visit requested).1 = .error (.endlessSteps wizard.name) ↔
      62 ≤ session.handle.answers.relationships.length ∧
      (∀ page ∈ session.handle.answers.pages.take 64,
        wizard.Passes page session.handle.answers session.handle.context) ∧
      requested ∉ session.handle.answers.pages.take 64 := by
  refine (session.visit_eq_error_iff requested _).trans ⟨?_, ?_⟩
  · rintro (⟨count, -, step, -, fails, -⟩ | ⟨-, far, missed⟩)
    · exact absurd fails not_fails
    · obtain ⟨long, passed⟩ := exists_walkedIn_iff.mp far
      have long : 64 < session.handle.answers.relationships.length + 3 := long
      refine ⟨by omega, passed, fun member => ?_⟩
      obtain ⟨earlier, before, stands⟩ := (mem_take_iff passed).mp member
      exact missed earlier before stands
  · rintro ⟨long, passed, absent⟩
    have far : 64 < session.handle.answers.relationships.length + 3 := by omega
    refine .inr ⟨rfl, exists_walkedIn_iff.mpr ⟨far, passed⟩, fun earlier before stands => ?_⟩
    exact absent ((mem_take_iff passed).mpr ⟨earlier, before, stands⟩)

def Answers.setup (answers : Answers) (id : UInt64) : Setup :=
  ⟨id, agreed ((answers.ticks? id).getD .empty)⟩

/-- Ticks that are missing count for ticks that name no organisation. -/
theorem needsSetup_eq_false_iff : answers.needsSetup id = false ↔
    wizard.Passes (Step.permissions id) answers context := by
  rw [passes_permissions_iff, Answers.needsSetup]
  cases answers.ticks? id with
  | none =>
    have missing : (permissionErrors .empty).isEmpty = false := by decide +kernel
    rw [Option.getD_none, missing]
    simp
  | some ticks => simp

theorem ticks_of_passes (passes : wizard.Passes (Step.permissions id) answers context) :
    ∃ ticks, answers.ticks? id = some ticks ∧ (permissionErrors ticks).isEmpty = true := by
  have ready := needsSetup_eq_false_iff.mpr passes
  unfold Answers.needsSetup at ready
  cases given : answers.ticks? id with
  | none => simp [given] at ready
  | some ticks => exact ⟨ticks, rfl, by simpa [given] using ready⟩

section

variable (permissions : ∀ id ∈ answers.relationships,
  wizard.Passes (Step.permissions id) answers context)

include permissions

theorem completed_check : Step.completed .check answers = true := by
  have ready : answers.nextNeedingSetup = none := by
    refine List.find?_eq_none.mpr fun id member => ?_
    simp [needsSetup_eq_false_iff.mpr (permissions id member)]
  simp [Step.completed, ready]

theorem materialize_eq_ok (offered : ∀ id ∈ answers.relationships, context.offers id = true) :
    materialize answers context = .ok (answers.relationships.map answers.setup) := by
  refine mapM_eq_ok_map fun id member => ?_
  obtain ⟨ticks, given, -⟩ := ticks_of_passes (permissions id member)
  simp [offered id member, given, Answers.setup, pure, Except.pure]

end

theorem visit_check_endless_of_take {session : Session wizard}
    (selection : wizard.Passes Step.providerRelationships session.handle.answers
      session.handle.context)
    (permissions : ∀ id ∈ session.handle.answers.relationships.take 62,
      wizard.Passes (Step.permissions id) session.handle.answers session.handle.context)
    (long : 62 ≤ session.handle.answers.relationships.length) :
    (session.visit Step.check).1 = .error (.endlessSteps wizard.name) := by
  have passed := (passed_iff long).mpr ⟨selection, permissions⟩
  refine (visit_endless_iff session Step.check).mpr ⟨long, passed, fun member => ?_⟩
  obtain ⟨earlier, before, stands⟩ := (mem_take_iff passed).mp member
  have place : earlier = session.handle.answers.relationships.length + 2 :=
    check_place (walkedIn_iff.mp stands).1
  omega

theorem visit_check_endless {session : Session wizard}
    (selection : wizard.Passes Step.providerRelationships session.handle.answers
      session.handle.context)
    (permissions : ∀ id ∈ session.handle.answers.relationships,
      wizard.Passes (Step.permissions id) session.handle.answers session.handle.context)
    (long : 62 ≤ session.handle.answers.relationships.length) :
    (session.visit Step.check).1 = .error (.endlessSteps wizard.name) :=
  visit_check_endless_of_take selection
    (fun id member => permissions id (List.mem_of_mem_take member)) long

/-- The check page is shown and can be saved for up to 61 relationships. More of them make a way
    that a visit takes for one without end: it gives up on whatever comes after 64 pages that have
    nothing against the answers. -/
theorem finishes_within_longest_walk (session : Session wizard) :
    let answers := session.handle.answers
    let context := session.handle.context
    (∀ requested : Step, (session.visit requested).1 = .error (.endlessSteps wizard.name) ↔
      62 ≤ answers.relationships.length ∧
      (wizard.Passes Step.providerRelationships answers context ∧
        ∀ id ∈ answers.relationships.take 62,
          wizard.Passes (Step.permissions id) answers context) ∧
      requested ∉ answers.pages.take 64) ∧
    (wizard.Passes Step.providerRelationships answers context →
      (∀ id ∈ answers.relationships, wizard.Passes (Step.permissions id) answers context) →
      let checked := session.visit Step.check
      (checked.1 = .ok (.show Step.check) ↔ answers.relationships.length ≤ 61) ∧
      (checked.1 = .error (.endlessSteps wizard.name) ↔ 62 ≤ answers.relationships.length) ∧
      (answers.relationships.length ≤ 61 → session.store.fault .delete = none →
        checked.2.save.1 = .ok (.created (answers.relationships.map answers.setup)))) := by
  intro answers context
  have endless (requested : Step) := visit_endless_iff session requested
  refine ⟨fun requested => ?_, fun selection permissions => ?_⟩
  · refine (endless requested).trans (and_congr_right fun long => ?_)
    exact and_congr_left fun _ => passed_iff long
  · have stands := walkedIn_check selection permissions
    have shows : (session.visit Step.check).1 = .ok (.show Step.check) ↔
        answers.relationships.length ≤ 61 := by
      refine (session.visit_eq_show_iff Step.check).trans ⟨?_, fun few => ?_⟩
      · rintro ⟨count, near, stands'⟩
        have near : count < 64 := near
        -- The check page has one place on the way, after all the relationships.
        have place : count = answers.relationships.length + 2 :=
          check_place (walkedIn_iff.mp stands').1
        omega
      · have near : answers.relationships.length + 2 < 64 := by omega
        exact ⟨answers.relationships.length + 2, near, stands⟩
    refine ⟨shows, ?_, fun few working => ?_⟩
    · exact ⟨fun given => ((endless Step.check).mp given).1,
        visit_check_endless selection permissions⟩
    · have outcome : (session.visit Step.check).2.save.1 =
          (materialize answers context).map .created := by
        rw [(session.visit_of_show (shows.mpr few)).2]
        exact Session.save_of_complete (session.moved Step.check) rfl
          (congrArg Except.ok (completed_check permissions)) working
      refine outcome.trans ?_
      rw [materialize_eq_ok permissions (passes_providerRelationships_iff.mp selection).offered]
      rfl

def everyTick : Ticks :=
  .ofList (Permission.all.map fun permission => (permission.key, ["training_provider"]))

def wholeSetup (count : Nat) : Session wizard :=
  let ids := (List.range count).map UInt64.ofNat
  ⟨.empty, ⟨⟨"k"⟩, ⟨ids.map fun id => ⟨id, "Coast SCITT", "Hill College"⟩⟩,
    Step.providerRelationships, ⟨ids, .ofList (ids.map (·, everyTick)), false⟩⟩⟩

theorem wholeSetup_passes (count : Nat) (filled : count ≠ 0) (few : count ≤ UInt64.size) :
    let answers : Answers := (wholeSetup count).handle.answers
    let context : Context := (wholeSetup count).handle.context
    wizard.Passes Step.providerRelationships answers context ∧
      ∀ id ∈ answers.relationships, wizard.Passes (Step.permissions id) answers context := by
  intro answers context
  have nodup : answers.relationships.Nodup := by
    refine List.Nodup.map_on (fun first isFirst second isSecond same => ?_) List.nodup_range
    have first_lt := List.mem_range.mp isFirst
    have second_lt := List.mem_range.mp isSecond
    have same := congrArg UInt64.toNat same
    rwa [UInt64.toNat_ofNat_of_lt' (by omega), UInt64.toNat_ofNat_of_lt' (by omega)] at same
  have offered : ∀ id ∈ answers.relationships, context.offers id = true := by
    intro id member
    refine List.any_eq_true.mpr ⟨_, List.mem_map_of_mem member, ?_⟩
    simp
  have ticked : ∀ id ∈ answers.relationships, answers.ticks? id = some everyTick := by
    intro id member
    have keys : (answers.relationships.map (·, everyTick)).map Prod.fst = answers.relationships := by
      simp [Function.comp_def]
    rw [← keys] at nodup
    exact SortedMap.get?_eq_some_iff.mpr
      ((SortedMap.mem_ofList_iff nodup).mpr (List.mem_map_of_mem member))
  have clean : (permissionErrors everyTick).isEmpty = true := by decide +kernel
  refine ⟨passes_providerRelationships_iff.mpr ⟨?_, offered, nodup⟩, fun id member => ?_⟩
  · simpa [answers, wholeSetup] using filled
  · refine passes_permissions_iff.mpr ?_
    rw [ticked id member]
    exact clean

theorem finishes_within_longest_walk_full :
    let session := wholeSetup 61
    let answers : Answers := session.handle.answers
    (wizard.Passes Step.providerRelationships answers session.handle.context ∧
      ∀ id ∈ answers.relationships,
        wizard.Passes (Step.permissions id) answers session.handle.context) ∧
    answers.relationships.length = 61 ∧
    (session.visit Step.check).1 = .ok (.show Step.check) ∧
    (session.visit Step.check).2.save.1 =
      .ok (.created (answers.relationships.map answers.setup)) := by
  intro session answers
  have passes := wholeSetup_passes 61 (by decide) (by decide)
  have length : answers.relationships.length = 61 := rfl
  have few := Nat.le_of_eq length
  obtain ⟨shows, -, creates⟩ := (finishes_within_longest_walk session).2 passes.1 passes.2
  exact ⟨passes, length, shows.mpr few, creates few rfl⟩

/-- With one more nothing is left to answer, and yet the check page is never shown. -/
theorem check_out_of_reach :
    let session := wholeSetup 62
    let answers : Answers := session.handle.answers
    (wizard.Passes Step.providerRelationships answers session.handle.context ∧
      ∀ id ∈ answers.relationships,
        wizard.Passes (Step.permissions id) answers session.handle.context) ∧
    (session.visit Step.check).1 = .error (.endlessSteps wizard.name) := by
  intro session answers
  have passes := wholeSetup_passes 62 (by decide) (by decide)
  exact ⟨passes, visit_check_endless passes.1 passes.2 (Nat.le_refl 62)⟩

end Admissions.Permissions
