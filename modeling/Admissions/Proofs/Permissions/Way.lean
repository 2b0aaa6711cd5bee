import Admissions.Permissions.Pages
import Admissions.Proofs.Wizard.Back
import Admissions.Proofs.Wizard.ValidationErrors

namespace Admissions.Permissions

open Wizard (Target ValidationErrors Walked WalkedIn)

variable {answers : Answers} {context : Context} {id : UInt64} {count index : Nat}

section

variable {ids : List UInt64}

theorem findIdx_of_nodup (nodup : ids.Nodup) (found : ids[index]? = some id) :
    ids.findIdx (fun other => !(other != id)) = index := by
  obtain ⟨inside, rfl⟩ := List.getElem?_eq_some_iff.mp found
  simpa [bne, List.idxOf] using nodup.idxOf_getElem index inside

theorem following?_of_nodup (nodup : answers.relationships.Nodup)
    (found : answers.relationships[index]? = some id) :
    answers.following? id = answers.relationships[index + 1]? := by
  rw [Answers.following?, List.dropWhile_eq_drop_findIdx_not, findIdx_of_nodup nodup found,
    List.drop_drop, List.head?_drop]

theorem preceding?_of_nodup (nodup : answers.relationships.Nodup)
    (found : answers.relationships[index]? = some id) :
    answers.preceding? id = (answers.relationships.take index).getLast? := by
  have member : answers.relationships.contains id = true := by
    simpa using List.mem_of_getElem? found
  rw [Answers.preceding?, if_pos member, List.takeWhile_eq_take_findIdx_not,
    findIdx_of_nodup nodup found]

theorem isEmpty_validateSelection {errors : ValidationErrors} {seen : List UInt64} :
    (validateSelection context errors seen ids).isEmpty = true ↔
      errors.isEmpty = true ∧ (∀ id ∈ ids, context.offers id = true ∧ id ∉ seen) ∧ ids.Nodup := by
  induction ids generalizing errors seen with
  | nil => simp [validateSelection]
  | cons head ids ih =>
    unfold validateSelection
    by_cases offered : context.offers head = true
    · by_cases fresh : head ∈ seen
      · simp [offered, fresh, ih]
      · simp only [offered, Bool.not_true, Bool.false_eq_true, ↓reduceIte, List.contains_eq_mem,
          fresh, decide_false, ih, List.mem_cons, not_or, List.nodup_cons, forall_eq_or_imp]
        grind
    · simp [offered, ih]

end

/-- A selection without errors: some relationships, each of them offered and selected once. -/
structure Selected (answers : Answers) (context : Context) : Prop where
  some : answers.relationships ≠ []
  offered : ∀ id ∈ answers.relationships, context.offers id = true
  nodup : answers.relationships.Nodup

theorem passes_providerRelationships_iff :
    wizard.Passes Step.providerRelationships answers context ↔ Selected answers context := by
  constructor
  · rintro ⟨errors, validated, valid⟩
    obtain rfl := Except.ok.inj validated
    obtain ⟨clean, each, nodup⟩ := isEmpty_validateSelection.mp valid
    exact ⟨by simpa using clean, fun id member => (each id member).1, nodup⟩
  · rintro ⟨some, offered, nodup⟩
    refine ⟨_, rfl, isEmpty_validateSelection.mpr ⟨by simpa using some, ?_, nodup⟩⟩
    exact fun id member => ⟨offered id member, List.not_mem_nil⟩

def Answers.pages (answers : Answers) : List Step :=
  [.providerRelationships, .info] ++ answers.relationships.map .permissions ++ [.check]

theorem length_pages (answers : Answers) :
    answers.pages.length = answers.relationships.length + 3 := by
  simp [Answers.pages]

/-- After the first two pages, each place in the selection has its page, and so has its end. -/
theorem pages_add_two (answers : Answers) (index : Nat) :
    answers.pages[index + 2]? =
      if index ≤ answers.relationships.length then
        some (Step.pageOf answers.relationships[index]?)
      else none := by
  have pages : answers.pages[index + 2]? =
      (answers.relationships.map Step.permissions ++ [Step.check])[index]? := rfl
  rw [pages, List.getElem?_append, List.length_map]
  rcases Nat.lt_trichotomy index answers.relationships.length with before | rfl | after
  · simp [before, Nat.le_of_lt before, Step.pageOf]
  · simp [Step.pageOf]
  · have past : index - answers.relationships.length ≠ 0 := by omega
    simp [Nat.not_lt_of_gt after, Nat.not_le_of_gt after, past]

theorem page_cases {page : Step} (stands : answers.pages[count]? = some page) :
    (count = 0 ∧ page = .providerRelationships) ∨ (count = 1 ∧ page = .info) ∨
    ∃ index ≤ answers.relationships.length, count = index + 2 ∧
      page = Step.pageOf answers.relationships[index]? := by
  match count with
  | 0 => exact .inl ⟨rfl, (Option.some.inj stands).symm⟩
  | 1 => exact .inr (.inl ⟨rfl, (Option.some.inj stands).symm⟩)
  | index + 2 =>
    rw [pages_add_two] at stands
    split at stands
    · rename_i inside
      exact .inr (.inr ⟨index, inside, rfl, (Option.some.inj stands).symm⟩)
    · contradiction

theorem next_of_page {page : Step} (nodup : answers.relationships.Nodup)
    (stands : answers.pages[count]? = some page) :
    page.next answers = (answers.pages[count + 1]?).elim .exit .step := by
  rcases page_cases stands with ⟨rfl, rfl⟩ | ⟨rfl, rfl⟩ | ⟨index, inside, rfl, rfl⟩
  · rfl
  · rw [pages_add_two, if_pos (Nat.zero_le _), ← List.head?_eq_getElem?]
    rfl
  · rw [Nat.add_right_comm, pages_add_two]
    cases found : answers.relationships[index]? with
    | none =>
      have last := List.getElem?_eq_none_iff.mp found
      rw [if_neg (by omega)]
      rfl
    | some id =>
      obtain ⟨before, -⟩ := List.getElem?_eq_some_iff.mp found
      rw [if_pos (Nat.succ_le_of_lt before), ← following?_of_nodup nodup found]
      rfl

theorem previous_of_page {page following : Step} (nodup : answers.relationships.Nodup)
    (forward : answers.checkingAnswers = false) (stands : answers.pages[count]? = some page)
    (stands' : answers.pages[count + 1]? = some following) :
    following.previous answers = .step page := by
  rcases page_cases stands with ⟨rfl, rfl⟩ | ⟨rfl, rfl⟩ | ⟨index, inside, rfl, rfl⟩
  · obtain rfl : Step.info = following := Option.some.inj stands'
    simp [Step.previous, forward]
  · rw [pages_add_two, if_pos (Nat.zero_le _)] at stands'
    obtain rfl := Option.some.inj stands'
    cases found : answers.relationships[0]? with
    | none =>
      have empty : answers.relationships = [] := by simpa using found
      simp [Step.pageOf, Step.previous, forward, empty]
    | some id => simp [Step.pageOf, Step.previous, forward, preceding?_of_nodup nodup found]
  · rw [Nat.add_right_comm, pages_add_two] at stands'
    split at stands'
    · rename_i inside'
      obtain rfl := Option.some.inj stands'
      obtain ⟨id, found⟩ : ∃ id, answers.relationships[index]? = some id :=
        ⟨_, List.getElem?_eq_getElem inside'⟩
      cases found' : answers.relationships[index + 1]? with
      | none =>
        have last := List.getElem?_eq_none_iff.mp found'
        have ends : answers.relationships.length - 1 = index := by omega
        simp [Step.pageOf, Step.previous, List.getLast?_eq_getElem?, ends, found]
      | some id' =>
        simp [Step.pageOf, Step.previous, forward, preceding?_of_nodup nodup found',
          List.getLast?_take, found]
    · contradiction

theorem declared_stepName (step : Step) :
    wizard.declared.contains (wizard.stepName step) = true := by
  cases step <;> rfl

theorem moves_iff {page following : Step} (nodup : answers.relationships.Nodup)
    (stands : answers.pages[count]? = some page) :
    wizard.Moves answers context page following ↔
      wizard.Passes page answers context ∧ answers.pages[count + 1]? = some following := by
  have leads : wizard.next page answers context = .ok (page.next answers) := rfl
  rw [next_of_page nodup stands] at leads
  constructor
  · rintro ⟨passes, leads', -⟩
    refine ⟨passes, ?_⟩
    have same := Except.ok.inj (leads.symm.trans leads')
    cases after : answers.pages[count + 1]? with
    | none =>
      rw [after] at same
      contradiction
    | some other =>
      rw [after] at same
      injection same with same
      exact congrArg some same
  · rintro ⟨passes, after⟩
    rw [after] at leads
    exact ⟨passes, leads, declared_stepName following⟩

theorem nodup_of_passed
    (passed : ∀ page ∈ answers.pages.take (count + 1), wizard.Passes page answers context) :
    answers.relationships.Nodup := by
  have first : Step.providerRelationships ∈ answers.pages.take (count + 1) := by
    simp [Answers.pages]
  exact (passes_providerRelationships_iff.mp (passed _ first)).nodup

theorem passed_succ_iff {page : Step} (place : answers.pages[count]? = some page) :
    (∀ other ∈ answers.pages.take (count + 1), wizard.Passes other answers context) ↔
      (∀ other ∈ answers.pages.take count, wizard.Passes other answers context) ∧
        wizard.Passes page answers context := by
  rw [List.take_add_one, place]
  simp [or_imp, forall_and]

/-- The way leads through the pages in their order, as far as they have nothing against the
    answers. -/
theorem walkedIn_iff {step : wizard.Step} :
    WalkedIn wizard answers context count step ↔
      answers.pages[count]? = some step ∧
        ∀ page ∈ answers.pages.take count, wizard.Passes page answers context := by
  induction count generalizing step with
  | zero =>
    refine WalkedIn.zero_iff.trans ⟨?_, ?_⟩
    · rintro rfl
      exact ⟨rfl, by simp⟩
    · rintro ⟨stands, -⟩
      exact (Option.some.inj stands).symm
  | succ count ih =>
    refine WalkedIn.succ_iff.trans ⟨?_, ?_⟩
    · rintro ⟨before, stands, moves⟩
      obtain ⟨place, passed⟩ := ih.mp stands
      have passed' := (passed_succ_iff place).mpr ⟨passed, moves.passes⟩
      obtain ⟨-, place'⟩ := (moves_iff (nodup_of_passed passed') place).mp moves
      exact ⟨place', passed'⟩
    · rintro ⟨place', passed⟩
      obtain ⟨inside, -⟩ := List.getElem?_eq_some_iff.mp place'
      have place := List.getElem?_eq_getElem (Nat.lt_of_succ_lt inside)
      obtain ⟨earlier, passes⟩ := (passed_succ_iff place).mp passed
      have moves := (moves_iff (nodup_of_passed passed) place).mpr ⟨passes, place'⟩
      exact ⟨_, ih.mpr ⟨place, earlier⟩, moves⟩

theorem retraces (forward : answers.checkingAnswers = false) : wizard.Retraces answers context where
  entrance := by
    have leaves : Step.previous .providerRelationships answers = .exit := by
      simp [Step.previous, forward]
    exact congrArg Except.ok leaves
  declared := rfl
  back stands moves := by
    obtain ⟨place, -⟩ := walkedIn_iff.mp stands
    obtain ⟨place', passed⟩ := walkedIn_iff.mp (stands.next moves)
    exact congrArg Except.ok (previous_of_page (nodup_of_passed passed) forward place place')

section Messages

open Wizard.ValidationErrors (opening_append_ne understood_empty)

theorem understood_validateSelection (context : Context) {errors : ValidationErrors}
    (understood : errors.Understood) (seen ids : List UInt64) :
    (validateSelection context errors seen ids).Understood := by
  induction ids generalizing errors seen with
  | nil => exact understood
  | cons id ids ih =>
    unfold validateSelection
    split
    · exact ih (understood.add (opening_append_ne 'U' rfl (by decide) _) _) _
    · split
      · rw [String.append_assoc]
        exact ih (understood.add (opening_append_ne 'P' rfl (by decide) _) _) _
      · exact ih understood _

theorem understood_permissionErrors (ticks : Ticks) : (permissionErrors ticks).Understood := by
  refine understood_empty.foldl (fun errors permission understood => ?_) _
  exact understood.addIf _ (opening_append_ne 'S' rfl (by decide) _) _

theorem understood_validate (step : Step) (answers : Answers) (context : Context) :
    (step.validate answers context).Understood := by
  cases step with
  | providerRelationships =>
    exact understood_validateSelection context (understood_empty.addIf _ (by simp) _) [] _
  | permissions relationship => exact understood_permissionErrors _
  | info | check => exact understood_empty

end Messages

end Admissions.Permissions
