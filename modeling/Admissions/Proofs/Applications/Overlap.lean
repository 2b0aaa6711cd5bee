import Admissions.Proofs.Applications.Ladder

namespace Admissions

theorem TaskViewContext.toInt_of_previousCycleYear? {context : TaskViewContext} {previous : Int32}
    (known : context.previousCycleYear? = some previous) :
    previous.toInt = context.currentCycleYear.toInt - 1 := by
  simp only [previousCycleYear?, Option.ite_none_left_eq_some, Option.some.injEq] at known
  obtain ⟨late, rfl⟩ := known
  have least := Int32.le_toInt context.currentCycleYear
  have most := Int32.toInt_lt context.currentCycleYear
  have above : context.currentCycleYear.toInt ≠ -2 ^ 31 := fun same =>
    late (Int32.toInt_inj.mp same)
  rw [Int32.toInt_sub]
  exact Int.bmod_eq_of_le (by simp; omega) (by simp; omega)

namespace TaskViewGroup

variable {group other : TaskViewGroup} {choice : ApplicationChoice} {context : TaskViewContext}

def status : TaskViewGroup → ApplicationStatus
  | .deferredOffersPendingReconfirmation | .deferredOffersCurrentCycle => .offerDeferred
  | .aboutToBeRejectedAutomatically | .awaitingProviderDecision => .awaitingProviderDecision
  | .inactive => .inactive
  | .giveFeedbackForRejectedByDefault => .rejected
  | .interviewing => .interviewing
  | .pendingConditionsPreviousCycle | .pendingConditionsCurrentCycle => .pendingConditions
  | .waitingOnCandidate => .offer
  | .successfulCandidates => .recruited

/-- How many cycles ago its applications were made, for a group of one cycle. -/
def cyclesAgo : TaskViewGroup → Option Int
  | .deferredOffersPendingReconfirmation | .pendingConditionsPreviousCycle => some 1
  | .waitingOnCandidate | .pendingConditionsCurrentCycle | .successfulCandidates
  | .deferredOffersCurrentCycle => some 0
  | _ => none

theorem contains?_eq_true_iff : group.contains? choice context = some true ↔
    ∃ previous, context.previousCycleYear? = some previous ∧
      group.contains choice context previous = true := by
  rw [contains?, Option.map_eq_some_iff]

theorem status_of_contains (found : group.contains? choice context = some true) :
    choice.status = group.status := by
  obtain ⟨previous, -, belongs⟩ := contains?_eq_true_iff.mp found
  cases group <;> simp_all [contains, status]

theorem year_of_contains {ago : Int} (found : group.contains? choice context = some true)
    (bound : group.cyclesAgo = some ago) :
    choice.recruitmentCycleYear.toInt = context.currentCycleYear.toInt - ago := by
  obtain ⟨previous, known, belongs⟩ := contains?_eq_true_iff.mp found
  have before := TaskViewContext.toInt_of_previousCycleYear? known
  cases group <;> cases bound <;> simp_all [contains]

/-- One of them is for urgent applications, the other for all that await a decision. -/
def Overlap (group other : TaskViewGroup) : Prop :=
  group = .aboutToBeRejectedAutomatically ∧ other = .awaitingProviderDecision ∨
    group = .awaitingProviderDecision ∧ other = .aboutToBeRejectedAutomatically
deriving Decidable

theorem overlap_or_cyclesAgo_ne : ∀ group other : TaskViewGroup, group ≠ other →
    group.status = other.status → Overlap group other ∨
      group.cyclesAgo.isSome ∧ other.cyclesAgo.isSome ∧ group.cyclesAgo ≠ other.cyclesAgo := by
  decide

theorem overlap_of_contains (found : group.contains? choice context = some true)
    (again : other.contains? choice context = some true) (different : group ≠ other) :
    Overlap group other := by
  have status := (status_of_contains found).symm.trans (status_of_contains again)
  rcases overlap_or_cyclesAgo_ne group other different status with overlap | ⟨one, two, apart⟩
  · exact overlap
  · obtain ⟨ago, bound⟩ := Option.isSome_iff_exists.mp one
    obtain ⟨otherAgo, otherBound⟩ := Option.isSome_iff_exists.mp two
    have year := year_of_contains found bound
    have otherYear := year_of_contains again otherBound
    obtain rfl : ago = otherAgo := by omega
    exact absurd (bound.trans otherBound.symm) apart

theorem awaiting_of_aboutToBeRejected
    (urgent : aboutToBeRejectedAutomatically.contains? choice context = some true) :
    awaitingProviderDecision.contains? choice context = some true := by
  have status := status_of_contains urgent
  obtain ⟨previous, known, -⟩ := contains?_eq_true_iff.mp urgent
  refine contains?_eq_true_iff.mpr ⟨previous, known, ?_⟩
  simp [contains, status, TaskViewGroup.status]

/-- The application belongs to the group, and to no more urgent one. -/
structure Takes (group : TaskViewGroup) (choice : ApplicationChoice) (context : TaskViewContext) :
    Prop where
  found : group.contains? choice context = some true
  calm : group = .awaitingProviderDecision →
    aboutToBeRejectedAutomatically.contains? choice context = some false

theorem Takes.unique (takes : group.Takes choice context) (also : other.Takes choice context) :
    group = other := by
  by_contra different
  rcases overlap_of_contains takes.found also.found different with ⟨rfl, waits⟩ | ⟨waits, rfl⟩
  · have calm := also.calm waits
    rw [takes.found] at calm
    contradiction
  · have calm := takes.calm waits
    rw [also.found] at calm
    contradiction

end TaskViewGroup

namespace TaskViewLadder

open TaskViewGroup (aboutToBeRejectedAutomatically awaitingProviderDecision)

variable {ladder : TaskViewLadder} {group : TaskViewGroup}
variable {choice : ApplicationChoice} {context : TaskViewContext}

def Complete (ladder : TaskViewLadder) : Prop := ∀ group, group ∈ ladder.groups

def UrgentFirst (ladder : TaskViewLadder) : Prop :=
  ladder.groups.idxOf aboutToBeRejectedAutomatically < ladder.groups.idxOf awaitingProviderDecision
deriving Decidable

/-- The group of an application, where no overflow comes before it. -/
def groupOf (ladder : TaskViewLadder) (choice : ApplicationChoice) (context : TaskViewContext) :
    Option (Option TaskViewGroup) :=
  (ladder.classify choice context).map Prod.snd

theorem complete_of_perm (same : ladder.groups.Perm standard.groups) : ladder.Complete :=
  fun group => same.mem_iff.mpr group.mem_all

theorem short_of_perm (same : ladder.groups.Perm standard.groups) : ladder.Short := by
  unfold Short
  rw [same.length_eq]
  decide

theorem groupOf_of_ungrouped (short : ladder.Short)
    (ungrouped : Ungrouped ladder.groups choice context) :
    ladder.groupOf choice context = some none := by
  rw [groupOf, classify_of_ungrouped short ungrouped, Option.map_some]

theorem groupOf_of_firstMatch (short : ladder.Short) {above : List TaskViewGroup}
    (first : FirstMatch ladder.groups choice context above group) :
    ladder.groupOf choice context = some (some group) := by
  rw [groupOf, classify_of_firstMatch short first, Option.map_some]

theorem groupOf_of_first (earliest : context.currentCycleYear = Int32.minValue)
    (listed : ladder.groups ≠ []) : ladder.groupOf choice context = none := by
  rw [groupOf, classify_of_first earliest listed, Option.map_none]

theorem UrgentFirst.above (urgentFirst : ladder.UrgentFirst) {above below : List TaskViewGroup}
    (listed : ladder.groups = above ++ .awaitingProviderDecision :: below)
    (fresh : .awaitingProviderDecision ∉ above) : .aboutToBeRejectedAutomatically ∈ above := by
  by_contra absent
  unfold UrgentFirst at urgentFirst
  rw [listed, List.idxOf_append_of_notMem absent, List.idxOf_append_of_notMem fresh,
    List.idxOf_cons_self] at urgentFirst
  omega

theorem takes_of_firstMatch (urgentFirst : ladder.UrgentFirst) {above : List TaskViewGroup}
    (first : FirstMatch ladder.groups choice context above group) : group.Takes choice context := by
  refine ⟨first.found, ?_⟩
  rintro rfl
  obtain ⟨below, listed⟩ := first.listed
  exact first.passed _ (urgentFirst.above listed first.fresh)

theorem groupOf_eq_ungrouped_iff (short : ladder.Short) (complete : ladder.Complete) :
    ladder.groupOf choice context = some none ↔
      ∀ group : TaskViewGroup, group.contains? choice context = some false := by
  rcases search_cases ladder.groups choice context with
    ungrouped | ⟨_, group, first⟩ | ⟨earliest, listed⟩
  · simp [groupOf_of_ungrouped short ungrouped, fun group => ungrouped group (complete group)]
  · simpa [groupOf_of_firstMatch short first] using ⟨group, by simp [first.found]⟩
  · simp only [groupOf_of_first earliest listed, reduceCtorEq, false_iff, not_forall]
    exact ⟨.inactive, by simp [TaskViewGroup.contains?_eq_none_iff.mpr earliest]⟩

/-- Where urgent applications come first, the rest of the order does not matter. -/
theorem groupOf_eq_some_iff (short : ladder.Short) (complete : ladder.Complete)
    (urgentFirst : ladder.UrgentFirst) :
    ladder.groupOf choice context = some (some group) ↔ group.Takes choice context := by
  rcases search_cases ladder.groups choice context with
    ungrouped | ⟨_, found, first⟩ | ⟨earliest, listed⟩
  · have missed := ungrouped group (complete group)
    simp only [groupOf_of_ungrouped short ungrouped, Option.some.injEq, reduceCtorEq, false_iff]
    intro takes
    simp [takes.found] at missed
  · have takes := takes_of_firstMatch urgentFirst first
    simp only [groupOf_of_firstMatch short first, Option.some.injEq]
    constructor
    · rintro rfl
      exact takes
    · exact takes.unique
  · simp only [groupOf_of_first earliest listed, reduceCtorEq, false_iff]
    intro takes
    have found := takes.found
    rw [TaskViewGroup.contains?_eq_none_iff.mpr earliest] at found
    contradiction

/-- An application belongs to two groups only if it is about to be rejected automatically, and then
    it awaits a decision as well. So where the urgent group stays above the other, the standard
    ladder may be rearranged in any way; and whatever the order is, the same applications are in no
    group. -/
theorem only_urgent_group_overlaps :
    (∀ (choice : ApplicationChoice) (context : TaskViewContext),
      (∀ group other : TaskViewGroup, group.contains? choice context = some true →
        other.contains? choice context = some true → group ≠ other → group.Overlap other) ∧
      (aboutToBeRejectedAutomatically.contains? choice context = some true →
        awaitingProviderDecision.contains? choice context = some true)) ∧
    ∀ ladder : TaskViewLadder, ladder.groups.Perm standard.groups →
      make ladder.groups = ladder ∧
      (∀ (choice : ApplicationChoice) (context : TaskViewContext),
        ladder.groupOf choice context = some none ↔
          standard.groupOf choice context = some none) ∧
      (ladder.UrgentFirst → ∀ (choice : ApplicationChoice) (context : TaskViewContext),
        ladder.groupOf choice context = standard.groupOf choice context) := by
  have unchanged : standard.groups.Perm standard.groups := .refl _
  refine ⟨fun choice context => ⟨fun group other found again different => ?_, ?_⟩,
    fun ladder same => ⟨?_, fun choice context => ?_, fun urgentFirst choice context => ?_⟩⟩
  · exact TaskViewGroup.overlap_of_contains found again different
  · exact TaskViewGroup.awaiting_of_aboutToBeRejected
  · have distinct : ladder.groups.Nodup := same.nodup_iff.mpr TaskViewGroup.nodup_all
    exact congrArg TaskViewLadder.mk (keepFirst_of_nodup distinct)
  · rw [groupOf_eq_ungrouped_iff (short_of_perm same) (complete_of_perm same),
      groupOf_eq_ungrouped_iff (short_of_perm unchanged) (complete_of_perm unchanged)]
  · have first : standard.UrgentFirst := by decide
    ext found
    cases found with
    | none =>
      rw [groupOf_eq_ungrouped_iff (short_of_perm same) (complete_of_perm same),
        groupOf_eq_ungrouped_iff (short_of_perm unchanged) (complete_of_perm unchanged)]
    | some group =>
      rw [groupOf_eq_some_iff (short_of_perm same) (complete_of_perm same) urgentFirst,
        groupOf_eq_some_iff (short_of_perm unchanged) (complete_of_perm unchanged) first]

theorem only_urgent_group_overlaps_rotated :
    let noon := ApplicationService.noon
    let choice := ApplicationService.awaiting 4 (some noon) noon
    let context := (ApplicationService.drafted []).viewContext noon
    let ladder : TaskViewLadder := ⟨standard.groups.rotateRight 2⟩
    let urgent := some (some aboutToBeRejectedAutomatically)
    (aboutToBeRejectedAutomatically.contains? choice context = some true ∧
      awaitingProviderDecision.contains? choice context = some true ∧
      aboutToBeRejectedAutomatically.Overlap awaitingProviderDecision) ∧
    ladder.groups.Perm standard.groups ∧ make ladder.groups = ladder ∧ ladder.UrgentFirst ∧
    ladder.groupOf choice context = urgent ∧ standard.groupOf choice context = urgent := by
  intro noon choice context ladder urgent
  obtain ⟨groups, ladders⟩ := only_urgent_group_overlaps
  obtain ⟨overlap, awaits⟩ := groups choice context
  have near : aboutToBeRejectedAutomatically.contains? choice context = some true := by decide
  have same : ladder.groups.Perm standard.groups := by decide
  have above : ladder.UrgentFirst := by decide
  have shown : standard.groupOf choice context = urgent := by decide
  obtain ⟨made, -, alike⟩ := ladders ladder same
  exact ⟨⟨near, awaits near, overlap _ _ near (awaits near) (by decide)⟩, same, made, above,
    (alike above choice context).trans shown, shown⟩

end TaskViewLadder

end Admissions
