import Admissions.Proofs.Applications.TaskView
import Admissions.Proofs.Calendar.WorkingDays

namespace Admissions

open Calendar (Date Instant)

theorem Calendar.Instant.date_le_of_order {left right : Instant}
    (ordered : (left.order right).isLE = true) : left.date ≤ right.date := by
  rw [Ordering.isLE_iff_eq_lt_or_eq_eq, Instant.order_eq_lt_iff, Instant.order_eq_eq_iff] at ordered
  rcases ordered with before | rfl
  · rcases before with earlier | ⟨same, -⟩
    · exact Int.le_of_lt earlier
    · exact Int.le_of_eq same
  · exact Int.le_refl _

/-- The time goes on, and the warning does not come later than before. -/
structure TaskViewContext.Precedes (before after : TaskViewContext) : Prop where
  now : (before.now.order after.now).isLE = true
  warning : before.warningDays ≤ after.warningDays

namespace TaskViewGroup

variable {choice : ApplicationChoice} {before after : TaskViewContext}

theorem contains?_aboutToBeRejected_iff {context : TaskViewContext} :
    aboutToBeRejectedAutomatically.contains? choice context = some true ↔
      context.currentCycleYear ≠ Int32.minValue ∧ choice.status = .awaitingProviderDecision ∧
        ∃ deadline, choice.rejectByDefaultAt = some deadline ∧
          deadline.date ≤ context.now.date.addWorkingDays context.warningDays := by
  by_cases earliest : context.currentCycleYear = Int32.minValue
  · simp [contains?_eq_none_iff.mpr earliest, earliest]
  · obtain ⟨previous, contained⟩ := exists_contains?_eq earliest
    simp [contained, contains, earliest, Option.any_eq_true]

theorem aboutToBeRejected_of_precedes (passes : before.Precedes after)
    (late : after.currentCycleYear ≠ Int32.minValue)
    (urgent : aboutToBeRejectedAutomatically.contains? choice before = some true) :
    aboutToBeRejectedAutomatically.contains? choice after = some true := by
  obtain ⟨-, status, deadline, given, near⟩ := contains?_aboutToBeRejected_iff.mp urgent
  have dates : before.now.date ≤ after.now.date := Instant.date_le_of_order passes.now
  have reached := Date.addWorkingDays_mono dates passes.warning
  exact contains?_aboutToBeRejected_iff.mpr
    ⟨late, status, deadline, given, Int.le_trans near reached⟩

/-- While a decision is awaited, time and year matter to one group only. -/
theorem contains?_of_awaiting (awaiting : choice.status = .awaitingProviderDecision)
    {group : TaskViewGroup} (other : group ≠ .aboutToBeRejectedAutomatically)
    {context : TaskViewContext} (late : context.currentCycleYear ≠ Int32.minValue) :
    group.contains? choice context = some (decide (group = .awaitingProviderDecision)) := by
  obtain ⟨previous, contained⟩ := exists_contains?_eq late
  rw [contained]
  cases group <;> simp_all [contains]

end TaskViewGroup

namespace TaskViewLadder

variable {choice : ApplicationChoice} {before after : TaskViewContext}

theorem contains?_of_classifyFrom {context : TaskViewContext} {groups : List TaskViewGroup}
    {group : TaskViewGroup} {start bucket : Nat}
    (classified : classifyFrom start choice context groups = some (bucket, some group)) :
    group.contains? choice context = some true := by
  induction groups generalizing start with
  | nil => simp [classifyFrom] at classified
  | cons first rest ih =>
    unfold classifyFrom at classified
    split at classified
    · cases contained : first.contains? choice context with
      | none => simp [contained] at classified
      | some found =>
        rw [contained] at classified
        cases found with
        | true =>
          simp only [Option.some.injEq, Prod.mk.injEq] at classified
          exact classified.2 ▸ contained
        | false => exact ih classified
    · contradiction

theorem classifyFrom_of_precedes (passes : before.Precedes after)
    (late : after.currentCycleYear ≠ Int32.minValue) {groups : List TaskViewGroup}
    {start bucket : Nat}
    (urgent : classifyFrom start choice before groups =
      some (bucket, some .aboutToBeRejectedAutomatically)) :
    classifyFrom start choice after groups =
      some (bucket, some .aboutToBeRejectedAutomatically) := by
  have now := contains?_of_classifyFrom urgent
  have later := TaskViewGroup.aboutToBeRejected_of_precedes passes late now
  obtain ⟨early, awaiting, -⟩ := TaskViewGroup.contains?_aboutToBeRejected_iff.mp now
  -- On the groups of the ladder: one above that did not match does not match later.
  induction groups generalizing start with
  | nil => simp [classifyFrom] at urgent
  | cons first rest ih =>
    unfold classifyFrom at urgent ⊢
    by_cases own : first = .aboutToBeRejectedAutomatically
    · subst own
      rw [now] at urgent
      rw [later]
      exact urgent
    · rw [TaskViewGroup.contains?_of_awaiting awaiting own early] at urgent
      rw [TaskViewGroup.contains?_of_awaiting awaiting own late]
      split at urgent
      · rename_i near
        rw [if_pos near]
        cases waits : decide (first = .awaitingProviderDecision) with
        | true => simp [waits, own] at urgent
        | false =>
          rw [waits] at urgent
          exact ih urgent
      · contradiction

end TaskViewLadder

/-- Working days lead no less far from a later date or for more of them. So an application that is
    about to be rejected stays so, and keeps its bucket on the standard ladder and on any other, in
    the same cycle year and in any other that has a year before it. -/
theorem urgent_applications_stay_urgent :
    (∀ (date later : Date) (days more : UInt32), date ≤ later → days ≤ more →
      date.addWorkingDays days ≤ later.addWorkingDays more) ∧
    ∀ (choice : ApplicationChoice) (before after : TaskViewContext), before.Precedes after →
      before.currentCycleYear = after.currentCycleYear ∨
        after.currentCycleYear ≠ Int32.minValue →
      (TaskViewGroup.aboutToBeRejectedAutomatically.contains? choice before = some true →
        TaskViewGroup.aboutToBeRejectedAutomatically.contains? choice after = some true) ∧
      ∀ (ladder : TaskViewLadder) (bucket : Nat),
        ladder.classify choice before = some (bucket, some .aboutToBeRejectedAutomatically) →
        ladder.classify choice after = some (bucket, some .aboutToBeRejectedAutomatically) := by
  refine ⟨fun _ _ _ _ dates counts => Date.addWorkingDays_mono dates counts, ?_⟩
  intro choice before after passes years
  have late (urgent : TaskViewGroup.aboutToBeRejectedAutomatically.contains? choice before =
      some true) : after.currentCycleYear ≠ Int32.minValue := by
    rcases years with same | late
    · obtain ⟨early, -⟩ := TaskViewGroup.contains?_aboutToBeRejected_iff.mp urgent
      rwa [← same]
    · exact late
  constructor
  · intro urgent
    exact TaskViewGroup.aboutToBeRejected_of_precedes passes (late urgent) urgent
  · intro ladder bucket urgent
    have now := TaskViewLadder.contains?_of_classifyFrom urgent
    exact TaskViewLadder.classifyFrom_of_precedes passes (late now) urgent

theorem urgent_applications_stay_urgent_over_weekend :
    let friday : Date := ⟨19734, by decide⟩
    let sunday : Date := ⟨19736, by decide⟩
    let monday : Date := ⟨19737, by decide⟩
    let before : TaskViewContext := ⟨⟨friday, 64800, 0⟩, 2024, 1⟩
    let after : TaskViewContext := ⟨⟨sunday, 0, 0⟩, 2024, 1⟩
    let choice := ApplicationService.awaiting 4 (some ⟨monday, 43200, 0⟩) ApplicationService.noon
    let urgent := some (2, some TaskViewGroup.aboutToBeRejectedAutomatically)
    (friday ≤ sunday ∧ friday.addWorkingDays 1 ≤ sunday.addWorkingDays 1) ∧
    (before.Precedes after ∧ before.currentCycleYear = after.currentCycleYear) ∧
    (TaskViewGroup.aboutToBeRejectedAutomatically.contains? choice before = some true ∧
      TaskViewGroup.aboutToBeRejectedAutomatically.contains? choice after = some true) ∧
    TaskViewLadder.standard.classify choice before = urgent ∧
      TaskViewLadder.standard.classify choice after = urgent := by
  intro friday sunday monday before after choice urgent
  obtain ⟨leads, stays⟩ := urgent_applications_stay_urgent
  have dates : friday ≤ sunday := by decide
  have passes : before.Precedes after := ⟨by decide, by decide⟩
  have near : TaskViewGroup.aboutToBeRejectedAutomatically.contains? choice before = some true := by
    decide
  have bucket : TaskViewLadder.standard.classify choice before = urgent := by decide
  obtain ⟨group, ladders⟩ := stays choice before after passes (.inl rfl)
  exact ⟨⟨dates, leads friday sunday 1 1 dates (by decide)⟩, ⟨passes, rfl⟩, ⟨near, group near⟩,
    bucket, ladders .standard 2 bucket⟩

end Admissions
