import Admissions.Proofs.Catalog
import Admissions.Proofs.Wizard.Event

namespace Admissions.Wizard

/-- The save creates an output unless the option in the answers is left over from another study
    mode; then it is refused for want of an option. -/
structure Finishes {κ ω : Type} (catalog : Catalog) (courseId : Option UInt64)
    (mode : Option StudyMode) (optionId : Option UInt64) (noOption : UInt64 → κ)
    (outcome : Except (Failure κ) (Saved ω)) : Prop where
  created : (∃ output, outcome = .ok (.created output)) ↔
    ¬catalog.LeftOver courseId mode optionId
  refused : catalog.LeftOver courseId mode optionId →
    ∃ course, courseId = some course ∧ catalog.BothModes course ∧
      outcome = .error (.violated (noOption course))

variable {κ ω : Type} {catalog : Catalog} {provider courseId optionId : Option UInt64}
variable {mode : Option StudyMode} {noOption : UInt64 → κ}
variable {outcome : Except (Failure κ) (Saved ω)} {found : CourseShape}

theorem finishes_of_pick {made : Except (Failure κ) ω} (saves : outcome = made.map .created)
    (course : catalog.named provider courseId = some found)
    (answered : found.Answered mode optionId)
    (offered : ∀ answer, mode = some answer → found.offers answer = true)
    (listed : ∀ id, optionId = some id → ∃ option ∈ found.available, option.id = id)
    (creates : ∀ option, found.pick mode optionId = some option → ∃ output, made = .ok output)
    (refuses : found.pick mode optionId = none →
      made = .error (.violated (noOption found.course.id))) :
    Finishes catalog courseId mode optionId noOption outcome := by
  obtain ⟨providerId, number, rfl, rfl, records⟩ := Catalog.named_eq_some course
  have same := Catalog.leftOver_iff records mode optionId
  obtain ⟨-, named, -, -⟩ := Catalog.shapeOf_eq_some records
  subst saves
  refine ⟨⟨?_, fun fresh => ?_⟩, fun leftOver => ?_⟩
  · rintro ⟨output, created⟩ leftOver
    rw [refuses (CourseShape.pick_eq_none_of_leftOver (same.mpr leftOver))] at created
    cases created
  · have picks := CourseShape.pick_isSome_of_not_leftOver answered.available offered
      fun leftOver => fresh (same.mp leftOver)
    obtain ⟨option, picked⟩ := Option.isSome_iff_exists.mp picks
    obtain ⟨output, possible⟩ := creates option picked
    exact ⟨output, congrArg (Except.map Saved.created) possible⟩
  · have stale := same.mpr leftOver
    obtain ⟨both, -⟩ := stale.single_site answered offered listed
    have refused := refuses (CourseShape.pick_eq_none_of_leftOver stale)
    rw [named] at refused
    exact ⟨number, rfl, (Catalog.multipleStudyModes_iff_bothModes records).mp both,
      congrArg (Except.map Saved.created) refused⟩

end Admissions.Wizard
