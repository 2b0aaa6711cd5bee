import Admissions.Proofs.Catalog
import Admissions.Proofs.Wizard.ValidationErrors

namespace Admissions.Catalog

open Wizard (Failure ValidationErrors)

variable {κ α : Type} {catalog : Catalog} {errors : ValidationErrors}

/-- The check of a course. The errors are those of one that is not listed, of a full one and of
    answers that name none. -/
def checkCourse (catalog : Catalog) (unlisted full : ValidationErrors)
    (unnamed : Option UInt64 → Option UInt64 → ValidationErrors) :
    Option UInt64 → Option UInt64 → Except (Failure κ) ValidationErrors
  | some providerId, some courseId => do
    match ← Failure.ofLookup (CourseShape.load catalog providerId courseId) with
    | none => return unlisted
    | some shape => if shape.available.isEmpty then return full else return .empty
  | providerId, courseId => return unnamed providerId courseId

section

variable {unlisted full : ValidationErrors} {provider course : Option UInt64}
variable {unnamed : Option UInt64 → Option UInt64 → ValidationErrors}

theorem named_of_checkCourse (unlistedFails : unlisted.isEmpty = false)
    (fullFails : full.isEmpty = false)
    (unnamedFails : ∀ provider course, (provider = none ∨ course = none) →
      (unnamed provider course).isEmpty = false)
    (checked : catalog.checkCourse (κ := κ) unlisted full unnamed provider course = .ok errors)
    (valid : errors.isEmpty = true) :
    ∃ found, catalog.named provider course = some found ∧ found.available ≠ [] := by
  have refused (refusal : ValidationErrors) (fails : refusal.isEmpty = false) :
      refusal ≠ errors := by
    rintro rfl
    simp [fails] at valid
  cases provider with
  | none => exact absurd (Except.ok.inj checked) (refused _ (unnamedFails _ _ (.inl rfl)))
  | some providerId =>
    cases course with
    | none => exact absurd (Except.ok.inj checked) (refused _ (unnamedFails _ _ (.inr rfl)))
    | some courseId =>
      unfold checkCourse at checked
      obtain ⟨found, loaded, checked⟩ := exists_of_bind_eq_ok checked
      have records := load_eq_shapeOf (Failure.eq_ok_of_ofLookup loaded)
      cases found with
      | none => exact absurd (Except.ok.inj checked) (refused _ unlistedFails)
      | some found =>
        dsimp only at checked
        split at checked
        · exact absurd (Except.ok.inj checked) (refused _ fullFails)
        · rename_i available
          exact ⟨found, records.symm, by simpa using available⟩

end

def checkAnswer (looked : Except (Failure κ) CourseShape) (field unanswered unlisted : String)
    (fails : CourseShape → α → Bool) : Option α → Except (Failure κ) ValidationErrors
  | none => return .single field unanswered
  | some answer => do
    let shape ← looked
    return ValidationErrors.empty.addIf (fails shape answer) field unlisted

theorem fits_of_checkAnswer {looked : Except (Failure κ) CourseShape}
    {field unanswered unlisted : String} {fails : CourseShape → α → Bool} {answer : Option α}
    (checked : checkAnswer looked field unanswered unlisted fails answer = .ok errors)
    (valid : errors.isEmpty = true) :
    ∃ found given, looked = .ok found ∧ answer = some given ∧ fails found given = false := by
  cases answer with
  | none =>
    obtain rfl := Except.ok.inj checked
    simp at valid
  | some given =>
    obtain ⟨found, looks, checked⟩ := exists_of_bind_eq_ok checked
    obtain rfl := Except.ok.inj checked
    exact ⟨found, given, looks, rfl, by simpa using valid⟩

end Admissions.Catalog
