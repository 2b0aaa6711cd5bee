import Admissions.Proofs.CoursePages
import Admissions.Proofs.Wizard.Guided

namespace Admissions

open Wizard (Failure ValidationErrors)

namespace Catalog

/-- A course of a listed provider with an option that can be picked, as look-ups give them. -/
structure Choosable (catalog : Catalog) (providerId courseId : UInt64) (course : Course)
    (option : CourseOption) : Prop where
  housed : ∃ provider, catalog.provider providerId = .ok (some provider)
  known : catalog.course courseId = .ok (some course)
  ofProvider : course.providerId = providerId
  listed : ∃ options, catalog.availableOptions courseId none = .ok options ∧ option ∈ options
  distinct : (catalog.options.map (·.id)).Nodup

structure Alike (catalog : Catalog) (courseId : UInt64) (option picked : CourseOption) : Prop where
  offered : catalog.Offers courseId picked
  sameMode : picked.studyMode = option.studyMode
  sameSite : picked.siteId = option.siteId

end Catalog

namespace CourseShape

variable {shape : CourseShape} {option : CourseOption}

def modeOf (shape : CourseShape) (option : CourseOption) : Option StudyMode :=
  shape.askedMode (some option.studyMode)

def siteOf (shape : CourseShape) (option : CourseOption) : Option UInt64 :=
  if shape.multipleSites (shape.modeOf option) then some option.id else none

theorem mem_optionsFor_modeOf (member : option ∈ shape.available) {other : CourseOption} :
    other ∈ shape.optionsFor (shape.modeOf option) ↔
      other ∈ shape.available ∧ other.studyMode = option.studyMode := by
  unfold modeOf askedMode
  cases both : shape.multipleStudyModes with
  | true => simp [mem_optionsFor, eq_comm]
  | false =>
    have offered : shape.offers option.studyMode = true := offers_iff.mpr ⟨option, member, rfl⟩
    have whole := optionsFor_of_single both offered
    constructor
    · intro found
      have listed := (mem_optionsFor.mp found).1
      have moded := (mem_optionsFor.mp (whole ▸ listed)).2 _ rfl
      exact ⟨listed, moded⟩
    · rintro ⟨listed, -⟩
      exact mem_optionsFor.mpr ⟨listed, by simp⟩

theorem pick_of_id (member : option ∈ shape.available)
    (distinct : (shape.available.map (·.id)).Nodup) :
    shape.pick (shape.modeOf option) (some option.id) = some option := by
  have own := (mem_optionsFor_modeOf member).mpr ⟨member, rfl⟩
  have distinct : ((shape.optionsFor (shape.modeOf option)).map (·.id)).Nodup :=
    distinct.sublist (List.filter_sublist.map _)
  exact find?_eq_some_of_nodup distinct own

theorem pick_of_asked (member : option ∈ shape.available)
    (distinct : (shape.available.map (·.id)).Nodup) :
    ∃ picked ∈ shape.available,
      shape.pick (shape.modeOf option) (shape.siteOf option) = some picked ∧
      picked.studyMode = option.studyMode ∧ picked.siteId = option.siteId ∧
      (shape.multipleSites (shape.modeOf option) = true → picked = option) := by
  cases several : shape.multipleSites (shape.modeOf option) with
  | true =>
    have site : shape.siteOf option = some option.id := by simp [siteOf, several]
    rw [site]
    exact ⟨option, member, pick_of_id member distinct, rfl, rfl, fun _ => rfl⟩
  | false =>
    have own := (mem_optionsFor_modeOf member).mpr ⟨member, rfl⟩
    obtain ⟨picked, rest, split⟩ := List.exists_cons_of_ne_nil (List.ne_nil_of_mem own)
    have head : picked ∈ shape.optionsFor (shape.modeOf option) := by simp [split]
    obtain ⟨listed, moded⟩ := (mem_optionsFor_modeOf member).mp head
    have sited : picked.siteId = option.siteId := by
      refine Decidable.byContradiction fun apart => ?_
      have other := multipleSites_iff.mpr ⟨picked, head, option, own, apart⟩
      rw [several] at other
      contradiction
    exact ⟨picked, listed, by simp [siteOf, several, pick, split], moded, sited, by simp⟩

end CourseShape

namespace Catalog

variable {catalog : Catalog} {providerId courseId : UInt64} {course : Course}
variable {option : CourseOption} {shape : CourseShape}

theorem check_eq_ok {call : Call} (works : catalog.outage.check call = .ok ()) :
    call ∉ catalog.outage.calls := by
  intro down
  simp [Outage.check, down] at works

namespace Choosable

theorem available (choosable : catalog.Choosable providerId courseId course option) :
    catalog.Available := by
  obtain ⟨⟨provider, housed⟩, known, -, ⟨options, listed, -⟩, -⟩ := choosable
  obtain ⟨⟨⟩, providers, -⟩ := exists_of_bind_eq_ok housed
  obtain ⟨⟨⟩, courses, -⟩ := exists_of_bind_eq_ok known
  obtain ⟨found, looked, -⟩ := exists_of_bind_eq_ok listed
  obtain ⟨⟨⟩, ofCourse, -⟩ := exists_of_bind_eq_ok looked
  refine List.eq_nil_iff_forall_not_mem.mpr fun call => ?_
  cases call with
  | provider => exact check_eq_ok providers
  | course => exact check_eq_ok courses
  | courseOptions => exact check_eq_ok ofCourse

theorem records (choosable : catalog.Choosable providerId courseId course option) :
    ∃ shape, catalog.shapeOf providerId courseId = some shape ∧ shape.course = course ∧
      option ∈ shape.available ∧ (shape.available.map (·.id)).Nodup := by
  obtain ⟨-, known, ofProvider, ⟨options, listed, member⟩, distinct⟩ := choosable
  have known := course_eq_find? known
  have number : course.id = courseId := by simpa using List.find?_some known.symm
  obtain ⟨found, looked, listed⟩ := exists_of_bind_eq_ok listed
  obtain rfl := Except.ok.inj listed
  rw [courseOptions_eq_filter looked, filter_forMode_none] at member
  refine ⟨⟨course, _⟩, ?_, rfl, number ▸ member, ?_⟩
  · simp only [shapeOf, ← known, ofProvider, ne_eq, not_true_eq_false, ↓reduceIte]
  · exact distinct.sublist ((List.filter_sublist.trans List.filter_sublist).map _)

end Choosable

theorem alike_of_pick (found : catalog.shapeOf providerId courseId = some shape)
    {picked : CourseOption} (listed : picked ∈ shape.available)
    (sameMode : picked.studyMode = option.studyMode) (sameSite : picked.siteId = option.siteId) :
    catalog.Alike courseId option picked := by
  obtain ⟨-, -, -, offered⟩ := shapeOf_eq_some found
  exact ⟨(offered picked).mp listed, sameMode, sameSite⟩

variable {κ α : Type}

theorem checkCourse_of_named {unlisted full : ValidationErrors}
    {unnamed : Option UInt64 → Option UInt64 → ValidationErrors} (available : catalog.Available)
    (found : catalog.shapeOf providerId courseId = some shape) (some : shape.available ≠ []) :
    catalog.checkCourse (κ := κ) unlisted full unnamed (.some providerId) (.some courseId) =
      .ok .empty := by
  have filled : shape.available.isEmpty = false := by simpa using some
  simp only [checkCourse, load_of_available available, found, Failure.ofLookup_ok, bind,
    Except.bind, filled, Bool.false_eq_true, ↓reduceIte]
  rfl

theorem checkAnswer_of_fits {looked : Except (Failure κ) CourseShape}
    {field unanswered unlisted : String} {fails : CourseShape → α → Bool} {answer : α}
    (looks : looked = .ok shape) (fits : fails shape answer = false) :
    checkAnswer looked field unanswered unlisted fails (some answer) = .ok .empty := by
  subst looks
  simp only [checkAnswer, bind, Except.bind, fits]
  rfl

end Catalog

namespace CourseShape

variable {α : Type} {shape : CourseShape} {option : CourseOption}

def afterCourse (shape : CourseShape) (modePage sitePage beyond : α) : α :=
  if shape.multipleStudyModes then modePage
  else if shape.multipleSites none then sitePage else beyond

def afterMode (shape : CourseShape) (mode : Option StudyMode) (sitePage beyond : α) : α :=
  if shape.multipleSites mode then sitePage else beyond

variable {wizard : Wizard.Definition} {respond : wizard.Step → Json.Object}
variable {context : wizard.Context} {step modePage sitePage beyond : wizard.Step}
variable {blank : wizard.Answers} {naming : Option StudyMode → Option UInt64 → wizard.Answers}

theorem brings_past_mode (apart : sitePage ≠ modePage)
    (course : wizard.Brings respond context step blank [shape.afterCourse modePage sitePage beyond]
      (shape.afterCourse modePage sitePage beyond) (naming none none))
    (mode : shape.multipleStudyModes = true →
      wizard.Brings respond context modePage (naming none none)
        [shape.afterMode (some option.studyMode) sitePage beyond]
        (shape.afterMode (some option.studyMode) sitePage beyond)
        (naming (some option.studyMode) none)) :
    ∃ earlier, sitePage ∉ earlier ∧
      wizard.Brings respond context step blank
        (earlier ++ [shape.afterMode (shape.modeOf option) sitePage beyond])
        (shape.afterMode (shape.modeOf option) sitePage beyond)
        (naming (shape.modeOf option) none) := by
  unfold modeOf askedMode
  cases both : shape.multipleStudyModes with
  | false =>
    have next : shape.afterCourse modePage sitePage beyond =
        shape.afterMode none sitePage beyond := by simp [afterCourse, afterMode, both]
    rw [next] at course
    exact ⟨[], by simp, course⟩
  | true =>
    have next : shape.afterCourse modePage sitePage beyond = modePage := by
      simp [afterCourse, both]
    rw [next] at course
    exact ⟨[modePage], by simpa using apart, course.trans (mode both)⟩

/-- What is left to ask of a course once it is named: the mode where it has both, then the site
    where it has several. -/
theorem brings_past_course (apart : sitePage ≠ modePage)
    (course : wizard.Brings respond context step blank [shape.afterCourse modePage sitePage beyond]
      (shape.afterCourse modePage sitePage beyond) (naming none none))
    (mode : shape.multipleStudyModes = true →
      wizard.Brings respond context modePage (naming none none)
        [shape.afterMode (some option.studyMode) sitePage beyond]
        (shape.afterMode (some option.studyMode) sitePage beyond)
        (naming (some option.studyMode) none))
    (site : wizard.Brings respond context sitePage (naming (shape.modeOf option) none) [beyond]
      beyond (naming (shape.modeOf option) (some option.id))) :
    ∃ earlier, wizard.Brings respond context step blank (earlier ++ [beyond]) beyond
        (naming (shape.modeOf option) (shape.siteOf option)) ∧
      (sitePage ∈ earlier → shape.multipleSites (shape.modeOf option) = true) := by
  obtain ⟨earlier, absent, brings⟩ := brings_past_mode apart course mode
  unfold afterMode at brings
  unfold siteOf
  cases several : shape.multipleSites (shape.modeOf option) with
  | false =>
    rw [several] at brings
    exact ⟨earlier, brings, fun asked => absurd asked absent⟩
  | true =>
    rw [several] at brings
    exact ⟨earlier ++ [sitePage], brings.trans site, fun _ => rfl⟩

end CourseShape

end Admissions
