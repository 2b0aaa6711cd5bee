import Admissions.Catalog
import Admissions.Proofs.Except
import Admissions.Proofs.Json.Codec
import Admissions.Wizard.Definition

namespace Admissions

open Json (Codec)
open Wizard (Failure)

theorem studyMode_codec {depth : Nat} : Codec depth StudyMode.toJson StudyMode.ofJson? :=
  Codec.choice fun mode => by cases mode <;> rfl

namespace Wizard.Failure

variable {κ α : Type}

@[simp] theorem ofLookup_ok (found : α) : ofLookup (κ := κ) (.ok found) = .ok found := rfl

theorem eq_ok_of_ofLookup {result : Except RecordError α} {found : α}
    (looked : ofLookup (κ := κ) result = .ok found) : result = .ok found := by
  cases result with
  | error error => contradiction
  | ok given => exact congrArg Except.ok (Except.ok.inj looked)

end Wizard.Failure

namespace Catalog

/-- The two list the same, whichever look-ups are down. -/
structure Agrees (catalog other : Catalog) : Prop where
  providers : other.providers = catalog.providers
  courses : other.courses = catalog.courses
  options : other.options = catalog.options

structure Offers (catalog : Catalog) (courseId : UInt64) (option : CourseOption) : Prop where
  listed : option ∈ catalog.options
  ofCourse : option.courseId = courseId
  vacant : option.vacancyStatus = .vacancies
  siteValid : option.siteStillValid = true

def BothModes (catalog : Catalog) (courseId : UInt64) : Prop :=
  ∀ mode, ∃ option, catalog.Offers courseId option ∧ option.studyMode = mode

def SeveralSites (catalog : Catalog) (courseId : UInt64) (mode : StudyMode) : Prop :=
  ∃ first second, catalog.Offers courseId first ∧ catalog.Offers courseId second ∧
    first.siteId ≠ second.siteId ∧
    (catalog.BothModes courseId → first.studyMode = mode ∧ second.studyMode = mode)

/-- The option is offered, and it was asked for wherever the course leaves a choice of mode or
    site. -/
structure Settles (catalog : Catalog) (mode : Option StudyMode) (optionId : Option UInt64)
    (course : Course) (option : CourseOption) : Prop where
  offered : catalog.Offers course.id option
  modeAsked : catalog.BothModes course.id → mode = some option.studyMode
  siteAsked : catalog.SeveralSites course.id option.studyMode → optionId = some option.id

def LeftOver (catalog : Catalog) (courseId : Option UInt64) (mode : Option StudyMode)
    (optionId : Option UInt64) : Prop :=
  ∃ course id, courseId = some course ∧ optionId = some id ∧
    ∀ option, catalog.Offers course option →
      (∀ answered, mode = some answered → option.studyMode = answered) → option.id ≠ id

/-- The answers name this course, as the records have it, and an answered mode or option is one
    that the course offers. -/
structure Belongs (catalog : Catalog) (providerId courseId : Option UInt64)
    (mode : Option StudyMode) (optionId : Option UInt64) (course : Course) : Prop where
  provider : providerId = some course.providerId
  number : courseId = some course.id
  listed : catalog.courses.find? (·.id == course.id) = some course
  modeOffered : ∀ answered, mode = some answered →
    ∃ option, catalog.Offers course.id option ∧ option.studyMode = answered
  optionOffered : ∀ id, optionId = some id →
    ∃ option, catalog.Offers course.id option ∧ option.id = id

def shapeOf (catalog : Catalog) (providerId courseId : UInt64) : Option CourseShape :=
  match catalog.courses.find? (·.id == courseId) with
  | none => none
  | some course =>
    if course.providerId ≠ providerId then none
    else some ⟨course, (catalog.options.filter (·.courseId == course.id)).filter (·.isAvailable)⟩

def named (catalog : Catalog) : Option UInt64 → Option UInt64 → Option CourseShape
  | some providerId, some courseId => catalog.shapeOf providerId courseId
  | _, _ => none

variable {catalog other : Catalog} {providerId courseId : UInt64} {shape : CourseShape}

theorem Agrees.named (agrees : catalog.Agrees other) (providerId courseId : Option UInt64) :
    other.named providerId courseId = catalog.named providerId courseId := by
  unfold Catalog.named Catalog.shapeOf
  rw [agrees.courses, agrees.options]

theorem named_eq_some {provider course : Option UInt64}
    (found : catalog.named provider course = some shape) :
    ∃ providerId courseId, provider = some providerId ∧ course = some courseId ∧
      catalog.shapeOf providerId courseId = some shape := by
  unfold named at found
  split at found
  · rename_i providerId courseId
    exact ⟨providerId, courseId, rfl, rfl, found⟩
  · contradiction

theorem Available.check (available : catalog.Available) (call : Call) :
    catalog.outage.check call = .ok () := by
  unfold Available at available
  simp [Outage.check, available]

theorem provider_eq_find? {id : UInt64} {found : Option Provider}
    (looked : catalog.provider id = .ok found) : found = catalog.providers.find? (·.id == id) := by
  obtain ⟨-, -, looked⟩ := exists_of_bind_eq_ok looked
  exact (Except.ok.inj looked).symm

theorem course_eq_find? {id : UInt64} {found : Option Course}
    (looked : catalog.course id = .ok found) : found = catalog.courses.find? (·.id == id) := by
  obtain ⟨-, -, looked⟩ := exists_of_bind_eq_ok looked
  exact (Except.ok.inj looked).symm

theorem courseOptions_eq_filter {id : UInt64} {found : List CourseOption}
    (looked : catalog.courseOptions id = .ok found) :
    found = catalog.options.filter (·.courseId == id) := by
  obtain ⟨-, -, looked⟩ := exists_of_bind_eq_ok looked
  exact (Except.ok.inj looked).symm

theorem filter_forMode_none (options : List CourseOption) :
    options.filter (forMode none) = options :=
  List.filter_eq_self.mpr fun _ _ => rfl

theorem load_eq_shapeOf {found : Option CourseShape}
    (loaded : CourseShape.load catalog providerId courseId = .ok found) :
    found = catalog.shapeOf providerId courseId := by
  unfold shapeOf
  obtain ⟨course, looked, loaded⟩ := exists_of_bind_eq_ok loaded
  rw [← course_eq_find? looked]
  cases course with
  | none => exact (Except.ok.inj loaded).symm
  | some course =>
    dsimp only at loaded ⊢
    split at loaded
    · rename_i foreign
      rw [if_pos foreign]
      exact (Except.ok.inj loaded).symm
    · rename_i theirs
      rw [if_neg theirs]
      obtain ⟨available, picks, loaded⟩ := exists_of_bind_eq_ok loaded
      obtain ⟨options, listed, picks⟩ := exists_of_bind_eq_ok picks
      obtain rfl := Except.ok.inj loaded
      obtain rfl := Except.ok.inj picks
      rw [courseOptions_eq_filter listed, filter_forMode_none]

theorem load_of_available (available : catalog.Available) (providerId courseId : UInt64) :
    CourseShape.load catalog providerId courseId = .ok (catalog.shapeOf providerId courseId) := by
  unfold CourseShape.load shapeOf
  simp only [Catalog.course, availableOptions, Catalog.courseOptions, available.check, bind,
    Except.bind, pure, Except.pure, filter_forMode_none]
  cases catalog.courses.find? (·.id == courseId) with
  | none => rfl
  | some course =>
    dsimp only
    split <;> rfl

def look {κ : Type} (catalog : Catalog) (missing : κ) (notOffered : UInt64 → UInt64 → κ) :
    Option UInt64 → Option UInt64 → Except (Failure κ) CourseShape
  | some providerId, some courseId => do
    match ← Failure.ofLookup (CourseShape.load catalog providerId courseId) with
    | some shape => return shape
    | none => throw (.violated (notOffered courseId providerId))
  | _, _ => throw (.violated missing)

section

variable {κ : Type} {missing : κ} {notOffered : UInt64 → UInt64 → κ}
variable {provider course : Option UInt64}

theorem named_of_look (looked : catalog.look missing notOffered provider course = .ok shape) :
    catalog.named provider course = some shape := by
  unfold look at looked
  unfold named
  split at looked
  · rename_i providerId courseId
    obtain ⟨found, loaded, looked⟩ := exists_of_bind_eq_ok looked
    have records := load_eq_shapeOf (Failure.eq_ok_of_ofLookup loaded)
    cases found with
    | none => simp [throw, throwThe, MonadExceptOf.throw] at looked
    | some found =>
      obtain rfl := Except.ok.inj looked
      exact records.symm
  · simp [throw, throwThe, MonadExceptOf.throw] at looked

theorem look_of_named (available : catalog.Available)
    (found : catalog.named provider course = some shape) :
    catalog.look missing notOffered provider course = .ok shape := by
  obtain ⟨providerId, courseId, rfl, rfl, records⟩ := named_eq_some found
  simp only [look, load_of_available available, records, Failure.ofLookup_ok, bind, Except.bind,
    pure, Except.pure]

end

theorem shapeOf_eq_some (found : catalog.shapeOf providerId courseId = some shape) :
    catalog.courses.find? (·.id == courseId) = some shape.course ∧ shape.course.id = courseId ∧
      shape.course.providerId = providerId ∧
      ∀ option, option ∈ shape.available ↔ catalog.Offers courseId option := by
  unfold shapeOf at found
  cases known : catalog.courses.find? (·.id == courseId) with
  | none => simp [known] at found
  | some course =>
    simp only [known] at found
    split at found
    · contradiction
    · rename_i theirs
      obtain rfl := Option.some.inj found
      have number : course.id = courseId := by simpa using List.find?_some known
      refine ⟨rfl, number, Decidable.not_not.mp theirs, fun option => ⟨fun member => ?_, ?_⟩⟩
      · simp only [List.mem_filter, beq_iff_eq, CourseOption.isAvailable,
          CourseOption.hasVacancies, Bool.and_eq_true, decide_eq_true_eq] at member
        obtain ⟨⟨listed, ofCourse⟩, vacant, siteValid⟩ := member
        exact ⟨listed, ofCourse.trans number, vacant, siteValid⟩
      · rintro ⟨listed, ofCourse, vacant, siteValid⟩
        simp only [List.mem_filter, beq_iff_eq, CourseOption.isAvailable,
          CourseOption.hasVacancies, Bool.and_eq_true, decide_eq_true_eq]
        exact ⟨⟨listed, ofCourse.trans number.symm⟩, vacant, siteValid⟩

theorem belongs_of_named {provider course : Option UInt64} {mode : Option StudyMode}
    {optionId : Option UInt64} (found : catalog.named provider course = some shape)
    (modeOffered : ∀ answered, mode = some answered →
      ∃ option ∈ shape.available, option.studyMode = answered)
    (optionOffered : ∀ id, optionId = some id → ∃ option ∈ shape.available, option.id = id) :
    catalog.Belongs provider course mode optionId shape.course := by
  obtain ⟨providerId, courseId, rfl, rfl, records⟩ := named_eq_some found
  obtain ⟨listed, rfl, rfl, available⟩ := shapeOf_eq_some records
  refine ⟨rfl, rfl, listed, fun answered given => ?_, fun id given => ?_⟩
  · obtain ⟨option, member, moded⟩ := modeOffered answered given
    exact ⟨option, (available option).mp member, moded⟩
  · obtain ⟨option, member, number⟩ := optionOffered id given
    exact ⟨option, (available option).mp member, number⟩

end Catalog

namespace CourseShape

variable {shape : CourseShape} {mode : StudyMode} {option : CourseOption}

theorem mem_optionsFor {asked : Option StudyMode} :
    option ∈ shape.optionsFor asked ↔
      option ∈ shape.available ∧ ∀ mode, asked = some mode → option.studyMode = mode := by
  cases asked with
  | none => simp [optionsFor, Catalog.forMode]
  | some mode => simp [optionsFor, Catalog.forMode]

theorem offers_iff :
    shape.offers mode = true ↔ ∃ option ∈ shape.available, option.studyMode = mode := by
  simp [offers]

theorem multipleStudyModes_iff :
    shape.multipleStudyModes = true ↔
      ∀ mode, ∃ option ∈ shape.available, option.studyMode = mode := by
  simp only [multipleStudyModes, Bool.and_eq_true, offers_iff]
  constructor
  · rintro ⟨full, part⟩ mode
    cases mode with
    | fullTime => exact full
    | partTime => exact part
  · exact fun every => ⟨every .fullTime, every .partTime⟩

theorem multipleSites_iff {asked : Option StudyMode} :
    shape.multipleSites asked = true ↔
      ∃ first ∈ shape.optionsFor asked, ∃ second ∈ shape.optionsFor asked,
        first.siteId ≠ second.siteId := by
  unfold multipleSites
  cases shape.optionsFor asked with
  | nil => simp
  | cons head rest =>
    simp only [List.any_eq_true, decide_eq_true_eq]
    constructor
    · rintro ⟨option, member, apart⟩
      exact ⟨option, List.mem_cons_of_mem _ member, head, by simp, apart⟩
    · rintro ⟨first, isFirst, second, isSecond, apart⟩
      -- One of two different sites differs from the site of the head.
      by_cases same : first.siteId = head.siteId
      · have other : second.siteId ≠ head.siteId := fun equal => apart (same.trans equal.symm)
        rcases List.mem_cons.mp isSecond with rfl | member
        · exact absurd rfl other
        · exact ⟨second, member, other⟩
      · rcases List.mem_cons.mp isFirst with rfl | member
        · exact absurd rfl same
        · exact ⟨first, member, same⟩

theorem optionsFor_of_single (single : shape.multipleStudyModes = false)
    (offered : shape.offers mode = true) : shape.optionsFor (some mode) = shape.available := by
  refine List.filter_eq_self.mpr fun option member => ?_
  have own : shape.offers option.studyMode = true := offers_iff.mpr ⟨option, member, rfl⟩
  simp only [Catalog.forMode, decide_eq_true_eq]
  cases modes : option.studyMode <;> cases mode <;>
    simp_all [multipleStudyModes]

theorem pick_eq_some {asked : Option StudyMode} {optionId : Option UInt64}
    (picked : shape.pick asked optionId = some option) :
    option ∈ shape.optionsFor asked ∧ ∀ id, optionId = some id → option.id = id := by
  cases optionId with
  | none => exact ⟨List.mem_of_head? picked, by simp⟩
  | some id =>
    have number := List.find?_some picked
    refine ⟨List.mem_of_find?_eq_some picked, fun other same => ?_⟩
    cases same
    simpa using number

/-- The mode in which the sites of a course are asked for: none where it has only one. -/
def askedMode (shape : CourseShape) (mode : Option StudyMode) : Option StudyMode :=
  if shape.multipleStudyModes then mode else none

theorem multipleSites_askedMode (offered : shape.offers mode = true) :
    shape.multipleSites (shape.askedMode (some mode)) = shape.multipleSites (some mode) := by
  cases both : shape.multipleStudyModes with
  | true => simp [askedMode, both]
  | false =>
    have whole : shape.optionsFor none = shape.available := Catalog.filter_forMode_none _
    simp only [askedMode, both, Bool.false_eq_true, ↓reduceIte, multipleSites, whole,
      optionsFor_of_single both offered]

theorem multipleSites_of_pick {asked : Option StudyMode} {optionId : Option UInt64}
    (picked : shape.pick asked optionId = some option) :
    shape.multipleSites (shape.askedMode asked) = shape.multipleSites asked := by
  cases asked with
  | none => simp [askedMode]
  | some mode =>
    obtain ⟨available, moded⟩ := mem_optionsFor.mp (pick_eq_some picked).1
    exact multipleSites_askedMode (offers_iff.mpr ⟨option, available, moded mode rfl⟩)

theorem multipleSites_of_one {asked : Option StudyMode} (one : shape.multipleSites none = false) :
    shape.multipleSites asked = false := by
  cases several : shape.multipleSites asked with
  | false => rfl
  | true =>
    have within {option : CourseOption} (member : option ∈ shape.optionsFor asked) :
        option ∈ shape.optionsFor none :=
      mem_optionsFor.mpr ⟨(mem_optionsFor.mp member).1, by simp⟩
    obtain ⟨first, isFirst, second, isSecond, apart⟩ := multipleSites_iff.mp several
    have whole := multipleSites_iff.mpr ⟨first, within isFirst, second, within isSecond, apart⟩
    rw [one] at whole
    contradiction

structure Asked (shape : CourseShape) (mode : Option StudyMode) (optionId : Option UInt64) :
    Prop where
  modeGiven : shape.multipleStudyModes = true → mode.isSome = true
  siteGiven : shape.multipleSites (shape.askedMode mode) = true → optionId.isSome = true

structure Answered (shape : CourseShape) (mode : Option StudyMode) (optionId : Option UInt64) :
    Prop extends shape.Asked mode optionId where
  available : shape.available ≠ []
  picked : shape.multipleSites (shape.askedMode mode) = true →
    (shape.pick mode optionId).isSome = true

def LeftOver (shape : CourseShape) (mode : Option StudyMode) (optionId : Option UInt64) : Prop :=
  ∃ id, optionId = some id ∧ ∀ option ∈ shape.optionsFor mode, option.id ≠ id

theorem pick_eq_none_of_leftOver {asked : Option StudyMode} {optionId : Option UInt64}
    (leftOver : shape.LeftOver asked optionId) : shape.pick asked optionId = none := by
  obtain ⟨id, rfl, absent⟩ := leftOver
  refine List.find?_eq_none.mpr fun option member => ?_
  simpa using absent option member

theorem pick_isSome_of_not_leftOver {asked : Option StudyMode} {optionId : Option UInt64}
    (available : shape.available ≠ [])
    (offered : ∀ mode, asked = some mode → shape.offers mode = true)
    (fresh : ¬shape.LeftOver asked optionId) : (shape.pick asked optionId).isSome = true := by
  cases optionId with
  | none =>
    have filled : ∃ option, option ∈ shape.optionsFor asked := by
      cases asked with
      | none =>
        obtain ⟨option, member⟩ := List.exists_mem_of_ne_nil _ available
        exact ⟨option, mem_optionsFor.mpr ⟨member, by simp⟩⟩
      | some mode =>
        obtain ⟨option, member, moded⟩ := offers_iff.mp (offered mode rfl)
        refine ⟨option, mem_optionsFor.mpr ⟨member, fun other same => ?_⟩⟩
        rw [moded, Option.some.inj same]
    obtain ⟨option, member⟩ := filled
    simpa [pick] using List.ne_nil_of_mem member
  | some id =>
    rw [pick, List.find?_isSome]
    refine Classical.byContradiction fun absent => fresh ⟨id, rfl, fun option member same => ?_⟩
    exact absent ⟨option, member, by simpa using same⟩

/-- An option is left over only where the mode was changed to one that has a single site. -/
theorem LeftOver.single_site {asked : Option StudyMode} {optionId : Option UInt64}
    (leftOver : shape.LeftOver asked optionId) (answered : shape.Answered asked optionId)
    (offered : ∀ mode, asked = some mode → shape.offers mode = true)
    (listed : ∀ id, optionId = some id → ∃ option ∈ shape.available, option.id = id) :
    shape.multipleStudyModes = true ∧ shape.multipleSites asked = false := by
  have unpicked := pick_eq_none_of_leftOver leftOver
  obtain ⟨id, given, absent⟩ := leftOver
  have both : shape.multipleStudyModes = true := by
    cases single : shape.multipleStudyModes with
    | true => rfl
    | false =>
      have whole : shape.optionsFor asked = shape.available := by
        cases asked with
        | none => exact Catalog.filter_forMode_none _
        | some mode => exact optionsFor_of_single single (offered mode rfl)
      obtain ⟨option, member, number⟩ := listed id given
      exact absurd number (absent option (whole ▸ member))
  refine ⟨both, ?_⟩
  cases several : shape.multipleSites asked with
  | false => rfl
  | true =>
    have picked := answered.picked (by simpa [askedMode, both] using several)
    rw [unpicked] at picked
    contradiction

end CourseShape

namespace Catalog

variable {catalog : Catalog} {providerId courseId : UInt64} {shape : CourseShape}

theorem multipleStudyModes_iff_bothModes
    (found : catalog.shapeOf providerId courseId = some shape) :
    shape.multipleStudyModes = true ↔ catalog.BothModes courseId := by
  obtain ⟨-, -, -, offered⟩ := shapeOf_eq_some found
  simp only [CourseShape.multipleStudyModes_iff, BothModes, offered]

theorem leftOver_iff (found : catalog.shapeOf providerId courseId = some shape)
    (mode : Option StudyMode) (optionId : Option UInt64) :
    shape.LeftOver mode optionId ↔ catalog.LeftOver (some courseId) mode optionId := by
  obtain ⟨-, -, -, offered⟩ := shapeOf_eq_some found
  constructor
  · rintro ⟨id, given, absent⟩
    refine ⟨courseId, id, rfl, given, fun option offers moded => ?_⟩
    exact absent option (CourseShape.mem_optionsFor.mpr ⟨(offered option).mpr offers, moded⟩)
  · rintro ⟨course, id, same, given, absent⟩
    obtain rfl := Option.some.inj same
    refine ⟨id, given, fun option member => ?_⟩
    obtain ⟨available, moded⟩ := CourseShape.mem_optionsFor.mp member
    exact absent option ((offered option).mp available) moded

theorem settles_of_pick {mode : Option StudyMode} {optionId : Option UInt64}
    {option : CourseOption} (found : catalog.shapeOf providerId courseId = some shape)
    (picked : shape.pick mode optionId = some option) (asked : shape.Asked mode optionId) :
    catalog.Settles mode optionId shape.course option := by
  obtain ⟨-, number, -, offered⟩ := shapeOf_eq_some found
  obtain ⟨member, numbered⟩ := CourseShape.pick_eq_some picked
  obtain ⟨available, moded⟩ := CourseShape.mem_optionsFor.mp member
  have modes := multipleStudyModes_iff_bothModes found
  subst number
  have answered (both : catalog.BothModes shape.course.id) : mode = some option.studyMode := by
    cases mode with
    | none => simpa using asked.modeGiven (modes.mpr both)
    | some mode => rw [moded mode rfl]
  refine ⟨(offered option).mp available, answered, ?_⟩
  rintro ⟨first, second, isFirst, isSecond, apart, sameMode⟩
  -- What is offered in the mode of the option is among those whose sites were asked for.
  have eligible {other : CourseOption} (offers : catalog.Offers shape.course.id other)
      (fits : catalog.BothModes shape.course.id → other.studyMode = option.studyMode) :
      other ∈ shape.optionsFor (shape.askedMode mode) := by
    refine CourseShape.mem_optionsFor.mpr ⟨(offered other).mpr offers, fun askedMode same => ?_⟩
    unfold CourseShape.askedMode at same
    split at same
    · rename_i both
      rw [answered (modes.mp both)] at same
      exact (fits (modes.mp both)).trans (Option.some.inj same)
    · contradiction
  have several : shape.multipleSites (shape.askedMode mode) = true :=
    CourseShape.multipleSites_iff.mpr
      ⟨first, eligible isFirst fun both => (sameMode both).1,
        second, eligible isSecond fun both => (sameMode both).2, apart⟩
  cases optionId with
  | none => simpa using asked.siteGiven several
  | some id => rw [numbered id rfl]

end Catalog

end Admissions
