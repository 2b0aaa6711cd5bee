import Admissions.Course
import Admissions.RecordError

namespace Admissions

open Json (Value)

namespace Catalog

inductive Call where
  | provider
  | course
  | courseOptions
deriving DecidableEq

namespace Call

def all : List Call := [.provider, .course, .courseOptions]

def name : Call → String
  | .provider => "provider"
  | .course => "course"
  | .courseOptions => "course_options"

end Call

end Catalog

structure Catalog where
  providers : List Provider
  courses : List Course
  options : List CourseOption
  outage : Outage Catalog.Call

namespace Catalog

def empty : Catalog := ⟨[], [], [], .none⟩

def Available (catalog : Catalog) : Prop := catalog.outage.calls = []

def provider (catalog : Catalog) (id : UInt64) : Except RecordError (Option Provider) := do
  catalog.outage.check .provider
  return catalog.providers.find? (·.id == id)

def course (catalog : Catalog) (id : UInt64) : Except RecordError (Option Course) := do
  catalog.outage.check .course
  return catalog.courses.find? (·.id == id)

def courseOptions (catalog : Catalog) (courseId : UInt64) :
    Except RecordError (List CourseOption) := do
  catalog.outage.check .courseOptions
  return catalog.options.filter (·.courseId == courseId)

def courseOption (catalog : Catalog) (courseId optionId : UInt64) :
    Except RecordError (Option CourseOption) := do
  return (← catalog.courseOptions courseId).find? (·.id == optionId)

def forMode (mode : Option StudyMode) (option : CourseOption) : Bool :=
  match mode with
  | none => true
  | some mode => option.studyMode = mode

def availableOptions (catalog : Catalog) (courseId : UInt64) (mode : Option StudyMode) :
    Except RecordError (List CourseOption) := do
  return ((← catalog.courseOptions courseId).filter (·.isAvailable)).filter (forMode mode)

end Catalog

structure CourseShape where
  course : Course
  available : List CourseOption

namespace CourseShape

/-- Nothing for a course that is unknown or belongs to another provider. -/
def load (catalog : Catalog) (providerId courseId : UInt64) :
    Except RecordError (Option CourseShape) := do
  match ← catalog.course courseId with
  | none => return none
  | some course =>
    if course.providerId ≠ providerId then return none
    return some { course, available := ← catalog.availableOptions course.id none }

def offers (shape : CourseShape) (mode : StudyMode) : Bool :=
  shape.available.any (·.studyMode = mode)

def multipleStudyModes (shape : CourseShape) : Bool :=
  shape.offers .fullTime && shape.offers .partTime

def optionsFor (shape : CourseShape) (mode : Option StudyMode) : List CourseOption :=
  shape.available.filter (Catalog.forMode mode)

def multipleSites (shape : CourseShape) (mode : Option StudyMode) : Bool :=
  match shape.optionsFor mode with
  | [] => false
  | first :: rest => rest.any (·.siteId ≠ first.siteId)

def pick (shape : CourseShape) (mode : Option StudyMode) (optionId : Option UInt64) :
    Option CourseOption :=
  match optionId with
  | none => (shape.optionsFor mode).head?
  | some id => (shape.optionsFor mode).find? (·.id == id)

end CourseShape

end Admissions
