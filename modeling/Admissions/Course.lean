import Admissions.Calendar.Json
import Admissions.Json.Shape

namespace Admissions

open Json (Value Shape)
open Calendar (Date)

inductive StudyMode where
  | fullTime
  | partTime
deriving DecidableEq

namespace StudyMode

def all : List StudyMode := [.fullTime, .partTime]

def name : StudyMode → String
  | .fullTime => "full_time"
  | .partTime => "part_time"

def toJson (mode : StudyMode) : Value := .string mode.name

def ofJson? : Value → Option StudyMode := Value.choice? name all

end StudyMode

inductive CourseLevel where
  | primary
  | secondary
  | furtherEducation
deriving DecidableEq

namespace CourseLevel

def all : List CourseLevel := [.primary, .secondary, .furtherEducation]

def name : CourseLevel → String
  | .primary => "primary"
  | .secondary => "secondary"
  | .furtherEducation => "further_education"

def toJson (level : CourseLevel) : Value := .string level.name

def ofJson? : Value → Option CourseLevel := Value.choice? name all

end CourseLevel

inductive VacancyStatus where
  | vacancies
  | noVacancies
deriving DecidableEq

namespace VacancyStatus

def all : List VacancyStatus := [.vacancies, .noVacancies]

def name : VacancyStatus → String
  | .vacancies => "vacancies"
  | .noVacancies => "no_vacancies"

def toJson (status : VacancyStatus) : Value := .string status.name

def ofJson? : Value → Option VacancyStatus := Value.choice? name all

end VacancyStatus

structure Provider where
  id : UInt64
  code : String
  name : String
deriving DecidableEq

namespace Provider

def fields : List String := ["id", "code", "name"]

def shape : Shape := .record (fields.map (·, .atom))

def toJson (provider : Provider) : Value :=
  .record [("id", .uint64 provider.id), ("code", .string provider.code),
    ("name", .string provider.name)]

def ofJson? (value : Value) : Option Provider := do
  let record ← value.record? fields
  return {
    id := ← record.required "id" Value.uint64?
    code := ← record.required "code" Value.string?
    name := ← record.required "name" Value.string? }

end Provider

structure Course where
  id : UInt64
  providerId : UInt64
  code : String
  name : String
  level : CourseLevel
  subjectCodes : List String
  recruitmentCycleYear : Int32
  applicationsOpenFrom : Date
  exposedInFind : Bool
deriving DecidableEq

namespace Course

def fields : List String :=
  ["id", "provider_id", "code", "name", "level", "subject_codes", "recruitment_cycle_year",
    "applications_open_from", "exposed_in_find"]

def shape : Shape := .record (fields.map fun field =>
  (field, if field = "subject_codes" then .list .atom else .atom))

def toJson (course : Course) : Value :=
  .record [("id", .uint64 course.id), ("provider_id", .uint64 course.providerId),
    ("code", .string course.code), ("name", .string course.name), ("level", course.level.toJson),
    ("subject_codes", .list .string course.subjectCodes),
    ("recruitment_cycle_year", .int32 course.recruitmentCycleYear),
    ("applications_open_from", course.applicationsOpenFrom.toJson),
    ("exposed_in_find", .bool course.exposedInFind)]

def ofJson? (value : Value) : Option Course := do
  let record ← value.record? fields
  return {
    id := ← record.required "id" Value.uint64?
    providerId := ← record.required "provider_id" Value.uint64?
    code := ← record.required "code" Value.string?
    name := ← record.required "name" Value.string?
    level := ← record.required "level" CourseLevel.ofJson?
    subjectCodes := ← record.withDefault "subject_codes" (Value.list? Value.string?) []
    recruitmentCycleYear := ← record.required "recruitment_cycle_year" Value.int32?
    applicationsOpenFrom := ← record.required "applications_open_from" Calendar.Date.ofJson?
    exposedInFind := ← record.required "exposed_in_find" Value.bool? }

def opensBy (course : Course) (today : Date) : Bool := course.applicationsOpenFrom ≤ today

end Course

structure CourseOption where
  id : UInt64
  courseId : UInt64
  siteId : UInt64
  siteName : String
  studyMode : StudyMode
  vacancyStatus : VacancyStatus
  siteStillValid : Bool
deriving DecidableEq

namespace CourseOption

def fields : List String :=
  ["id", "course_id", "site_id", "site_name", "study_mode", "vacancy_status", "site_still_valid"]

def shape : Shape := .record (fields.map (·, .atom))

def toJson (option : CourseOption) : Value :=
  .record [("id", .uint64 option.id), ("course_id", .uint64 option.courseId),
    ("site_id", .uint64 option.siteId), ("site_name", .string option.siteName),
    ("study_mode", option.studyMode.toJson), ("vacancy_status", option.vacancyStatus.toJson),
    ("site_still_valid", .bool option.siteStillValid)]

def ofJson? (value : Value) : Option CourseOption := do
  let record ← value.record? fields
  return {
    id := ← record.required "id" Value.uint64?
    courseId := ← record.required "course_id" Value.uint64?
    siteId := ← record.required "site_id" Value.uint64?
    siteName := ← record.required "site_name" Value.string?
    studyMode := ← record.required "study_mode" StudyMode.ofJson?
    vacancyStatus := ← record.required "vacancy_status" VacancyStatus.ofJson?
    siteStillValid := ← record.required "site_still_valid" Value.bool? }

def hasVacancies (option : CourseOption) : Bool := option.vacancyStatus = .vacancies

def isAvailable (option : CourseOption) : Bool := option.hasVacancies && option.siteStillValid

end CourseOption

end Admissions
