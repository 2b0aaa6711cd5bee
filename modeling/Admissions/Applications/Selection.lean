import Admissions.Json.Decoding

namespace Admissions

open Json (Value)

structure NewApplicationChoice where
  applicationFormId : UInt64
  providerId : UInt64
  courseId : UInt64
  courseOptionId : UInt64
  recruitmentCycleYear : Int32
deriving DecidableEq

namespace NewApplicationChoice

def fields : List String :=
  ["application_form_id", "provider_id", "course_id", "course_option_id",
    "recruitment_cycle_year"]

def toJson (choice : NewApplicationChoice) : Value :=
  .record [("application_form_id", .uint64 choice.applicationFormId),
    ("provider_id", .uint64 choice.providerId), ("course_id", .uint64 choice.courseId),
    ("course_option_id", .uint64 choice.courseOptionId),
    ("recruitment_cycle_year", .int32 choice.recruitmentCycleYear)]

def ofJson? (value : Value) : Option NewApplicationChoice := do
  let record ← value.record? fields
  return {
    applicationFormId := ← record.required "application_form_id" Value.uint64?
    providerId := ← record.required "provider_id" Value.uint64?
    courseId := ← record.required "course_id" Value.uint64?
    courseOptionId := ← record.required "course_option_id" Value.uint64?
    recruitmentCycleYear := ← record.required "recruitment_cycle_year" Value.int32? }

end NewApplicationChoice

end Admissions
