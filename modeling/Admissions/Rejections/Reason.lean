import Admissions.Json.Decoding

namespace Admissions.Rejections

open Json (Value)

structure DetailsBox where
  id : String
  label : String
deriving DecidableEq

inductive Reason where
  | mk (id label : String) (details : Option DetailsBox) (subReasons : List Reason)

namespace Reason

def id : Reason → String
  | mk id _ _ _ => id

def label : Reason → String
  | mk _ label _ _ => label

def details : Reason → Option DetailsBox
  | mk _ _ details _ => details

def subReasons : Reason → List Reason
  | mk _ _ _ subReasons => subReasons

def make (id label : String) (details : Option String) (subReasons : List Reason) : Reason :=
  mk id label (details.map fun text => ⟨id ++ "_details", text⟩) subReasons

def leaf (id label : String) : Reason := make id label none []

def detailed (id label details : String) : Reason := make id label (some details) []

def group (id label : String) (subReasons : List Reason) : Reason := make id label none subReasons

end Reason

def findReason (reasons : List Reason) (id : String) : Option Reason :=
  reasons.find? (·.id == id)

def followPath (reasons : List Reason) : List String → Option Reason
  | [] => none
  | [id] => findReason reasons id
  | id :: rest => do followPath (← findReason reasons id).subReasons rest

def DetailsBox.toJson (box : DetailsBox) : Value :=
  .record [("id", .string box.id), ("label", .string box.label)]

mutual

def Reason.toJson : Reason → Value
  | .mk id label details subReasons =>
    .record [("id", .string id), ("label", .string label),
      ("details", .optional DetailsBox.toJson details),
      ("sub_reasons", .array (reasonsToJson subReasons))]

def reasonsToJson : List Reason → List Value
  | [] => []
  | reason :: rest => reason.toJson :: reasonsToJson rest

end

/-- Reads a configured reason at most `depth` records deep: an id, a label, the label of a details
    box if there is one, and the reasons below. -/
def Reason.ofJsonWithin? : Nat → Value → Option Reason
  | 0, _ => none
  | depth + 1, value => do
    let record ← value.record? ["id", "label", "details", "sub_reasons"]
    let id ← record.required "id" Value.string?
    let label ← record.required "label" Value.string?
    let details ← record.optional "details" Value.string?
    let subReasons ← record.withDefault "sub_reasons" (Value.list? (ofJsonWithin? depth)) []
    return make id label details subReasons

def Reason.ofJson? (value : Value) : Option Reason := ofJsonWithin? (value.depth + 1) value

def standardReasons : List Reason := [
  .group "qualifications" "Qualifications" [
    .leaf "no_maths_gcse" "No maths GCSE at minimum grade 4 or C, or equivalent",
    .leaf "no_english_gcse" "No English GCSE at minimum grade 4 or C, or equivalent",
    .leaf "no_science_gcse" "No science GCSE at minimum grade 4 or C, or equivalent",
    .leaf "no_degree" "No bachelor's degree or equivalent",
    .detailed "unverified_qualifications" "Could not verify qualifications"
      "Details about why you could not verify qualifications",
    .detailed "unsuitable_degree" "Degree does not meet course requirements"
      "Details about why the degree does not meet course requirements",
    .detailed "qualifications_other" "Other" "Details about the qualifications"],
  .group "personal_statement" "Personal statement" [
    .detailed "quality_of_writing" "Quality of writing" "Details about the quality of writing",
    .detailed "personal_statement_other" "Other" "Details about the personal statement"],
  .group "teaching_knowledge" "Teaching knowledge, ability and interview performance" [
    .detailed "subject_knowledge" "Subject knowledge" "Details about subject knowledge",
    .detailed "safeguarding_knowledge" "Safeguarding knowledge"
      "Details about safeguarding knowledge",
    .detailed "teaching_method_knowledge" "Teaching method knowledge"
      "Details about teaching method knowledge",
    .detailed "teaching_role_knowledge" "Knowledge of the teaching role"
      "Details about knowledge of the teaching role",
    .detailed "teaching_demonstration" "Teaching demonstration"
      "Details about the teaching demonstration",
    .detailed "teaching_knowledge_other" "Other" "Details about teaching knowledge"],
  .group "communication_and_scheduling" "Communication, interview attendance and scheduling" [
    .detailed "english_below_standard" "English language ability below expected standard"
      "Details about English language ability",
    .leaf "did_not_reply" "Did not reply to messages",
    .detailed "did_not_attend_interview" "Did not attend interview"
      "Details about interview attendance",
    .detailed "could_not_arrange_interview" "Could not arrange interview"
      "Details about arranging an interview",
    .detailed "communication_and_scheduling_other" "Other"
      "Details about communication or scheduling"],
  .detailed "safeguarding" "Safeguarding" "Details about the safeguarding issue",
  .detailed "visa_sponsorship" "Cannot sponsor visa"
    "Details about why you cannot sponsor a visa",
  .leaf "course_full" "Course full",
  .detailed "other" "Other" "Details about the reason"]

end Admissions.Rejections
