import Admissions.Applications.Service
import Admissions.Json.Printer

namespace Admissions.CommandLine

open Json (Value)
open Calendar (Date)

def rightAligned (n : Nat) : String :=
  let digits := Nat.toDigits 10 n
  String.ofList (List.replicate (3 - digits.length) ' ' ++ digits)

def rowText (row : TaskViewRow) : String :=
  let deadline := match row.rejectByDefaultAt with
    | none => ""
    | some deadline => " (rejected by default on " ++ deadline.date.govukText ++ ")"
  "  [" ++ rightAligned row.bucket ++ "] #" ++ toString row.choice.toNat ++ " " ++
    row.group.getD "ungrouped" ++ " " ++ row.status ++ deadline

def rowTexts (rows : List TaskViewRow) : List String :=
  if rows.isEmpty then ["  No applications"] else rows.map rowText

def lines (texts : List String) : String := String.join (texts.map (· ++ "\n"))

def taskViewText (providerId : UInt64) (today : Date) (rows : List TaskViewRow) : String :=
  lines (("Task view for provider " ++ toString providerId.toNat ++ " on " ++ today.govukText) ::
    rowTexts rows)

def taskViewJson (rows : List TaskViewRow) : String :=
  lines [(Value.list (fun row => .object row.members) rows).indentedText]

def submissionText (choice : UInt64) (blocking : Option EligibilityError) : String :=
  let subject := "Application choice " ++ toString choice.toNat
  match blocking with
  | none => lines [subject ++ " can be submitted"]
  | some error =>
    lines [subject ++ " cannot be submitted (" ++ error.check.key ++ "): " ++ error.message,
      "  Next step: " ++ error.remedy.label]

end Admissions.CommandLine
