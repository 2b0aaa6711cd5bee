import Admissions.Calendar.Reading
import Admissions.Text.Numeral

namespace Admissions.CommandLine

open Calendar (Date)

inductive Command where
  | serve (host : Option String) (port : Option UInt16) (fixture : Option String)
  | taskView (fixture : String) (providerId : UInt64) (today : Option Date) (json : Bool)
  | checkSubmission (fixture : String) (choice : UInt64) (today : Option Date)
deriving DecidableEq

inductive Invocation where
  | run (command : Command)
  | help
  | version
deriving DecidableEq

inductive Kind where
  | switch
  | text
  | path
  | port
  | id
  | date
deriving DecidableEq

def Kind.accepts (kind : Kind) (value : String) : Bool :=
  match kind with
  | .switch => false
  | .text => true
  | .path => !value.isEmpty
  | .port => (Text.readSigned 0 65535 value).isSome
  | .id => (Text.readUInt64 value).isSome
  | .date => (Date.readPlain value).toOption.isSome

abbrev Options := List (String × Kind)

/-- Options as given, with their values; a switch has the empty one. -/
abbrev Given := List (String × String)

inductive Reading where
  | options (given : Given)
  | help

def isLoose (argument : String) : Bool :=
  match argument.toList with
  | '-' :: _ :: _ => false
  | _ => true

def longOption? (argument : String) : Option (String × Option String) :=
  match argument.toList with
  | '-' :: '-' :: body =>
    let name := body.takeWhile (· ≠ '=')
    let value := match body.drop name.length with
      | [] => none
      | _ :: value => some (String.ofList value)
    some (String.ofList name, value)
  | _ => none

def startsShort (letter : Char) (argument : String) : Bool :=
  match argument.toList with
  | '-' :: c :: _ => c = letter
  | _ => false

def take? (options : Options) (given : Given) (name value : String) : Option Given := do
  let kind ← options.lookup name
  if (given.lookup name).isSome then none
  else if kind = .switch ∨ kind.accepts value then some ((name, value) :: given)
  else none

def readOptions (options : Options) (given : Given) : List String → Option Reading
  | [] => some (.options given)
  | ["--"] => some (.options given)
  | argument :: rest =>
    if startsShort 'h' argument then some .help
    else
      match longOption? argument with
      | none => none
      | some (name, some value) =>
        if options.lookup name = some .switch then none
        else do readOptions options (← take? options given name value) rest
      | some ("help", none) => some .help
      | some (name, none) =>
        if options.lookup name = some .switch then do
          readOptions options (← take? options given name "") rest
        else
          match rest with
          | value :: rest =>
            if isLoose value then do readOptions options (← take? options given name value) rest
            else none
          | [] => none

def serveOptions : Options := [("host", .text), ("port", .port), ("fixture", .path)]

def taskViewOptions : Options :=
  [("fixture", .path), ("provider-id", .id), ("today", .date), ("json", .switch)]

def checkSubmissionOptions : Options :=
  [("fixture", .path), ("application-choice-id", .id), ("today", .date)]

def dateOf (given : Given) : Option Date := do
  (Date.readPlain (← given.lookup "today")).toOption

def serve (given : Given) : Command :=
  let port := (given.lookup "port").bind (Text.readSigned 0 65535)
  .serve (given.lookup "host") (port.map fun n => UInt16.ofNat n.toNat) (given.lookup "fixture")

def taskView? (given : Given) : Option Command := do
  return .taskView (← given.lookup "fixture")
    (← (given.lookup "provider-id").bind Text.readUInt64) (dateOf given)
    (given.lookup "json").isSome

def checkSubmission? (given : Given) : Option Command := do
  return .checkSubmission (← given.lookup "fixture")
    (← (given.lookup "application-choice-id").bind Text.readUInt64) (dateOf given)

def commandOf? (options : Options) (make? : Given → Option Command) (arguments : List String) :
    Option Invocation := do
  match ← readOptions options [] arguments with
  | .options given => return .run (← make? given)
  | .help => return .help

def commandNames : List String := ["serve", "task-view", "check-submission", "help"]

/-- The commands that `help` is asked about: none, one of them, or `help` and so on. -/
def helpKnows : List String → Bool
  | [] => true
  | ["help"] => true
  | [name] => commandNames.contains name
  | _ => false

def read? : List String → Option Invocation
  | [] => some (.run (.serve none none none))
  | ["--"] => some (.run (.serve none none none))
  | "serve" :: rest => commandOf? serveOptions (some ∘ serve) rest
  | "task-view" :: rest => commandOf? taskViewOptions taskView? rest
  | "check-submission" :: rest => commandOf? checkSubmissionOptions checkSubmission? rest
  | "help" :: rest => if helpKnows rest then some .help else none
  | argument :: _ =>
    if argument = "--help" ∨ startsShort 'h' argument then some .help
    else if argument = "--version" ∨ startsShort 'V' argument then some .version
    else none

end Admissions.CommandLine
