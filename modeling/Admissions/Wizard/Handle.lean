import Admissions.Wizard.Envelope

namespace Admissions.Wizard

open Json (Value Object)

/-- How a request reached the wizard: `start` drops what an earlier visit left. -/
inductive Entry where
  | start
  | resume
deriving DecidableEq

inductive Visit (σ : Type) where
  | show (s : σ)
  | redirect (s : σ)
deriving DecidableEq

inductive Advance (σ : Type) where
  | next (target : Target σ)
  | invalid (errors : ValidationErrors)
deriving DecidableEq

inductive Saved (ω : Type) where
  | created (output : ω)
  | skipped
deriving DecidableEq

def Visit.toJson {σ : Type} (encode : σ → Value) : Visit σ → Value
  | .show step => .record [("show", encode step)]
  | .redirect step => .record [("redirect", encode step)]

def Advance.toJson {σ : Type} (encode : σ → Value) (name : σ → String) : Advance σ → Value
  | .next target =>
    .record [("next", target.toJson encode),
      ("step", .optional (fun step => .string (name step)) target.step?)]
  | .invalid errors => .record [("invalid", errors.toJson), ("count", .nat errors.size)]

def Saved.toJson {ω : Type} (encode : ω → Value) : Saved ω → Value
  | .created output => .record [("created", encode output)]
  | .skipped => .string "skipped"

structure Handle (wizard : Definition) where
  key : StoreKey
  context : wizard.Context
  step : wizard.Step
  answers : wizard.Answers

structure Session (wizard : Definition) where
  store : Store
  handle : Handle wizard

namespace Handle

variable {wizard : Definition}

def fresh (key : StoreKey) (context : wizard.Context) : Handle wizard :=
  ⟨key, context, wizard.first context, wizard.blank⟩

def load (store : Store) (key : StoreKey) (context : wizard.Context) :
    wizard.Result (Handle wizard) :=
  match store.read key with
  | .error (.unavailable cause) => .error (.store (.unavailable cause))
  | .error (.corrupt _) => .ok (fresh key context)
  | .ok none => .ok (fresh key context)
  | .ok (some state) =>
    match wizard.restore? state with
    | some (step, answers) => .ok ⟨key, context, step, answers⟩
    | none => .ok (fresh key context)

def enter (store : Store) (key : StoreKey) (context : wizard.Context) :
    wizard.Result (Handle wizard) × Store :=
  match store.delete key with
  | (.error error, store) => (.error (.store error), store)
  | (.ok (), store) => (.ok (fresh key context), store)

def openBy (store : Store) (key : StoreKey) (context : wizard.Context) (entry : Entry) :
    wizard.Result (Handle wizard) × Store :=
  match entry with
  | .start => enter store key context
  | .resume => (load store key context, store)

variable (handle : Handle wizard)

def errors : wizard.Result ValidationErrors :=
  wizard.validate handle.step handle.answers handle.context

def next : wizard.Result (Target wizard.Step) := do
  wizard.resolve (← wizard.next handle.step handle.answers handle.context)

def previous : wizard.Result (Target wizard.Step) := do
  wizard.resolve (← wizard.previous handle.step handle.answers handle.context)

def isComplete : wizard.Result Bool :=
  wizard.completed handle.step handle.answers handle.context

/-- Looks for the page on the way from `step`, over at most `fuel` pages. A page with errors, or
    one that leads out, ends the way. -/
def walk (requested : wizard.Step) : Nat → wizard.Step → wizard.Result (Visit wizard.Step)
  | 0, _ => .error (.endlessSteps wizard.name)
  | fuel + 1, step =>
    if step = requested then .ok (.show requested)
    else do
      let errors ← wizard.validate step handle.answers handle.context
      if !errors.isEmpty then return .redirect step
      match ← wizard.resolve (← wizard.next step handle.answers handle.context) with
      | .step following => walk requested fuel following
      | .exit => return .redirect step

/-- Guards against pages that lead back to each other. -/
def longestWalk : Nat := 64

def visit (requested : wizard.Step) : wizard.Result (Visit wizard.Step) × Handle wizard :=
  match handle.walk requested longestWalk (wizard.first handle.context) with
  | .ok (.show step) => (.ok (.show step), { handle with step })
  | outcome => (outcome, handle)

/-- Tries the parameters that the page permits one after the other. A value with which the answers
    no longer decode is left out and reported. -/
def assignAll (answers : Object) (errors : ValidationErrors) :
    Object → Object × ValidationErrors
  | [] => (answers, errors)
  | (name, value) :: rest =>
    if (wizard.permitted handle.step).contains name then
      let trial := wizard.assign handle.step answers name value
      if (wizard.ofJson? (.object trial)).isSome then assignAll trial errors rest
      else assignAll answers (errors.add name "is not a valid value") rest
    else assignAll answers errors rest

inductive Submission (wizard : Definition) where
  | invalid (errors : ValidationErrors)
  | accepted (answers : wizard.Answers) (target : Target wizard.Step)

def submission (params : Object) : wizard.Result (Submission wizard) :=
  if !wizard.writable handle.answers then .error .unwritableState
  else
    match wizard.toJson handle.answers with
    | .object given =>
      let (candidate, errors) := handle.assignAll given .empty params
      if !errors.isEmpty then .ok (.invalid errors)
      else
        match wizard.ofJson? (.object candidate) with
        | none => .error .unreadableAnswers
        | some answers => do
          let errors ← wizard.validate handle.step answers handle.context
          if !errors.isEmpty then return .invalid errors
          let target ← wizard.nextAfterSubmit handle.step answers handle.context
          let target ← wizard.resolve target
          if wizard.stepWritable handle.step && wizard.writable answers then
            return .accepted answers target
          else throw .unwritableState
    | _ => .error (.notAnObject wizard.name)

end Handle

namespace Session

variable {wizard : Definition}

def visit (session : Session wizard) (requested : wizard.Step) :
    wizard.Result (Visit wizard.Step) × Session wizard :=
  let (outcome, handle) := session.handle.visit requested
  (outcome, { session with handle })

/-- Submits parameters to the current page. Answers that pass are stored, and only then held. -/
def advance (session : Session wizard) (params : Object) :
    wizard.Result (Advance wizard.Step) × Session wizard :=
  let handle := session.handle
  match handle.submission params with
  | .error failure => (.error failure, session)
  | .ok (.invalid errors) => (.ok (.invalid errors), session)
  | .ok (.accepted answers target) =>
    match session.store.write handle.key (wizard.envelope handle.step answers) with
    | (.error error, store) => (.error (.store error), { session with store })
    | (.ok (), store) => (.ok (.next target), ⟨store, { handle with answers }⟩)

def clear (session : Session wizard) : wizard.Result Unit × Session wizard :=
  match session.store.delete session.handle.key with
  | (.error error, store) => (.error (.store error), { session with store })
  | (.ok (), store) => (.ok (), ⟨store, .fresh session.handle.key session.handle.context⟩)

def finished (handle : Handle wizard) : wizard.Result (Option wizard.Output) := do
  if !(← handle.errors).isEmpty then return none
  if !(← handle.isComplete) then return none
  return some (← wizard.materialize handle.answers handle.context)

def save (session : Session wizard) : wizard.Result (Saved wizard.Output) × Session wizard :=
  match finished session.handle with
  | .error failure => (.error failure, session)
  | .ok none => (.ok .skipped, session)
  | .ok (some output) =>
    match session.clear with
    | (.error failure, session) => (.error failure, session)
    | (.ok (), session) => (.ok (.created output), session)

end Session

end Admissions.Wizard
