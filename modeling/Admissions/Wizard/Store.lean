import Admissions.Json.Printer
import Admissions.Json.Reader
import Admissions.RecordError

namespace Admissions.Wizard

open Json (Value Object)

structure StoreKey where
  text : String
deriving DecidableEq

def StoreKey.make (wizard actor entity : String) : StoreKey :=
  ⟨wizard ++ "_store_" ++ actor ++ "_" ++ entity⟩

def StoreKey.ofIds (wizard : String) (actor entity : UInt64) : StoreKey :=
  make wizard (toString actor.toNat) (toString entity.toNat)

inductive StoreError where
  | unavailable (cause : String)
  | corrupt (key : String)
deriving DecidableEq

namespace StoreError

def message : StoreError → String
  | .unavailable cause => "wizard store unavailable: " ++ cause
  | .corrupt key => "stored wizard state under " ++ key ++ " is not a JSON object"

def kind : StoreError → String
  | .unavailable _ => "store_unavailable"
  | .corrupt _ => "store_corrupt"

def toJson (error : StoreError) : Value := errorJson error.kind error.message

end StoreError

inductive StoreCall where
  | read
  | write
  | delete
deriving DecidableEq

namespace StoreCall

def all : List StoreCall := [.read, .write, .delete]

def name : StoreCall → String
  | .read => "read"
  | .write => "write"
  | .delete => "delete"

end StoreCall

/-- The entries, the calls that are refused, and whether the lock is poisoned, which every call
    then reports. -/
structure Store where
  entries : SortedMap String String
  refusing : List StoreCall
  poisoned : Bool

namespace Store

def empty : Store := ⟨.empty, [], false⟩

def fault (store : Store) (call : StoreCall) : Option StoreError :=
  if store.refusing.contains call then some (.unavailable "connection refused")
  else if store.poisoned then some (.unavailable "wizard store mutex poisoned")
  else none

def raw (store : Store) (key : StoreKey) : Option String := store.entries.get? key.text

def putRaw (store : Store) (key : StoreKey) (payload : String) : Store :=
  { store with entries := store.entries.insert key.text payload }

def decode (key : StoreKey) (payload : String) : Except StoreError Object :=
  match Json.parseValue payload with
  | some (.object state) => .ok state
  | _ => .error (.corrupt key.text)

def read (store : Store) (key : StoreKey) : Except StoreError (Option Object) :=
  match store.fault .read with
  | some error => .error error
  | none =>
    match store.raw key with
    | none => .ok none
    | some payload => (decode key payload).map some

def write (store : Store) (key : StoreKey) (state : Object) : Except StoreError Unit × Store :=
  match store.fault .write with
  | some error => (.error error, store)
  | none => (.ok (), store.putRaw key (Value.object state).text)

def delete (store : Store) (key : StoreKey) : Except StoreError Unit × Store :=
  match store.fault .delete with
  | some error => (.error error, store)
  | none => (.ok (), { store with entries := store.entries.erase key.text })

end Store

end Admissions.Wizard
