import Admissions.Json.Printer

namespace Admissions.Http

open Json (Value)

inductive Status where
  | ok
  | accepted
  | badRequest
  | notFound
  | methodNotAllowed
  | unprocessable
  | serverError
  | unavailable
deriving DecidableEq

def Status.code : Status → Nat
  | .ok => 200
  | .accepted => 202
  | .badRequest => 400
  | .notFound => 404
  | .methodNotAllowed => 405
  | .unprocessable => 422
  | .serverError => 500
  | .unavailable => 503

inductive Body where
  | empty
  | json (value : Value)
  | text (s : String)

def Body.content : Body → String
  | .empty => ""
  | .json value => value.text
  | .text s => s

structure Response where
  status : Status
  body : Body

namespace Response

def empty (status : Status) : Response := ⟨status, .empty⟩

def json (status : Status) (value : Value) : Response := ⟨status, .json value⟩

def error (status : Status) (message : String) : Response :=
  .json status (.record [("error", .string message)])

def head (response : Response) : Response := .empty response.status

end Response

end Admissions.Http
