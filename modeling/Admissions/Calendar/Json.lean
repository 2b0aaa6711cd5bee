import Admissions.Calendar.Instant
import Admissions.Json.Decoding

namespace Admissions.Calendar

open Json (Value)

namespace Date

def toJson (date : Date) : Value := .string date.text

def ofJson? (value : Value) : Option Date := do (read (← value.string?)).toOption

end Date

namespace Instant

def toJson (instant : Instant) : Value := .string instant.text

def ofJson? (value : Value) : Option Instant := do (read (← value.string?)).toOption

end Instant

end Admissions.Calendar
