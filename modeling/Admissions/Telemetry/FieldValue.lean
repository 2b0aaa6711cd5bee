import Admissions.Telemetry.Pattern.Reader

namespace Admissions.Telemetry.FieldValue

def dropSign : List Char → List Char
  | '+' :: rest => rest
  | '-' :: rest => rest
  | cs => cs

def isExponent : List Char → Bool
  | [] => true
  | c :: rest =>
    let digits := dropSign rest
    (c = 'e' || c = 'E') && digits ≠ [] && digits.all Char.isDigit

/-- Digits with a point among them or beside them if there is one, and an exponent if there is
    one. -/
def isDecimal (cs : List Char) : Bool :=
  let whole := cs.takeWhile Char.isDigit
  match cs.drop whole.length with
  | '.' :: rest =>
    let fraction := rest.takeWhile Char.isDigit
    (whole ≠ [] || fraction ≠ []) && isExponent (rest.drop fraction.length)
  | rest => whole ≠ [] && isExponent rest

def isNumber (cs : List Char) : Bool :=
  let unsigned := dropSign cs
  let word := String.ofList (unsigned.map Char.toLower)
  ["inf", "infinity", "nan"].contains word || isDecimal unsigned

def isFieldValue (cs : List Char) : Bool := isNumber cs || Pattern.isPattern cs

end Admissions.Telemetry.FieldValue
