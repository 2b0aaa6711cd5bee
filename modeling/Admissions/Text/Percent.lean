namespace Admissions.Text

def hexValue (c : Char) : Option Nat :=
  if '0' ≤ c ∧ c ≤ '9' then some (c.toNat - '0'.toNat)
  else if 'a' ≤ c ∧ c ≤ 'f' then some (c.toNat - 'a'.toNat + 10)
  else if 'A' ≤ c ∧ c ≤ 'F' then some (c.toNat - 'A'.toNat + 10)
  else none

def escapedByte : List Char → Option UInt8
  | '%' :: high :: low :: _ => do
    return UInt8.ofNat (16 * (← hexValue high) + (← hexValue low))
  | _ => none

def percentBytes (cs : List Char) : List UInt8 :=
  match cs with
  | [] => []
  | c :: rest =>
    match escapedByte (c :: rest) with
    | some byte => byte :: percentBytes (rest.drop 2)
    | none => (String.singleton c).toUTF8.toList ++ percentBytes rest
termination_by cs.length
decreasing_by all_goals simp; try omega

def percentDecode (s : String) : Option String :=
  String.fromUTF8? (percentBytes s.toList).toByteArray

end Admissions.Text
