namespace Admissions.Text

def readDigits (cs : List Char) : Option Nat :=
  if cs ≠ [] ∧ cs.all Char.isDigit then some (Nat.ofDigitChars 10 cs 0) else none

def readUnsigned (limit : Nat) (s : String) : Option Nat :=
  let value := match s.toList with
    | '+' :: digits => readDigits digits
    | digits => readDigits digits
  value.filter (· < limit)

def readSigned (least greatest : Int) (s : String) : Option Int :=
  let value : Option Int := match s.toList with
    | '-' :: digits => (readDigits digits).map fun n => -(n : Int)
    | '+' :: digits => (readDigits digits).map fun n => (n : Int)
    | digits => (readDigits digits).map fun n => (n : Int)
  value.filter fun n => least ≤ n ∧ n ≤ greatest

def readUInt64 (s : String) : Option UInt64 :=
  (readUnsigned UInt64.size s).map UInt64.ofNat

def readUInt32 (s : String) : Option UInt32 :=
  (readUnsigned UInt32.size s).map UInt32.ofNat

def readUInt16 (s : String) : Option UInt16 :=
  (readUnsigned UInt16.size s).map UInt16.ofNat

def readInt32 (s : String) : Option Int32 :=
  (readSigned Int32.minValue.toInt Int32.maxValue.toInt s).map Int32.ofInt

def padded (width n : Nat) : List Char :=
  let digits := Nat.toDigits 10 n
  List.replicate (width - digits.length) '0' ++ digits

end Admissions.Text
