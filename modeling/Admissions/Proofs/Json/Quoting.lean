import Admissions.Json.Printer
import Admissions.Json.Reader

namespace Admissions.Json.Reader

def escaped : List Char := ['"', '\\', '\n', '\r', '\t', '\x08', '\x0c']

/-- How a character stands in the text: a control character without an escape of one letter as the
    number of a unit, any other as itself. -/
def pieceOf (c : Char) : Piece :=
  if c.toNat < 0x20 ∧ c ∉ escaped then .unit c.toNat else .char c

theorem hexValue_digitChar : ∀ n < 16, Text.hexValue (Nat.digitChar n) = some n := by decide

theorem hexUnit_of_lt {n : Nat} (bound : n < 256) :
    hexUnit '0' '0' (Nat.digitChar (n / 16)) (Nat.digitChar (n % 16)) = some n := by
  have zero : Text.hexValue '0' = some 0 := by decide
  have high := hexValue_digitChar (n / 16) (by omega)
  have low := hexValue_digitChar (n % 16) (by omega)
  simp only [hexUnit, zero, high, low, Option.bind_eq_bind, Option.bind_some, Option.pure_def]
  congr 1
  omega

theorem pieces_escaped {c : Char} (named : c ∈ escaped) (rest : List Char) :
    pieces (renderChar c ++ rest) =
      (pieces rest).map fun (more, rest) => (.char c :: more, rest) := by
  simp only [escaped, List.mem_cons, List.not_mem_nil, or_false] at named
  rcases named with rfl | rfl | rfl | rfl | rfl | rfl | rfl
  all_goals
    simp only [renderChar, Char.reduceEq, ↓reduceIte, List.cons_append, List.nil_append]
    simp [pieces]
    cases pieces rest <;> rfl

theorem pieces_control {c : Char} (control : c.toNat < 0x20) (unnamed : c ∉ escaped)
    (rest : List Char) :
    pieces (renderChar c ++ rest) =
      (pieces rest).map fun (more, rest) => (.unit c.toNat :: more, rest) := by
  have unit := hexUnit_of_lt (n := c.toNat) (by omega)
  simp only [escaped, List.mem_cons, List.not_mem_nil, or_false, not_or] at unnamed
  simp only [renderChar, unnamed, control, ↓reduceIte, List.cons_append, List.nil_append, pieces,
    unit]
  cases pieces rest <;> rfl

theorem pieces_plain {c : Char} (printed : ¬c.toNat < 0x20) (unnamed : c ∉ escaped)
    (rest : List Char) :
    pieces (renderChar c ++ rest) =
      (pieces rest).map fun (more, rest) => (.char c :: more, rest) := by
  simp only [escaped, List.mem_cons, List.not_mem_nil, or_false, not_or] at unnamed
  simp only [renderChar, unnamed, printed, ↓reduceIte, List.cons_append, List.nil_append]
  rw [pieces]
  · simp only [printed, unnamed, or_self, ↓reduceIte]
    cases pieces rest <;> rfl
  all_goals simp_all

theorem pieces_renderChar (c : Char) (rest : List Char) :
    pieces (renderChar c ++ rest) =
      (pieces rest).map fun (more, rest) => (pieceOf c :: more, rest) := by
  by_cases named : c ∈ escaped
  · simp only [pieces_escaped named, pieceOf, named, not_true_eq_false, and_false, ↓reduceIte]
  · by_cases control : c.toNat < 0x20
    · simp only [pieces_control control named, pieceOf, control, named, not_false_eq_true,
        and_self, ↓reduceIte]
    · simp only [pieces_plain control named, pieceOf, control, false_and, ↓reduceIte]

theorem pieces_flatMap_renderChar (cs rest : List Char) :
    pieces (cs.flatMap renderChar ++ '"' :: rest) = some (cs.map pieceOf, rest) := by
  induction cs with
  | nil => simp [pieces]
  | cons c cs ih =>
    rw [List.flatMap_cons, List.append_assoc, pieces_renderChar, ih]
    rfl

theorem spell_unit {n : Nat} (small : n < 0x20) (more : List Piece) :
    spell (.unit n :: more) = (spell more).map (Char.ofNat n :: ·) := by
  have notHigh : isHigh n = false := by simp [isHigh]; omega
  have notLow : isLow n = false := by simp [isLow]; omega
  match more with
  | [] => simp [spell, notHigh, notLow]
  | .char c :: more => simp [spell, notHigh, notLow]
  | .unit m :: more => simp [spell, notHigh, notLow]

theorem spell_map_pieceOf (cs : List Char) : spell (cs.map pieceOf) = some cs := by
  induction cs with
  | nil => rfl
  | cons c cs ih =>
    rw [List.map_cons, pieceOf]
    split
    · rename_i control
      rw [spell_unit control.1, ih, Option.map_some, Char.ofNat_toNat]
    · rw [spell, ih, Option.map_some]

theorem stringBody_renderString (s : String) (rest : List Char) :
    stringBody (s.toList.flatMap renderChar ++ '"' :: rest) = some (some s, rest) := by
  simp only [stringBody, pieces_flatMap_renderChar, spell_map_pieceOf, Option.bind_eq_bind,
    Option.bind_some, Option.pure_def, Option.map_some, String.ofList_toList]

end Admissions.Json.Reader
