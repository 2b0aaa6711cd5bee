import Admissions.Json.Printer
import Admissions.Json.Reader

namespace Admissions.Json.Reader

/-- What may follow a value inside an array or object, or at the end of the text. -/
def Closing (rest : List Char) : Prop :=
  ∀ c ∈ rest.head?, c = ',' ∨ c = ']' ∨ c = '\x7d'

theorem Closing.nil : Closing [] := by simp [Closing]

theorem Closing.cons {c : Char} (mark : c = ',' ∨ c = ']' ∨ c = '\x7d') (rest : List Char) :
    Closing (c :: rest) := by simpa [Closing] using mark

theorem Closing.skipSpace {rest : List Char} (closing : Closing rest) :
    skipSpace rest = rest := by
  cases rest with
  | nil => rfl
  | cons c rest =>
    rcases closing c rfl with rfl | rfl | rfl <;> rfl

theorem digitRun_append {digits rest : List Char} (decimal : ∀ c ∈ digits, c.isDigit)
    (closing : Closing rest) : digitRun (digits ++ rest) = (digits, rest) := by
  have stop : rest.takeWhile Char.isDigit = [] ∧ rest.dropWhile Char.isDigit = rest := by
    cases rest with
    | nil => exact ⟨rfl, rfl⟩
    | cons c rest => rcases closing c rfl with rfl | rfl | rfl <;> exact ⟨rfl, rfl⟩
  rw [digitRun, List.takeWhile_append_of_pos decimal, List.dropWhile_append_of_pos decimal,
    stop.1, stop.2, List.append_nil]

theorem isDigit_of_mem_decimal {n : Nat} : ∀ c ∈ Nat.toDigits 10 n, c.isDigit :=
  fun _ member => Nat.isDigit_of_mem_toDigits (by decide) (by decide) member

theorem head?_toDigits_ne_zero {n : Nat} (positive : 0 < n) :
    (Nat.toDigits 10 n).head? ≠ some '0' := by
  induction n using Nat.strongRecOn with
  | _ n ih =>
    by_cases small : n < 10
    · rw [Nat.toDigits_of_lt_base small]
      simp only [List.head?_cons, ne_eq, Option.some.injEq, Nat.digitChar_eq_zero]
      omega
    · have shorter := ih (n / 10) (by omega) (by omega)
      obtain ⟨c, digits, split⟩ :=
        List.exists_cons_of_ne_nil (Nat.toDigits_ne_nil (n := n / 10) (b := 10))
      rw [Nat.toDigits_of_base_le (by decide) (by omega), split]
      simpa [split] using shorter

theorem wholeDigits_toDigits (n : Nat) {rest : List Char} (closing : Closing rest) :
    wholeDigits (Nat.toDigits 10 n ++ rest) = some (Nat.toDigits 10 n, rest) := by
  rcases Nat.eq_zero_or_pos n with rfl | positive
  · rw [Nat.toDigits_zero]
    rfl
  · have run : digitRun (Nat.toDigits 10 n ++ rest) = (Nat.toDigits 10 n, rest) :=
      digitRun_append isDigit_of_mem_decimal closing
    have head := head?_toDigits_ne_zero positive
    have nonempty : Nat.toDigits 10 n ≠ [] := Nat.toDigits_ne_nil
    obtain ⟨c, digits, split⟩ := List.exists_cons_of_ne_nil nonempty
    rw [split] at run head ⊢
    have other : c ≠ '0' := by simpa using head
    rw [List.cons_append, wholeDigits.eq_def]
    split
    · simp_all
    · simp_all

theorem le_ofDigitChars (digits : List Char) (n : Nat) : n ≤ Nat.ofDigitChars 10 digits n := by
  induction digits generalizing n with
  | nil => simp
  | cons c digits ih =>
    rw [Nat.ofDigitChars_cons]
    have := ih (10 * n + (c.toNat - '0'.toNat))
    omega

theorem takeDigits_of_lt (digits : List Char) (n : Nat)
    (bound : Nat.ofDigitChars 10 digits n < UInt64.size) :
    takeDigits n digits = (Nat.ofDigitChars 10 digits n, digits.length) := by
  induction digits generalizing n with
  | nil => simp [takeDigits]
  | cons c digits ih =>
    rw [Nat.ofDigitChars_cons, Nat.mul_comm] at bound
    have next := Nat.lt_of_le_of_lt (le_ofDigitChars digits _) bound
    rw [takeDigits, if_pos next, ih _ bound, Nat.ofDigitChars_cons, Nat.mul_comm 10 n,
      List.length_cons]

theorem unsigned_toDigits (negative : Bool) (n : Nat) {rest : List Char} (closing : Closing rest) :
    unsigned negative (Nat.toDigits 10 n ++ rest) =
      some (Numeral.number ⟨negative, Nat.toDigits 10 n, none, none⟩, rest) := by
  have noFraction : fraction rest = some (none, rest) := by
    cases rest with
    | nil => rfl
    | cons c rest => rcases closing c rfl with rfl | rfl | rfl <;> rfl
  have noExponent : exponent rest = some (none, rest) := by
    cases rest with
    | nil => rfl
    | cons c rest => rcases closing c rfl with rfl | rfl | rfl <;> rfl
  simp only [unsigned, wholeDigits_toDigits n closing, noFraction, noExponent,
    Option.bind_eq_bind, Option.bind_some, Option.pure_def]

theorem number_nonnegative {n : Nat} (bound : n < UInt64.size) :
    Numeral.number ⟨false, Nat.toDigits 10 n, none, none⟩ = some (.int n) := by
  have taken := takeDigits_of_lt (Nat.toDigits 10 n) 0 (by simpa using bound)
  simp [Numeral.number, taken]

theorem number_negative {n : Nat} (positive : 0 < n) (bound : n ≤ 1 <<< 63) :
    Numeral.number ⟨true, Nat.toDigits 10 n, none, none⟩ = some (.int (-n)) := by
  have wide : n < UInt64.size := Nat.lt_of_le_of_lt bound (by decide)
  have taken := takeDigits_of_lt (Nat.toDigits 10 n) 0 (by simpa using wide)
  have inRange : ¬(n = 0 ∨ n > 1 <<< 63) := by omega
  rw [Nat.ofDigitChars_ten_toDigits] at taken
  simp only [Numeral.number, taken, Nat.sub_self, gt_iff_lt, Nat.lt_irrefl, ↓reduceIte, inRange]

theorem number_render {n : Int} (least : Int64.minValue.toInt ≤ n) (greatest : n < UInt64.size)
    {rest : List Char} (closing : Closing rest) :
    number ((Number.int n).render ++ rest) = some (some (.int n), rest) := by
  have lowest : Int64.minValue.toInt = -(1 <<< 63) := by decide
  by_cases negative : n < 0
  · have back : -(n.natAbs : Int) = n := by omega
    simp only [Number.render, negative, ↓reduceIte, List.cons_append, number,
      unsigned_toDigits true _ closing]
    rw [number_negative (by omega) (by omega), back]
  · have back : (n.natAbs : Int) = n := by omega
    simp only [Number.render, negative, ↓reduceIte]
    have plain : number (Nat.toDigits 10 n.natAbs ++ rest) =
        unsigned false (Nat.toDigits 10 n.natAbs ++ rest) := by
      obtain ⟨c, digits, split⟩ :=
        List.exists_cons_of_ne_nil (Nat.toDigits_ne_nil (n := n.natAbs) (b := 10))
      have decimal := isDigit_of_mem_decimal (n := n.natAbs) c (by simp [split])
      rw [split, List.cons_append, number.eq_def]
      split
      · simp_all
      · rfl
    rw [plain, unsigned_toDigits false _ closing, number_nonnegative (by omega), back]

end Admissions.Json.Reader
