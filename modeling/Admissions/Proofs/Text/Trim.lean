import Admissions.Text.Blank
import Mathlib.Data.List.TakeWhile

namespace Admissions.Text

structure Trimmed (s : String) : Prop where
  start : ∀ c, s.toList.head? = some c → isBlank c = false
  finish : ∀ c, s.toList.getLast? = some c → isBlank c = false

theorem head?_trimStart {cs : List Char} {c : Char} (first : (trimStart cs).head? = some c) :
    isBlank c = false := by
  have stops := List.head?_dropWhile_not isBlank cs
  unfold trimStart at first
  rw [first] at stops
  simpa using stops

theorem getLast?_trimEnd {cs : List Char} {c : Char} (last : (trimEnd cs).getLast? = some c) :
    isBlank c = false := by
  rw [trimEnd, List.getLast?_reverse] at last
  exact head?_trimStart last

theorem trimEnd_append (cs : List Char) : ∃ blanks, cs = trimEnd cs ++ blanks := by
  have split := List.takeWhile_append_dropWhile (p := isBlank) (l := cs.reverse)
  refine ⟨(cs.reverse.takeWhile isBlank).reverse, ?_⟩
  rw [trimEnd, ← List.reverse_append, split, List.reverse_reverse]

theorem trimmed_trim (s : String) : Trimmed (trim s) := by
  constructor
  · intro c first
    rw [trim, String.toList_ofList, trimChars] at first
    obtain ⟨blanks, split⟩ := trimEnd_append (trimStart s.toList)
    have whole : (trimStart s.toList).head? = some c := by
      rw [split, List.head?_append, first]
      rfl
    exact head?_trimStart whole
  · intro c last
    rw [trim, String.toList_ofList, trimChars] at last
    exact getLast?_trimEnd last

theorem trimStart_ne_nil {cs : List Char} {c : Char} (member : c ∈ cs)
    (solid : isBlank c = false) : trimStart cs ≠ [] := by
  intro none
  have kept : (trimStart cs).any (fun c => !isBlank c) = !cs.all isBlank := List.any_dropWhile
  have every : cs.all isBlank = true := by simpa [none] using kept
  have blank := List.all_eq_true.mp every c member
  rw [solid] at blank
  contradiction

theorem trim_ne_empty {s : String} (present : isPresent s = true) : trim s ≠ "" := by
  obtain ⟨c, member, solid⟩ := List.any_eq_true.mp present
  have started : trimStart s.toList ≠ [] := trimStart_ne_nil member (by simpa using solid)
  obtain ⟨head, rest, split⟩ := List.exists_cons_of_ne_nil started
  have first : isBlank head = false := head?_trimStart (by rw [split]; rfl)
  have ended : trimEnd (trimStart s.toList) ≠ [] := by
    intro none
    have reversed := List.reverse_eq_nil_iff.mp none
    have inside : head ∈ (trimStart s.toList).reverse := by simp [split]
    exact trimStart_ne_nil inside first reversed
  intro empty
  apply ended
  have characters := congrArg String.toList empty
  simpa [trim, trimChars] using characters

theorem trimChars_eq_nil {cs : List Char} (blank : ∀ c ∈ cs, isBlank c = true) :
    trimChars cs = [] := by
  have dropped : trimStart cs = [] := List.dropWhile_eq_nil_iff.mpr blank
  simp [trimChars, trimEnd, dropped]

theorem trim_eq_empty_iff {s : String} : trim s = "" ↔ isPresent s = false := by
  constructor
  · intro empty
    cases present : isPresent s with
    | false => rfl
    | true => exact absurd empty (trim_ne_empty present)
  · intro absent
    have blank : ∀ c ∈ s.toList, isBlank c = true := by simpa [isPresent] using absent
    rw [trim, trimChars_eq_nil blank]

theorem isPresent_trim {s : String} (present : isPresent s = true) :
    isPresent (trim s) = true := by
  have something : (trim s).toList ≠ [] := by simpa using trim_ne_empty present
  obtain ⟨c, rest, split⟩ := List.exists_cons_of_ne_nil something
  have solid : isBlank c = false := (trimmed_trim s).start c (by rw [split]; rfl)
  simp [isPresent, split, solid]

theorem wordsFrom_le_append (inWord : Bool) (cs more : List Char) :
    wordsFrom inWord cs ≤ wordsFrom inWord (cs ++ more) := by
  induction cs generalizing inWord with
  | nil => exact Nat.zero_le _
  | cons c rest ih =>
    rw [List.cons_append, wordsFrom, wordsFrom]
    split
    · exact ih false
    · exact Nat.add_le_add_left (ih true) _

theorem wordCount_trim_le (s : String) : wordCount (trim s) ≤ wordCount s := by
  obtain ⟨blanks, split⟩ := trimEnd_append (trimStart s.toList)
  have shorter := wordsFrom_le_append false (trimEnd (trimStart s.toList)) blanks
  rw [← split, wordsFrom_trimStart] at shorter
  simpa [wordCount, trim, trimChars] using shorter

end Admissions.Text
