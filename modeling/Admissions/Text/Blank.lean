namespace Admissions.Text

def isBlank (c : Char) : Bool :=
  let n := c.toNat
  (9 ≤ n && n ≤ 13) || n == 0x20 || n == 0x85 || n == 0xA0 || n == 0x1680 ||
    (0x2000 ≤ n && n ≤ 0x200A) || n == 0x2028 || n == 0x2029 || n == 0x202F || n == 0x205F ||
    n == 0x3000

def trimStart (cs : List Char) : List Char := cs.dropWhile isBlank

def trimEnd (cs : List Char) : List Char := (cs.reverse.dropWhile isBlank).reverse

def trimChars (cs : List Char) : List Char := trimEnd (trimStart cs)

def trim (s : String) : String := String.ofList (trimChars s.toList)

def isPresent (s : String) : Bool := s.toList.any fun c => !isBlank c

/-- Counts the places where a word starts; `inWord` tells whether the character before belongs to
    one. -/
def wordsFrom (inWord : Bool) : List Char → Nat
  | [] => 0
  | c :: rest =>
    if isBlank c then wordsFrom false rest
    else (if inWord then 0 else 1) + wordsFrom true rest

def wordCount (s : String) : Nat := wordsFrom false s.toList

theorem trimStart_cons_of_blank {c : Char} {rest : List Char} (blank : isBlank c = true) :
    trimStart (c :: rest) = trimStart rest := by
  simp [trimStart, blank]

theorem trimStart_cons_of_not_blank {c : Char} {rest : List Char} (solid : isBlank c = false) :
    trimStart (c :: rest) = c :: rest := by
  simp [trimStart, solid]

theorem wordsFrom_trimStart (cs : List Char) :
    wordsFrom false (trimStart cs) = wordsFrom false cs := by
  induction cs with
  | nil => rfl
  | cons c rest ih =>
    cases blank : isBlank c with
    | true => simp [trimStart_cons_of_blank blank, wordsFrom, blank, ih]
    | false => rw [trimStart_cons_of_not_blank blank]

end Admissions.Text
