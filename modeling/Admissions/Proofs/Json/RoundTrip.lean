import Admissions.Proofs.Json.Numeral
import Admissions.Proofs.Json.Quoting
import Admissions.Proofs.SortedMap

namespace Admissions.Json

namespace Value

mutual

def FloatFree : Value → Prop
  | .number (.float _) => False
  | .array items => FloatFreeItems items
  | .object members => FloatFreeMembers members
  | _ => True

def FloatFreeItems : List Value → Prop
  | [] => True
  | item :: rest => FloatFree item ∧ FloatFreeItems rest

def FloatFreeMembers : List (String × Value) → Prop
  | [] => True
  | (_, item) :: rest => FloatFree item ∧ FloatFreeMembers rest

end

end Value

namespace Document

mutual

def ofValue : Value → Document
  | .null => .null
  | .bool b => .bool b
  | .number n => .number (some n)
  | .string s => .string (some s)
  | .array items => .array (ofItems items)
  | .object members => .object (ofMembers members)

def ofItems : List Value → List Document
  | [] => []
  | item :: rest => ofValue item :: ofItems rest

def ofMembers : List (String × Value) → List (Option String × Document)
  | [] => []
  | (name, item) :: rest => (some name, ofValue item) :: ofMembers rest

end

mutual

theorem valueWithin_ofValue (depth : Nat) (v : Value) (canonical : v.Canonical) :
    valueWithin depth (ofValue v) = if v.depth ≤ depth then some v else none := by
  match v with
  | .null | .bool _ | .number _ | .string _ => simp [ofValue, valueWithin, Value.depth]
  | .array items =>
    rw [ofValue, valueWithin, Value.depth]
    by_cases flat : depth = 0
    · simp [flat]
    · rw [if_neg flat, itemsWithin_ofItems (depth - 1) items canonical]
      have shift : Value.itemsDepth items ≤ depth - 1 ↔ Value.itemsDepth items + 1 ≤ depth := by
        omega
      simp only [shift]
      split <;> rfl
  | .object members =>
    rw [ofValue, valueWithin, Value.depth]
    by_cases flat : depth = 0
    · simp [flat]
    · rw [if_neg flat, membersWithin_ofMembers (depth - 1) [] members canonical.1 canonical.2]
      have shift : Value.membersDepth members ≤ depth - 1 ↔
          Value.membersDepth members + 1 ≤ depth := by
        omega
      simp only [shift]
      split <;> rfl

theorem itemsWithin_ofItems (depth : Nat) (items : List Value)
    (canonical : Value.CanonicalItems items) :
    itemsWithin depth (ofItems items) =
      if Value.itemsDepth items ≤ depth then some items else none := by
  match items with
  | [] => simp [ofItems, itemsWithin, Value.itemsDepth]
  | item :: rest =>
    rw [ofItems, itemsWithin, valueWithin_ofValue depth item canonical.1,
      itemsWithin_ofItems depth rest canonical.2, Value.itemsDepth]
    simp only [Nat.max_le]
    by_cases shallow : item.depth ≤ depth
    · by_cases rest : Value.itemsDepth rest ≤ depth <;> simp [shallow, rest]
    · simp [shallow]

theorem membersWithin_ofMembers (depth : Nat) (read : Object) (members : List (String × Value))
    (ascending : Ascending (read ++ members)) (canonical : Value.CanonicalMembers members) :
    membersWithin depth read (ofMembers members) =
      if Value.membersDepth members ≤ depth then some (read ++ members) else none := by
  match members with
  | [] => simp [ofMembers, membersWithin, Value.membersDepth]
  | (name, item) :: rest =>
    have regrouped : read ++ (name, item) :: rest = (read ++ [(name, item)]) ++ rest := by simp
    rw [regrouped] at ascending
    have inserted : read.insert name item = read ++ [(name, item)] :=
      insertEntry_append (List.pairwise_append.mp ascending).1
    have later := membersWithin_ofMembers depth (read ++ [(name, item)]) rest ascending canonical.2
    rw [ofMembers, membersWithin, valueWithin_ofValue depth item canonical.1, Value.membersDepth,
      regrouped]
    simp only [Nat.max_le]
    by_cases shallow : item.depth ≤ depth
    · simp only [shallow, ↓reduceIte, Option.bind_eq_bind, Option.bind_some, inserted, later,
        true_and]
    · simp [shallow]

end

end Document

namespace Reader

open Document (ofValue ofItems ofMembers)
open Value (renderItems renderMembers)

theorem skipSpace_cons {c : Char} (solid : isSpace c = false) (rest : List Char) :
    skipSpace (c :: rest) = c :: rest := by
  simp [skipSpace, solid]

theorem render_number_head (n : Int) :
    ∃ c rest, (Number.int n).render = c :: rest ∧ (c = '-' ∨ c.isDigit = true) := by
  by_cases negative : n < 0
  · exact ⟨'-', Nat.toDigits 10 n.natAbs, by simp [Number.render, negative], .inl rfl⟩
  · obtain ⟨c, digits, split⟩ :=
      List.exists_cons_of_ne_nil (Nat.toDigits_ne_nil (n := n.natAbs) (b := 10))
    have decimal := isDigit_of_mem_decimal (n := n.natAbs) c (by simp [split])
    exact ⟨c, digits, by simp [Number.render, negative, split], .inr decimal⟩

theorem number_start {c : Char} (start : c = '-' ∨ c.isDigit = true) :
    c ∉ [' ', '\n', '\t', '\r', ']', 'n', 't', 'f', '"', '[', '\x7b'] := by
  intro member
  simp only [List.mem_cons, List.not_mem_nil, or_false] at member
  rcases member with rfl | rfl | rfl | rfl | rfl | rfl | rfl | rfl | rfl | rfl | rfl <;>
    revert start <;> decide

theorem isSpace_number_start {c : Char} (start : c = '-' ∨ c.isDigit = true) :
    isSpace c = false := by
  have other := number_start start
  simp only [List.mem_cons, not_or] at other
  simp [isSpace, other]

theorem render_head {v : Value} (floatFree : v.FloatFree) :
    ∃ c rest, v.render = c :: rest ∧ isSpace c = false ∧ c ≠ ']' := by
  cases v with
  | null => exact ⟨'n', _, rfl, rfl, by decide⟩
  | bool b => cases b <;> exact ⟨_, _, rfl, rfl, by decide⟩
  | number n =>
    cases n with
    | float x => exact floatFree.elim
    | int n =>
      obtain ⟨c, rest, split, start⟩ := render_number_head n
      refine ⟨c, rest, split, isSpace_number_start start, ?_⟩
      rintro rfl
      exact absurd start (by decide)
  | string s => exact ⟨'"', _, rfl, rfl, by decide⟩
  | array items => cases items <;> exact ⟨'[', _, rfl, rfl, by decide⟩
  | object members => cases members <;> exact ⟨'\x7b', _, rfl, rfl, by decide⟩

theorem document_number {c : Char} (start : c = '-' ∨ c.isDigit = true) (fuel : Nat)
    (rest : List Char) :
    document (fuel + 1) (c :: rest) =
      (number (c :: rest)).map fun (n, rest) => (.number n, rest) := by
  have other := number_start start
  simp only [List.mem_cons, List.not_mem_nil, or_false, not_or] at other
  rw [document, skipSpace_cons (isSpace_number_start start)]
  split
  all_goals simp_all
  cases number (c :: rest) <;> rfl

theorem document_array {c : Char} (solid : isSpace c = false) (notClosing : c ≠ ']') (fuel : Nat)
    (rest : List Char) :
    document (fuel + 1) ('[' :: c :: rest) =
      (items fuel (c :: rest)).map fun (items, rest) => (.array items, rest) := by
  simp only [document, skipSpace_cons (show isSpace '[' = false from rfl), skipSpace_cons solid]
  split
  · simp_all
  · cases items fuel (c :: rest) <;> rfl

theorem document_object (fuel : Nat) (rest : List Char) :
    document (fuel + 1) ('\x7b' :: '"' :: rest) =
      (members fuel ('"' :: rest)).map fun (members, rest) => (.object members, rest) := by
  simp only [document, skipSpace_cons (show isSpace '\x7b' = false from rfl),
    skipSpace_cons (show isSpace '"' = false from rfl)]
  split
  · simp_all
  · cases members fuel ('"' :: rest) <;> rfl

theorem render_length_pos {v : Value} (floatFree : v.FloatFree) : 0 < v.render.length := by
  obtain ⟨c, rest, split, -⟩ := render_head floatFree
  simp [split]

theorem closing_renderItems (items : List Value) (rest : List Char) :
    Closing (renderItems items ++ rest) := by
  cases items with
  | nil => exact .cons (by decide) rest
  | cons item more => exact .cons (by decide) _

theorem closing_renderMembers (members : List (String × Value)) (rest : List Char) :
    Closing (renderMembers members ++ rest) := by
  cases members with
  | nil => exact .cons (by decide) rest
  | cons member more => exact .cons (by decide) _

mutual

/-- The fuel is counted in characters: every level of nesting takes at least one of them and two
    units of fuel. -/
theorem document_render (v : Value) (canonical : v.Canonical) (floatFree : v.FloatFree)
    (fuel : Nat) (rest : List Char) (enough : 2 * v.render.length ≤ fuel) (closing : Closing rest) :
    document fuel (v.render ++ rest) = some (ofValue v, rest) := by
  have long := render_length_pos floatFree
  obtain ⟨fuel, rfl⟩ : ∃ less, fuel = less + 1 := ⟨fuel - 1, by omega⟩
  match v with
  | .null => simp [Value.render, document, skipSpace, isSpace, ofValue]
  | .bool true => simp [Value.render, document, skipSpace, isSpace, ofValue]
  | .bool false => simp [Value.render, document, skipSpace, isSpace, ofValue]
  | .number (.float x) => exact floatFree.elim
  | .number (.int n) =>
    obtain ⟨c, more, split, start⟩ := render_number_head n
    have read := number_render canonical.1 canonical.2 closing
    rw [split] at read
    rw [Value.render, split, List.cons_append, document_number start, ← List.cons_append, read]
    rfl
  | .string s =>
    have read := stringBody_renderString s rest
    simp only [Value.render, renderString, List.cons_append, List.append_assoc, List.nil_append,
      document, skipSpace_cons (show isSpace '"' = false from rfl), read, ofValue,
      Option.bind_eq_bind, Option.bind_some, Option.pure_def]
  | .array [] => simp [Value.render, document, skipSpace, isSpace, ofValue, ofItems]
  | .array (item :: more) =>
    obtain ⟨c, tail, split, solid, notClosing⟩ := render_head floatFree.1
    simp only [Value.render, List.length_cons, List.length_append] at enough
    have read := items_render item more canonical floatFree fuel rest (by omega)
    simp only [split, List.cons_append] at read
    simp only [Value.render, split, List.cons_append, List.append_assoc]
    rw [document_array solid notClosing, read]
    rfl
  | .object [] => simp [Value.render, document, skipSpace, isSpace, ofValue, ofMembers]
  | .object ((name, item) :: more) =>
    simp only [Value.render, renderString, List.length_cons, List.length_append] at enough
    have read := members_render name item more canonical.2 floatFree fuel rest (by
      simp only [renderString, List.length_cons, List.length_append]
      omega)
    simp only [renderString, List.cons_append, List.append_assoc, List.nil_append] at read
    simp only [Value.render, renderString, List.cons_append, List.append_assoc, List.nil_append]
    rw [document_object, read]
    rfl
termination_by fuel

theorem items_render (item : Value) (more : List Value)
    (canonical : Value.CanonicalItems (item :: more))
    (floatFree : Value.FloatFreeItems (item :: more)) (fuel : Nat) (rest : List Char)
    (enough : 2 * (item.render.length + (renderItems more).length) ≤ fuel) :
    items fuel (item.render ++ (renderItems more ++ rest)) =
      some (ofItems (item :: more), rest) := by
  have long := render_length_pos floatFree.1
  obtain ⟨fuel, rfl⟩ : ∃ less, fuel = less + 1 := ⟨fuel - 1, by omega⟩
  have closing := closing_renderItems more rest
  have bracket : 0 < (renderItems more).length := by cases more <;> simp [renderItems]
  have first := document_render item canonical.1 floatFree.1 fuel (renderItems more ++ rest)
    (by omega) closing
  rw [items, first]
  simp only [Option.bind_eq_bind, Option.bind_some, closing.skipSpace]
  match more with
  | [] => simp [renderItems, ofItems]
  | next :: more =>
    simp only [renderItems, List.length_cons, List.length_append] at enough
    have later := items_render next more canonical.2 floatFree.2 fuel rest (by omega)
    simp only [renderItems, List.cons_append, List.append_assoc, later, ofItems,
      Option.bind_some, Option.pure_def]
termination_by fuel

theorem members_render (name : String) (item : Value) (more : List (String × Value))
    (canonical : Value.CanonicalMembers ((name, item) :: more))
    (floatFree : Value.FloatFreeMembers ((name, item) :: more)) (fuel : Nat) (rest : List Char)
    (enough : 2 * ((renderString name).length + 1 + item.render.length +
      (renderMembers more).length) ≤ fuel) :
    members fuel (renderString name ++ (':' :: (item.render ++ (renderMembers more ++ rest)))) =
      some (ofMembers ((name, item) :: more), rest) := by
  obtain ⟨fuel, rfl⟩ : ∃ less, fuel = less + 1 := ⟨fuel - 1, by omega⟩
  have closing := closing_renderMembers more rest
  have bracket : 0 < (renderMembers more).length := by cases more <;> simp [renderMembers]
  have first := document_render item canonical.1 floatFree.1 fuel (renderMembers more ++ rest)
    (by omega) closing
  have named := stringBody_renderString name (':' :: (item.render ++ (renderMembers more ++ rest)))
  simp only [renderString, List.cons_append, List.append_assoc, List.nil_append, members,
    skipSpace_cons (show isSpace '"' = false from rfl), named, Option.bind_eq_bind,
    Option.bind_some, skipSpace_cons (show isSpace ':' = false from rfl), first,
    closing.skipSpace]
  match more with
  | [] => simp [renderMembers, ofMembers]
  | (next, other) :: more =>
    simp only [renderMembers, List.length_cons, List.length_append] at enough
    have later := members_render next other more canonical.2 floatFree.2 fuel rest (by omega)
    simp only [renderMembers, List.cons_append, List.append_assoc, later, ofMembers,
      Option.bind_some, Option.pure_def]
termination_by fuel

end

end Reader

theorem parse_text {v : Value} (canonical : v.Canonical) (floatFree : v.FloatFree) :
    parse v.text = some (Document.ofValue v) := by
  have read := Reader.document_render v canonical floatFree (2 * v.render.length + 1) []
    (by omega) .nil
  rw [List.append_nil] at read
  simp only [parse, Value.text, String.toList_ofList, read, Option.bind_eq_bind, Option.bind_some,
    Reader.skipSpace, List.dropWhile_nil, ↓reduceIte]

theorem parseValue_text_eq {v : Value} (canonical : v.Canonical) (floatFree : v.FloatFree) :
    parseValue v.text = if v.depth ≤ greatestDepth then some v else none := by
  rw [parseValue, parse_text canonical floatFree, Option.bind_eq_bind, Option.bind_some,
    Document.value?, Document.valueWithin_ofValue greatestDepth v canonical]

end Admissions.Json
