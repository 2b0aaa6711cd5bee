import Admissions.Proofs.Except
import Admissions.Proofs.Json.Codec
import Admissions.Proofs.Json.Fields

namespace Admissions.Json

/-- A list whose items have one spelling each has one spelling. -/
theorem Value.eq_list_of_list? {α : Type} {encode : α → Value} {decode : Value → Option α}
    (exact : ∀ {value x}, decode value = some x → value = encode x) {value : Value}
    {items : List α} (reads : Value.list? decode value = some items) :
    value = .list encode items := by
  cases value with
  | array values =>
    have each := mapM_eq_some_iff.mp reads
    clear reads
    have same : values = items.map encode := by
      induction each with
      | nil => rfl
      | cons head tail ih => rw [List.map_cons, exact head, ← ih]
    rw [same, Value.list]
  | null | bool b | number n | string s | object members => contradiction

variable {κ ν : Type} [Ord κ] [Std.TransOrd κ] [Std.LawfulEqOrd κ]
variable {key : String → Option κ} {decode : Value → Option ν}
variable {members : Object} {map : SortedMap κ ν}

structure Spells (key : String → Option κ) (decode : Value → Option ν) (members : Object)
    (map : SortedMap κ ν) : Prop where
  listed : ∀ {name value}, members.get? name = some value →
    ∃ k v, key name = some k ∧ decode value = some v ∧ map.get? k = some v
  spelled : ∀ {k v}, map.get? k = some v →
    ∃ name value, members.get? name = some value ∧ key name = some k ∧ decode value = some v

def pair? (key : String → Option κ) (decode : Value → Option ν) (member : String × Value) :
    Option (κ × ν) := do
  return (← key member.1, ← decode member.2)

omit [Ord κ] [Std.TransOrd κ] [Std.LawfulEqOrd κ] in
theorem pair?_eq_some_iff {member : String × Value} {entry : κ × ν} :
    pair? key decode member = some entry ↔
      key member.1 = some entry.1 ∧ decode member.2 = some entry.2 := by
  obtain ⟨k, v⟩ := entry
  simp only [pair?, Option.bind_eq_bind, Option.bind_eq_some_iff, Option.pure_def,
    Option.some.injEq, Prod.mk.injEq]
  constructor
  · rintro ⟨a, reads, b, decodes, rfl, rfl⟩
    exact ⟨reads, decodes⟩
  · rintro ⟨reads, decodes⟩
    exact ⟨_, reads, _, decodes, rfl, rfl⟩

omit [Ord κ] [Std.TransOrd κ] [Std.LawfulEqOrd κ] in
theorem nodup_keys_of_entries (unique : ∀ {a b k}, key a = some k → key b = some k → a = b)
    {entries : List (κ × ν)}
    (reads : List.Forall₂ (fun member entry => pair? key decode member = some entry) members entries)
    (distinct : (members.map Prod.fst).Nodup) : (entries.map Prod.fst).Nodup := by
  induction reads with
  | nil => exact List.nodup_nil
  | @cons member entry members entries head tail ih =>
    obtain ⟨fresh, distinct⟩ := List.nodup_cons.mp distinct
    refine List.nodup_cons.mpr ⟨fun again => fresh ?_, ih distinct⟩
    obtain ⟨other, later, same⟩ := List.mem_map.mp again
    obtain ⟨twin, listed, twinReads⟩ := exists_of_mem_right tail later
    have key := (pair?_eq_some_iff.mp head).1
    have twinKey := (pair?_eq_some_iff.mp twinReads).1
    rw [same] at twinKey
    exact unique twinKey key ▸ List.mem_map_of_mem listed

theorem map?_eq_map_ofList :
    Value.map? key decode (.object members) =
      (members.mapM (pair? key decode)).map SortedMap.ofList := by
  change (members.mapM (pair? key decode)).bind (fun pairs => some (SortedMap.ofList pairs)) = _
  cases members.mapM (pair? key decode) <;> rfl

theorem map?_eq_some_iff (unique : ∀ {a b k}, key a = some k → key b = some k → a = b)
    (ascending : Ascending members) :
    Value.map? key decode (.object members) = some map ↔ Spells key decode members map := by
  have names : (members.map Prod.fst).Nodup := SortedMap.nodup_keys ⟨members, ascending⟩
  rw [map?_eq_map_ofList, Option.map_eq_some_iff]
  constructor
  · rintro ⟨entries, reads, rfl⟩
    have each := mapM_eq_some_iff.mp reads
    have distinct := nodup_keys_of_entries unique each names
    constructor
    · intro name value found
      obtain ⟨⟨k, v⟩, member, holds⟩ := exists_of_mem_left each (mem_of_lookupEntry found)
      obtain ⟨keyed, decodes⟩ := pair?_eq_some_iff.mp holds
      exact ⟨k, v, keyed, decodes, SortedMap.get?_insertAll_of_mem distinct member⟩
    · intro k v found
      have member := (SortedMap.mem_ofList_iff distinct).mp (SortedMap.get?_eq_some_iff.mp found)
      obtain ⟨⟨name, value⟩, listed, holds⟩ := exists_of_mem_right each member
      obtain ⟨keyed, decodes⟩ := pair?_eq_some_iff.mp holds
      exact ⟨name, value, ascending.lookupEntry_of_mem listed, keyed, decodes⟩
  · intro spells
    have readable : ∀ member ∈ members, ∃ entry, pair? key decode member = some entry := by
      intro member listed
      obtain ⟨k, v, keyed, decodes, -⟩ := spells.listed (ascending.lookupEntry_of_mem listed)
      exact ⟨(k, v), pair?_eq_some_iff.mpr ⟨keyed, decodes⟩⟩
    obtain ⟨entries, reads⟩ := exists_mapM_eq_some readable
    have each := mapM_eq_some_iff.mp reads
    have distinct := nodup_keys_of_entries unique each names
    refine ⟨entries, reads, SortedMap.ofList_eq_of_mem_iff distinct fun entry => ?_⟩
    obtain ⟨k, v⟩ := entry
    rw [← SortedMap.get?_eq_some_iff]
    constructor
    · intro member
      obtain ⟨⟨name, value⟩, listed, holds⟩ := exists_of_mem_right each member
      obtain ⟨keyed, decodes⟩ := pair?_eq_some_iff.mp holds
      obtain ⟨k', v', keyed', decodes', found⟩ :=
        spells.listed (ascending.lookupEntry_of_mem listed)
      obtain rfl := Option.some.inj (keyed.symm.trans keyed')
      obtain rfl := Option.some.inj (decodes.symm.trans decodes')
      exact found
    · intro found
      obtain ⟨name, value, listed, keyed, decodes⟩ := spells.spelled found
      obtain ⟨entry, member, holds⟩ := exists_of_mem_left each (mem_of_lookupEntry listed)
      have same : pair? key decode (name, value) = some (k, v) :=
        pair?_eq_some_iff.mpr ⟨keyed, decodes⟩
      rw [holds] at same
      obtain rfl := Option.some.inj same
      exact member

theorem Spells.insert (unique : ∀ {a b k}, key a = some k → key b = some k → a = b)
    (spells : Spells key decode members map) {name : String} {value : Value} {k : κ} {v : ν}
    (keyed : key name = some k) (decodes : decode value = some v) :
    Spells key decode (members.insert name value) (map.insert k v) := by
  constructor
  · intro other found listed
    by_cases own : other = name
    · subst own
      rw [Object.get?_insert_self] at listed
      obtain rfl := Option.some.inj listed
      exact ⟨k, v, keyed, decodes, SortedMap.get?_insert_self map k v⟩
    · rw [Object.get?_insert_of_ne members own] at listed
      obtain ⟨l, w, otherKeyed, otherDecodes, present⟩ := spells.listed listed
      have apart : l ≠ k := fun same => own (unique otherKeyed (same ▸ keyed))
      exact ⟨l, w, otherKeyed, otherDecodes, (map.get?_insert_of_ne apart v).trans present⟩
  · intro l w found
    by_cases own : l = k
    · subst own
      rw [SortedMap.get?_insert_self] at found
      obtain rfl := Option.some.inj found
      exact ⟨name, value, Object.get?_insert_self members name value, keyed, decodes⟩
    · rw [map.get?_insert_of_ne own] at found
      obtain ⟨other, present, listed, otherKeyed, otherDecodes⟩ := spells.spelled found
      have apart : other ≠ name := by
        intro same
        rw [same, keyed] at otherKeyed
        exact own (Option.some.inj otherKeyed).symm
      exact ⟨other, present, (Object.get?_insert_of_ne members apart value).trans listed,
        otherKeyed, otherDecodes⟩

/-- A member inserted under a key is an entry inserted under it, if the member can be read. -/
theorem map?_insert (unique : ∀ {a b k}, key a = some k → key b = some k → a = b)
    (ascending : Ascending members)
    (reads : Value.map? key decode (.object members) = some map) {name : String} {k : κ}
    (keyed : key name = some k) (value : Value) :
    Value.map? key decode (.object (members.insert name value)) =
      (decode value).map (map.insert k) := by
  have after : Ascending (members.insert name value) := ascending.insert name value
  have spells := (map?_eq_some_iff unique ascending).mp reads
  cases decodes : decode value with
  | some v => exact (map?_eq_some_iff unique after).mpr (spells.insert unique keyed decodes)
  | none =>
    rw [Option.map_none, Option.eq_none_iff_forall_ne_some]
    intro other again
    obtain ⟨l, w, -, readable, -⟩ := ((map?_eq_some_iff unique after).mp again).listed
      (Object.get?_insert_self members name value)
    rw [decodes] at readable
    contradiction

theorem digitChar_of_isDigit {c : Char} (decimal : c.isDigit = true) :
    c.toNat - '0'.toNat < 10 ∧ Nat.digitChar (c.toNat - '0'.toNat) = c := by
  have range : 48 ≤ c.toNat ∧ c.toNat ≤ 57 := by
    simpa [Char.isDigit, UInt32.le_iff_toNat_le] using decimal
  have zero : '0'.toNat = 48 := rfl
  have small : c.toNat - '0'.toNat < 10 := by omega
  refine ⟨small, Char.toNat_inj.mp ?_⟩
  rw [Nat.toNat_digitChar_of_lt_ten small]
  omega

theorem toDigits_ofDigitChars {digits : List Char} {n : Nat} (positive : 0 < n)
    (decimal : ∀ c ∈ digits, c.isDigit = true) :
    Nat.toDigits 10 (Nat.ofDigitChars 10 digits n) = Nat.toDigits 10 n ++ digits := by
  induction digits generalizing n with
  | nil => simp
  | cons c digits ih =>
    obtain ⟨small, digit⟩ := digitChar_of_isDigit (decimal c List.mem_cons_self)
    have rest := ih (n := 10 * n + (c.toNat - '0'.toNat)) (by omega)
      fun other later => decimal other (List.mem_cons_of_mem c later)
    have joined := Nat.toDigits_append_toDigits (by decide : 1 < 10) positive small
    rw [Nat.toDigits_of_lt_base small, digit] at joined
    rw [Nat.ofDigitChars_cons, rest, ← joined, List.append_assoc, List.singleton_append]

theorem eq_of_uint64Key? {name : String} {n : UInt64} (reads : uint64Key? name = some n) :
    name = toString n.toNat := by
  unfold uint64Key? at reads
  dsimp only at reads
  split at reads
  · rename_i fits
    obtain ⟨⟨nonempty, decimal, plain⟩, bound⟩ := fits
    obtain rfl := Option.some.inj reads
    have value : (UInt64.ofNat (Nat.ofDigitChars 10 name.toList 0)).toNat =
        Nat.ofDigitChars 10 name.toList 0 := UInt64.toNat_ofNat_of_lt' bound
    rw [← String.toList_inj, Nat.toString_eq_ofList_toDigits, String.toList_ofList, value]
    generalize name.toList = digits at *
    cases digits with
    | nil => contradiction
    | cons c digits =>
      have each := List.all_eq_true.mp decimal
      obtain ⟨small, digit⟩ := digitChar_of_isDigit (each c List.mem_cons_self)
      rw [Nat.ofDigitChars_cons, Nat.mul_zero, Nat.zero_add]
      by_cases zero : c.toNat - '0'.toNat = 0
      · rw [zero] at digit
        obtain rfl : '0' = c := digit
        have alone : '0' :: digits = ['0'] := not_not.mp fun more => plain ⟨rfl, more⟩
        obtain rfl := (List.cons.inj alone).2
        rfl
      · rw [toDigits_ofDigitChars (by omega) fun other later =>
          each other (List.mem_cons_of_mem c later), Nat.toDigits_of_lt_base small, digit]
        rfl
  · contradiction
theorem uint64Key?_unique {first second : String} {n : UInt64}
    (reads : uint64Key? first = some n) (again : uint64Key? second = some n) : first = second :=
  (eq_of_uint64Key? reads).trans (eq_of_uint64Key? again).symm

end Admissions.Json
