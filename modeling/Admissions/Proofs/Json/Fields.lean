import Admissions.Json.Decoding
import Admissions.Proofs.SortedMap

namespace Admissions.Json

variable {α : Type} {name other : String} {decode : Value → Option α} {default : α}

/-- A field of an object, or its default where the object has no such member. -/
def Object.read (members : Object) (name : String) (decode : Value → Option α) (default : α) :
    Option α :=
  (Record.mk false members.get?).withDefault name decode default

namespace Object

@[simp] theorem get?_insert_self (members : Object) (name : String) (value : Value) :
    (members.insert name value).get? name = some value :=
  lookupEntry_insertEntry_self name value members

theorem get?_insert_of_ne (members : Object) (different : other ≠ name) (value : Value) :
    (members.insert name value).get? other = members.get? other :=
  lookupEntry_insertEntry_of_ne different value members

@[simp] theorem get?_erase_self (members : Object) (name : String) :
    (members.erase name).get? name = none :=
  lookupEntry_eraseEntry_self name members

theorem get?_erase_of_ne (members : Object) (different : other ≠ name) :
    (members.erase name).get? other = members.get? other :=
  lookupEntry_eraseEntry_of_ne different members

theorem read_of_get? {members : Object} {value : Value} (found : members.get? name = some value) :
    members.read name decode default = decode value := by
  simp only [read, Record.withDefault, found]

theorem read_of_get?_none {members : Object} (absent : members.get? name = none) :
    members.read name decode default = some default := by
  simp only [read, Record.withDefault, absent]

theorem read_congr {members others : Object} (same : members.get? name = others.get? name) :
    members.read name decode default = others.read name decode default := by
  simp only [read, Record.withDefault, same]

@[simp] theorem read_cons_self (name : String) (value : Value) (rest : Object) :
    Object.read ((name, value) :: rest) name decode default = decode value :=
  read_of_get? (by simp [get?, lookupEntry])

theorem read_cons_of_ne (different : other ≠ name) (value : Value) (rest : Object) :
    Object.read ((name, value) :: rest) other decode default =
      rest.read other decode default :=
  read_congr (by simp [get?, lookupEntry, different])

@[simp] theorem read_insert_self (members : Object) (name : String) (value : Value) :
    (members.insert name value).read name decode default = decode value :=
  read_of_get? (get?_insert_self members name value)

theorem read_insert_of_ne (members : Object) (different : other ≠ name) (value : Value) :
    (members.insert name value).read other decode default = members.read other decode default :=
  read_congr (get?_insert_of_ne members different value)

@[simp] theorem read_erase_self (members : Object) (name : String) :
    (members.erase name).read name decode default = some default :=
  read_of_get?_none (get?_erase_self members name)

theorem read_insert (members : Object) (name other : String) (value : Value) :
    (members.insert name value).read other decode default =
      if other = name then decode value else members.read other decode default := by
  by_cases same : other = name
  · rw [if_pos same, same, read_insert_self]
  · rw [if_neg same, read_insert_of_ne members same]

theorem read_erase_of_ne (members : Object) (different : other ≠ name) :
    (members.erase name).read other decode default = members.read other decode default :=
  read_congr (get?_erase_of_ne members different)

theorem get?_foldl_erase_of_notMem {names : List String} (absent : name ∉ names)
    (members : Object) : (names.foldl erase members).get? name = members.get? name := by
  induction names generalizing members with
  | nil => rfl
  | cons first names ih =>
    simp only [List.mem_cons, not_or] at absent
    rw [List.foldl_cons, ih absent.2, get?_erase_of_ne members absent.1]

theorem get?_foldl_erase_of_mem {names : List String} (member : name ∈ names) (members : Object) :
    (names.foldl erase members).get? name = none := by
  induction names generalizing members with
  | nil => simp at member
  | cons first names ih =>
    rw [List.foldl_cons]
    by_cases later : name ∈ names
    · exact ih later _
    · obtain rfl : name = first := by simpa [later] using member
      rw [get?_foldl_erase_of_notMem later, get?_erase_self]

theorem read_foldl_erase_of_notMem {names : List String} (absent : name ∉ names)
    (members : Object) :
    (names.foldl erase members).read name decode default = members.read name decode default :=
  read_congr (get?_foldl_erase_of_notMem absent members)

theorem read_foldl_erase_of_mem {names : List String} (member : name ∈ names)
    (members : Object) : (names.foldl erase members).read name decode default = some default :=
  read_of_get?_none (get?_foldl_erase_of_mem member members)

end Object

theorem Value.optional?_uint64?_of_same {current value : Value} {number : Option UInt64}
    (same : current.same value = true)
    (reads : Value.optional? Value.uint64? current = some number) :
    Value.optional? Value.uint64? value = some number := by
  cases current with
  | null => cases value <;> simp_all [Value.same]
  | number n =>
    cases n with
    | int n =>
      cases value with
      | number m =>
        cases m with
        | int m =>
          have equal : n = m := by simpa [Value.same, Number.same] using same
          rw [← equal]
          exact reads
        | float x => simp [Value.same, Number.same] at same
      | null | bool b | string s | array items | object members => simp [Value.same] at same
    | float x => simp [Value.optional?, Value.uint64?, Value.int?] at reads
  | bool b => simp [Value.optional?, Value.uint64?, Value.int?] at reads
  | string s => simp [Value.optional?, Value.uint64?, Value.int?] at reads
  | array items => simp [Value.optional?, Value.uint64?, Value.int?] at reads
  | object members => simp [Value.optional?, Value.uint64?, Value.int?] at reads

theorem Value.eq_uint64_of_uint64? {value : Value} {n : UInt64} (reads : value.uint64? = some n) :
    value = .uint64 n := by
  cases value with
  | number x =>
    cases x with
    | int i =>
      obtain ⟨j, inRange, rfl⟩ := Option.map_eq_some_iff.mp reads
      unfold Value.int? at inRange
      dsimp only at inRange
      split at inRange
      · rename_i bounds
        obtain rfl := Option.some.inj inRange
        have size : (UInt64.size : Int) = 18446744073709551616 := rfl
        have back : (UInt64.ofNat i.toNat).toNat = i.toNat :=
          UInt64.toNat_ofNat_of_lt' (by simp only [UInt64.size] at *; omega)
        have whole : (i.toNat : Int) = i := by omega
        rw [Value.uint64, Value.nat, Value.int, back, whole]
      · contradiction
    | float x => simp [Value.uint64?, Value.int?] at reads
  | null | bool b | string s | array items | object members =>
    simp [Value.uint64?, Value.int?] at reads

theorem Value.eq_string_of_string? {value : Value} {text : String}
    (reads : value.string? = some text) : value = .string text := by
  cases value with
  | string s => rw [Option.some.inj reads]
  | null | bool b | number n | array items | object members => contradiction

theorem Value.eq_bool_of_bool? {value : Value} {b : Bool} (reads : value.bool? = some b) :
    value = .bool b := by
  cases value with
  | bool c => rw [Option.some.inj reads]
  | null | string s | number n | array items | object members => contradiction

theorem Value.optional?_of_ne_null {value : Value} (given : value ≠ .null) :
    Value.optional? decode value = (decode value).map some := by
  cases value with
  | null => contradiction
  | number x | bool b | string s | array items | object members => rfl

theorem Value.eq_of_optional?_uint64? {value : Value} {number : Option UInt64}
    (reads : Value.optional? Value.uint64? value = some number) :
    value = Value.optional Value.uint64 number := by
  by_cases given : value = .null
  · subst given
    obtain rfl := Option.some.inj reads
    rfl
  · rw [Value.optional?_of_ne_null given] at reads
    obtain ⟨n, readsNumber, rfl⟩ := Option.map_eq_some_iff.mp reads
    exact Value.eq_uint64_of_uint64? readsNumber

theorem Value.same_iff_of_optional?_uint64? {current value : Value} {number : Option UInt64}
    (reads : Value.optional? Value.uint64? current = some number) :
    current.same value = true ↔ Value.optional? Value.uint64? value = some number := by
  refine ⟨fun same => Value.optional?_uint64?_of_same same reads, fun also => ?_⟩
  rw [Value.eq_of_optional?_uint64? reads, Value.eq_of_optional?_uint64? also]
  cases number with
  | none => rfl
  | some n => simp [Value.optional, Value.uint64, Value.nat, Value.int, Value.same, Number.same]

/-- The comparison of JSON values tells a number in an object from another as numbers are told
    apart. -/
theorem Object.any_not_same {members : Object} {name : String} {current : Value}
    {number : Option UInt64} (present : members.get? name = some current)
    (held : Value.optional? Value.uint64? current = some number) (value : Value) :
    ((members.get? name).any fun current => !current.same value) =
      !decide (Value.optional? Value.uint64? value = some number) := by
  have compared : current.same value = true ↔ Value.optional? Value.uint64? value = some number :=
    Value.same_iff_of_optional?_uint64? held
  rw [present, Option.any_some]
  exact congrArg not (Bool.eq_iff_iff.mpr (by simpa using compared))

end Admissions.Json
