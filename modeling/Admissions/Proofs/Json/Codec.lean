import Admissions.Json.Decoding
import Admissions.Proofs.Json.RoundTrip

namespace Admissions.Json

/-- A value that text keeps, at most `depth` arrays and objects deep. -/
structure Value.Storable (depth : Nat) (v : Value) : Prop where
  canonical : v.Canonical
  floatFree : v.FloatFree
  shallow : v.depth ≤ depth

namespace Value

variable {depth : Nat}

theorem parseValue_text {v : Value} (storable : v.Storable greatestDepth) :
    parseValue v.text = some v := by
  rw [parseValue_text_eq storable.canonical storable.floatFree, if_pos storable.shallow]

theorem storable_null : (Value.null).Storable depth :=
  ⟨by simp [Canonical], by simp [FloatFree], by simp [Value.depth]⟩

theorem storable_bool (b : Bool) : (Value.bool b).Storable depth :=
  ⟨by simp [Canonical], by simp [FloatFree], by simp [Value.depth]⟩

theorem storable_string (s : String) : (Value.string s).Storable depth :=
  ⟨by simp [Canonical], by simp [FloatFree], by simp [Value.depth]⟩

theorem int?_nat {n : Nat} {greatest : Int} (bound : (n : Int) ≤ greatest) :
    (Value.nat n).int? 0 greatest = some (n : Int) := by
  have inRange : (0 : Int) ≤ n ∧ (n : Int) ≤ greatest := ⟨by omega, bound⟩
  simp only [nat, int, int?, inRange, and_self, ↓reduceIte]

theorem storable_nat {n : Nat} (bound : n < UInt64.size) : (Value.nat n).Storable depth := by
  refine ⟨?_, by simp [nat, int, FloatFree], by simp [nat, int, Value.depth]⟩
  have lowest : Int64.minValue.toInt ≤ 0 := by decide
  simp only [nat, int, Canonical]
  omega

theorem storable_array {items : List Value} (storable : ∀ item ∈ items, item.Storable depth) :
    (Value.array items).Storable (depth + 1) := by
  have parts : CanonicalItems items ∧ FloatFreeItems items ∧ itemsDepth items ≤ depth := by
    induction items with
    | nil => simp [CanonicalItems, FloatFreeItems, itemsDepth]
    | cons item rest ih =>
      have first := storable item (by simp)
      obtain ⟨canonical, floatFree, shallow⟩ :=
        ih fun other member => storable other (List.mem_cons_of_mem _ member)
      exact ⟨⟨first.canonical, canonical⟩, ⟨first.floatFree, floatFree⟩,
        Nat.max_le.mpr ⟨first.shallow, shallow⟩⟩
  obtain ⟨canonical, floatFree, shallow⟩ := parts
  exact ⟨canonical, floatFree, Nat.succ_le_succ shallow⟩

theorem storable_object {members : Object} (ascending : Ascending members)
    (storable : ∀ member ∈ members, member.2.Storable depth) :
    (Value.object members).Storable (depth + 1) := by
  have parts : CanonicalMembers members ∧ FloatFreeMembers members ∧
      membersDepth members ≤ depth := by
    clear ascending
    induction members with
    | nil => simp [CanonicalMembers, FloatFreeMembers, membersDepth]
    | cons member rest ih =>
      have first := storable member (by simp)
      obtain ⟨canonical, floatFree, shallow⟩ :=
        ih fun other found => storable other (List.mem_cons_of_mem _ found)
      exact ⟨⟨first.canonical, canonical⟩, ⟨first.floatFree, floatFree⟩,
        Nat.max_le.mpr ⟨first.shallow, shallow⟩⟩
  obtain ⟨canonical, floatFree, shallow⟩ := parts
  exact ⟨⟨ascending, canonical⟩, floatFree, Nat.succ_le_succ shallow⟩

theorem storable_record {members : List (String × Value)}
    (storable : ∀ member ∈ members, member.2.Storable depth) :
    (Value.record members).Storable (depth + 1) :=
  storable_object (SortedMap.ofList members).ascending fun member found =>
    storable member (SortedMap.mem_of_mem_ofList found)

end Value

/-- A decoding that undoes an encoding, whose values are at most `depth` deep. -/
structure Codec {α : Type} (depth : Nat) (encode : α → Value) (decode : Value → Option α) :
    Prop where
  reads : ∀ x, decode (encode x) = some x
  storable : ∀ x, (encode x).Storable depth

namespace Codec

variable {α κ ν : Type} {depth : Nat} {encode : α → Value} {decode : Value → Option α}

theorem string : Codec depth Value.string Value.string? := ⟨fun _ => rfl, Value.storable_string⟩

theorem bool : Codec depth Value.bool Value.bool? := ⟨fun _ => rfl, Value.storable_bool⟩

theorem uint64 : Codec depth Value.uint64 Value.uint64? where
  reads n := by
    have bound := n.toNat_lt_size
    rw [Value.uint64, Value.uint64?, Value.int?_nat (by omega), Option.map_some,
      Int.toNat_natCast, UInt64.ofNat_toNat]
  storable n := Value.storable_nat n.toNat_lt_size

theorem uint32 : Codec depth Value.uint32 Value.uint32? where
  reads n := by
    have bound := n.toNat_lt_size
    rw [Value.uint32, Value.uint32?, Value.int?_nat (by omega), Option.map_some,
      Int.toNat_natCast, UInt32.ofNat_toNat]
  storable n := Value.storable_nat (Nat.lt_trans n.toNat_lt_size (by decide))

theorem optional (codec : Codec depth encode decode) (given : ∀ x, encode x ≠ .null) :
    Codec depth (Value.optional encode) (Value.optional? decode) where
  reads x := by
    cases x with
    | none => rfl
    | some x =>
      have read := codec.reads x
      have notNull := given x
      simp only [Value.optional]
      cases value : encode x <;> simp_all [Value.optional?]
  storable x := by
    cases x with
    | none => exact Value.storable_null
    | some x => exact codec.storable x

theorem optional?_uint64 (n : UInt64) :
    Value.optional? Value.uint64? (.uint64 n) = some (some n) := by
  have codec : Codec 0 Value.uint64 Value.uint64? := uint64
  exact (codec.optional fun _ => by simp [Value.uint64, Value.nat, Value.int]).reads (some n)

theorem optional?_uint32 (n : UInt32) :
    Value.optional? Value.uint32? (.uint32 n) = some (some n) := by
  have codec : Codec 0 Value.uint32 Value.uint32? := uint32
  exact (codec.optional fun _ => by simp [Value.uint32, Value.nat, Value.int]).reads (some n)

theorem choice {name : α → String} {choices : List α}
    (finds : ∀ x, choices.find? (fun choice => name choice == name x) = some x) :
    Codec depth (fun x => Value.string (name x)) (Value.choice? name choices) where
  reads x := by simp [Value.choice?, Value.tag?, finds]
  storable x := Value.storable_string (name x)

theorem mapM_map {β : Type} {write : α → β} {read : β → Option α}
    (reads : ∀ x, read (write x) = some x) (items : List α) :
    (items.map write).mapM read = some items := by
  induction items with
  | nil => rfl
  | cons item rest ih =>
    rw [List.map_cons, List.mapM_cons, reads, ih]
    rfl

theorem list (codec : Codec depth encode decode) :
    Codec (depth + 1) (Value.list encode) (Value.list? decode) where
  reads items := by rw [Value.list, Value.list?, mapM_map codec.reads]
  storable items := by
    refine Value.storable_array fun item member => ?_
    obtain ⟨x, -, rfl⟩ := List.mem_map.mp member
    exact codec.storable x

theorem exists_eq_map {β : Type} {write : α → β} {items : List β}
    (written : ∀ item ∈ items, ∃ x, write x = item) : ∃ xs : List α, items = xs.map write := by
  induction items with
  | nil => exact ⟨[], rfl⟩
  | cons item rest ih =>
    obtain ⟨x, rfl⟩ := written item (by simp)
    obtain ⟨xs, rfl⟩ := ih fun other member => written other (List.mem_cons_of_mem _ member)
    exact ⟨x :: xs, rfl⟩

variable [Ord κ] [Std.TransOrd κ] [Std.LawfulEqOrd κ] {key : String → Option κ}
variable {encodeEntry : ν → Value} {decodeEntry : Value → Option ν}

def member (name : κ → String) (encodeEntry : ν → Value) (entry : κ × ν) : String × Value :=
  (name entry.1, encodeEntry entry.2)

omit [Ord κ] [Std.TransOrd κ] [Std.LawfulEqOrd κ] in
theorem member_injective (name : κ → String) (readsKey : ∀ k, key (name k) = some k)
    (codec : Codec depth encodeEntry decodeEntry) {first second : κ × ν}
    (equal : member name encodeEntry first = member name encodeEntry second) : first = second := by
  obtain ⟨names, values⟩ := Prod.mk.inj equal
  have keys := (readsKey first.1).symm.trans (names ▸ readsKey second.1)
  have entries := (codec.reads first.2).symm.trans (values ▸ codec.reads second.2)
  exact Prod.ext (Option.some.inj keys) (Option.some.inj entries)

theorem map?_members (name : κ → String) (readsKey : ∀ k, key (name k) = some k)
    (codec : Codec depth encodeEntry decodeEntry) {map : SortedMap κ ν}
    {entries : List (κ × ν)} (distinct : (entries.map Prod.fst).Nodup)
    (same : ∀ entry, entry ∈ entries ↔ entry ∈ map.entries) :
    Value.map? key decodeEntry (.object (entries.map (member name encodeEntry))) = some map := by
  have reads : ∀ entry : κ × ν, (do return (← key (member name encodeEntry entry).1,
      ← decodeEntry (member name encodeEntry entry).2)) = some entry := by
    intro entry
    simp [member, readsKey, codec.reads]
  rw [Value.map?, mapM_map reads, Option.bind_eq_bind, Option.bind_some, Option.pure_def,
    SortedMap.ofList_eq_of_mem_iff distinct same]

theorem textMap (codec : Codec depth encodeEntry decodeEntry) :
    Codec (depth + 1)
      (fun map : SortedMap String ν => .object (map.entries.map (member id encodeEntry)))
      (Value.map? some decodeEntry) where
  reads map := map?_members id (fun _ => rfl) codec map.nodup_keys fun _ => Iff.rfl
  storable map := by
    refine Value.storable_object (List.pairwise_map.mpr map.ascending) fun _ found => ?_
    obtain ⟨entry, -, rfl⟩ := List.mem_map.mp found
    exact codec.storable entry.2

/-- The names of the keys may come in another order than the keys. -/
theorem keyedMap (name : κ → String) (readsKey : ∀ k, key (name k) = some k)
    (codec : Codec depth encodeEntry decodeEntry) :
    Codec (depth + 1)
      (fun map : SortedMap κ ν => .record (map.entries.map (member name encodeEntry)))
      (Value.map? key decodeEntry) where
  reads map := by
    let written := map.entries.map (member name encodeEntry)
    have distinct : (written.map Prod.fst).Nodup := by
      rw [List.map_map]
      refine List.pairwise_map.mpr ((List.pairwise_map.mp map.nodup_keys).imp fun apart same => ?_)
      have keys := (readsKey _).symm.trans ((congrArg key same).trans (readsKey _))
      exact apart (Option.some.inj keys)
    -- The record sorts the members by name, which may be another order than that of the keys.
    obtain ⟨entries, split⟩ : ∃ entries : List (κ × ν),
        (SortedMap.ofList written).entries = entries.map (member name encodeEntry) := by
      refine exists_eq_map fun item found => ?_
      obtain ⟨entry, -, equal⟩ := List.mem_map.mp (SortedMap.mem_of_mem_ofList found)
      exact ⟨entry, equal⟩
    have sorted := (SortedMap.ofList written).nodup_keys
    rw [split, List.map_map] at sorted
    rw [Value.record, split]
    refine map?_members name readsKey codec ?_ fun entry => ⟨fun found => ?_, fun found => ?_⟩
    · exact List.pairwise_map.mpr ((List.pairwise_map.mp sorted).imp fun apart same =>
        apart (congrArg name same))
    · have inRecord := List.mem_map_of_mem (f := member name encodeEntry) found
      rw [← split, SortedMap.mem_ofList_iff distinct] at inRecord
      obtain ⟨other, stored, equal⟩ := List.mem_map.mp inRecord
      exact member_injective name readsKey codec equal ▸ stored
    · have inRecord := List.mem_map_of_mem (f := member name encodeEntry) found
      rw [← SortedMap.mem_ofList_iff distinct, split] at inRecord
      obtain ⟨other, stored, equal⟩ := List.mem_map.mp inRecord
      exact member_injective name readsKey codec equal ▸ stored
  storable map := by
    refine Value.storable_record fun _ found => ?_
    obtain ⟨entry, -, rfl⟩ := List.mem_map.mp found
    exact codec.storable entry.2

end Codec

theorem uint64Key?_toString (n : UInt64) : uint64Key? (toString n.toNat) = some n := by
  have digits : (toString n.toNat).toList = Nat.toDigits 10 n.toNat := by
    rw [Nat.toString_eq_ofList_toDigits, String.toList_ofList]
  have decimal : (Nat.toDigits 10 n.toNat).all Char.isDigit = true :=
    List.all_eq_true.mpr Reader.isDigit_of_mem_decimal
  have noLeadingZero : ¬((Nat.toDigits 10 n.toNat).head? = some '0' ∧
      Nat.toDigits 10 n.toNat ≠ ['0']) := by
    rintro ⟨zero, long⟩
    rcases Nat.eq_zero_or_pos n.toNat with none | positive
    · rw [none, Nat.toDigits_zero] at long
      exact long rfl
    · exact Reader.head?_toDigits_ne_zero positive zero
  have bound := n.toNat_lt
  simp only [uint64Key?, digits, decimal, noLeadingZero, Nat.ofDigitChars_ten_toDigits, ne_eq,
    Nat.toDigits_ne_nil, not_false_eq_true, and_self, bound, ↓reduceIte, UInt64.ofNat_toNat]

end Admissions.Json
