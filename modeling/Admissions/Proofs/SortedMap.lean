import Admissions.SortedMap

namespace Admissions

universe u v

variable {κ : Type u} {ν : Type v} [Ord κ]
variable {key other : κ} {value : ν} {entries : List (κ × ν)}

theorem ascending_of_keys (ascending : (entries.map Prod.fst).Pairwise (compare · · = .lt)) :
    Ascending entries := List.pairwise_map.mp ascending

theorem find?_eq_some_of_nodup {α β : Type} [BEq β] [LawfulBEq β] {name : α → β} {items : List α}
    {item : α} (distinct : (items.map name).Nodup) (member : item ∈ items) :
    items.find? (name · == name item) = some item := by
  induction items with
  | nil => simp at member
  | cons head rest ih =>
    obtain ⟨fresh, distinct⟩ := List.nodup_cons.mp distinct
    rcases List.mem_cons.mp member with rfl | member
    · exact List.find?_cons_of_pos (by simp)
    · have other : name head ≠ name item := by
        intro same
        exact fresh (same ▸ List.mem_map_of_mem member)
      rw [List.find?_cons_of_neg (by simpa using other)]
      exact ih distinct member

section

variable [Std.LawfulEqOrd κ]

@[simp] theorem lookupEntry_insertEntry_self (key : κ) (value : ν) (entries : List (κ × ν)) :
    lookupEntry key (insertEntry key value entries) = some value := by
  induction entries with
  | nil => simp [insertEntry, lookupEntry]
  | cons head rest ih =>
    obtain ⟨k, old⟩ := head
    unfold insertEntry
    split
    · simp [lookupEntry]
    · simp [lookupEntry]
    · rename_i after
      simp [lookupEntry, after, ih]

theorem lookupEntry_insertEntry_of_ne (different : other ≠ key) (value : ν)
    (entries : List (κ × ν)) :
    lookupEntry other (insertEntry key value entries) = lookupEntry other entries := by
  induction entries with
  | nil => simp [insertEntry, lookupEntry, different]
  | cons head rest ih =>
    obtain ⟨k, old⟩ := head
    unfold insertEntry
    split
    · simp [lookupEntry, different]
    · rename_i same
      obtain rfl : key = k := Std.LawfulEqOrd.eq_of_compare same
      simp [lookupEntry, different]
    · simp only [lookupEntry, ih]

@[simp] theorem lookupEntry_eraseEntry_self (key : κ) (entries : List (κ × ν)) :
    lookupEntry key (eraseEntry key entries) = none := by
  induction entries with
  | nil => rfl
  | cons head rest ih =>
    obtain ⟨k, old⟩ := head
    by_cases same : key = k
    · simpa [eraseEntry, same] using ih
    · simpa [eraseEntry, same, lookupEntry] using ih

theorem lookupEntry_eraseEntry_of_ne (different : other ≠ key) (entries : List (κ × ν)) :
    lookupEntry other (eraseEntry key entries) = lookupEntry other entries := by
  induction entries with
  | nil => rfl
  | cons head rest ih =>
    obtain ⟨k, old⟩ := head
    by_cases same : key = k
    · subst same
      simpa [eraseEntry, lookupEntry, different] using ih
    · simpa [eraseEntry, same, lookupEntry] using congrArg _ ih

theorem mem_of_lookupEntry (found : lookupEntry key entries = some value) :
    (key, value) ∈ entries := by
  induction entries with
  | nil => simp [lookupEntry] at found
  | cons head rest ih =>
    obtain ⟨k, old⟩ := head
    by_cases same : key = k
    · simp_all [lookupEntry]
    · simp only [lookupEntry, Std.LawfulEqOrd.compare_eq_iff_eq, same, ↓reduceIte] at found
      exact List.mem_cons_of_mem _ (ih found)

theorem Ascending.lookupEntry_of_mem (ascending : Ascending entries)
    (member : (key, value) ∈ entries) : lookupEntry key entries = some value := by
  induction entries with
  | nil => simp at member
  | cons head rest ih =>
    obtain ⟨k, old⟩ := head
    obtain ⟨first, later⟩ := List.pairwise_cons.mp ascending
    rcases List.mem_cons.mp member with equal | member
    · cases equal
      simp [lookupEntry]
    · have before := first _ member
      have different : key ≠ k := by
        rintro rfl
        simp at before
      simp [lookupEntry, different, ih later member]

theorem Ascending.lookupEntry_tail (ascending : Ascending ((key, value) :: entries)) :
    lookupEntry key entries = none := by
  rw [Option.eq_none_iff_forall_ne_some]
  intro other found
  have later := (List.pairwise_cons.mp ascending).1 _ (mem_of_lookupEntry found)
  simp at later

theorem Ascending.lookupEntry_eq_some_iff (ascending : Ascending entries) :
    lookupEntry key entries = some value ↔ (key, value) ∈ entries :=
  ⟨mem_of_lookupEntry, ascending.lookupEntry_of_mem⟩

end

variable [Std.TransOrd κ]

theorem insertEntry_append (ascending : Ascending (entries ++ [(key, value)])) :
    insertEntry key value entries = entries ++ [(key, value)] := by
  induction entries with
  | nil => rfl
  | cons head rest ih =>
    obtain ⟨k, old⟩ := head
    obtain ⟨first, later⟩ := List.pairwise_cons.mp ascending
    have before : compare k key = .lt := first (key, value) (by simp)
    have after : compare key k = .gt := Std.OrientedCmp.gt_iff_lt.mpr before
    simp [insertEntry, after, ih later]

variable [Std.LawfulEqOrd κ]

theorem Ascending.eq_of_mem_iff {left right : List (κ × ν)} (leftAscending : Ascending left)
    (rightAscending : Ascending right) (same : ∀ entry, entry ∈ left ↔ entry ∈ right) :
    left = right := by
  induction left generalizing right with
  | nil =>
    cases right with
    | nil => rfl
    | cons head rest => simpa using same head
  | cons head rest ih =>
    cases right with
    | nil => simpa using same head
    | cons first more =>
      obtain ⟨headFirst, restAscending⟩ := List.pairwise_cons.mp leftAscending
      obtain ⟨firstFirst, moreAscending⟩ := List.pairwise_cons.mp rightAscending
      -- Each head stands in the other list, so neither can come after the other.
      have equal : head = first := by
        rcases List.mem_cons.mp ((same head).mp (by simp)) with equal | behind
        · exact equal
        rcases List.mem_cons.mp ((same first).mpr (by simp)) with equal | ahead
        · exact equal.symm
        have before := firstFirst _ behind
        have after := headFirst _ ahead
        rw [Std.OrientedCmp.gt_iff_lt.mpr after] at before
        contradiction
      subst equal
      congr 1
      refine ih restAscending moreAscending fun entry => ⟨fun member => ?_, fun member => ?_⟩
      · rcases List.mem_cons.mp ((same entry).mp (List.mem_cons_of_mem _ member)) with rfl | found
        · simpa using headFirst _ member
        · exact found
      · rcases List.mem_cons.mp ((same entry).mpr (List.mem_cons_of_mem _ member)) with rfl | found
        · simpa using firstFirst _ member
        · exact found

namespace SortedMap

omit [Std.TransOrd κ] [Std.LawfulEqOrd κ] in
@[simp] theorem get?_empty (key : κ) : (empty : SortedMap κ ν).get? key = none := rfl

@[simp] theorem get?_insert_self (map : SortedMap κ ν) (key : κ) (value : ν) :
    (map.insert key value).get? key = some value :=
  lookupEntry_insertEntry_self key value map.entries

theorem get?_insert_of_ne (map : SortedMap κ ν) (different : other ≠ key) (value : ν) :
    (map.insert key value).get? other = map.get? other :=
  lookupEntry_insertEntry_of_ne different value map.entries

omit [Std.TransOrd κ] in
@[simp] theorem get?_erase_self (map : SortedMap κ ν) (key : κ) :
    (map.erase key).get? key = none := lookupEntry_eraseEntry_self key map.entries

omit [Std.TransOrd κ] in
theorem get?_erase_of_ne (map : SortedMap κ ν) (different : other ≠ key) :
    (map.erase key).get? other = map.get? other :=
  lookupEntry_eraseEntry_of_ne different map.entries

omit [Std.TransOrd κ] in
theorem get?_eq_some_iff {map : SortedMap κ ν} :
    map.get? key = some value ↔ (key, value) ∈ map.entries :=
  map.ascending.lookupEntry_eq_some_iff

theorem get?_insert [DecidableEq κ] (map : SortedMap κ ν) (key other : κ) (value : ν) :
    (map.insert key value).get? other = if other = key then some value else map.get? other := by
  split
  · rename_i same
    rw [same, get?_insert_self]
  · rename_i different
    exact get?_insert_of_ne map different value

theorem eq_of_get? {left right : SortedMap κ ν} (same : ∀ key, left.get? key = right.get? key) :
    left = right := by
  refine ext (left.ascending.eq_of_mem_iff right.ascending fun entry => ?_)
  rw [← get?_eq_some_iff, same, get?_eq_some_iff]

theorem insert_insert (map : SortedMap κ ν) (key : κ) (old value : ν) :
    (map.insert key old).insert key value = map.insert key value := by
  refine eq_of_get? fun other => ?_
  by_cases own : other = key
  · rw [own, get?_insert_self, get?_insert_self]
  · rw [get?_insert_of_ne _ own, get?_insert_of_ne _ own, get?_insert_of_ne _ own]

theorem insert_comm (map : SortedMap κ ν) (different : key ≠ other) (value otherValue : ν) :
    (map.insert other otherValue).insert key value =
      (map.insert key value).insert other otherValue := by
  refine eq_of_get? fun found => ?_
  by_cases first : found = key
  · rw [first, get?_insert_self, get?_insert_of_ne _ different, get?_insert_self]
  · by_cases second : found = other
    · rw [second, get?_insert_of_ne _ different.symm, get?_insert_self, get?_insert_self]
    · rw [get?_insert_of_ne _ first, get?_insert_of_ne _ second, get?_insert_of_ne _ second,
        get?_insert_of_ne _ first]

omit [Std.TransOrd κ] in
theorem mem_values_iff {map : SortedMap κ ν} :
    value ∈ map.values ↔ ∃ key, map.get? key = some value := by
  simp [values, get?_eq_some_iff]

omit [Std.TransOrd κ] in
theorem exists_of_last {map : SortedMap κ ν} {greatest : κ}
    (last : map.keys.getLast? = some greatest) : ∃ value, map.get? greatest = some value := by
  obtain ⟨⟨_, value⟩, member, rfl⟩ := List.mem_map.mp (List.mem_of_getLast? last)
  exact ⟨value, get?_eq_some_iff.mpr member⟩

omit [Std.TransOrd κ] in
theorem eq_or_lt_of_last {map : SortedMap κ ν} {greatest : κ}
    (last : map.keys.getLast? = some greatest) (found : map.get? key = some value) :
    key = greatest ∨ compare key greatest = .lt := by
  obtain ⟨earlier, split⟩ := List.getLast?_eq_some_iff.mp last
  have member : key ∈ map.keys := List.mem_map_of_mem (get?_eq_some_iff.mp found)
  have ordered : map.keys.Pairwise (compare · · = .lt) := List.pairwise_map.mpr map.ascending
  rw [split] at member ordered
  rcases List.mem_append.mp member with before | same
  · exact .inr ((List.pairwise_append.mp ordered).2.2 key before greatest (by simp))
  · exact .inl (by simpa using same)

omit [Std.TransOrd κ] [Std.LawfulEqOrd κ] in
theorem get?_eq_none_of_last {map : SortedMap κ ν} (last : map.keys.getLast? = none) (key : κ) :
    map.get? key = none := by
  have none : map.entries = [] := by simpa [keys] using last
  simp [get?, none, lookupEntry]

theorem mem_of_mem_insertAll {pairs : List (κ × ν)} {map : SortedMap κ ν} {entry : κ × ν}
    (member : entry ∈ (pairs.foldl (fun map pair => map.insert pair.1 pair.2) map).entries) :
    entry ∈ pairs ∨ entry ∈ map.entries := by
  induction pairs generalizing map with
  | nil => exact .inr member
  | cons pair pairs ih =>
    rcases ih member with found | found
    · exact .inl (List.mem_cons_of_mem _ found)
    · rcases mem_insertEntry found with rfl | found
      · exact .inl (by simp)
      · exact .inr found

theorem get?_insertAll_of_notMem {pairs : List (κ × ν)} {map : SortedMap κ ν}
    (absent : key ∉ pairs.map Prod.fst) :
    (pairs.foldl (fun map pair => map.insert pair.1 pair.2) map).get? key = map.get? key := by
  induction pairs generalizing map with
  | nil => rfl
  | cons pair pairs ih =>
    simp only [List.map_cons, List.mem_cons, not_or] at absent
    rw [List.foldl_cons, ih absent.2, get?_insert_of_ne _ absent.1]

theorem get?_insertAll_of_mem {pairs : List (κ × ν)} {map : SortedMap κ ν}
    (distinct : (pairs.map Prod.fst).Nodup) (member : (key, value) ∈ pairs) :
    (pairs.foldl (fun map pair => map.insert pair.1 pair.2) map).get? key = some value := by
  induction pairs generalizing map with
  | nil => simp at member
  | cons pair pairs ih =>
    obtain ⟨absent, distinct⟩ := List.nodup_cons.mp distinct
    rcases List.mem_cons.mp member with rfl | member
    · rw [List.foldl_cons, get?_insertAll_of_notMem absent, get?_insert_self]
    · exact ih distinct member

theorem mem_of_mem_ofList {pairs : List (κ × ν)} {entry : κ × ν}
    (member : entry ∈ (ofList pairs).entries) : entry ∈ pairs := by
  rcases mem_of_mem_insertAll member with found | found
  · exact found
  · simp [empty] at found

theorem mem_ofList_iff {pairs : List (κ × ν)} (distinct : (pairs.map Prod.fst).Nodup)
    {entry : κ × ν} : entry ∈ (ofList pairs).entries ↔ entry ∈ pairs :=
  ⟨mem_of_mem_ofList, fun member => get?_eq_some_iff.mp (get?_insertAll_of_mem distinct member)⟩

theorem filter_entries_eq {left right : SortedMap κ ν} {kept : κ → Bool}
    (agree : ∀ key, kept key = true → left.get? key = right.get? key) :
    left.entries.filter (kept ·.1) = right.entries.filter (kept ·.1) := by
  have leftAscending : Ascending (left.entries.filter (kept ·.1)) := left.ascending.filter _
  have rightAscending : Ascending (right.entries.filter (kept ·.1)) := right.ascending.filter _
  apply leftAscending.eq_of_mem_iff rightAscending
  rintro ⟨key, value⟩
  rw [List.mem_filter, List.mem_filter, ← get?_eq_some_iff, ← get?_eq_some_iff]
  constructor
  · rintro ⟨found, keeps⟩
    exact ⟨(agree key keeps).symm.trans found, keeps⟩
  · rintro ⟨found, keeps⟩
    exact ⟨(agree key keeps).trans found, keeps⟩

omit [Std.TransOrd κ] in
theorem nodup_keys (map : SortedMap κ ν) : (map.entries.map Prod.fst).Nodup := by
  refine List.pairwise_map.mpr (map.ascending.imp fun before same => ?_)
  rw [same] at before
  simp at before

/-- A map is made again of its entries, in whatever order and form they come. -/
theorem ofList_eq_of_mem_iff {map : SortedMap κ ν} {pairs : List (κ × ν)}
    (distinct : (pairs.map Prod.fst).Nodup) (same : ∀ entry, entry ∈ pairs ↔ entry ∈ map.entries) :
    ofList pairs = map :=
  ext ((ofList pairs).ascending.eq_of_mem_iff map.ascending fun entry =>
    (mem_ofList_iff distinct).trans (same entry))

end SortedMap

end Admissions
