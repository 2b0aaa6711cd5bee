namespace Admissions

universe u v

variable {κ : Type u} {ν : Type v} [Ord κ]

def lookupEntry (key : κ) : List (κ × ν) → Option ν
  | [] => none
  | (k, value) :: rest => if compare key k = .eq then some value else lookupEntry key rest

def insertEntry (key : κ) (value : ν) : List (κ × ν) → List (κ × ν)
  | [] => [(key, value)]
  | (k, old) :: rest =>
    match compare key k with
    | .lt => (key, value) :: (k, old) :: rest
    | .eq => (key, value) :: rest
    | .gt => (k, old) :: insertEntry key value rest

def eraseEntry (key : κ) (entries : List (κ × ν)) : List (κ × ν) :=
  entries.filter fun entry => compare key entry.1 != .eq

def Ascending (entries : List (κ × ν)) : Prop :=
  entries.Pairwise fun left right => compare left.1 right.1 = .lt

theorem mem_insertEntry {key : κ} {value : ν} {entries : List (κ × ν)} {entry : κ × ν}
    (member : entry ∈ insertEntry key value entries) : entry = (key, value) ∨ entry ∈ entries := by
  induction entries with
  | nil => simpa [insertEntry] using member
  | cons head rest ih =>
    obtain ⟨k, old⟩ := head
    unfold insertEntry at member
    split at member <;> grind

theorem Ascending.erase {entries : List (κ × ν)} (ascending : Ascending entries) (key : κ) :
    Ascending (eraseEntry key entries) := List.Pairwise.filter _ ascending

variable [Std.TransOrd κ] [Std.LawfulEqOrd κ]

theorem Ascending.insert {entries : List (κ × ν)} (ascending : Ascending entries) (key : κ)
    (value : ν) : Ascending (insertEntry key value entries) := by
  induction entries with
  | nil => simp [insertEntry, Ascending]
  | cons head rest ih =>
    obtain ⟨k, old⟩ := head
    obtain ⟨first, later⟩ := List.pairwise_cons.mp ascending
    unfold insertEntry
    split
    · rename_i before
      refine List.pairwise_cons.mpr ⟨fun entry member => ?_, ascending⟩
      rcases List.mem_cons.mp member with rfl | member
      · exact before
      · exact Std.TransCmp.lt_trans before (first entry member)
    · rename_i same
      have equal : key = k := Std.LawfulEqOrd.eq_of_compare same
      exact List.pairwise_cons.mpr ⟨fun entry member => equal ▸ first entry member, later⟩
    · rename_i after
      refine List.pairwise_cons.mpr ⟨fun entry member => ?_, ih later⟩
      rcases mem_insertEntry member with rfl | member
      · exact Std.OrientedCmp.gt_iff_lt.mp after
      · exact first entry member

/-- A finite map; its entries ascend strictly by key. -/
structure SortedMap (κ : Type u) (ν : Type v) [Ord κ] where
  entries : List (κ × ν)
  ascending : Ascending entries

namespace SortedMap

omit [Std.TransOrd κ] [Std.LawfulEqOrd κ] in
@[ext] theorem ext {left right : SortedMap κ ν} (same : left.entries = right.entries) :
    left = right := by
  cases left; cases right; cases same; rfl

omit [Std.TransOrd κ] [Std.LawfulEqOrd κ] in
theorem eq_iff {left right : SortedMap κ ν} : left = right ↔ left.entries = right.entries :=
  ⟨fun same => same ▸ rfl, ext⟩

instance [DecidableEq κ] [DecidableEq ν] : DecidableEq (SortedMap κ ν) :=
  fun left right => decidable_of_iff (left.entries = right.entries) eq_iff.symm

def empty : SortedMap κ ν := ⟨[], List.Pairwise.nil⟩

instance : Inhabited (SortedMap κ ν) := ⟨empty⟩

def get? (map : SortedMap κ ν) (key : κ) : Option ν := lookupEntry key map.entries

def contains (map : SortedMap κ ν) (key : κ) : Bool := (map.get? key).isSome

def insert (map : SortedMap κ ν) (key : κ) (value : ν) : SortedMap κ ν :=
  ⟨insertEntry key value map.entries, map.ascending.insert key value⟩

def erase (map : SortedMap κ ν) (key : κ) : SortedMap κ ν :=
  ⟨eraseEntry key map.entries, map.ascending.erase key⟩

def keys (map : SortedMap κ ν) : List κ := map.entries.map Prod.fst

def values (map : SortedMap κ ν) : List ν := map.entries.map Prod.snd

def size (map : SortedMap κ ν) : Nat := map.entries.length

def isEmpty (map : SortedMap κ ν) : Bool := map.entries.isEmpty

/-- Later pairs replace earlier ones of the same key. -/
def ofList (pairs : List (κ × ν)) : SortedMap κ ν :=
  pairs.foldl (fun map pair => map.insert pair.1 pair.2) empty

end SortedMap

end Admissions
