import Admissions.Proofs.Json.RoundTrip
import Admissions.Proofs.SortedMap
import Admissions.Wizard.Store

namespace Admissions.Wizard

open Json (Value Object)

variable {store : Store} {key other : StoreKey}

def Store.Working (store : Store) : Prop := ∀ call, store.fault call = none

theorem fault_unavailable {error : StoreError} {call : StoreCall}
    (failing : store.fault call = some error) : ∃ cause, error = .unavailable cause := by
  unfold Store.fault at failing
  split at failing
  · exact ⟨_, (Option.some.inj failing).symm⟩
  · split at failing
    · exact ⟨_, (Option.some.inj failing).symm⟩
    · contradiction

theorem decode_corrupt {payload : String} {error : StoreError}
    (failed : Store.decode key payload = .error error) : error = .corrupt key.text := by
  unfold Store.decode at failed
  split at failed
  · contradiction
  · exact (Except.error.inj failed).symm

theorem text_ne_text (different : other ≠ key) : other.text ≠ key.text := by
  intro same
  apply different
  cases other
  cases key
  cases same
  rfl

@[simp] theorem raw_putRaw_self (store : Store) (key : StoreKey) (payload : String) :
    (store.putRaw key payload).raw key = some payload :=
  SortedMap.get?_insert_self store.entries key.text payload

theorem raw_putRaw_of_ne (different : other ≠ key) (payload : String) :
    (store.putRaw key payload).raw other = store.raw other :=
  SortedMap.get?_insert_of_ne store.entries (text_ne_text different) payload

def Store.without (store : Store) (key : StoreKey) : Store :=
  { store with entries := store.entries.erase key.text }

@[simp] theorem raw_without_self (store : Store) (key : StoreKey) :
    (store.without key).raw key = none :=
  SortedMap.get?_erase_self store.entries key.text

theorem raw_without_of_ne (different : other ≠ key) :
    (store.without key).raw other = store.raw other :=
  SortedMap.get?_erase_of_ne store.entries (text_ne_text different)

/-- The text of an object decodes to it, unless the object is too deep for a text. -/
theorem decode_text (key : StoreKey) {state : Object} (canonical : (Value.object state).Canonical)
    (floatFree : (Value.object state).FloatFree) :
    Store.decode key (Value.object state).text =
      if (Value.object state).depth ≤ Json.greatestDepth then .ok state
      else .error (.corrupt key.text) := by
  rw [Store.decode, Json.parseValue_text_eq canonical floatFree]
  by_cases shallow : (Value.object state).depth ≤ Json.greatestDepth
  · simp only [shallow, ↓reduceIte]
  · simp only [shallow, ↓reduceIte]

theorem write_of_working (working : store.Working) (key : StoreKey) (state : Object) :
    store.write key state = (.ok (), store.putRaw key (Value.object state).text) := by
  simp only [Store.write, working .write]

theorem working_putRaw (working : store.Working) (key : StoreKey) (payload : String) :
    (store.putRaw key payload).Working := working

theorem read_of_working (working : store.Working) (key : StoreKey) :
    store.read key = match store.raw key with
      | none => .ok none
      | some payload => (Store.decode key payload).map some := by
  cases raw : store.raw key with
  | none => simp only [Store.read, working .read, raw]
  | some payload => simp only [Store.read, working .read, raw]

theorem read_after_write (working : store.Working) (key : StoreKey) {state : Object}
    (canonical : (Value.object state).Canonical) (floatFree : (Value.object state).FloatFree) :
    (store.write key state).1 = .ok () ∧
    (store.write key state).2.read key =
      (if (Value.object state).depth ≤ 127 then .ok (some state)
        else .error (.corrupt key.text)) ∧
    ∀ other, other ≠ key → (store.write key state).2.read other = store.read other := by
  have written := write_of_working working key state
  have works := working_putRaw working key (Value.object state).text
  refine ⟨?_, ?_, fun other different => ?_⟩
  · rw [written]
  · rw [written, read_of_working works, raw_putRaw_self]
    dsimp only
    rw [decode_text key canonical floatFree, Json.greatestDepth]
    split <;> rfl
  · rw [written, read_of_working works, read_of_working working, raw_putRaw_of_ne different]

def layers : Nat → Object
  | 0 => [("\x00\"\\", .string "\n\x1f𝄞"), ("greatest", .int 18446744073709551615),
      ("least", .int (-9223372036854775808))]
  | n + 1 => [("inner", .object (layers n))]

theorem depth_layers (n : Nat) : (Value.object (layers n)).depth = n + 1 := by
  induction n with
  | zero => rfl
  | succ n ih =>
    rw [layers, Value.depth, Value.membersDepth, Value.membersDepth, ih]
    omega

theorem canonical_layers (n : Nat) : (Value.object (layers n)).Canonical := by
  induction n with
  | zero =>
    have ascending : Ascending (layers 0) := ascending_of_keys (by decide)
    have greatest : (Value.int 18446744073709551615).Canonical := by
      constructor <;> decide
    have least : (Value.int (-9223372036854775808)).Canonical := by
      constructor <;> decide
    exact ⟨ascending, trivial, greatest, least, trivial⟩
  | succ n ih =>
    have ascending : Ascending (layers (n + 1)) := List.pairwise_singleton _ _
    exact ⟨ascending, ih, trivial⟩

theorem floatFree_layers (n : Nat) : (Value.object (layers n)).FloatFree := by
  induction n with
  | zero => exact ⟨trivial, trivial, trivial, trivial⟩
  | succ n ih => exact ⟨ih, trivial⟩

theorem read_after_write_of_layers :
    (Store.empty.write ⟨"k"⟩ (layers 126)).2.read ⟨"k"⟩ = .ok (some (layers 126)) ∧
    (Store.empty.write ⟨"k"⟩ (layers 127)).2.read ⟨"k"⟩ = .error (.corrupt "k") := by
  have working : Store.empty.Working := by intro call; cases call <;> rfl
  have kept := read_after_write working ⟨"k"⟩ (canonical_layers 126) (floatFree_layers 126)
  have lost := read_after_write working ⟨"k"⟩ (canonical_layers 127) (floatFree_layers 127)
  rw [depth_layers] at kept lost
  exact ⟨kept.2.1, lost.2.1⟩

end Admissions.Wizard
