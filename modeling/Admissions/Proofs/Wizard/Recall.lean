import Admissions.Wizard.Handle
import Admissions.Proofs.Json.Codec
import Admissions.Proofs.Wizard.Store

namespace Admissions.Wizard

open Json (Value Object Codec)

def answersDepth : Nat := Json.greatestDepth - 1

/-- Pages and answers are read from the store as they were written. -/
structure Definition.Faithful (wizard : Definition) : Prop where
  version : wizard.schemaVersion < UInt32.size
  steps : Codec answersDepth wizard.stepToJson wizard.stepOfJson?
  answers : Codec answersDepth wizard.toJson wizard.ofJson?

namespace Definition

variable (wizard : Definition)

def recalled (store : Store) (key : StoreKey) : Option (wizard.Step × wizard.Answers) :=
  match store.raw key with
  | none => none
  | some payload =>
    match Store.decode key payload with
    | .ok state => wizard.restore? state
    | .error _ => none

def resumed (store : Store) (key : StoreKey) (context : wizard.Context) :
    wizard.Step × wizard.Answers :=
  (wizard.recalled store key).getD (wizard.first context, wizard.blank)

end Definition

variable {wizard : Definition} {store : Store} {key other : StoreKey} {context : wizard.Context}

theorem envelope_storable (faithful : wizard.Faithful) (step : wizard.Step)
    (answers : wizard.Answers) :
    (Value.object (wizard.envelope step answers)).Storable Json.greatestDepth := by
  have version : (Value.nat wizard.schemaVersion).Storable answersDepth :=
    Json.Value.storable_nat (Nat.lt_trans faithful.version (by decide))
  have ascending : Ascending (wizard.envelope step answers) := by
    apply ascending_of_keys
    simp only [Definition.envelope, List.map_cons, List.map_nil]
    decide
  change (Value.object (wizard.envelope step answers)).Storable (answersDepth + 1)
  refine Json.Value.storable_object ascending fun member found => ?_
  simp only [Definition.envelope, List.mem_cons, List.not_mem_nil, or_false] at found
  rcases found with rfl | rfl | rfl
  · exact faithful.answers.storable answers
  · exact faithful.steps.storable step
  · exact version

theorem uint32?_nat {n : Nat} (bound : n < UInt32.size) :
    (Value.nat n).uint32? = some (UInt32.ofNat n) := by
  rw [Value.uint32?, Value.int?_nat (by omega), Option.map_some, Int.toNat_natCast]

theorem restore?_envelope (faithful : wizard.Faithful) (step : wizard.Step)
    (answers : wizard.Answers) :
    wizard.restore? (wizard.envelope step answers) = some (step, answers) := by
  have attributes : Object.get? (wizard.envelope step answers) "attributes" =
      some (wizard.toJson answers) := by
    simp [Definition.envelope, Object.get?, lookupEntry]
  have current : Object.get? (wizard.envelope step answers) "current_step" =
      some (wizard.stepToJson step) := by
    simp [Definition.envelope, Object.get?, lookupEntry]
  have version : Object.get? (wizard.envelope step answers) "version" =
      some (.nat wizard.schemaVersion) := by
    simp [Definition.envelope, Object.get?, lookupEntry]
  have small := uint32?_nat faithful.version
  -- The version is the present one, so the hook is not called.
  have present : Definition.storedVersion (wizard.envelope step answers) =
      wizard.schemaVersion := by
    simp only [Definition.storedVersion, version, Option.bind_some, small]
    exact UInt32.toNat_ofNat_of_lt' faithful.version
  simp only [Definition.restore?, present, ↓reduceIte, Definition.ofEnvelope?, version, small,
    current, attributes, faithful.steps.reads, faithful.answers.reads, Option.bind_eq_bind,
    Option.bind_some, Option.pure_def]

theorem recalled_putRaw_self (faithful : wizard.Faithful) (store : Store) (key : StoreKey)
    (step : wizard.Step) (answers : wizard.Answers) :
    wizard.recalled (store.putRaw key (Value.object (wizard.envelope step answers)).text) key =
      some (step, answers) := by
  have read := Json.Value.parseValue_text (envelope_storable faithful step answers)
  simp only [Definition.recalled, Store.raw, Store.putRaw, SortedMap.get?_insert_self,
    Store.decode, read, restore?_envelope faithful]

theorem recalled_putRaw_of_ne (different : other ≠ key) (payload : String) :
    wizard.recalled (store.putRaw key payload) other = wizard.recalled store other := by
  simp only [Definition.recalled, raw_putRaw_of_ne different]

theorem recalled_without_self (store : Store) (key : StoreKey) :
    wizard.recalled (store.without key) key = none := by
  simp only [Definition.recalled, Store.raw, Store.without, SortedMap.get?_erase_self]

theorem recalled_without_of_ne (different : other ≠ key) :
    wizard.recalled (store.without key) other = wizard.recalled store other := by
  simp only [Definition.recalled, raw_without_of_ne different]

def Definition.resume (wizard : Definition) (store : Store) (key : StoreKey)
    (context : wizard.Context) : Handle wizard :=
  ⟨key, context, (wizard.resumed store key context).1, (wizard.resumed store key context).2⟩

/-- Loading resumes as far as the store can be read, whatever stands under the key. -/
theorem load_eq_resume (readable : store.fault .read = none) :
    Handle.load store key context = .ok (wizard.resume store key context) := by
  unfold Handle.load Definition.resume Definition.resumed Definition.recalled Store.read
  rw [readable]
  dsimp only
  cases raw : store.raw key with
  | none => rfl
  | some payload =>
    dsimp only
    cases decoded : Store.decode key payload with
    | error error =>
      obtain rfl := decode_corrupt decoded
      rfl
    | ok state =>
      simp only [Except.map]
      cases wizard.restore? state <;> rfl

theorem eq_resume_of_load {handle : Handle wizard}
    (loaded : Handle.load store key context = .ok handle) :
    handle = wizard.resume store key context := by
  cases failing : store.fault .read with
  | none =>
    rw [load_eq_resume failing] at loaded
    exact (Except.ok.inj loaded).symm
  | some error =>
    obtain ⟨cause, rfl⟩ := fault_unavailable failing
    simp [Handle.load, Store.read, failing] at loaded

end Admissions.Wizard
