import Admissions.Proofs.Json.Fields
import Admissions.Proofs.Wizard.Recall
import Admissions.Sample.Maze

namespace Admissions.Wizard

open Json (Value Object)

namespace Definition

def upgradedBy (wizard : Definition) (upgrade : Nat → Object → Option Object) : Definition :=
  { wizard with upgrade }

def savedAnswers (state : Object) : Object :=
  match state.get? "attributes" with
  | some (.object saved) => saved
  | _ => []

/-- The page of a stored object with what the hook makes of its answers. -/
def revived? (wizard : Definition) (version : Nat) (state : Object) :
    Option (wizard.Step × wizard.Answers) := do
  let upgraded ← wizard.upgrade version (savedAnswers state)
  let step ← wizard.stepOfJson? (← state.get? "current_step")
  let answers ← wizard.ofJson? (.object upgraded)
  return (step, answers)

end Definition

variable {wizard : Definition} {state : Object} {version : Nat}

section Telling

theorem uint32?_nat_of_wide (wide : UInt32.size ≤ version) : (Value.nat version).uint32? = none := by
  have wide : 4294967296 ≤ version := wide
  simp only [Value.uint32?, Value.nat, Value.int, Value.int?, UInt32.size, Option.map_eq_none_iff,
    ite_eq_right_iff]
  omega

theorem storedVersion_of_narrow (versioned : state.get? "version" = some (.nat version))
    (narrow : version < UInt32.size) : Definition.storedVersion state = version := by
  have reads := uint32?_nat narrow
  simp only [Definition.storedVersion, versioned, Option.bind_some, reads]
  exact UInt32.toNat_ofNat_of_lt' narrow

theorem storedVersion_of_wide (versioned : state.get? "version" = some (.nat version))
    (wide : UInt32.size ≤ version) : Definition.storedVersion state = 0 := by
  have unread := uint32?_nat_of_wide wide
  simp only [Definition.storedVersion, versioned, Option.bind_some, unread]

theorem ofEnvelope?_of_wide (versioned : state.get? "version" = some (.nat version))
    (wide : UInt32.size ≤ version) : wizard.ofEnvelope? state = none := by
  have unread := uint32?_nat_of_wide wide
  simp only [Definition.ofEnvelope?, versioned, unread, Option.bind_eq_bind, Option.bind_some,
    Option.bind_none]

end Telling

theorem restore?_of_later (later : wizard.schemaVersion < Definition.storedVersion state) :
    wizard.restore? state = none := by
  have different : Definition.storedVersion state ≠ wizard.schemaVersion := by omega
  have ahead : ¬Definition.storedVersion state < wizard.schemaVersion := by omega
  simp only [Definition.restore?, different, ahead, ↓reduceIte]

theorem restore?_of_older (small : wizard.schemaVersion < UInt32.size)
    (older : Definition.storedVersion state < wizard.schemaVersion) :
    wizard.restore? state = wizard.revived? (Definition.storedVersion state) state := by
  have different : Definition.storedVersion state ≠ wizard.schemaVersion := by omega
  have reads := uint32?_nat small
  have rewritten : ∀ upgraded : Object, wizard.ofEnvelope?
      ((state.insert "version" (.nat wizard.schemaVersion)).insert "attributes"
        (.object upgraded)) = do
      let step ← wizard.stepOfJson? (← state.get? "current_step")
      let answers ← wizard.ofJson? (.object upgraded)
      return (step, answers) := by
    intro upgraded
    have current : "current_step" ≠ "attributes" ∧ "current_step" ≠ "version" := by decide
    rw [Definition.ofEnvelope?, Object.get?_insert_of_ne _ (by decide), Object.get?_insert_self,
      Object.get?_insert_of_ne _ current.1, Object.get?_insert_of_ne _ current.2,
      Object.get?_insert_self]
    simp only [Option.bind_eq_bind, Option.bind_some, reads]
  simp only [Definition.restore?, different, older, ↓reduceIte, rewritten]
  rfl

section Loading

variable {store : Store} {key : StoreKey} {payload : String} {context : wizard.Context}

theorem load_eq_restored (readable : store.fault .read = none)
    (stands : store.raw key = some payload)
    (parses : Json.parseValue payload = some (.object state)) :
    Handle.load store key context =
      .ok ((wizard.restore? state).elim (.fresh key context) fun restored =>
        ⟨key, context, restored.1, restored.2⟩) := by
  have recalled : wizard.recalled store key = wizard.restore? state := by
    simp only [Definition.recalled, stands, Store.decode, parses]
  rw [load_eq_resume readable, Definition.resume, Definition.resumed, recalled]
  cases wizard.restore? state <;> rfl

theorem load_of_later_narrow (readable : store.fault .read = none)
    (stands : store.raw key = some payload)
    (parses : Json.parseValue payload = some (.object state))
    (versioned : state.get? "version" = some (.nat version))
    (later : wizard.schemaVersion < version) (narrow : version < UInt32.size) :
    Handle.load store key context = .ok (.fresh key context) := by
  have told := storedVersion_of_narrow versioned narrow
  have given_up : wizard.restore? state = none := restore?_of_later (told ▸ later)
  rw [load_eq_restored readable stands parses, given_up, Option.elim_none]

theorem load_of_wide (small : wizard.schemaVersion < UInt32.size)
    (readable : store.fault .read = none) (stands : store.raw key = some payload)
    (parses : Json.parseValue payload = some (.object state))
    (versioned : state.get? "version" = some (.nat version)) (wide : UInt32.size ≤ version) :
    Handle.load store key context =
      .ok (if wizard.schemaVersion = 0 then .fresh key context
        else (wizard.revived? 0 state).elim (.fresh key context) fun revived =>
          ⟨key, context, revived.1, revived.2⟩) := by
  have told := storedVersion_of_wide versioned wide
  rw [load_eq_restored readable stands parses]
  split
  · rename_i earliest
    have unread : wizard.restore? state = none := by
      rw [Definition.restore?, told, earliest, if_pos rfl, ofEnvelope?_of_wide versioned wide]
    rw [unread, Option.elim_none]
  · have older : Definition.storedVersion state < wizard.schemaVersion := by omega
    rw [restore?_of_older small older, told]

end Loading

/-- Whatever the hook, state of a later version is given up where the version takes at most 32 bits,
    or where there is no earlier one. Any other state of a greater version passes for state of
    version 0, and loading resumes with what the hook makes of it. -/
theorem later_versions_given_up (wizard : Definition) (small : wizard.schemaVersion < UInt32.size)
    {store : Store} {key : StoreKey} {payload : String} {state : Object} {version : Nat}
    (readable : store.fault .read = none) (stands : store.raw key = some payload)
    (parses : Json.parseValue payload = some (.object state))
    (versioned : state.get? "version" = some (.nat version))
    (later : wizard.schemaVersion < version) (context : wizard.Context)
    (upgrade : Nat → Object → Option Object) :
    let changed := wizard.upgradedBy upgrade
    let loaded : changed.Result (Handle changed) := Handle.load store key context
    (version < UInt32.size ∨ wizard.schemaVersion = 0 → loaded = .ok (.fresh key context)) ∧
    (UInt32.size ≤ version → wizard.schemaVersion ≠ 0 →
      loaded = .ok ((changed.revived? 0 state).elim (.fresh key context) fun revived =>
        ⟨key, context, revived.1, revived.2⟩)) := by
  intro changed loaded
  have widely : UInt32.size ≤ version → loaded = .ok (if changed.schemaVersion = 0
      then .fresh key context
      else (changed.revived? 0 state).elim (.fresh key context) fun revived =>
        ⟨key, context, revived.1, revived.2⟩) :=
    fun wide => load_of_wide small readable stands parses versioned wide
  constructor
  · intro told
    by_cases narrow : version < UInt32.size
    · exact load_of_later_narrow readable stands parses versioned later narrow
    · have earliest : changed.schemaVersion = 0 := told.resolve_left narrow
      rw [widely (Nat.le_of_not_lt narrow), if_pos earliest]
  · intro wide past
    have later : changed.schemaVersion ≠ 0 := past
    rw [widely wide, if_neg later]

def taggedState (version : Nat) : Object :=
  [("attributes", .object [("tags", .list .string ["x"])]), ("current_step", .string "b"),
    ("version", .nat version)]

def taggedStore (version : Nat) : Store :=
  Store.empty.putRaw ⟨"k"⟩ (Value.object (taggedState version)).text

theorem parseValue_taggedState (small : version < UInt64.size) :
    Json.parseValue (Value.object (taggedState version)).text =
      some (.object (taggedState version)) := by
  have ascending : Ascending (taggedState version) := by
    apply ascending_of_keys
    simp only [taggedState, List.map_cons, List.map_nil]
    decide
  have tags : (Value.list Value.string ["x"]).Storable 1 := Json.Codec.string.list.storable ["x"]
  have attributes : (Value.object [("tags", .list .string ["x"])]).Storable 2 :=
    Value.storable_object (List.pairwise_singleton _ _) (by simpa using tags)
  have storable : (Value.object (taggedState version)).Storable 3 := by
    refine Value.storable_object ascending fun member found => ?_
    simp only [taggedState, List.mem_cons, List.not_mem_nil, or_false] at found
    rcases found with rfl | rfl | rfl
    · exact attributes
    · exact Value.storable_string "b"
    · exact Value.storable_nat small
  have shallow := Nat.le_trans storable.shallow (by decide : 3 ≤ Json.greatestDepth)
  exact Value.parseValue_text ⟨storable.canonical, storable.floatFree, shallow⟩

def loadTagged (version : Nat) (upgrade : Nat → Object → Option Object) :
    let changed := Sample.Maze.wizard.upgradedBy upgrade
    changed.Result (Handle changed) :=
  Handle.load (taggedStore version) ⟨"k"⟩ ()

theorem later_versions_given_up_tagged :
    loadTagged 4294967295 Sample.Maze.wizard.upgrade = .ok (.fresh ⟨"k"⟩ ()) ∧
    loadTagged 4294967296 Sample.Maze.wizard.upgrade =
      .ok ⟨⟨"k"⟩, (), Sample.Maze.Step.b, ⟨.empty, ["x"], .nat 0⟩⟩ := by
  have small : Sample.Maze.wizard.schemaVersion < UInt32.size := by decide
  have stands (version : Nat) : (taggedStore version).raw ⟨"k"⟩ =
      some (Value.object (taggedState version)).text := raw_putRaw_self _ _ _
  have narrow := later_versions_given_up Sample.Maze.wizard small rfl (stands 4294967295)
    (parseValue_taggedState (by decide)) rfl (by decide) () Sample.Maze.wizard.upgrade
  have wide := later_versions_given_up Sample.Maze.wizard small rfl (stands 4294967296)
    (parseValue_taggedState (by decide)) rfl (by decide) () Sample.Maze.wizard.upgrade
  exact ⟨narrow.1 (.inl (by decide)), wide.2 (by decide) (by decide)⟩

/-- A version of 33 bits, far later than the present one: the hook brings the state back, and a hook
    that gives it up does not. -/
theorem later_version_upgraded :
    Sample.Maze.wizard.schemaVersion < 4294967296 ∧
    (taggedStore 4294967296).raw ⟨"k"⟩ = some (Value.object (taggedState 4294967296)).text ∧
    Json.parseValue (Value.object (taggedState 4294967296)).text =
      some (.object (taggedState 4294967296)) ∧
    Object.get? (taggedState 4294967296) "version" = some (.nat 4294967296) ∧
    loadTagged 4294967296 Sample.Maze.wizard.upgrade ≠ .ok (.fresh ⟨"k"⟩ ()) ∧
    loadTagged 4294967296 (fun _ _ => none) = .ok (.fresh ⟨"k"⟩ ()) := by
  have stands : (taggedStore 4294967296).raw ⟨"k"⟩ =
      some (Value.object (taggedState 4294967296)).text := raw_putRaw_self _ _ _
  have parses : Json.parseValue (Value.object (taggedState 4294967296)).text =
      some (.object (taggedState 4294967296)) := parseValue_taggedState (by decide)
  refine ⟨by decide, stands, parses, rfl, ?_, ?_⟩
  · intro ignored
    have loaded : loadTagged 4294967296 Sample.Maze.wizard.upgrade =
        .ok ⟨⟨"k"⟩, (), Sample.Maze.Step.b, ⟨.empty, ["x"], .nat 0⟩⟩ :=
      load_of_wide (by decide) rfl stands parses rfl (by decide)
    have same := congrArg Handle.step (Except.ok.inj (loaded.symm.trans ignored))
    exact Sample.Maze.Step.noConfusion same
  · exact load_of_wide (by decide) rfl stands parses rfl (by decide)

end Admissions.Wizard
