import Admissions.Proofs.Json.Maps
import Admissions.Proofs.Permissions.Encoding
import Admissions.Proofs.Wizard.Editing

namespace Admissions.Permissions

open Json (Value Object Codec)
open Wizard (Handle Target)
open Wizard.Definition.Editing (field_editAll)

variable {members : Object} {name : String} {value : Value} {now : Answers} {step : Step}

def Answers.tick (answers : Answers) (relationship : UInt64) (permission : String)
    (ticked : List String) : Answers :=
  { answers with
    permissions := answers.permissions.insert relationship
      (((answers.ticks? relationship).getD .empty).insert permission ticked) }

def edit (step : Step) (name : String) (value : Value) : Option (Answers → Answers) :=
  match name with
  | "provider_relationships" =>
    (Value.list? Value.uint64? value).map fun relationships answers =>
      { answers with relationships := relationships.eraseDups }
  | "checking_answers" =>
    value.bool?.map fun checkingAnswers answers => { answers with checkingAnswers }
  | name =>
    match step with
    | .permissions relationship =>
      (Value.list? Value.string? value).map fun ticked answers =>
        answers.tick relationship name ticked
    | _ => some id

def decodes (name : String) (value : Value) : Bool :=
  match name with
  | "provider_relationships" => (Value.list? Value.uint64? value).isSome
  | "checking_answers" => value.bool?.isSome
  | "make_decisions" | "view_safeguarding_information" | "view_diversity_information" =>
    (Value.list? Value.string? value).isSome
  | _ => true

theorem isSome_edit {step : Step} {name : String} (permitted : step.permitted.contains name = true)
    (value : Value) : (edit step name value).isSome = decodes name value := by
  cases step with
  | providerRelationships =>
    have named : name = "provider_relationships" ∨ name = "checking_answers" := by
      simpa [Step.permitted] using permitted
    rcases named with rfl | rfl <;> simp [edit, decodes]
  | permissions relationship =>
    have named : name = "make_decisions" ∨ name = "view_safeguarding_information" ∨
        name = "view_diversity_information" ∨ name = "checking_answers" := by
      simpa [Step.permitted] using permitted
    rcases named with rfl | rfl | rfl | rfl <;> simp [edit, decodes]
  | info | check => simp [Step.permitted] at permitted

section Selection

theorem same_uint64_iff {n : UInt64} : value.same (.uint64 n) = true ↔ value = .uint64 n := by
  cases value with
  | number x =>
    cases x with
    | int m => simp [Value.uint64, Value.nat, Value.int, Value.same, Json.Number.same]
    | float x => simp [Value.uint64, Value.nat, Value.int, Value.same, Json.Number.same]
  | null | bool b | string s | array items | object members =>
    simp [Value.uint64, Value.nat, Value.int, Value.same]

theorem uint64_injective : Function.Injective Value.uint64 := by
  intro m n same
  have codec : Codec 0 Value.uint64 Value.uint64? := Codec.uint64
  have reads := congrArg Value.uint64? same
  rw [codec.reads, codec.reads] at reads
  exact Option.some.inj reads

theorem any_same_uint64_iff {kept : List UInt64} {id : UInt64} :
    (kept.map Value.uint64).any (Value.uint64 id).same = true ↔ id ∈ kept := by
  rw [List.any_eq_true]
  constructor
  · rintro ⟨_, member, same⟩
    obtain ⟨other, found, rfl⟩ := List.mem_map.mp member
    exact uint64_injective (same_uint64_iff.mp same) ▸ found
  · intro member
    exact ⟨_, List.mem_map_of_mem member, same_uint64_iff.mpr rfl⟩

theorem withoutRepeats_map (kept ids : List UInt64) :
    withoutRepeats (kept.map .uint64) (ids.map .uint64) =
      (kept ++ (ids.filter (· ∉ kept)).eraseDups).map .uint64 := by
  -- On the ids that are still to come, over those that are kept already.
  induction ids generalizing kept with
  | nil => simp [withoutRepeats]
  | cons id ids ih =>
    rw [List.map_cons, withoutRepeats]
    by_cases again : id ∈ kept
    · rw [if_pos (any_same_uint64_iff.mpr again), ih, List.filter_cons_of_neg (by simpa using again)]
    · have extended : kept.map Value.uint64 ++ [Value.uint64 id] =
          (kept ++ [id]).map Value.uint64 := by simp
      have fresh : ids.filter (· ∉ kept ++ [id]) =
          (ids.filter (· ∉ kept)).filter fun other => !other == id := by
        rw [List.filter_filter]
        refine List.filter_congr fun other _ => ?_
        rw [Bool.eq_iff_iff]
        simp [and_comm]
      rw [if_neg (mt any_same_uint64_iff.mp again), extended, ih, fresh,
        List.filter_cons_of_pos (by simpa using again), List.eraseDups_cons, List.append_assoc]
      rfl

theorem mem_withoutRepeats_of_kept {kept : List Value} {other : Value} (member : other ∈ kept)
    (items : List Value) : other ∈ withoutRepeats kept items := by
  induction items generalizing kept with
  | nil => exact member
  | cons item items ih =>
    rw [withoutRepeats]
    split
    · exact ih member
    · exact ih (List.mem_append_left _ member)

theorem kept_or_same_of_mem {items : List Value} {item : Value} (member : item ∈ items)
    (kept : List Value) : item ∈ withoutRepeats kept items ∨
      ∃ other ∈ withoutRepeats kept items, item.same other = true := by
  induction items generalizing kept with
  | nil => contradiction
  | cons first items ih =>
    rw [withoutRepeats]
    rcases List.mem_cons.mp member with rfl | member
    · split
      · rename_i again
        obtain ⟨other, found, same⟩ := List.any_eq_true.mp again
        exact .inr ⟨other, mem_withoutRepeats_of_kept found items, same⟩
      · exact .inl (mem_withoutRepeats_of_kept (by simp) items)
    · split
      · exact ih member kept
      · exact ih member _

theorem list?_withoutRepeats (items : List Value) :
    Value.list? Value.uint64? (.array (withoutRepeats [] items)) =
      (Value.list? Value.uint64? (.array items)).map List.eraseDups := by
  have codec : Codec 0 Value.uint64 Value.uint64? := Codec.uint64
  change (withoutRepeats [] items).mapM Value.uint64? =
    (items.mapM Value.uint64?).map List.eraseDups
  cases reads : items.mapM Value.uint64? with
  | some ids =>
    have kept := withoutRepeats_map [] ids
    simp only [List.map_nil, List.nil_append, List.not_mem_nil, not_false_eq_true, decide_true,
      List.filter_true] at kept
    have listed : Value.array items = .list .uint64 ids :=
      Value.eq_list_of_list? Value.eq_uint64_of_uint64? reads
    rw [Value.array.inj listed, kept, Codec.mapM_map codec.reads, Option.map_some]
  | none =>
    rw [Option.map_none, Option.eq_none_iff_forall_ne_some]
    intro ids again
    have each := mapM_eq_some_iff.mp again
    have readable : ∀ item ∈ items, ∃ id, item.uint64? = some id := by
      intro item member
      rcases kept_or_same_of_mem member [] with kept | ⟨other, kept, same⟩
      · obtain ⟨id, -, read⟩ := exists_of_mem_left each kept
        exact ⟨id, read⟩
      · obtain ⟨id, -, read⟩ := exists_of_mem_left each kept
        rw [Value.eq_uint64_of_uint64? read, same_uint64_iff] at same
        exact ⟨id, same ▸ codec.reads id⟩
    obtain ⟨all, whole⟩ := exists_mapM_eq_some readable
    rw [reads] at whole
    contradiction

end Selection

theorem ofJson?_insert_eq (reads : Answers.ofJson? (.object members) = some now) (name : String)
    (value : Value) :
    Answers.ofJson? (.object (members.insert name value)) = do
      return {
        relationships := ← (if "provider_relationships" = name
          then Value.list? Value.uint64? value else some now.relationships)
        permissions := ← (if "provider_relationship_permissions" = name
          then Value.map? Json.uint64Key? Answers.ticksOfJson? value else some now.permissions)
        checkingAnswers := ← (if "checking_answers" = name then value.bool?
          else some now.checkingAnswers) } := by
  obtain ⟨relationships, permissions, checking⟩ := ofJson?_object.mp reads
  rw [← relationships, ← permissions, ← checking]
  simp only [← Object.read_insert]
  rfl

theorem assign_selection (reads : Answers.ofJson? (.object members) = some now)
    (ordinary : ∀ relationship, step ≠ .permissions relationship) (value : Value) :
    Answers.ofJson? (.object (assign step members "provider_relationships" value)) =
      (edit step "provider_relationships" value).map (· now) := by
  have written : ∃ selected, assign step members "provider_relationships" value =
        members.insert "provider_relationships" selected ∧
      Value.list? Value.uint64? selected =
        (Value.list? Value.uint64? value).map List.eraseDups := by
    cases step with
    | permissions relationship => exact absurd rfl (ordinary relationship)
    | providerRelationships | info | check =>
      cases value with
      | array items => exact ⟨_, rfl, list?_withoutRepeats items⟩
      | null | bool b | number n | string s | object inner => exact ⟨_, rfl, rfl⟩
  obtain ⟨selected, inserted, reading⟩ := written
  rw [inserted, ofJson?_insert_eq reads]
  simp only [edit, String.reduceEq, ↓reduceIte, reading]
  cases Value.list? Value.uint64? value <;> rfl

theorem assign_checking (reads : Answers.ofJson? (.object members) = some now) (value : Value) :
    Answers.ofJson? (.object (assign step members "checking_answers" value)) =
      (edit step "checking_answers" value).map (· now) := by
  have inserted : assign step members "checking_answers" value =
      members.insert "checking_answers" value := by
    cases step <;> rfl
  rw [inserted, ofJson?_insert_eq reads]
  simp only [edit, String.reduceEq, ↓reduceIte]
  cases value.bool? <;> rfl

section Filing

/-- The ticks and what they are filed under have their names in order. -/
structure Sorted (members : Object) : Prop where
  relationships : Ascending (objectUnder members "provider_relationship_permissions")
  ticks : ∀ id, Ascending
    (objectUnder (objectUnder members "provider_relationship_permissions") id)

variable {κ ν : Type} [Ord κ] [Std.TransOrd κ] [Std.LawfulEqOrd κ]
variable {key : String → Option κ} {decode : Value → Option ν} {map : SortedMap κ ν}

theorem map?_objectUnder
    (reads : members.read name (Value.map? key decode) .empty = some map) :
    Value.map? key decode (.object (objectUnder members name)) = some map := by
  unfold objectUnder
  cases found : members.get? name with
  | none =>
    rw [Object.read_of_get?_none found] at reads
    exact reads
  | some value =>
    rw [Object.read_of_get? found] at reads
    cases value with
    | object inner => exact reads
    | null | bool b | number n | string s | array items => contradiction

theorem map?_objectUnder_of_key {outer : SortedMap UInt64 (SortedMap κ ν)} {id : UInt64}
    (ascending : Ascending members)
    (reads : Value.map? Json.uint64Key? (Value.map? key decode) (.object members) = some outer) :
    Value.map? key decode (.object (objectUnder members (toString id.toNat))) =
      some ((outer.get? id).getD .empty) := by
  have spells := (Json.map?_eq_some_iff Json.uint64Key?_unique ascending).mp reads
  have keyed := Json.uint64Key?_toString id
  apply map?_objectUnder
  cases found : members.get? (toString id.toNat) with
  | some value =>
    obtain ⟨k, inner, readsKey, decodes, held⟩ := spells.listed found
    obtain rfl := Option.some.inj (keyed.symm.trans readsKey)
    rw [Object.read_of_get? found, decodes, held, Option.getD_some]
  | none =>
    have absent : outer.get? id = none := by
      rw [Option.eq_none_iff_forall_ne_some]
      intro inner held
      obtain ⟨name, value, listed, readsKey, -⟩ := spells.spelled held
      obtain rfl := Json.uint64Key?_unique readsKey keyed
      rw [found] at listed
      contradiction
    rw [Object.read_of_get?_none found, absent, Option.getD_none]

end Filing

theorem assign_ticks {relationship : UInt64} (sorted : Sorted members)
    (reads : Answers.ofJson? (.object members) = some now)
    (ticked : (Permission.ofKey? name).isSome = true) (value : Value) :
    Answers.ofJson? (.object (assign (.permissions relationship) members name value)) =
      ((Value.list? Value.string? value).map fun ticks (answers : Answers) =>
        answers.tick relationship name ticks).map (· now) := by
  let all := objectUnder members "provider_relationship_permissions"
  let id := toString relationship.toNat
  have filed : assign (.permissions relationship) members name value =
      members.insert "provider_relationship_permissions"
        (.object (all.insert id (.object ((objectUnder all id).insert name value)))) := by
    have known : (Permission.ofKey? name).isNone = false := by
      rw [← Option.not_isSome, ticked, Bool.not_true]
    simp only [assign, known, Bool.false_eq_true, ↓reduceIte]
    rfl
  have outer : Value.map? Json.uint64Key? Answers.ticksOfJson? (.object all) =
      some now.permissions := map?_objectUnder (ofJson?_object.mp reads).2.1
  have inner : Value.map? some (Value.list? Value.string?) (.object (objectUnder all id)) =
      some ((now.ticks? relationship).getD .empty) :=
    map?_objectUnder_of_key sorted.relationships outer
  have unique : ∀ {a b k : String}, some a = some k → some b = some k → a = b :=
    fun first second => Option.some.inj (first.trans second.symm)
  have own : some name = some name := rfl
  have under := Json.map?_insert unique (sorted.ticks id) inner own value
  have above := Json.map?_insert Json.uint64Key?_unique sorted.relationships outer
    (Json.uint64Key?_toString relationship) (.object ((objectUnder all id).insert name value))
  rw [filed, ofJson?_insert_eq reads]
  simp only [String.reduceEq, ↓reduceIte]
  rw [above, Answers.ticksOfJson?, under]
  cases Value.list? Value.string? value <;> rfl

theorem objectUnder_insert_self (members inner : Object) (name : String) :
    objectUnder (members.insert name (.object inner)) name = inner := by
  rw [objectUnder, Object.get?_insert_self]

theorem objectUnder_insert_of_ne {other : String} (different : other ≠ name) (value : Value) :
    objectUnder (members.insert name value) other = objectUnder members other := by
  rw [objectUnder, objectUnder, Object.get?_insert_of_ne members different]

theorem Sorted.insert (sorted : Sorted members)
    (other : name ≠ "provider_relationship_permissions") (value : Value) :
    Sorted (members.insert name value) := by
  have kept : objectUnder (members.insert name value) "provider_relationship_permissions" =
      objectUnder members "provider_relationship_permissions" :=
    objectUnder_insert_of_ne other.symm value
  constructor
  · rw [kept]
    exact sorted.relationships
  · rw [kept]
    exact sorted.ticks

theorem Sorted.file (sorted : Sorted members) (id name : String) (value : Value) :
    Sorted (members.insert "provider_relationship_permissions"
      (.object ((objectUnder members "provider_relationship_permissions").insert id
        (.object ((objectUnder (objectUnder members "provider_relationship_permissions")
          id).insert name value))))) := by
  constructor
  · rw [objectUnder_insert_self]
    exact sorted.relationships.insert id _
  · intro other
    rw [objectUnder_insert_self]
    by_cases own : other = id
    · subst own
      rw [objectUnder_insert_self]
      exact (sorted.ticks other).insert name value
    · rw [objectUnder_insert_of_ne own]
      exact sorted.ticks other

theorem sorted_assign (sorted : Sorted members)
    (permitted : step.permitted.contains name = true) (value : Value) :
    Sorted (assign step members name value) := by
  have other : name ≠ "provider_relationship_permissions" := by
    rintro rfl
    cases step <;> simp [Step.permitted] at permitted
  unfold assign
  split
  · dsimp only
    split
    · exact sorted.insert other value
    · exact sorted.file _ name value
  · split
    · exact sorted.insert other _
    · exact sorted.insert other value

theorem canonical_of_mem {members : Object} (canonical : Value.CanonicalMembers members)
    (member : (name, value) ∈ members) : value.Canonical := by
  induction members with
  | nil => contradiction
  | cons head rest ih =>
    obtain ⟨first, later⟩ := canonical
    rcases List.mem_cons.mp member with rfl | member
    · exact first
    · exact ih later member

theorem canonical_objectUnder (canonical : (Value.object members).Canonical) (name : String) :
    (Value.object (objectUnder members name)).Canonical := by
  unfold objectUnder
  split
  · rename_i inner found
    exact canonical_of_mem canonical.2 (mem_of_lookupEntry found)
  · exact ⟨List.Pairwise.nil, trivial⟩

theorem sorted_of_canonical (canonical : (Value.object members).Canonical) : Sorted members where
  relationships := (canonical_objectUnder canonical _).1
  ticks id := (canonical_objectUnder (canonical_objectUnder canonical _) id).1

theorem assign_reads (sorted : Sorted members) (reads : Answers.ofJson? (.object members) = some now)
    (permitted : step.permitted.contains name = true) (value : Value) :
    Answers.ofJson? (.object (assign step members name value)) =
      (edit step name value).map (· now) := by
  cases step with
  | providerRelationships =>
    have named : name = "provider_relationships" ∨ name = "checking_answers" := by
      simpa [Step.permitted] using permitted
    rcases named with rfl | rfl
    · exact assign_selection reads (by simp) value
    · exact assign_checking reads value
  | permissions relationship =>
    have named : name = "make_decisions" ∨ name = "view_safeguarding_information" ∨
        name = "view_diversity_information" ∨ name = "checking_answers" := by
      simpa [Step.permitted] using permitted
    rcases named with rfl | rfl | rfl | rfl
    · exact assign_ticks sorted reads rfl value
    · exact assign_ticks sorted reads rfl value
    · exact assign_ticks sorted reads rfl value
    · exact assign_checking reads value
  | info | check => simp [Step.permitted] at permitted

def editing : wizard.Editing where
  edit := edit
  good _ := Sorted
  start _ answers := by
    have codec : Codec 4 Answers.toJson Answers.ofJson? := answers_codec
    exact ⟨_, rfl, codec.reads answers, sorted_of_canonical (codec.storable answers).canonical⟩
  reads sorted reads permitted value := assign_reads sorted reads permitted value
  keeps sorted permitted _ := sorted_assign sorted permitted _

theorem edit_cases {change : Answers → Answers} (reads : edit step name value = some change) :
    (name = "provider_relationships" ∧
      ∃ relationships, change = fun answers => { answers with relationships }) ∨
    (name = "checking_answers" ∧
      ∃ checkingAnswers, change = fun answers => { answers with checkingAnswers }) ∨
    (∃ relationship ticked, step = .permissions relationship ∧
      change = fun answers => answers.tick relationship name ticked) ∨
    change = id := by
  unfold edit at reads
  split at reads
  · obtain ⟨relationships, -, rfl⟩ := Option.map_eq_some_iff.mp reads
    exact .inl ⟨rfl, relationships.eraseDups, rfl⟩
  · obtain ⟨checkingAnswers, -, rfl⟩ := Option.map_eq_some_iff.mp reads
    exact .inr (.inl ⟨rfl, checkingAnswers, rfl⟩)
  · cases step with
    | permissions relationship =>
      obtain ⟨ticked, -, rfl⟩ := Option.map_eq_some_iff.mp reads
      exact .inr (.inr (.inl ⟨relationship, ticked, rfl, rfl⟩))
    | providerRelationships | info | check =>
      exact .inr (.inr (.inr (Option.some.inj reads).symm))

/-- A parameter leaves what no write that it may lead to changes. -/
theorem spares_of_writes {β : Type} {field : Answers → β} {param : String × Value}
    (selects : param.1 = "provider_relationships" → step.permitted.contains param.1 = true →
      ∀ answers relationships, field { answers with relationships } = field answers)
    (checks : param.1 = "checking_answers" →
      ∀ answers checkingAnswers, field { answers with checkingAnswers } = field answers)
    (ticks : ∀ relationship, step = .permissions relationship →
      ∀ answers ticked, field (answers.tick relationship param.1 ticked) = field answers) :
    editing.Spares step field param := by
  intro change permitted reads answers
  rcases edit_cases reads with ⟨named, relationships, rfl⟩ | ⟨named, checking, rfl⟩ |
    ⟨relationship, ticked, page, rfl⟩ | rfl
  · exact selects named permitted answers relationships
  · exact checks named answers checking
  · exact ticks relationship page answers ticked
  · rfl

theorem spares_relationships (later : step ≠ .providerRelationships) (param : String × Value) :
    editing.Spares step Answers.relationships param := by
  apply spares_of_writes
  · intro named permitted
    rw [named] at permitted
    cases step <;> simp [Step.permitted] at permitted later
  · intro _ _ _
    rfl
  · intro _ _ _ _
    rfl

theorem relationships_of_submission {handle : Handle wizard} {params : Object} {answers : Answers}
    {target : Target Step} (later : handle.step ≠ Step.providerRelationships)
    (submitted : handle.submission params = .ok (.accepted answers target)) :
    answers.relationships = Answers.relationships handle.answers := by
  rw [editing.accepted_eq_editAll submitted]
  exact field_editAll (fun param _ => spares_relationships later param) handle.answers

theorem tick_tick (answers : Answers) (relationship : UInt64) (permission : String)
    (ticked : List String) :
    (answers.tick relationship permission ticked).tick relationship permission ticked =
      answers.tick relationship permission ticked := by
  simp only [Answers.tick, Answers.ticks?, SortedMap.get?_insert_self, Option.getD_some,
    SortedMap.insert_insert]

theorem tick_comm {permission other : String} (different : permission ≠ other) (answers : Answers)
    (relationship : UInt64) (ticked otherTicked : List String) :
    (answers.tick relationship other otherTicked).tick relationship permission ticked =
      (answers.tick relationship permission ticked).tick relationship other otherTicked := by
  simp only [Answers.tick, Answers.ticks?, SortedMap.get?_insert_self, Option.getD_some,
    SortedMap.insert_insert]
  rw [SortedMap.insert_comm _ different]

theorem edit_apart {other : String} {otherValue : Value} {change otherChange : Answers → Answers}
    (reads : edit step name value = some change)
    (otherReads : edit step other otherValue = some otherChange) (different : other ≠ name)
    (answers : Answers) : change (otherChange answers) = otherChange (change answers) := by
  rcases edit_cases reads with ⟨rfl, relationships, rfl⟩ | ⟨rfl, checking, rfl⟩ |
      ⟨relationship, ticked, rfl, rfl⟩ | rfl <;>
    rcases edit_cases otherReads with ⟨rfl, otherRelationships, rfl⟩ | ⟨rfl, otherChecking, rfl⟩ |
      ⟨otherRelationship, otherTicked, page, rfl⟩ | rfl
  case inr.inr.inl.inr.inr.inl =>
    cases page
    exact tick_comm different.symm answers relationship ticked otherTicked
  all_goals first | contradiction | rfl

theorem editing_settles : editing.Settles where
  twice := by
    intro step name value change permitted reads answers
    rcases edit_cases reads with ⟨-, relationships, rfl⟩ | ⟨-, checking, rfl⟩ |
      ⟨relationship, ticked, rfl, rfl⟩ | rfl
    · rfl
    · rfl
    · exact tick_tick answers relationship name ticked
    · rfl
  apart _ reads _ otherReads different answers := edit_apart reads otherReads different answers

end Admissions.Permissions
