import Admissions.Proofs.Wizard.ValidationErrors

namespace Admissions

theorem Ascending.length_insertEntry {κ ν : Type} [Ord κ] [Std.TransOrd κ] [Std.LawfulEqOrd κ]
    {key : κ} {entries : List (κ × List ν)} (ascending : Ascending entries) (more : List ν) :
    ((insertEntry key ((lookupEntry key entries).getD [] ++ more) entries).map
      Prod.snd).flatten.length = (entries.map Prod.snd).flatten.length + more.length := by
  induction entries with
  | nil => simp [insertEntry, lookupEntry]
  | cons head rest ih =>
    obtain ⟨k, old⟩ := head
    cases place : compare key k with
    | lt =>
      have absent : lookupEntry key ((k, old) :: rest) = none := by
        have inserted := ascending.insert key ([] : List ν)
        simp only [insertEntry, place] at inserted
        exact inserted.lookupEntry_tail
      simp [insertEntry, place, absent, Nat.add_comm]
    | eq => simp [insertEntry, lookupEntry, place, Nat.add_comm, Nat.add_left_comm]
    | gt =>
      have later := ih (List.pairwise_cons.mp ascending).2
      simp only [insertEntry, lookupEntry, place, reduceCtorEq, ↓reduceIte, List.map_cons,
        List.flatten_cons, List.length_append] at later ⊢
      omega

namespace Wizard.ValidationErrors

variable {errors other : ValidationErrors} {field : String}

theorem ext_messages (same : ∀ field, errors.messages.get? field = other.messages.get? field) :
    errors = other := by
  cases errors
  cases other
  exact congrArg mk (SortedMap.eq_of_get? same)

theorem get?_extend_self (errors : ValidationErrors) (field : String) (more : List String) :
    (errors.extend field more).messages.get? field =
      Option.merge (· ++ ·) (errors.messages.get? field) (some more) := by
  rw [extend, SortedMap.get?_insert_self, get]
  cases errors.messages.get? field <;> rfl

theorem get?_extend_of_ne {found : String} (different : found ≠ field) (errors : ValidationErrors)
    (more : List String) :
    (errors.extend field more).messages.get? found = errors.messages.get? found :=
  SortedMap.get?_insert_of_ne _ different _

theorem get?_foldl_extend {entries : List (String × List String)} (ascending : Ascending entries)
    (errors : ValidationErrors) (field : String) :
    (entries.foldl (fun errors entry => errors.extend entry.1 entry.2) errors).messages.get? field =
      Option.merge (· ++ ·) (errors.messages.get? field) (lookupEntry field entries) := by
  -- Each entry is of a field of its own, so the later ones leave its field alone.
  induction entries generalizing errors with
  | nil => exact Option.merge_none_right.symm
  | cons entry entries ih =>
    obtain ⟨name, more⟩ := entry
    rw [List.foldl_cons, ih (List.pairwise_cons.mp ascending).2]
    by_cases own : field = name
    · subst own
      rw [get?_extend_self, ascending.lookupEntry_tail, Option.merge_none_right]
      simp [lookupEntry]
    · rw [get?_extend_of_ne own]
      simp [lookupEntry, own]

theorem get?_merge (errors other : ValidationErrors) (field : String) :
    (errors.merge other).messages.get? field =
      Option.merge (· ++ ·) (errors.messages.get? field) (other.messages.get? field) :=
  get?_foldl_extend other.messages.ascending errors field

theorem get_merge (errors other : ValidationErrors) (field : String) :
    (errors.merge other).get field = errors.get field ++ other.get field := by
  unfold get
  rw [get?_merge]
  cases errors.messages.get? field <;> cases other.messages.get? field <;> simp

theorem merge_assoc (errors other third : ValidationErrors) :
    (errors.merge other).merge third = errors.merge (other.merge third) := by
  have assoc : Std.Associative (Option.merge fun left right : List String => left ++ right) :=
    inferInstance
  refine ext_messages fun field => ?_
  simp only [get?_merge]
  exact assoc.assoc _ _ _

theorem merge_empty (errors : ValidationErrors) : errors.merge empty = errors := rfl

theorem empty_merge (errors : ValidationErrors) : empty.merge errors = errors := by
  refine ext_messages fun field => ?_
  rw [get?_merge]
  exact Option.merge_none_left

theorem size_extend (errors : ValidationErrors) (field : String) (more : List String) :
    (errors.extend field more).size = errors.size + more.length :=
  errors.messages.ascending.length_insertEntry more

theorem size_merge (errors other : ValidationErrors) :
    (errors.merge other).size = errors.size + other.size := by
  unfold merge size SortedMap.values
  induction other.messages.entries generalizing errors with
  | nil => rfl
  | cons entry entries ih =>
    rw [List.foldl_cons, ih, List.map_cons, List.flatten_cons, List.length_append, ← Nat.add_assoc]
    congr 1
    exact size_extend errors entry.1 entry.2

theorem contains_merge (errors other : ValidationErrors) (field : String) :
    (errors.merge other).contains field = (errors.contains field || other.contains field) := by
  simp only [contains, SortedMap.contains, get?_merge, Option.isSome_merge]

def Filled (errors : ValidationErrors) : Prop :=
  ∀ field, errors.contains field = true → errors.get field ≠ []

theorem filled_empty : empty.Filled := fun _ found => nomatch found

theorem Filled.add (filled : errors.Filled) (field message : String) :
    (errors.add field message).Filled := by
  intro name found
  by_cases own : name = field
  · subst own
    simp [get_add_self]
  · rw [get_add_of_ne own]
    refine filled name ?_
    rwa [contains, SortedMap.contains, ValidationErrors.add, get?_extend_of_ne own] at found

theorem Filled.require (filled : errors.Filled) (field : String) (answer : Answer)
    (message : String) : (errors.require field answer message).Filled := by
  unfold ValidationErrors.require addIf
  split
  · exact filled.add field message
  · exact filled

theorem Filled.merge (filled : errors.Filled) (also : other.Filled) :
    (errors.merge other).Filled := by
  intro field found
  rw [contains_merge, Bool.or_eq_true] at found
  rw [get_merge, ne_eq, List.append_eq_nil_iff]
  rintro ⟨none, noneElse⟩
  rcases found with found | found
  · exact filled field found none
  · exact also field found noneElse

/-- Errors made of no errors by adding messages, outright or for want of an answer, and by merging
    what is made so. -/
inductive Built : ValidationErrors → Prop where
  | empty : Built empty
  | add {errors : ValidationErrors} (before : Built errors) (field message : String) :
      Built (errors.add field message)
  | require {errors : ValidationErrors} (before : Built errors) (field : String) (answer : Answer)
      (message : String) : Built (errors.require field answer message)
  | merge {errors other : ValidationErrors} (before : Built errors) (more : Built other) :
      Built (errors.merge other)

theorem Built.filled (built : Built errors) : errors.Filled := by
  induction built with
  | empty => exact filled_empty
  | add _ field message filled => exact filled.add field message
  | require _ field answer message filled => exact filled.require field answer message
  | merge _ _ filled also => exact filled.merge also

theorem mem_fields_iff : field ∈ errors.fields ↔ errors.contains field = true := by
  simp [fields, SortedMap.keys, contains, SortedMap.contains, Option.isSome_iff_exists,
    SortedMap.get?_eq_some_iff]

theorem fields_eq_nil_iff : errors.fields = [] ↔ errors.isEmpty = true := by
  simp [fields, SortedMap.keys, isEmpty, SortedMap.isEmpty]

theorem contains_of_get_ne_nil (given : errors.get field ≠ []) : errors.contains field = true := by
  unfold get at given
  unfold contains SortedMap.contains
  cases found : errors.messages.get? field with
  | none => simp [found] at given
  | some messages => rfl

theorem Filled.isEmpty_iff (filled : errors.Filled) : errors.isEmpty = true ↔ errors.size = 0 := by
  rw [size, List.length_eq_zero_iff, List.flatten_eq_nil_iff, ← fields_eq_nil_iff]
  constructor
  · intro fieldless messages member
    obtain ⟨field, found⟩ := SortedMap.mem_values_iff.mp member
    have listed : field ∈ errors.fields :=
      mem_fields_iff.mpr (Option.isSome_iff_exists.mpr ⟨messages, found⟩)
    simp [fieldless] at listed
  · intro silent
    refine List.eq_nil_iff_forall_not_mem.mpr fun field listed => ?_
    have present := mem_fields_iff.mp listed
    obtain ⟨messages, found⟩ := Option.isSome_iff_exists.mp present
    refine filled field present ?_
    rw [get, found, silent messages (SortedMap.mem_values_iff.mpr ⟨field, found⟩)]
    rfl

theorem ascending_fields (errors : ValidationErrors) : errors.fields.Pairwise (· < ·) :=
  List.pairwise_map.mpr (errors.messages.ascending.imp compareOfLessAndEq_eq_lt.mp)

structure Regular (errors : ValidationErrors) : Prop where
  filled : ∀ field ∈ errors.fields, errors.get field ≠ []
  contains : ∀ field, errors.contains field = true ↔ errors.get field ≠ []
  empty_iff_size : errors.isEmpty = true ↔ errors.size = 0
  empty_iff_fields : errors.isEmpty = true ↔ errors.fields = []
  ascending : errors.fields.Pairwise (· < ·)

theorem Filled.regular (filled : errors.Filled) : errors.Regular where
  filled field listed := filled field (mem_fields_iff.mp listed)
  contains field := ⟨filled field, contains_of_get_ne_nil⟩
  empty_iff_size := filled.isEmpty_iff
  empty_iff_fields := fields_eq_nil_iff.symm
  ascending := errors.ascending_fields

/-- However they are built, errors without a message are empty and have no field, and their fields
    ascend. Merging appends the messages of each field, adds the sizes and is a monoid. -/
theorem built_errors_regular :
    (∀ errors, Built errors → errors.Regular) ∧
    (∀ errors other : ValidationErrors,
      (∀ field, (errors.merge other).get field = errors.get field ++ other.get field) ∧
      (errors.merge other).size = errors.size + other.size) ∧
    (∀ errors other third : ValidationErrors,
      (errors.merge other).merge third = errors.merge (other.merge third)) ∧
    ∀ errors : ValidationErrors, errors.merge empty = errors ∧ empty.merge errors = errors :=
  ⟨fun _ built => built.filled.regular,
    fun errors other => ⟨get_merge errors other, size_merge errors other⟩, merge_assoc,
    fun errors => ⟨merge_empty errors, empty_merge errors⟩⟩

theorem built_errors_regular_merged :
    let asked := (single "name" "is too long").require "course" (.text " ") "is missing"
    let checked := (single "name" "is taken").add "course" "is full"
    Built asked ∧ Built (asked.merge checked) ∧ (asked.merge checked).Regular ∧
    (asked.merge checked).get "name" = ["is too long", "is taken"] ∧
    (asked.merge checked).size = 4 := by
  intro asked checked
  obtain ⟨regular, merged, -, -⟩ := built_errors_regular
  have built : Built asked := (Built.empty.add "name" "is too long").require _ _ _
  have both : Built (asked.merge checked) :=
    built.merge ((Built.empty.add "name" "is taken").add "course" "is full")
  obtain ⟨gets, sizes⟩ := merged asked checked
  exact ⟨built, both, regular _ both, gets "name", sizes⟩

end Wizard.ValidationErrors

end Admissions
