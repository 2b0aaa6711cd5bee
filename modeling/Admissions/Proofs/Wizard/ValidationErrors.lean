import Admissions.Proofs.SortedMap
import Admissions.Wizard.ValidationErrors

namespace Admissions

theorem insertEntry_ne_nil {κ ν : Type} [Ord κ] (key : κ) (value : ν) (entries : List (κ × ν)) :
    insertEntry key value entries ≠ [] := by
  cases entries with
  | nil => simp [insertEntry]
  | cons head rest =>
    unfold insertEntry
    split <;> simp

namespace Wizard.ValidationErrors

@[simp] theorem isEmpty_empty : empty.isEmpty = true := rfl

@[simp] theorem isEmpty_add (errors : ValidationErrors) (field message : String) :
    (errors.add field message).isEmpty = false := by
  have filled := insertEntry_ne_nil field (errors.get field ++ [message]) errors.messages.entries
  simpa [isEmpty, SortedMap.isEmpty, add, extend, SortedMap.insert] using filled

@[simp] theorem isEmpty_single (field message : String) : (single field message).isEmpty = false :=
  isEmpty_add empty field message

@[simp] theorem isEmpty_addIf (errors : ValidationErrors) (condition : Bool)
    (field message : String) :
    (errors.addIf condition field message).isEmpty = (!condition && errors.isEmpty) := by
  cases condition <;> simp [addIf]

theorem isEmpty_foldl {α : Type} {check : ValidationErrors → α → ValidationErrors}
    (fine : α → Prop) {items : List α} {errors : ValidationErrors}
    (each : ∀ errors, ∀ item ∈ items,
      (check errors item).isEmpty = true ↔ errors.isEmpty = true ∧ fine item) :
    (items.foldl check errors).isEmpty = true ↔
      errors.isEmpty = true ∧ ∀ item ∈ items, fine item := by
  induction items generalizing errors with
  | nil => simp
  | cons item items ih =>
    have later := fun errors other member => each errors other (List.mem_cons_of_mem item member)
    rw [List.foldl_cons, ih later, each errors item List.mem_cons_self, List.forall_mem_cons,
      and_assoc]

variable {errors : ValidationErrors} {field message : String}

theorem get_add_self (errors : ValidationErrors) (field message : String) :
    (errors.add field message).get field = errors.get field ++ [message] := by
  simp [get, add, extend]

theorem get_add_of_ne {other : String} (different : other ≠ field) (errors : ValidationErrors)
    (message : String) : (errors.add field message).get other = errors.get other := by
  simp only [get, add, extend, SortedMap.get?_insert_of_ne _ different]

theorem opening_append_ne {opening : String} (first : Char)
    (opens : opening.toList.head? = some first) (other : first ≠ 'i') (rest : String) :
    opening ++ rest ≠ "is not a valid value" := by
  intro same
  have firsts := congrArg (fun text => text.toList.head?) same
  simp only [String.toList_append, List.head?_append, opens, Option.some_or] at firsts
  exact other (Option.some.inj firsts)

theorem append_closing_ne {closing : String} (last : Char)
    (closes : closing.toList.getLast? = some last) (other : last ≠ 'e') (rest : String) :
    rest ++ closing ≠ "is not a valid value" := by
  intro same
  have lasts := congrArg (fun text => text.toList.getLast?) same
  simp only [String.toList_append, List.getLast?_append, closes, Option.some_or] at lasts
  exact other (Option.some.inj lasts)

/-- No field is said to hold a value that cannot be read. -/
def Understood (errors : ValidationErrors) : Prop :=
  ∀ field, "is not a valid value" ∉ errors.get field

theorem understood_empty : empty.Understood := by
  intro field
  simp [get, empty]

theorem Understood.add (understood : errors.Understood) (other : message ≠ "is not a valid value")
    (field : String) : (errors.add field message).Understood := by
  intro found
  by_cases own : found = field
  · subst own
    rw [get_add_self, List.mem_append, List.mem_singleton, not_or]
    exact ⟨understood found, other.symm⟩
  · rw [get_add_of_ne own]
    exact understood found

theorem Understood.addIf (understood : errors.Understood) (condition : Bool)
    (other : message ≠ "is not a valid value") (field : String) :
    (errors.addIf condition field message).Understood := by
  unfold ValidationErrors.addIf
  split
  · exact understood.add other field
  · exact understood

theorem understood_single (other : message ≠ "is not a valid value") (field : String) :
    (single field message).Understood := understood_empty.add other field

theorem Understood.foldl {α : Type} {check : ValidationErrors → α → ValidationErrors}
    (understood : errors.Understood)
    (each : ∀ errors item, errors.Understood → (check errors item).Understood) (items : List α) :
    (items.foldl check errors).Understood := by
  induction items generalizing errors with
  | nil => exact understood
  | cons item items ih => exact ih (each errors item understood)

def UnderstoodIn {ε : Type} (result : Except ε ValidationErrors) : Prop :=
  ∀ errors, result = .ok errors → errors.Understood

theorem understoodIn_pure {ε : Type} (understood : errors.Understood) :
    UnderstoodIn (pure errors : Except ε ValidationErrors) := by
  intro found made
  obtain rfl := Except.ok.inj made
  exact understood

theorem understoodIn_bind {ε α : Type} {looked : Except ε α}
    {check : α → Except ε ValidationErrors} (each : ∀ found, UnderstoodIn (check found)) :
    UnderstoodIn (looked >>= check) := by
  intro errors made
  cases looked with
  | error failure => contradiction
  | ok found => exact each found errors made

theorem entries_foldl_add {α : Type} {params : List (String × α)} {errors : ValidationErrors}
    (ascending : Ascending (errors.messages.entries ++ params.map fun param => (param.1, [message]))) :
    (params.foldl (fun errors param => errors.add param.1 message) errors).messages.entries =
      errors.messages.entries ++ params.map fun param => (param.1, [message]) := by
  induction params generalizing errors with
  | nil => simp
  | cons param params ih =>
    rw [List.map_cons] at ascending
    have first : Ascending (errors.messages.entries ++ [(param.1, [message])]) :=
      ascending.sublist (by simp)
    have fresh : errors.messages.get? param.1 = none := by
      rw [Option.eq_none_iff_forall_ne_some]
      intro messages found
      have before := (List.pairwise_append.mp first).2.2 _ (SortedMap.get?_eq_some_iff.mp found)
        (param.1, [message]) (by simp)
      simp at before
    have added : (errors.add param.1 message).messages.entries =
        errors.messages.entries ++ [(param.1, [message])] := by
      rw [add, extend, get, fresh]
      exact insertEntry_append first
    have later : Ascending ((errors.add param.1 message).messages.entries ++
        params.map fun param => (param.1, [message])) := by
      rw [added, List.append_assoc]
      exact ascending
    rw [List.foldl_cons, ih later, added, List.map_cons, List.append_assoc]
    rfl

end Wizard.ValidationErrors

end Admissions
