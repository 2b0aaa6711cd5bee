import Mathlib.Data.List.Forall2

namespace Admissions

variable {ε α β : Type}

theorem exists_of_bind_eq_ok {result : Except ε α} {following : α → Except ε β} {value : β}
    (binds : result >>= following = .ok value) :
    ∃ given, result = .ok given ∧ following given = .ok value := by
  cases result with
  | error failure => contradiction
  | ok given => exact ⟨given, rfl, binds⟩

theorem mapM_eq_ok_map {f : α → Except ε β} {g : α → β} {items : List α}
    (each : ∀ item ∈ items, f item = .ok (g item)) : items.mapM f = .ok (items.map g) := by
  induction items with
  | nil => rfl
  | cons item items ih =>
    have head := each item List.mem_cons_self
    have rest := ih fun other member => each other (List.mem_cons_of_mem _ member)
    rw [List.mapM_cons, head, rest]
    rfl

theorem mapM_eq_some_iff {read : α → Option β} {items : List α} {results : List β} :
    items.mapM read = some results ↔
      List.Forall₂ (fun item x => read item = some x) items results := by
  induction items generalizing results with
  | nil => simp [eq_comm]
  | cons item items ih =>
    rw [List.mapM_cons]
    constructor
    · intro reads
      obtain ⟨x, head, reads⟩ := Option.bind_eq_some_iff.mp reads
      obtain ⟨xs, tail, reads⟩ := Option.bind_eq_some_iff.mp reads
      obtain rfl := Option.some.inj reads
      exact .cons head (ih.mp tail)
    · intro reads
      obtain ⟨x, xs, head, tail, rfl⟩ := List.forall₂_cons_left_iff.mp reads
      rw [head, ih.mpr tail]
      rfl

theorem exists_mapM_eq_some {read : α → Option β} {items : List α}
    (readable : ∀ item ∈ items, ∃ x, read item = some x) :
    ∃ results, items.mapM read = some results := by
  induction items with
  | nil => exact ⟨[], rfl⟩
  | cons item items ih =>
    obtain ⟨x, head⟩ := readable item List.mem_cons_self
    obtain ⟨xs, tail⟩ := ih fun other later => readable other (List.mem_cons_of_mem item later)
    refine ⟨x :: xs, ?_⟩
    rw [List.mapM_cons, head, tail]
    rfl

variable {related : α → β → Prop} {items : List α} {results : List β}

theorem exists_of_mem_left (each : List.Forall₂ related items results) {item : α}
    (member : item ∈ items) : ∃ x ∈ results, related item x := by
  induction each with
  | nil => contradiction
  | cons head tail ih =>
    rcases List.mem_cons.mp member with rfl | member
    · exact ⟨_, List.mem_cons_self, head⟩
    · obtain ⟨x, found, holds⟩ := ih member
      exact ⟨x, List.mem_cons_of_mem _ found, holds⟩

theorem exists_of_mem_right (each : List.Forall₂ related items results) {x : β}
    (member : x ∈ results) : ∃ item ∈ items, related item x :=
  exists_of_mem_left each.flip member

end Admissions
