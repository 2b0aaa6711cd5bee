import Admissions.Applications.Submission
import Mathlib.Data.Finset.Card

namespace Admissions

variable {α : Type} [DecidableEq α] {kept items above : List α} {item : α}

theorem keepFirst_cons_of_mem (member : item ∈ kept) (items : List α) :
    keepFirst kept (item :: items) = keepFirst kept items := by
  simp [keepFirst, member]

theorem keepFirst_cons_of_notMem (fresh : item ∉ kept) (items : List α) :
    keepFirst kept (item :: items) = keepFirst (kept ++ [item]) items := by
  simp [keepFirst, fresh]

theorem keepFirst_append (kept items more : List α) :
    keepFirst kept (items ++ more) = keepFirst (keepFirst kept items) more := by
  induction items generalizing kept with
  | nil => rfl
  | cons item items ih =>
    rw [List.cons_append]
    by_cases member : item ∈ kept
    · rw [keepFirst_cons_of_mem member, keepFirst_cons_of_mem member, ih]
    · rw [keepFirst_cons_of_notMem member, keepFirst_cons_of_notMem member, ih]

theorem mem_keepFirst : item ∈ keepFirst kept items ↔ item ∈ kept ∨ item ∈ items := by
  induction items generalizing kept with
  | nil => simp [keepFirst]
  | cons head items ih =>
    by_cases member : head ∈ kept
    · rw [keepFirst_cons_of_mem member, ih, List.mem_cons]
      refine ⟨fun found => found.imp id .inr, ?_⟩
      rintro (found | rfl | found)
      · exact .inl found
      · exact .inl member
      · exact .inr found
    · rw [keepFirst_cons_of_notMem member, ih, List.mem_append, List.mem_singleton, List.mem_cons,
        or_assoc]

theorem nodup_keepFirst (distinct : kept.Nodup) (items : List α) :
    (keepFirst kept items).Nodup := by
  induction items generalizing kept with
  | nil => exact distinct
  | cons item items ih =>
    by_cases member : item ∈ kept
    · rw [keepFirst_cons_of_mem member]
      exact ih distinct
    · rw [keepFirst_cons_of_notMem member]
      exact ih (List.nodup_append_comm.mp (List.nodup_cons.mpr ⟨member, distinct⟩))

theorem prefix_keepFirst (kept items : List α) : kept <+: keepFirst kept items := by
  induction items generalizing kept with
  | nil => exact List.prefix_refl kept
  | cons item items ih =>
    by_cases member : item ∈ kept
    · rw [keepFirst_cons_of_mem member]
      exact ih kept
    · rw [keepFirst_cons_of_notMem member]
      exact (List.prefix_append kept [item]).trans (ih (kept ++ [item]))

theorem keepFirst_of_nodup (distinct : (kept ++ items).Nodup) :
    keepFirst kept items = kept ++ items := by
  induction items generalizing kept with
  | nil => simp [keepFirst]
  | cons item items ih =>
    have fresh : item ∉ kept := fun member =>
      List.disjoint_of_nodup_append distinct member List.mem_cons_self
    rw [keepFirst_cons_of_notMem fresh, ih (by simpa using distinct), List.append_assoc,
      List.singleton_append]

theorem keepFirst_of_repeated (repeated : item ∈ above) (below : List α) :
    keepFirst [] (above ++ item :: below) = keepFirst [] (above ++ below) := by
  have member : item ∈ keepFirst [] above := mem_keepFirst.mpr (.inr repeated)
  rw [keepFirst_append, keepFirst_cons_of_mem member, ← keepFirst_append]

theorem exists_keepFirst_of_fresh (fresh : item ∉ above) (below : List α) :
    ∃ rest, keepFirst [] (above ++ item :: below) = keepFirst [] above ++ item :: rest := by
  have unkept : item ∉ keepFirst [] above := by
    rw [mem_keepFirst]
    simpa using fresh
  obtain ⟨rest, kept⟩ := prefix_keepFirst (keepFirst [] above ++ [item]) below
  refine ⟨rest, ?_⟩
  rw [keepFirst_append, keepFirst_cons_of_notMem unkept, ← kept, List.append_assoc,
    List.singleton_append]

theorem length_keepFirst (items : List α) :
    (keepFirst [] items).length = items.toFinset.card := by
  rw [← List.toFinset_card_of_nodup (nodup_keepFirst List.nodup_nil items)]
  congr 1
  ext item
  simp [mem_keepFirst]

/-- A search passes over repeats: what did not do before does not do again. -/
theorem findSome?_keepFirst {β : Type} (found? : α → Option β) (kept items : List α) :
    (keepFirst kept items).findSome? found? = (kept ++ items).findSome? found? := by
  induction items generalizing kept with
  | nil => simp [keepFirst]
  | cons item items ih =>
    by_cases member : item ∈ kept
    · rw [keepFirst_cons_of_mem member, ih, List.findSome?_append, List.findSome?_append]
      cases search : kept.findSome? found? with
      | some result => rfl
      | none =>
        have missed : found? item = none := List.findSome?_eq_none_iff.mp search item member
        rw [List.findSome?_cons_of_isNone (by simp [missed])]
    · rw [keepFirst_cons_of_notMem member, ih, List.append_assoc, List.singleton_append]

end Admissions
