import Admissions.Applications.Repository
import Admissions.Proofs.SortedMap

namespace Admissions.Repository

variable {repository : Repository} {choice : ApplicationChoice} {id other : UInt64}
variable {selection : NewApplicationChoice}

def choice? (repository : Repository) (id : UInt64) : Option ApplicationChoice :=
  repository.choices.get? id

/-- No call is down, and none was cut short. -/
structure Working (repository : Repository) : Prop where
  calls : repository.outage.calls = []
  sound : repository.poisoned = false

theorem Working.check (working : repository.Working) (call : Call) :
    repository.outage.check call = .ok () := by
  simp [Outage.check, working.calls]

theorem reach_of_sound {call : Call} (sound : repository.poisoned = false) :
    repository.reach call = repository.outage.check call := by
  unfold reach
  cases repository.outage.check call with
  | error error => rfl
  | ok done => simp [sound, bind, Except.bind, pure, Except.pure]

theorem Working.reach (working : repository.Working) (call : Call) :
    repository.reach call = .ok () :=
  (reach_of_sound working.sound).trans (working.check call)

theorem choice?_put (repository : Repository) (choice : ApplicationChoice) (id : UInt64) :
    (repository.put choice).choice? id =
      if id = choice.id then some choice else repository.choice? id :=
  SortedMap.get?_insert repository.choices choice.id id choice

@[simp] theorem choice?_put_self (repository : Repository) (choice : ApplicationChoice) :
    (repository.put choice).choice? choice.id = some choice := by
  simp [choice?_put]

theorem choice?_put_of_ne (different : id ≠ choice.id) :
    (repository.put choice).choice? id = repository.choice? id := by
  simp [choice?_put, different]

theorem isTaken_iff :
    repository.isTaken selection = true ↔ ∃ id choice, repository.choice? id = some choice ∧
      choice.applicationFormId = selection.applicationFormId ∧
      choice.courseOptionId = selection.courseOptionId := by
  simp only [isTaken, List.any_eq_true, decide_eq_true_eq, SortedMap.mem_values_iff]
  constructor
  · rintro ⟨choice, ⟨id, kept⟩, same⟩
    exact ⟨id, choice, kept, same⟩
  · rintro ⟨id, choice, kept, same⟩
    exact ⟨choice, ⟨id, kept⟩, same⟩

def Keyed (repository : Repository) : Prop :=
  ∀ ⦃id choice⦄, repository.choice? id = some choice → choice.id = id

theorem keyed_seed (choices : List ApplicationChoice) (forms : List ApplicationForm) :
    (seed choices forms).Keyed := by
  intro id choice kept
  have member := SortedMap.mem_of_mem_ofList (SortedMap.get?_eq_some_iff.mp kept)
  obtain ⟨seeded, -, same⟩ := List.mem_map.mp member
  cases same
  rfl

theorem Keyed.put (keyed : repository.Keyed) (choice : ApplicationChoice) :
    (repository.put choice).Keyed := by
  intro id kept found
  rw [choice?_put] at found
  split at found
  · rename_i same
    obtain rfl := Option.some.inj found
    exact same.symm
  · exact keyed found

def OncePerOption (repository : Repository) : Prop :=
  ∀ ⦃id other first second⦄, repository.choice? id = some first →
    repository.choice? other = some second →
    first.applicationFormId = second.applicationFormId →
    first.courseOptionId = second.courseOptionId → id = other

theorem OncePerOption.put (once : repository.OncePerOption)
    (alone : ∀ ⦃id kept⦄, repository.choice? id = some kept →
      kept.applicationFormId = choice.applicationFormId →
      kept.courseOptionId = choice.courseOptionId → id = choice.id) :
    (repository.put choice).OncePerOption := by
  intro id other first second isFirst isSecond sameForm sameOption
  rw [choice?_put] at isFirst isSecond
  split at isFirst <;> split at isSecond
  · rename_i own again
    exact own.trans again.symm
  · rename_i own _
    obtain rfl := Option.some.inj isFirst
    exact own.trans (alone isSecond sameForm.symm sameOption.symm).symm
  · rename_i _ own
    obtain rfl := Option.some.inj isSecond
    exact (alone isFirst sameForm sameOption).trans own.symm
  · exact once isFirst isSecond sameForm sameOption

/-- The last of all ids is still to be given. -/
def HasIds (repository : Repository) : Prop := repository.choice? lastId = none

theorem le_of_last {greatest : UInt64} (last : repository.choices.keys.getLast? = some greatest)
    (kept : repository.choice? id = some choice) : id ≤ greatest := by
  rcases SortedMap.eq_or_lt_of_last last kept with same | before
  · exact UInt64.le_of_eq same
  · exact UInt64.le_of_lt (Std.compare_eq_lt.mp before)

theorem nextId?_eq_none_iff : repository.nextId? = none ↔ ¬repository.HasIds := by
  unfold nextId? HasIds
  cases last : repository.choices.keys.getLast? with
  | none => simp [choice?, SortedMap.get?_eq_none_of_last last]
  | some greatest =>
    obtain ⟨value, taken⟩ := SortedMap.exists_of_last last
    by_cases full : greatest = lastId
    · subst full
      simp [choice?, taken]
    · have absent : repository.choice? lastId = none := by
        apply Option.eq_none_iff_forall_ne_some.mpr
        intro choice kept
        have above := le_of_last last kept
        unfold lastId at above full
        grind
      simp [full, absent]

theorem lt_of_nextId? {new : UInt64} (next : repository.nextId? = some new)
    (kept : repository.choice? id = some choice) : id < new := by
  unfold nextId? at next
  cases last : repository.choices.keys.getLast? with
  | none => simp [choice?, SortedMap.get?_eq_none_of_last last] at kept
  | some greatest =>
    have below := le_of_last last kept
    simp only [last] at next
    split at next
    · contradiction
    · rename_i short
      obtain rfl := Option.some.inj next
      unfold lastId at short
      grind

/-- That many new records get ids before the last one is taken. -/
structure HasRoom (repository : Repository) (count : Nat) : Prop where
  short : count < lastId.toNat
  below : ∀ ⦃id choice⦄, repository.choice? id = some choice → id.toNat + count < lastId.toNat

theorem hasRoom_seed {choices : List ApplicationChoice} {count : Nat} (short : count < lastId.toNat)
    (below : ∀ choice ∈ choices, choice.id.toNat + count < lastId.toNat)
    (forms : List ApplicationForm) : (seed choices forms).HasRoom count where
  short := short
  below id choice kept := by
    have member := SortedMap.mem_of_mem_ofList (SortedMap.get?_eq_some_iff.mp kept)
    obtain ⟨seeded, given, same⟩ := List.mem_map.mp member
    cases same
    exact below choice given

namespace HasRoom

variable {count : Nat}

theorem hasIds (room : repository.HasRoom count) : repository.HasIds := by
  refine Option.eq_none_iff_forall_ne_some.mpr fun choice kept => ?_
  have below := room.below kept
  omega

theorem lessen (room : repository.HasRoom (count + 1)) : repository.HasRoom count where
  short := Nat.lt_of_succ_lt room.short
  below _ _ kept := Nat.lt_of_succ_lt (room.below kept)

theorem nextId?_lt {new : UInt64} (room : repository.HasRoom (count + 1))
    (next : repository.nextId? = some new) : new.toNat + count < lastId.toNat := by
  unfold nextId? at next
  cases last : repository.choices.keys.getLast? with
  | none =>
    have short := room.short
    have one : (1 : UInt64).toNat = 1 := rfl
    simp only [last, Option.some.injEq] at next
    subst next
    omega
  | some greatest =>
    obtain ⟨choice, kept⟩ := SortedMap.exists_of_last last
    have below := room.below kept
    have least : (greatest + 1).toNat ≤ greatest.toNat + 1 := by
      rw [UInt64.toNat_add]
      exact Nat.mod_le _ _
    simp only [last, Option.ite_none_left_eq_some, Option.some.injEq] at next
    obtain ⟨-, rfl⟩ := next
    omega

theorem put (room : repository.HasRoom count)
    (low : choice.id.toNat + count < lastId.toNat) : (repository.put choice).HasRoom count where
  short := room.short
  below id kept found := by
    rw [choice?_put] at found
    split at found
    · rename_i same
      rwa [same]
    · exact room.below found

end HasRoom

end Admissions.Repository
