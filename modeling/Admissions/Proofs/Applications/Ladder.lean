import Admissions.Proofs.KeepFirst
import Admissions.Proofs.Applications.TaskView
import Mathlib.Data.Fintype.Card

namespace Admissions

namespace TaskViewGroup

theorem nodup_all : all.Nodup := by decide

theorem mem_all (group : TaskViewGroup) : group ∈ all := by cases group <;> decide

instance : Fintype TaskViewGroup := ⟨⟨all, nodup_all⟩, mem_all⟩

theorem card_eq : Fintype.card TaskViewGroup = 11 := rfl

end TaskViewGroup

namespace TaskViewLadder

variable {groups above : List TaskViewGroup} {group : TaskViewGroup}
variable {choice : ApplicationChoice} {context : TaskViewContext} {bucket : Nat}

/-- The first of these groups to which the application belongs, with the groups above it. -/
structure FirstMatch (groups : List TaskViewGroup) (choice : ApplicationChoice)
    (context : TaskViewContext) (above : List TaskViewGroup) (group : TaskViewGroup) : Prop where
  listed : ∃ below, groups = above ++ group :: below
  passed : Ungrouped above choice context
  found : group.contains? choice context = some true

theorem search_cases (groups : List TaskViewGroup) (choice : ApplicationChoice)
    (context : TaskViewContext) :
    Ungrouped groups choice context ∨
      (∃ above group, FirstMatch groups choice context above group) ∨
      context.currentCycleYear = Int32.minValue ∧ groups ≠ [] := by
  by_cases first : context.currentCycleYear = Int32.minValue
  · by_cases empty : groups = []
    · subst empty
      exact .inl fun group member => nomatch member
    · exact .inr (.inr ⟨first, empty⟩)
  · obtain ⟨previous, contained⟩ := TaskViewGroup.exists_contains?_eq first
    cases search : groups.find? (·.contains choice context previous) with
    | none =>
      refine .inl fun group member => ?_
      rw [contained]
      simpa using List.find?_eq_none.mp search group member
    | some group =>
      obtain ⟨found, above, below, listed, passed⟩ := List.find?_eq_some_iff_append.mp search
      refine .inr (.inl ⟨above, group, ⟨below, listed⟩, fun other member => ?_, ?_⟩)
      · rw [contained]
        simpa using passed other member
      · rw [contained, found]

theorem FirstMatch.fresh (first : FirstMatch groups choice context above group) :
    group ∉ above := by
  intro member
  have missed := first.passed group member
  rw [first.found] at missed
  contradiction

theorem FirstMatch.late (first : FirstMatch groups choice context above group) :
    context.currentCycleYear ≠ Int32.minValue := by
  intro earliest
  have found := first.found
  rw [TaskViewGroup.contains?_eq_none_iff.mpr earliest] at found
  contradiction

theorem FirstMatch.grouped (first : FirstMatch groups choice context above group) :
    ¬Ungrouped groups choice context := by
  intro ungrouped
  obtain ⟨below, rfl⟩ := first.listed
  have missed := ungrouped group (by simp)
  rw [first.found] at missed
  contradiction

theorem Ungrouped.late_or_nil (ungrouped : Ungrouped groups choice context) :
    context.currentCycleYear ≠ Int32.minValue ∨ groups = [] := by
  cases groups with
  | nil => exact .inr rfl
  | cons group rest =>
    refine .inl fun earliest => ?_
    have missed := ungrouped group List.mem_cons_self
    rw [TaskViewGroup.contains?_eq_none_iff.mpr earliest] at missed
    contradiction

theorem classifyFrom_append (passed : Ungrouped above choice context) {start : Nat}
    (short : start + above.length < UInt16.size) (groups : List TaskViewGroup) :
    classifyFrom start choice context (above ++ groups) =
      classifyFrom (start + above.length) choice context groups := by
  induction above generalizing start with
  | nil => rfl
  | cons first above ih =>
    obtain ⟨missed, passed⟩ := List.forall_mem_cons.mp passed
    rw [List.length_cons] at short ⊢
    have near : start + 1 < UInt16.size := by omega
    have further : start + 1 + above.length < UInt16.size := by omega
    rw [List.cons_append, classifyFrom, if_pos near, missed]
    dsimp only
    rw [ih passed further, Nat.add_right_comm, Nat.add_assoc]

/-- The buckets of all groups are in range. -/
def Short (ladder : TaskViewLadder) : Prop := ladder.groups.length + 1 < UInt16.size

theorem classify_of_firstMatch {ladder : TaskViewLadder} (short : ladder.Short)
    (first : FirstMatch ladder.groups choice context above group) :
    ladder.classify choice context = some (above.length + 1, some group) := by
  obtain ⟨below, listed⟩ := first.listed
  unfold Short at short
  rw [listed, List.length_append, List.length_cons] at short
  have span : 1 + above.length < UInt16.size := by omega
  have next : 1 + above.length + 1 < UInt16.size := by omega
  rw [classify, listed, classifyFrom_append first.passed span, classifyFrom, if_pos next,
    first.found, Nat.add_comm]

theorem classify_of_ungrouped {ladder : TaskViewLadder} (short : ladder.Short)
    (ungrouped : Ungrouped ladder.groups choice context) :
    ladder.classify choice context = some (ungroupedBucket, none) := by
  have span : 1 + ladder.groups.length < UInt16.size := by
    rw [Nat.add_comm]
    exact short
  have passed := classifyFrom_append ungrouped span []
  rw [List.append_nil] at passed
  exact passed

theorem classify_of_first {ladder : TaskViewLadder}
    (earliest : context.currentCycleYear = Int32.minValue) (listed : ladder.groups ≠ []) :
    ladder.classify choice context = none :=
  classify_eq_none_iff.mpr (.inl ⟨earliest, listed⟩)

/-- Without repeats the first match is the same, and the groups above it are counted once. -/
theorem FirstMatch.make (first : FirstMatch groups choice context above group) :
    FirstMatch (make groups).groups choice context (keepFirst [] above) group := by
  obtain ⟨below, rfl⟩ := first.listed
  obtain ⟨rest, kept⟩ := exists_keepFirst_of_fresh first.fresh below
  refine ⟨⟨rest, kept⟩, fun other member => ?_, first.found⟩
  have listed : other ∈ above := by simpa [mem_keepFirst] using member
  exact first.passed other listed

theorem mem_make : group ∈ (make groups).groups ↔ group ∈ groups := by
  simp [make, mem_keepFirst]

theorem short_make (groups : List TaskViewGroup) : (make groups).Short := by
  -- There are eleven groups, and each is kept once.
  have few : (make groups).groups.length ≤ 11 := by
    rw [make, length_keepFirst, ← TaskViewGroup.card_eq]
    exact Finset.card_le_univ _
  have far : 11 + 1 < UInt16.size := by decide
  exact Nat.lt_of_le_of_lt (Nat.succ_le_succ few) far

theorem classify_make_of_firstMatch (first : FirstMatch groups choice context above group) :
    (make groups).classify choice context = some (above.toFinset.card + 1, some group) := by
  rw [classify_of_firstMatch (short_make groups) first.make, length_keepFirst]

theorem classify_make_of_ungrouped (ungrouped : Ungrouped groups choice context) :
    (make groups).classify choice context = some (ungroupedBucket, none) := by
  refine classify_of_ungrouped (short_make groups) fun group member => ungrouped group ?_
  exact mem_make.mp member

theorem classify_make_of_first (earliest : context.currentCycleYear = Int32.minValue)
    (listed : groups ≠ []) : (make groups).classify choice context = none := by
  obtain ⟨group, member⟩ := List.exists_mem_of_ne_nil groups listed
  exact classify_of_first earliest (List.ne_nil_of_mem (mem_make.mpr member))

theorem classify_make_eq_some_iff :
    (make groups).classify choice context = some (bucket, some group) ↔
      ∃ above, FirstMatch groups choice context above group ∧
        bucket = above.toFinset.card + 1 := by
  constructor
  · intro classified
    rcases search_cases groups choice context with
      ungrouped | ⟨above, found, first⟩ | ⟨earliest, listed⟩
    · simp [classify_make_of_ungrouped ungrouped] at classified
    · rw [classify_make_of_firstMatch first] at classified
      cases classified
      exact ⟨above, first, rfl⟩
    · simp [classify_make_of_first earliest listed] at classified
  · rintro ⟨above, first, rfl⟩
    exact classify_make_of_firstMatch first

theorem classify_make_eq_ungrouped_iff :
    (make groups).classify choice context = some (bucket, none) ↔
      bucket = ungroupedBucket ∧ Ungrouped groups choice context := by
  rcases search_cases groups choice context with
    ungrouped | ⟨above, group, first⟩ | ⟨earliest, listed⟩
  · simp [classify_make_of_ungrouped ungrouped, ungrouped, eq_comm]
  · simp [classify_make_of_firstMatch first, first.grouped]
  · have grouped : ¬Ungrouped groups choice context := by
      intro ungrouped
      rcases ungrouped.late_or_nil with late | empty
      · exact late earliest
      · exact listed empty
    simp [classify_make_of_first earliest listed, grouped]

theorem classify_make_eq_none_iff : (make groups).classify choice context = none ↔
    context.currentCycleYear = Int32.minValue ∧ groups ≠ [] := by
  rcases search_cases groups choice context with ungrouped | ⟨above, group, first⟩ | both
  · simpa [classify_make_of_ungrouped ungrouped, or_iff_not_imp_left] using ungrouped.late_or_nil
  · simp [classify_make_of_firstMatch first, first.late]
  · simp [classify_make_of_first both.1 both.2, both]

theorem FirstMatch.bucket_le (first : FirstMatch groups choice context above group) :
    above.toFinset.card + 1 ≤ 11 := by
  have fresh : group ∉ above.toFinset := mt List.mem_toFinset.mp first.fresh
  have few := Finset.card_lt_univ_of_notMem fresh
  rwa [TaskViewGroup.card_eq] at few

theorem bucket_le_of_classify_make
    (classified : (make groups).classify choice context = some (bucket, some group)) :
    bucket ≤ 11 := by
  obtain ⟨above, first, rfl⟩ := classify_make_eq_some_iff.mp classified
  exact first.bucket_le

variable {choices : List ApplicationChoice} {rows : List PrioritisedApplication}

/-- From the first application that belongs to no group on, none does. -/
theorem prioritise_grouped_first (shown : (make groups).prioritise choices context = some rows) :
    rows.Pairwise fun row next =>
      Ungrouped groups row.application context → Ungrouped groups next.application context := by
  have classified : ∀ row ∈ rows,
      (make groups).classify row.application context = some (row.bucket, row.group) :=
    fun row member => (row?_eq_some_iff.mp (row?_of_mem_prioritise shown member)).1
  refine (prioritise_ordered shown).imp_of_mem ?_
  intro row next shows follows before ungrouped
  have own := classified row shows
  have later := classified next follows
  rw [classify_make_of_ungrouped ungrouped] at own
  rcases search_cases groups next.application context with
    last | ⟨above, group, first⟩ | ⟨earliest, listed⟩
  · exact last
  · rw [classify_make_of_firstMatch first] at later
    have few := first.bucket_le
    have far : 11 < ungroupedBucket := by decide
    simp only [Option.some.injEq, Prod.mk.injEq] at own later
    rcases before with less | ⟨same, -⟩ <;> omega
  · rw [classify_make_of_first earliest listed] at later
    contradiction

theorem prioritise_make_eq_none_iff : (make groups).prioritise choices context = none ↔
    choices ≠ [] ∧ context.currentCycleYear = Int32.minValue ∧ groups ≠ [] := by
  simp only [prioritise_eq_none_iff, ← classify_eq_none_iff, classify_make_eq_none_iff]
  constructor
  · rintro ⟨choice, member, both⟩
    exact ⟨List.ne_nil_of_mem member, both⟩
  · rintro ⟨some_choice, both⟩
    obtain ⟨choice, member⟩ := List.exists_mem_of_ne_nil choices some_choice
    exact ⟨choice, member, both⟩

/-- On a ladder made of any groups, in any order and with any repeats, an application is in the
    first group to which it belongs, and its bucket is the number of different groups up to that
    one. Those that belong to none come last. In the first of all years, which has none before it,
    no application is in any bucket of a ladder that has a group. -/
theorem buckets_count_groups (groups : List TaskViewGroup) (context : TaskViewContext) :
    (∀ (choice : ApplicationChoice) (bucket : Nat) (group : TaskViewGroup),
      ((make groups).classify choice context = some (bucket, some group) ↔
        ∃ above, FirstMatch groups choice context above group ∧
          bucket = above.toFinset.card + 1) ∧
      ((make groups).classify choice context = some (bucket, some group) →
        bucket ≤ 11 ∧ bucket < ungroupedBucket)) ∧
    (∀ (choice : ApplicationChoice) (bucket : Nat),
      (make groups).classify choice context = some (bucket, none) ↔
        bucket = ungroupedBucket ∧ Ungrouped groups choice context) ∧
    (∀ choice : ApplicationChoice, (make groups).classify choice context = none ↔
      context.currentCycleYear = Int32.minValue ∧ groups ≠ []) ∧
    (∀ (above : List TaskViewGroup) (group : TaskViewGroup) (below : List TaskViewGroup),
      groups = above ++ group :: below → group ∈ above → make groups = make (above ++ below)) ∧
    ∀ choices : List ApplicationChoice,
      ((make groups).prioritise choices context = none ↔
        choices ≠ [] ∧ context.currentCycleYear = Int32.minValue ∧ groups ≠ []) ∧
      ∀ rows, (make groups).prioritise choices context = some rows →
        rows.Pairwise fun row next =>
          Ungrouped groups row.application context → Ungrouped groups next.application context := by
  refine ⟨fun choice bucket group => ⟨classify_make_eq_some_iff, fun classified => ?_⟩,
    fun choice bucket => classify_make_eq_ungrouped_iff, fun choice => classify_make_eq_none_iff,
    ?_, fun choices => ⟨prioritise_make_eq_none_iff, fun rows shown => ?_⟩⟩
  · have few := bucket_le_of_classify_make classified
    exact ⟨few, Nat.lt_of_le_of_lt few (by decide)⟩
  · rintro above group below rfl repeated
    exact congrArg TaskViewLadder.mk (keepFirst_of_repeated repeated below)
  · exact prioritise_grouped_first shown

theorem buckets_count_groups_repeated :
    let groups : List TaskViewGroup :=
      [.interviewing, .inactive, .interviewing, .inactive, .awaitingProviderDecision]
    let context := (ApplicationService.drafted []).viewContext ApplicationService.noon
    let choice := ApplicationService.awaiting 4 none ApplicationService.noon
    ((make groups).classify choice context = some (3, some .awaitingProviderDecision) ∧
      (∃ above, FirstMatch groups choice context above .awaitingProviderDecision ∧
        3 = above.toFinset.card + 1) ∧ 3 ≤ 11 ∧ 3 < ungroupedBucket) ∧
    make groups = make [.interviewing, .inactive, .inactive, .awaitingProviderDecision] ∧
    ∃ rows, (make groups).prioritise [choice] context = some rows ∧
      rows.Pairwise fun row next =>
        Ungrouped groups row.application context → Ungrouped groups next.application context := by
  intro groups context choice
  obtain ⟨buckets, -, -, repeats, lists⟩ := buckets_count_groups groups context
  have classified :
      (make groups).classify choice context = some (3, some .awaitingProviderDecision) := by decide
  obtain ⟨first, few⟩ := buckets choice 3 .awaitingProviderDecision
  obtain ⟨cut, last⟩ := lists [choice]
  have late : context.currentCycleYear ≠ Int32.minValue := by decide
  obtain ⟨rows, shown⟩ := Option.ne_none_iff_exists'.mp fun none => late (cut.mp none).2.1
  exact ⟨⟨classified, first.mp classified, few classified⟩,
    repeats [.interviewing, .inactive] .interviewing [.inactive, .awaitingProviderDecision] rfl
      (by decide), rows, shown, last rows shown⟩

/-- The group looks at no year, and yet there is no bucket in the first of all years. -/
theorem no_bucket_in_first_year :
    (make [.awaitingProviderDecision]).classify
      (ApplicationService.awaiting 4 none ApplicationService.noon)
      ⟨ApplicationService.noon, Int32.minValue, 5⟩ = none := by
  decide

end TaskViewLadder

end Admissions
