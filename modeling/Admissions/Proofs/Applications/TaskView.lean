import Admissions.Proofs.Applications.Requests
import Mathlib.Data.List.Nodup
import Mathlib.Data.List.Perm.Basic

namespace Admissions

open Calendar (Instant)

namespace Calendar.Instant

variable {left right : Instant}

def Before (left right : Instant) : Prop :=
  left.date.day < right.date.day ∨ left.date.day = right.date.day ∧
    (left.second < right.second ∨ left.second = right.second ∧ left.nano < right.nano)

theorem order_eq_lt_iff : left.order right = .lt ↔ left.Before right := by
  simp only [order, Ordering.then_eq_lt, Std.compare_eq_lt, Std.LawfulEqOrd.compare_eq_iff_eq,
    Before]

theorem order_eq_eq_iff : left.order right = .eq ↔ left = right := by
  obtain ⟨⟨day, _⟩, second, nano⟩ := left
  obtain ⟨⟨otherDay, _⟩, otherSecond, otherNano⟩ := right
  simp only [order, Ordering.then_eq_eq, Std.LawfulEqOrd.compare_eq_iff_eq, Instant.mk.injEq,
    Date.mk.injEq]

instance transCmp_order : Std.TransCmp order :=
  inferInstanceAs (Std.TransCmp (compareLex (compareOn fun instant : Instant => instant.date.day)
    (compareLex (compareOn Instant.second) (compareOn Instant.nano))))

end Calendar.Instant

theorem transCmp_comap {α β : Type} {cmp : β → β → Ordering} [Std.TransCmp cmp] (key : α → β) :
    Std.TransCmp fun left right => cmp (key left) (key right) where
  eq_swap := Std.OrientedCmp.eq_swap
  isLE_trans := Std.TransCmp.isLE_trans

namespace PrioritisedApplication

variable {left right : PrioritisedApplication}

def DueBefore : Option Instant → Option Instant → Prop
  | some deadline, some later => deadline.Before later
  | some _, none => True
  | none, _ => False

theorem deadlineOrder_eq_lt_iff {deadline other : Option Instant} :
    deadlineOrder deadline other = .lt ↔ DueBefore deadline other := by
  cases deadline <;> cases other <;>
    simp [deadlineOrder, DueBefore, Instant.order_eq_lt_iff]

theorem deadlineOrder_eq_eq_iff {deadline other : Option Instant} :
    deadlineOrder deadline other = .eq ↔ deadline = other := by
  cases deadline <;> cases other <;> simp [deadlineOrder, Instant.order_eq_eq_iff]

instance transCmp_deadlineOrder : Std.TransCmp deadlineOrder where
  eq_swap {deadline other} := by
    cases deadline <;> cases other <;> simp only [deadlineOrder, Ordering.swap]
    exact Std.OrientedCmp.eq_swap
  isLE_trans {first second third} := by
    cases first <;> cases second <;> cases third <;>
      simp only [deadlineOrder, Ordering.isLE, Bool.false_eq_true, implies_true, IsEmpty.forall_iff]
    exact Std.TransCmp.isLE_trans

/-- Bucket by bucket; then the earlier deadline, the later update and the lower id come first. -/
def Precedes (left right : PrioritisedApplication) : Prop :=
  left.bucket < right.bucket ∨ left.bucket = right.bucket ∧
    (DueBefore left.application.rejectByDefaultAt right.application.rejectByDefaultAt ∨
      left.application.rejectByDefaultAt = right.application.rejectByDefaultAt ∧
      (right.application.updatedAt.Before left.application.updatedAt ∨
        right.application.updatedAt = left.application.updatedAt ∧
        left.application.id ≤ right.application.id))

theorem isLE_order_iff : (left.order right).isLE = true ↔ left.Precedes right := by
  simp only [order, Ordering.isLE_then_iff_or, Std.compare_eq_lt, Std.LawfulEqOrd.compare_eq_iff_eq,
    deadlineOrder_eq_lt_iff, deadlineOrder_eq_eq_iff, Instant.order_eq_lt_iff,
    Instant.order_eq_eq_iff, Std.isLE_compare, Precedes]

theorem id_eq_of_order_eq (same : left.order right = .eq) :
    left.application.id = right.application.id := by
  simp only [order, Ordering.then_eq_eq, Std.LawfulEqOrd.compare_eq_iff_eq] at same
  obtain ⟨-, -, -, ids⟩ := same
  exact ids

instance transCmp_order : Std.TransCmp order := by
  let deadline := fun entry : PrioritisedApplication => entry.application.rejectByDefaultAt
  let updated := fun entry : PrioritisedApplication => entry.application.updatedAt
  have byDeadline : Std.TransCmp fun left right => deadlineOrder (deadline left) (deadline right) :=
    transCmp_comap deadline
  have byUpdate : Std.TransCmp fun left right => (updated left).order (updated right) :=
    transCmp_comap updated
  have byLatest : Std.TransCmp fun left right => (updated right).order (updated left) :=
    Std.TransCmp.opposite
  exact inferInstanceAs (Std.TransCmp (compareLex (compareOn bucket)
    (compareLex (fun left right => deadlineOrder (deadline left) (deadline right))
      (compareLex (fun left right => (updated right).order (updated left))
        (compareOn fun entry => entry.application.id)))))

theorem Precedes.total (left right : PrioritisedApplication) :
    left.Precedes right ∨ right.Precedes left := by
  simp only [← isLE_order_iff]
  cases ordered : left.order right with
  | lt | eq => exact .inl rfl
  | gt =>
    have reversed : right.order left = .lt := Std.OrientedCmp.gt_iff_lt.mp ordered
    exact .inr (by simp [reversed])

theorem Precedes.trans {first second third : PrioritisedApplication}
    (before : first.Precedes second) (after : second.Precedes third) : first.Precedes third := by
  simp only [← isLE_order_iff] at before after ⊢
  exact Std.TransCmp.isLE_trans before after

theorem Precedes.antisymm (before : left.Precedes right) (after : right.Precedes left) :
    left.order right = .eq := by
  simp only [← isLE_order_iff] at before after
  exact Std.OrientedCmp.isLE_antisymm before after

theorem inOrder_perm (rows : List PrioritisedApplication) : (inOrder rows).Perm rows :=
  List.mergeSort_perm rows _

theorem pairwise_inOrder (rows : List PrioritisedApplication) :
    (inOrder rows).Pairwise Precedes := by
  have notAfter : ∀ left right : PrioritisedApplication,
      (left.order right != .gt) = true ↔ left.Precedes right := by
    intro left right
    rw [← isLE_order_iff, Ordering.isLE_iff_ne_gt, bne_iff_ne]
  have sorted := @List.pairwise_mergeSort PrioritisedApplication
    (fun left right => left.order right != .gt)
    (fun first second third before after => by
      rw [notAfter] at before after ⊢
      exact before.trans after)
    (fun left right => by
      rw [Bool.or_eq_true, notAfter, notAfter]
      exact Precedes.total left right)
    rows
  exact sorted.imp fun before => (notAfter _ _).mp before

end PrioritisedApplication

theorem TaskViewContext.previousCycleYear?_eq_none_iff {context : TaskViewContext} :
    context.previousCycleYear? = none ↔ context.currentCycleYear = Int32.minValue := by
  simp [previousCycleYear?]

namespace TaskViewGroup

theorem contains?_eq_none_iff {group : TaskViewGroup} {choice : ApplicationChoice}
    {context : TaskViewContext} :
    group.contains? choice context = none ↔ context.currentCycleYear = Int32.minValue := by
  rw [contains?, Option.map_eq_none_iff, TaskViewContext.previousCycleYear?_eq_none_iff]

theorem exists_contains?_eq {context : TaskViewContext}
    (late : context.currentCycleYear ≠ Int32.minValue) :
    ∃ previous, ∀ (group : TaskViewGroup) (choice : ApplicationChoice),
      group.contains? choice context = some (group.contains choice context previous) := by
  obtain ⟨previous, known⟩ := Option.ne_none_iff_exists'.mp
    (mt TaskViewContext.previousCycleYear?_eq_none_iff.mp late)
  refine ⟨previous, fun group choice => ?_⟩
  rw [contains?, known]
  rfl

end TaskViewGroup

namespace TaskViewLadder

variable {ladder : TaskViewLadder} {choice : ApplicationChoice} {context : TaskViewContext}

def Ungrouped (groups : List TaskViewGroup) (choice : ApplicationChoice)
    (context : TaskViewContext) : Prop :=
  ∀ group ∈ groups, group.contains? choice context = some false

/-- An overflow comes before the group of the application: there is no year before the current one,
    or the buckets run out. -/
def Overflows (ladder : TaskViewLadder) (choice : ApplicationChoice) (context : TaskViewContext) :
    Prop :=
  context.currentCycleYear = Int32.minValue ∧ ladder.groups ≠ [] ∨
    UInt16.size - 2 < ladder.groups.length ∧
      Ungrouped (ladder.groups.take (UInt16.size - 2)) choice context

theorem classifyFrom_eq_none_iff {bucket left : Nat} (span : bucket + left + 1 = UInt16.size)
    (groups : List TaskViewGroup) : classifyFrom bucket choice context groups = none ↔
      context.currentCycleYear = Int32.minValue ∧ groups ≠ [] ∨
        left < groups.length ∧ Ungrouped (groups.take left) choice context := by
  induction groups generalizing bucket left with
  | nil => simp [classifyFrom]
  | cons group rest ih =>
    unfold classifyFrom
    cases left with
    | zero =>
      have far : ¬bucket + 1 < UInt16.size := by omega
      simp [far, Ungrouped]
    | succ left =>
      have near : bucket + 1 < UInt16.size := by omega
      rw [if_pos near]
      cases contained : group.contains? choice context with
      | none => simp [TaskViewGroup.contains?_eq_none_iff.mp contained]
      | some found =>
        have late : context.currentCycleYear ≠ Int32.minValue := by
          intro first
          rw [TaskViewGroup.contains?_eq_none_iff.mpr first] at contained
          contradiction
        cases found with
        | true => simp [late, Ungrouped, contained]
        | false =>
          have further : bucket + 1 + left + 1 = UInt16.size := by omega
          simp [ih further, late, Ungrouped, contained]

theorem classify_eq_none_iff : ladder.classify choice context = none ↔
    ladder.Overflows choice context :=
  classifyFrom_eq_none_iff rfl ladder.groups

theorem row?_eq_some_iff {application : ApplicationChoice} {row : PrioritisedApplication} :
    ladder.row? context application = some row ↔
      ladder.classify row.application context = some (row.bucket, row.group) ∧
        row.application = application := by
  obtain ⟨bucket, group, shown⟩ := row
  simp only [row?, Option.map_eq_some_iff, PrioritisedApplication.mk.injEq, Prod.exists]
  constructor
  · rintro ⟨_, _, classified, rfl, rfl, rfl⟩
    exact ⟨classified, rfl⟩
  · rintro ⟨classified, rfl⟩
    exact ⟨bucket, group, classified, rfl, rfl, rfl⟩

variable {choices others : List ApplicationChoice} {rows : List PrioritisedApplication}

theorem prioritise_eq_some_iff : ladder.prioritise choices context = some rows ↔
    ∃ listed, List.Forall₂ (fun choice row => ladder.row? context choice = some row) choices listed ∧
      PrioritisedApplication.inOrder listed = rows := by
  simp only [prioritise, Option.map_eq_some_iff, mapM_eq_some_iff]

theorem prioritise_eq_none_iff : ladder.prioritise choices context = none ↔
    ∃ choice ∈ choices, ladder.Overflows choice context := by
  constructor
  · intro cut
    by_contra clear
    have readable : ∀ choice ∈ choices, ∃ row, ladder.row? context choice = some row := by
      intro choice member
      have classified : ladder.classify choice context ≠ none :=
        fun none => clear ⟨choice, member, classify_eq_none_iff.mp none⟩
      exact Option.ne_none_iff_exists'.mp (by simpa [row?] using classified)
    obtain ⟨listed, each⟩ := exists_mapM_eq_some readable
    simp [prioritise, each] at cut
  · rintro ⟨choice, member, overflows⟩
    refine Option.eq_none_iff_forall_ne_some.mpr fun rows shown => ?_
    obtain ⟨listed, each, -⟩ := prioritise_eq_some_iff.mp shown
    obtain ⟨row, -, made⟩ := exists_of_mem_left each member
    simp [row?, classify_eq_none_iff.mpr overflows] at made

theorem applications_of_forall₂ {listed : List PrioritisedApplication}
    (each : List.Forall₂ (fun choice row => ladder.row? context choice = some row) choices listed) :
    listed.map (·.application) = choices := by
  induction each with
  | nil => rfl
  | cons head tail ih => rw [List.map_cons, ih, (row?_eq_some_iff.mp head).2]

theorem prioritise_perm (shown : ladder.prioritise choices context = some rows) :
    (rows.map (·.application)).Perm choices := by
  obtain ⟨listed, each, rfl⟩ := prioritise_eq_some_iff.mp shown
  have sorted := (PrioritisedApplication.inOrder_perm listed).map (·.application)
  rwa [applications_of_forall₂ each] at sorted

theorem row?_of_mem_prioritise (shown : ladder.prioritise choices context = some rows)
    {row : PrioritisedApplication} (member : row ∈ rows) :
    ladder.row? context row.application = some row := by
  obtain ⟨listed, each, rfl⟩ := prioritise_eq_some_iff.mp shown
  have listedRow := (PrioritisedApplication.inOrder_perm listed).mem_iff.mp member
  obtain ⟨choice, -, made⟩ := exists_of_mem_right each listedRow
  rwa [(row?_eq_some_iff.mp made).2]

theorem prioritise_ordered (shown : ladder.prioritise choices context = some rows) :
    rows.Pairwise PrioritisedApplication.Precedes := by
  obtain ⟨listed, -, rfl⟩ := prioritise_eq_some_iff.mp shown
  exact PrioritisedApplication.pairwise_inOrder listed

/-- Two rows that neither has to come first are of one id, and thus of one application. -/
theorem eq_of_ordered_perm {again : List PrioritisedApplication}
    (shown : ladder.prioritise choices context = some rows)
    (shownAgain : ladder.prioritise others context = some again)
    (same : rows.Perm again) (distinct : (choices.map (·.id)).Nodup) : rows = again := by
  refine List.Perm.eq_of_pairwise ?_ (prioritise_ordered shown) (prioritise_ordered shownAgain) same
  intro left right listed listedAgain before after
  have ids : left.application.id = right.application.id :=
    PrioritisedApplication.id_eq_of_order_eq (before.antisymm after)
  have kept : ∀ row ∈ rows, row.application ∈ choices := fun row member =>
    (prioritise_perm shown).mem_iff.mp (List.mem_map_of_mem member)
  have equal : left.application = right.application :=
    List.inj_on_of_nodup_map distinct (kept left listed)
      (kept right (same.mem_iff.mpr listedAgain)) ids
  have made := row?_of_mem_prioritise shown listed
  have madeAgain := row?_of_mem_prioritise shownAgain listedAgain
  rw [equal, madeAgain] at made
  exact (Option.some.inj made).symm

theorem prioritise_of_perm (same : choices.Perm others) (distinct : (choices.map (·.id)).Nodup)
    (shown : ladder.prioritise choices context = some rows) :
    ladder.prioritise others context = some rows := by
  obtain ⟨listed, each, rfl⟩ := prioritise_eq_some_iff.mp shown
  obtain ⟨relisted, eachAgain, moved⟩ := List.perm_comp_forall₂ same.symm each
  have shownAgain := prioritise_eq_some_iff.mpr ⟨relisted, eachAgain, rfl⟩
  have rearranged := (PrioritisedApplication.inOrder_perm listed).trans
    (moved.symm.trans (PrioritisedApplication.inOrder_perm relisted).symm)
  rw [shownAgain, eq_of_ordered_perm shown shownAgain rearranged distinct]

theorem prioritise_eq_of_perm (same : choices.Perm others)
    (distinct : (choices.map (·.id)).Nodup) :
    ladder.prioritise choices context = ladder.prioritise others context := by
  ext rows
  have distinctAgain : (others.map (·.id)).Nodup := (same.map _).nodup_iff.mp distinct
  exact ⟨prioritise_of_perm same distinct, prioritise_of_perm same.symm distinctAgain⟩

end TaskViewLadder

namespace ApplicationService

variable (service : ApplicationService)

def viewContext (now : Instant) : TaskViewContext :=
  ⟨now, service.policy.currentCycleYear, service.policy.warningDays⟩

def choicesOf (providerId : UInt64) : List ApplicationChoice :=
  service.repository.choices.values.filter (·.providerId == providerId)

/-- The choices of a provider as they are kept, each once, with bucket and group, in order. -/
structure Shows (providerId : UInt64) (now : Instant) (rows : List PrioritisedApplication) :
    Prop where
  listed : (rows.map (·.application)).Perm (service.choicesOf providerId)
  distinct : service.repository.Keyed → (rows.map (·.application.id)).Nodup
  classified : ∀ row ∈ rows, service.policy.ladder.classify row.application
    (service.viewContext now) = some (row.bucket, row.group)
  ordered : rows.Pairwise PrioritisedApplication.Precedes

variable {service}

theorem taskView_of_reach {providerId : UInt64}
    (reached : service.repository.reach .forProvider = .ok ()) (now : Instant) :
    service.taskView providerId now = (service.policy.ladder.prioritise
      (service.choicesOf providerId) (service.viewContext now)).map .ok := by
  unfold taskView Repository.forProvider
  rw [reached]
  rfl

theorem taskView_of_error {providerId : UInt64} {error : RecordError}
    (failed : service.repository.reach .forProvider = .error error) (now : Instant) :
    service.taskView providerId now = some (.error (.repository error)) := by
  unfold taskView Repository.forProvider
  rw [failed]
  rfl

theorem nodup_ids_of_keyed {repository : Repository} (keyed : repository.Keyed) :
    (repository.choices.values.map (·.id)).Nodup := by
  have keys := repository.choices.nodup_keys
  have same : repository.choices.values.map (·.id) = repository.choices.entries.map Prod.fst := by
    rw [SortedMap.values, List.map_map]
    refine List.map_congr_left fun entry member => ?_
    exact keyed (SortedMap.get?_eq_some_iff.mpr member)
  rw [same]
  exact keys

theorem shows_of_prioritise {providerId : UInt64} {now : Instant}
    {rows : List PrioritisedApplication}
    (shown : service.policy.ladder.prioritise (service.choicesOf providerId)
      (service.viewContext now) = some rows) : service.Shows providerId now rows where
  listed := TaskViewLadder.prioritise_perm shown
  distinct keyed := by
    have ids := (TaskViewLadder.prioritise_perm shown).map (·.id)
    rw [List.map_map] at ids
    refine ids.nodup_iff.mpr ?_
    exact (nodup_ids_of_keyed keyed).sublist (List.filter_sublist.map _)
  classified row member :=
    (TaskViewLadder.row?_eq_some_iff.mp (TaskViewLadder.row?_of_mem_prioritise shown member)).1
  ordered := TaskViewLadder.prioritise_ordered shown

/-- The task view shows what is kept, in the one order that bucket, deadline, update and id
    determine, unless an overflow comes before the group of one of the choices. -/
theorem task_view_in_one_order (service : ApplicationService) (providerId : UInt64)
    (now : Instant) :
    (∀ error, service.repository.reach .forProvider = .error error →
      service.taskView providerId now = some (.error (.repository error))) ∧
    (service.repository.reach .forProvider = .ok () →
      (∃ rows, service.taskView providerId now = some (.ok rows) ∧
        service.Shows providerId now rows ∧ ∀ choice ∈ service.choicesOf providerId,
          ¬service.policy.ladder.Overflows choice (service.viewContext now)) ∨
      service.taskView providerId now = none ∧ ∃ choice ∈ service.choicesOf providerId,
        service.policy.ladder.Overflows choice (service.viewContext now)) ∧
    Std.TransCmp PrioritisedApplication.order ∧
    (∀ left right : PrioritisedApplication,
      (left.order right).isLE = true ↔ left.Precedes right) ∧
    (∀ left right : PrioritisedApplication,
      left.order right = .eq → left.application.id = right.application.id) ∧
    ∀ (ladder : TaskViewLadder) (context : TaskViewContext)
      (choices others : List ApplicationChoice),
      choices.Perm others → (choices.map (·.id)).Nodup →
      ladder.prioritise choices context = ladder.prioritise others context := by
  refine ⟨fun error failed => taskView_of_error failed now, fun reached => ?_,
    PrioritisedApplication.transCmp_order, fun left right => ?_, fun left right same => ?_, ?_⟩
  · rw [taskView_of_reach reached]
    cases shown : service.policy.ladder.prioritise (service.choicesOf providerId)
      (service.viewContext now) with
    | none => exact .inr ⟨rfl, TaskViewLadder.prioritise_eq_none_iff.mp shown⟩
    | some rows =>
      refine .inl ⟨rows, rfl, shows_of_prioritise shown, fun choice member overflows => ?_⟩
      have cut := TaskViewLadder.prioritise_eq_none_iff.mpr ⟨choice, member, overflows⟩
      rw [shown] at cut
      contradiction
  · exact PrioritisedApplication.isLE_order_iff
  · exact PrioritisedApplication.id_eq_of_order_eq same
  · intro ladder context choices others same distinct
    exact TaskViewLadder.prioritise_eq_of_perm same distinct

def awaiting (id : UInt64) (deadline : Option Instant) (updatedAt : Instant) : ApplicationChoice :=
  { draft id 77 with
    status := .awaitingProviderDecision
    rejectByDefaultAt := deadline
    updatedAt := updatedAt }

theorem task_view_in_one_order_shuffled :
    let evening : Instant := { noon with second := 64800 }
    let choices := [awaiting 4 (some evening) noon, awaiting 2 (some evening) noon,
      awaiting 9 none evening, awaiting 7 (some evening) evening]
    let others := choices.reverse
    let service := opened choices [] openCourse midCycle
    let context := service.viewContext noon
    service.repository.reach .forProvider = .ok () ∧
    (∃ rows, service.taskView 1 noon = some (.ok rows) ∧ service.Shows 1 noon rows) ∧
    choices.Perm others ∧ (choices.map (·.id)).Nodup ∧
    TaskViewLadder.standard.prioritise choices context =
      TaskViewLadder.standard.prioritise others context := by
  intro evening choices others service context
  have reached : service.repository.reach .forProvider = .ok () := rfl
  have same : choices.Perm others := (List.reverse_perm choices).symm
  have distinct : (choices.map (·.id)).Nodup := by decide
  obtain ⟨-, views, -, -, -, alike⟩ := task_view_in_one_order service 1 noon
  have shown : ∃ rows, service.taskView 1 noon = some (.ok rows) ∧ service.Shows 1 noon rows := by
    rcases views reached with ⟨rows, given, shows, -⟩ | ⟨-, choice, -, overflows⟩
    · exact ⟨rows, given, shows⟩
    · rcases overflows with ⟨earliest, -⟩ | ⟨long, -⟩
      · exact absurd earliest (by decide)
      · exact absurd long (by decide)
  exact ⟨reached, shown, same, distinct, alike .standard context choices others same distinct⟩

/-- A single application, and its group looks at no year. -/
theorem no_task_view_in_first_year :
    let policy := { midCycle with currentCycleYear := Int32.minValue }
    (opened [awaiting 4 none noon] [] openCourse policy).taskView 1 noon = none := by
  decide +kernel

end ApplicationService

end Admissions
