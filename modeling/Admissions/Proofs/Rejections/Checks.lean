import Admissions.Proofs.SortedMap
import Admissions.Proofs.Text.Trim
import Admissions.Proofs.Wizard.ValidationErrors
import Admissions.Rejections.Pages

namespace Admissions.Rejections

open Wizard (ValidationErrors)

variable {answers : Answers} {reasons : List Reason} {context : Context}

namespace RecordedReason

def details : RecordedReason → Option String
  | mk _ _ details _ => details

def selected : RecordedReason → List RecordedReason
  | mk _ _ _ selected => selected

end RecordedReason

inductive Within (recorded : List RecordedReason) : RecordedReason → Prop where
  | here {reason : RecordedReason} (member : reason ∈ recorded) : Within recorded reason
  | under {above reason : RecordedReason} (within : Within recorded above)
      (member : reason ∈ above.selected) : Within recorded reason

inductive Recorded (answers : Answers) (reasons : List Reason) :
    Reason → RecordedReason → Prop where
  | top {template : Reason} (listed : template ∈ reasons)
      (selected : template.id ∈ answers.selectedReasons) :
      Recorded answers reasons template (record answers template)
  | under {above template : Reason} {recorded : RecordedReason}
      (within : Recorded answers reasons above recorded) (listed : template ∈ above.subReasons)
      (selected : template.id ∈ answers.chosenUnder above.id) :
      Recorded answers reasons template (record answers template)

/-- Where the template has a details box, details are recorded, as the specification wants them. -/
def Explained (template : Reason) (recorded : RecordedReason) : Prop :=
  ∀ box, template.details = some box → ∃ text, recorded.details = some text ∧
    Text.Trimmed text ∧ Text.isPresent text = true ∧ Text.wordCount text ≤ greatestWordCount

def Subdivided (template : Reason) (recorded : RecordedReason) : Prop :=
  template.subReasons ≠ [] → recorded.selected ≠ []

structure Complete (template : Reason) (recorded : RecordedReason) : Prop where
  explained : Explained template recorded
  subdivided : Subdivided template recorded

theorem recordSelected_eq_map (answers : Answers) (chosen : List String) (reasons : List Reason) :
    recordSelected answers chosen reasons =
      (reasons.filter fun reason => chosen.contains reason.id).map (record answers) := by
  induction reasons with
  | nil => rfl
  | cons reason reasons ih =>
    rw [recordSelected, ih, List.filter_cons]
    split <;> rfl

theorem mem_recordSelected {chosen : List String} {recorded : RecordedReason} :
    recorded ∈ recordSelected answers chosen reasons ↔
      ∃ template ∈ reasons, template.id ∈ chosen ∧ record answers template = recorded := by
  simp [recordSelected_eq_map, and_assoc]

theorem details_record (answers : Answers) (template : Reason) :
    (record answers template).details =
      (template.details.bind fun box => answers.details.get? box.id).map Text.trim := by
  cases template
  rfl

theorem selected_record (answers : Answers) (template : Reason) :
    (record answers template).selected =
      recordSelected answers (answers.chosenUnder template.id) template.subReasons := by
  cases template
  rfl

theorem Recorded.eq_record {template : Reason} {recorded : RecordedReason}
    (made : Recorded answers reasons template recorded) : recorded = record answers template := by
  cases made <;> rfl

theorem within_iff {recorded : RecordedReason} :
    Within (recordSelected answers answers.selectedReasons reasons) recorded ↔
      ∃ template, Recorded answers reasons template recorded := by
  constructor
  · intro within
    induction within with
    | here member =>
      obtain ⟨template, listed, selected, rfl⟩ := mem_recordSelected.mp member
      exact ⟨template, .top listed selected⟩
    | under within member ih =>
      obtain ⟨above, made⟩ := ih
      rw [made.eq_record, selected_record] at member
      obtain ⟨template, listed, selected, rfl⟩ := mem_recordSelected.mp member
      exact ⟨template, made.under listed selected⟩
  · rintro ⟨template, made⟩
    induction made with
    | top listed selected => exact .here (mem_recordSelected.mpr ⟨_, listed, selected, rfl⟩)
    | under made listed selected ih =>
      refine ih.under ?_
      rw [made.eq_record, selected_record]
      exact mem_recordSelected.mpr ⟨_, listed, selected, rfl⟩

def Supplied (answers : Answers) (template : Reason) : Prop :=
  ∀ box, template.details = some box → ∃ text, answers.details.get? box.id = some text ∧
    Text.isPresent text = true ∧ Text.wordCount text ≤ greatestWordCount

/-- Some id is given, and every id is that of a reason which is fine; blank ids do not count. -/
structure Picked (ids : List String) (reasons : List Reason) (fine : Reason → Prop) : Prop where
  nonempty : ∃ id ∈ ids, Text.isPresent id = true
  each : ∀ id ∈ ids, Text.isPresent id = true →
    ∃ template, findReason reasons id = some template ∧ fine template

structure Answered (answers : Answers) (template : Reason) : Prop where
  leaf : template.subReasons = [] → Supplied answers template
  group : template.subReasons ≠ [] →
    Picked (answers.chosenUnder template.id) template.subReasons (Supplied answers)

theorem isEmpty_checkDetails {errors : ValidationErrors} {template : Reason} :
    (checkDetails answers errors template).isEmpty = true ↔
      errors.isEmpty = true ∧ Supplied answers template := by
  unfold checkDetails Supplied
  cases asked : template.details with
  | none => simp
  | some box =>
    cases given : answers.details.get? box.id with
    | none => simp [given, Text.isPresent]
    | some text =>
      cases present : Text.isPresent text with
      | false => simp [given, present]
      | true => simp [given, present, and_comm]

theorem isEmpty_checkPicked {errors missing : ValidationErrors} {ids : List String}
    {field : String} (check : ValidationErrors → Reason → ValidationErrors)
    (fine : Reason → Prop) (faulty : missing.isEmpty = false)
    (each : ∀ errors template,
      (check errors template).isEmpty = true ↔ errors.isEmpty = true ∧ fine template) :
    (if (ids.filter Text.isPresent).isEmpty then missing
      else (ids.filter Text.isPresent).foldl (fun errors id =>
        match findReason reasons id with
        | some template => check errors template
        | none => errors.add field (unknownReason id)) errors).isEmpty = true ↔
      errors.isEmpty = true ∧ Picked ids reasons fine := by
  by_cases blank : ids.filter Text.isPresent = []
  · have refused : ¬Picked ids reasons fine := by
      rintro ⟨⟨id, given, present⟩, -⟩
      have member := List.mem_filter.mpr ⟨given, present⟩
      simp [blank] at member
    simp [blank, faulty, refused]
  · have nonempty : ∃ id ∈ ids, Text.isPresent id = true := by simpa using blank
    have found : ∀ errors, ∀ id ∈ ids.filter Text.isPresent,
        (match findReason reasons id with
          | some template => check errors template
          | none => errors.add field (unknownReason id)).isEmpty = true ↔
        errors.isEmpty = true ∧ ∃ template, findReason reasons id = some template ∧
          fine template := by
      intro errors id _
      cases findReason reasons id with
      | none => simp
      | some template => simp [each]
    rw [if_neg (by simpa using blank), ValidationErrors.isEmpty_foldl _ found]
    refine and_congr_right fun _ => ⟨fun every => ⟨nonempty, fun id given present => ?_⟩, ?_⟩
    · exact every id (List.mem_filter.mpr ⟨given, present⟩)
    · rintro ⟨-, every⟩ id member
      obtain ⟨given, present⟩ := List.mem_filter.mp member
      exact every id given present

theorem isEmpty_checkReason {errors : ValidationErrors} {template : Reason} :
    (checkReason answers errors template).isEmpty = true ↔
      errors.isEmpty = true ∧ Answered answers template := by
  unfold checkReason
  by_cases leaf : template.subReasons = []
  · have nothing : template.subReasons.isEmpty = true := by simp [leaf]
    rw [if_pos nothing, isEmpty_checkDetails]
    refine and_congr_right fun _ => ⟨fun supplied => ⟨fun _ => supplied, ?_⟩, fun answered => ?_⟩
    · exact absurd leaf
    · exact answered.leaf leaf
  · have something : ¬template.subReasons.isEmpty = true := by simpa using leaf
    rw [if_neg something]
    refine (isEmpty_checkPicked (checkDetails answers) (Supplied answers)
      (ValidationErrors.isEmpty_add _ _ _) fun _ _ => isEmpty_checkDetails).trans ?_
    refine and_congr_right fun _ => ⟨fun picked => ⟨?_, fun _ => picked⟩, ?_⟩
    · exact fun empty => absurd empty leaf
    · exact fun answered => answered.group leaf

theorem isEmpty_validateReasons :
    (validateReasons answers reasons).isEmpty = true ↔
      Picked answers.selectedReasons reasons (Answered answers) := by
  refine (isEmpty_checkPicked (checkReason answers) (Answered answers)
    (ValidationErrors.isEmpty_single _ _) fun _ _ => isEmpty_checkReason).trans ?_
  exact and_iff_right ValidationErrors.isEmpty_empty

theorem materialize_eq_ok {rejection : Rejection} :
    materialize answers context = .ok rejection ↔
      Picked answers.selectedReasons context.reasons (Answered answers) ∧
      rejection = ⟨if context.awaitsFeedback then .rejectByDefaultFeedback else .rejectApplication,
        recordSelected answers answers.selectedReasons context.reasons⟩ := by
  rw [← isEmpty_validateReasons]
  unfold materialize
  dsimp only
  cases (validateReasons answers context.reasons).isEmpty with
  | false => simp [throw, throwThe, MonadExceptOf.throw]
  | true =>
    simp only [Bool.not_true, Bool.false_eq_true, ↓reduceIte, true_and]
    exact ⟨fun made => (Except.ok.inj made).symm, fun same => congrArg Except.ok same.symm⟩

theorem explained_of_supplied {template : Reason} (supplied : Supplied answers template) :
    Explained template (record answers template) := by
  intro box asked
  obtain ⟨text, given, present, short⟩ := supplied box asked
  refine ⟨Text.trim text, ?_, Text.trimmed_trim text, Text.isPresent_trim present, ?_⟩
  · simp [details_record, asked, given]
  · exact Nat.le_trans (Text.wordCount_trim_le text) short

theorem Picked.recorded {ids : List String} {fine : Reason → Prop}
    (picked : Picked ids reasons fine) : recordSelected answers ids reasons ≠ [] := by
  obtain ⟨⟨id, given, present⟩, each⟩ := picked
  obtain ⟨template, found, -⟩ := each id given present
  have listed := List.mem_of_find?_eq_some found
  have named : template.id = id := by simpa using List.find?_some found
  exact List.ne_nil_of_mem (mem_recordSelected.mpr ⟨template, listed, named ▸ given, rfl⟩)

/-- The first of its siblings with its id, which is not blank: the reason that the check finds. -/
structure Findable (siblings : List Reason) (template : Reason) : Prop where
  named : Text.isPresent template.id = true
  first : findReason siblings template.id = some template

theorem Picked.fine {ids : List String} {fine : Reason → Prop} {template : Reason}
    (picked : Picked ids reasons fine) (findable : Findable reasons template)
    (given : template.id ∈ ids) : fine template := by
  obtain ⟨other, found, good⟩ := picked.each template.id given findable.named
  obtain rfl : template = other := Option.some.inj (findable.first.symm.trans found)
  exact good

structure Vetted (answers : Answers) (template : Reason) : Prop where
  subdivided : Subdivided template (record answers template)
  leaf : template.subReasons = [] → Explained template (record answers template)
  group : ∀ sub, Findable template.subReasons sub → sub.id ∈ answers.chosenUnder template.id →
    Explained sub (record answers sub)

theorem vetted_of_answered {template : Reason} (answered : Answered answers template) :
    Vetted answers template := by
  refine ⟨fun group => ?_, fun leaf => ?_, fun sub findable chosen => ?_⟩
  · rw [selected_record]
    exact (answered.group group).recorded
  · exact explained_of_supplied (answered.leaf leaf)
  · have listed := List.mem_of_find?_eq_some findable.first
    have picked := answered.group (List.ne_nil_of_mem listed)
    exact explained_of_supplied (picked.fine findable chosen)

structure Labelled (reasons : List Reason) : Prop where
  named : ∀ reason ∈ reasons, Text.isPresent reason.id = true
  distinct : (reasons.map Reason.id).Nodup

/-- Two levels with details on the leaves only. -/
structure Plain (reasons : List Reason) : Prop where
  labelled : Labelled reasons
  below : ∀ reason ∈ reasons, Labelled reason.subReasons
  group : ∀ reason ∈ reasons, reason.subReasons ≠ [] → reason.details = none
  leaf : ∀ reason ∈ reasons, ∀ sub ∈ reason.subReasons, sub.subReasons = []

theorem Labelled.findable (labelled : Labelled reasons) {template : Reason}
    (listed : template ∈ reasons) : Findable reasons template := by
  obtain ⟨named, distinct⟩ := labelled
  exact ⟨named template listed, find?_eq_some_of_nodup distinct listed⟩

theorem Recorded.level (plain : Plain reasons) {template : Reason} {recorded : RecordedReason}
    (made : Recorded answers reasons template recorded) :
    (template ∈ reasons ∧ template.id ∈ answers.selectedReasons) ∨
    ∃ above ∈ reasons, above.id ∈ answers.selectedReasons ∧ template ∈ above.subReasons ∧
      template.id ∈ answers.chosenUnder above.id := by
  induction made with
  | top listed selected => exact .inl ⟨listed, selected⟩
  | @under above template recorded made listed selected ih =>
    rcases ih with ⟨top, chosen⟩ | ⟨group, top, -, member, -⟩
    · exact .inr ⟨above, top, chosen, listed, selected⟩
    · rw [plain.leaf group top above member] at listed
      simp at listed

theorem complete_of_vetted (plain : Plain reasons)
    (vetted : ∀ template, Findable reasons template → template.id ∈ answers.selectedReasons →
      Vetted answers template)
    {template : Reason} {recorded : RecordedReason}
    (made : Recorded answers reasons template recorded) : Complete template recorded := by
  rw [made.eq_record]
  rcases made.level plain with ⟨listed, selected⟩ | ⟨above, listed, selected, member, chosen⟩
  · have checked := vetted template (plain.labelled.findable listed) selected
    refine ⟨?_, checked.subdivided⟩
    by_cases leaf : template.subReasons = []
    · exact checked.leaf leaf
    · intro box asked
      rw [plain.group template listed leaf] at asked
      contradiction
  · have checked := vetted above (plain.labelled.findable listed) selected
    have findable := (plain.below above listed).findable member
    refine ⟨checked.group template findable chosen, fun group => ?_⟩
    exact absurd (plain.leaf above listed template member) group

theorem Recorded.trimmed {template : Reason} {recorded : RecordedReason} {text : String}
    (made : Recorded answers reasons template recorded) (given : recorded.details = some text) :
    Text.Trimmed text := by
  rw [made.eq_record, details_record] at given
  obtain ⟨entered, -, rfl⟩ := Option.map_eq_some_iff.mp given
  exact Text.trimmed_trim entered

/-- A rejection is made exactly of answers that the check accepts. Every reason recorded on the
    first level that the check finds has been checked there and one level further; only in a tree of
    two levels with details on its leaves is that all there is. -/
theorem recorded_reasons_checked (answers : Answers) (context : Context) :
    ((∃ rejection, materialize answers context = .ok rejection) ↔
      Picked answers.selectedReasons context.reasons (Answered answers)) ∧
    ∀ rejection, materialize answers context = .ok rejection →
      rejection.selectedReasons ≠ [] ∧
      (∀ recorded, Within rejection.selectedReasons recorded ↔
        ∃ template, Recorded answers context.reasons template recorded) ∧
      (∀ template recorded, Recorded answers context.reasons template recorded →
        ∀ text, recorded.details = some text → Text.Trimmed text) ∧
      (∀ template, Findable context.reasons template → template.id ∈ answers.selectedReasons →
        Vetted answers template) ∧
      (Plain context.reasons → ∀ template recorded,
        Recorded answers context.reasons template recorded → Complete template recorded) := by
  refine ⟨?_, fun rejection made => ?_⟩
  · simp [materialize_eq_ok]
  · obtain ⟨picked, rfl⟩ := materialize_eq_ok.mp made
    have vetted : ∀ template, Findable context.reasons template →
        template.id ∈ answers.selectedReasons → Vetted answers template :=
      fun template findable selected => vetted_of_answered (picked.fine findable selected)
    exact ⟨picked.recorded, fun recorded => within_iff,
      fun template recorded made text given => made.trimmed given, vetted,
      fun plain template recorded => complete_of_vetted plain vetted⟩

theorem plain_standardReasons : Plain standardReasons where
  labelled := ⟨by decide +kernel, by decide +kernel⟩
  below := by
    have named : ∀ reason ∈ standardReasons, ∀ sub ∈ reason.subReasons,
        Text.isPresent sub.id = true := by decide +kernel
    have distinct : ∀ reason ∈ standardReasons, (reason.subReasons.map Reason.id).Nodup := by
      decide +kernel
    exact fun reason member => ⟨named reason member, distinct reason member⟩
  group := by decide +kernel
  leaf := by decide +kernel

def standardAnswers : Answers where
  selectedReasons := ["qualifications", "other"]
  selectedSubReasons := .ofList [("qualifications", ["unsuitable_degree", "no_degree"])]
  details := .ofList [("unsuitable_degree_details", " A degree in law "), ("other_details", "Late")]

theorem recorded_reasons_checked_standard :
    ∃ rejection, materialize standardAnswers ⟨standardReasons, ⟨false, true⟩, false⟩ =
        .ok rejection ∧
      Plain standardReasons ∧
      ∀ recorded, Within rejection.selectedReasons recorded →
        ∃ template, Recorded standardAnswers standardReasons template recorded ∧
          Complete template recorded := by
  have clean : (validateReasons standardAnswers standardReasons).isEmpty = true := by
    decide +kernel
  have picked := isEmpty_validateReasons.mp clean
  obtain ⟨made, checked⟩ :=
    recorded_reasons_checked standardAnswers ⟨standardReasons, ⟨false, true⟩, false⟩
  obtain ⟨rejection, made⟩ := made.mpr picked
  obtain ⟨-, within, -, -, complete⟩ := checked rejection made
  refine ⟨rejection, made, plain_standardReasons, fun recorded inside => ?_⟩
  obtain ⟨template, recorded⟩ := (within recorded).mp inside
  exact ⟨template, recorded, complete plain_standardReasons template _ recorded⟩

def term : Reason := .group "term" "Term" [.leaf "autumn" "Autumn"]

def late : Reason := .make "late" "Late" (some "Details about lateness") [term]

def lateAnswers : Answers := ⟨["late"], .ofList [("late", ["term"])], .empty⟩

/-- Neither the details of a reason with others below it are asked for, nor a choice on the third
    level. -/
theorem incomplete_reasons_recorded :
    ∃ rejection, materialize lateAnswers ⟨[late], ⟨false, true⟩, false⟩ = .ok rejection ∧
      rejection.selectedReasons = [.mk "late" "Late" none [.mk "term" "Term" none []]] ∧
      (∃ recorded, Recorded lateAnswers [late] late recorded ∧ ¬Explained late recorded) ∧
      ∃ recorded, Recorded lateAnswers [late] term recorded ∧ ¬Subdivided term recorded := by
  have clean : (validateReasons lateAnswers [late]).isEmpty = true := by decide +kernel
  have top : Recorded lateAnswers [late] late (record lateAnswers late) :=
    .top (by simp) (by decide)
  have below : Recorded lateAnswers [late] term (record lateAnswers term) :=
    top.under (by simp [late, Reason.make, Reason.subReasons]) (by decide +kernel)
  refine ⟨_, materialize_eq_ok.mpr ⟨isEmpty_validateReasons.mp clean, rfl⟩, rfl,
    ⟨_, top, ?_⟩, _, below, ?_⟩
  · intro explained
    obtain ⟨text, recorded, -⟩ := explained ⟨"late_details", "Details about lateness"⟩ rfl
    contradiction
  · intro subdivided
    exact subdivided (List.cons_ne_nil _ _) rfl

section Messages

open Wizard.ValidationErrors (opening_append_ne append_closing_ne understood_empty
  understood_single)

theorem understood_checkDetails (answers : Answers) {errors : ValidationErrors}
    (understood : errors.Understood) (reason : Reason) :
    (checkDetails answers errors reason).Understood := by
  unfold checkDetails
  split
  · exact understood
  · dsimp only
    split
    · exact understood.add (opening_append_ne 'E' rfl (by decide) _) _
    · exact understood.addIf _ (append_closing_ne 'r' rfl (by decide) _) _

theorem unknownReason_ne (id : String) : unknownReason id ≠ "is not a valid value" :=
  append_closing_ne '`' rfl (by decide) _

theorem understood_checkReason (answers : Answers) {errors : ValidationErrors}
    (understood : errors.Understood) (reason : Reason) :
    (checkReason answers errors reason).Understood := by
  unfold checkReason
  split
  · exact understood_checkDetails answers understood reason
  · dsimp only
    split
    · exact understood.add (opening_append_ne 'S' rfl (by decide) _) _
    · refine understood.foldl (fun errors id understood => ?_) _
      split
      · exact understood_checkDetails answers understood _
      · exact understood.add (unknownReason_ne id) _

theorem understood_validateReasons (answers : Answers) (reasons : List Reason) :
    (validateReasons answers reasons).Understood := by
  unfold validateReasons
  dsimp only
  split
  · exact understood_single (by simp) _
  · refine understood_empty.foldl (fun errors id understood => ?_) _
    split
    · exact understood_checkReason answers understood _
    · exact understood.add (unknownReason_ne id) _

end Messages

end Admissions.Rejections
