import Admissions.Proofs.Wizard.Isolation
import Admissions.Sample.Referee

namespace Admissions.Wizard

open Json (Value Object)

variable {wizard : Definition}

namespace Handle

def permits (handle : Handle wizard) (name : String) : Bool :=
  (wizard.permitted handle.step).contains name

theorem assignAll_filter (handle : Handle wizard) (given : Object) (errors : ValidationErrors)
    (params : Object) :
    handle.assignAll given errors (params.filter (handle.permits ·.1)) =
      handle.assignAll given errors params := by
  induction params generalizing given errors with
  | nil => rfl
  | cons param params ih =>
    by_cases permitted : handle.permits param.1 = true
    · have kept : (param :: params).filter (handle.permits ·.1) =
          param :: params.filter (handle.permits ·.1) := List.filter_cons_of_pos permitted
      rw [kept]
      simp only [assignAll, ih]
    · have dropped : (param :: params).filter (handle.permits ·.1) =
          params.filter (handle.permits ·.1) := List.filter_cons_of_neg permitted
      rw [dropped, ih, assignAll]
      exact (if_neg permitted).symm

end Handle

def AgreeOn (names : List String) (left right : SortedMap String Value) : Prop :=
  ∀ name ∈ names, left.get? name = right.get? name

theorem Handle.submission_eq_of_agree {handle : Handle wizard} {left right : SortedMap String Value}
    (agree : AgreeOn (wizard.permitted handle.step) left right) :
    handle.submission left.entries = handle.submission right.entries := by
  have kept : left.entries.filter (handle.permits ·.1) =
      right.entries.filter (handle.permits ·.1) := by
    apply SortedMap.filter_entries_eq
    intro name permitted
    exact agree name (List.contains_iff_mem.mp permitted)
  have assigned : ∀ given errors, handle.assignAll given errors left.entries =
      handle.assignAll given errors right.entries := by
    intro given errors
    rw [← handle.assignAll_filter given errors left.entries, kept, handle.assignAll_filter]
  unfold Handle.submission
  simp only [assigned]

theorem Session.advance_eq_of_agree {session : Session wizard}
    {left right : SortedMap String Value}
    (agree : AgreeOn (wizard.permitted session.handle.step) left right) :
    session.advance left.entries = session.advance right.entries := by
  have submitted := Handle.submission_eq_of_agree agree
  unfold Session.advance
  simp only [submitted]

def Session.reply (session : Session wizard) : Event wizard → Option (Reply wizard)
  | .openBy context entry =>
    some (.opened (Handle.openBy session.store session.handle.key context entry).1)
  | .visit requested => some (.visited (session.visit requested).1)
  | .advance params => some (.advanced (session.advance params).1)
  | .errors => some (.errors session.handle.errors)
  | .next => some (.leads session.handle.next)
  | .previous => some (.leads session.handle.previous)
  | .isComplete => some (.complete session.handle.isComplete)
  | .save => some (.saved session.save.1)
  | .clear => some (.cleared session.clear.1)
  | .revise _ => none
  | .outage _ _ => none

inductive Event.AlikeOn (names : List String) : Event wizard → Event wizard → Prop where
  | same (event : Event wizard) : AlikeOn names event event
  | advance {left right : SortedMap String Value} (agree : AgreeOn names left right) :
      AlikeOn names (.advance left.entries) (.advance right.entries)

theorem Event.AlikeOn.indistinct {session : Session wizard} {left right : Event wizard}
    (alike : Event.AlikeOn (wizard.permitted session.handle.step) left right) :
    session.reply left = session.reply right ∧ session.after left = session.after right := by
  cases alike with
  | same => exact ⟨rfl, rfl⟩
  | advance agree =>
    have advanced := Session.advance_eq_of_agree agree
    unfold Session.reply Session.after
    simp only [advanced, and_self]

namespace Desk

def reply (desk : Desk wizard) : Move wizard → Option (Reply wizard)
  | .openAnother key context entry =>
    some (.opened (Handle.openBy desk.store key context entry).1)
  | .act place event =>
    match desk.handles[place]? with
    | none => some .noHandle
    | some handle => Session.reply ⟨desk.store, handle⟩ event

def history (desk : Desk wizard) :
    List (Move wizard) → List (Option (Reply wizard) × Desk wizard)
  | [] => []
  | move :: moves => (desk.reply move, desk.after move) :: (desk.after move).history moves

end Desk

/-- The moves differ at most in parameters that the page of the handle does not permit. -/
inductive Move.AlikeAt (desk : Desk wizard) : Move wizard → Move wizard → Prop where
  | same (move : Move wizard) : AlikeAt desk move move
  | act {place : Nat} {handle : Handle wizard} {left right : Event wizard}
      (found : desk.handles[place]? = some handle)
      (alike : Event.AlikeOn (wizard.permitted handle.step) left right) :
      AlikeAt desk (.act place left) (.act place right)

/-- The moves of two runs, each pair alike at the desk to which the earlier ones have led. -/
inductive Desk.AlikeRuns : Desk wizard → List (Move wizard) → List (Move wizard) → Prop where
  | nil {desk : Desk wizard} : AlikeRuns desk [] []
  | cons {desk : Desk wizard} {left right : Move wizard} {lefts rights : List (Move wizard)}
      (alike : Move.AlikeAt desk left right) (rest : AlikeRuns (desk.after left) lefts rights) :
      AlikeRuns desk (left :: lefts) (right :: rights)

theorem Move.AlikeAt.indistinct {desk : Desk wizard} {left right : Move wizard}
    (alike : Move.AlikeAt desk left right) :
    desk.reply left = desk.reply right ∧ desk.after left = desk.after right := by
  cases alike with
  | same => exact ⟨rfl, rfl⟩
  | @act place handle left right found alike =>
    have both : Session.reply ⟨desk.store, handle⟩ left = Session.reply ⟨desk.store, handle⟩ right ∧
        Session.after ⟨desk.store, handle⟩ left = Session.after ⟨desk.store, handle⟩ right :=
      alike.indistinct
    unfold Desk.reply Desk.after
    simp only [found, both, and_self]

/-- Parameters that the page of the moment does not permit show nowhere in a run, in whatever
    wizard, from whatever store and handles. -/
theorem unpermitted_parameters_unseen {desk : Desk wizard} {lefts rights : List (Move wizard)}
    (alike : desk.AlikeRuns lefts rights) : desk.history lefts = desk.history rights := by
  induction alike with
  | nil => rfl
  | cons alike rest ih =>
    obtain ⟨replies, desks⟩ := alike.indistinct
    rw [Desk.history, Desk.history, replies, ih, desks]

section

open Sample (Referee.wizard Referee.Step)

def submissions (kind name : List (String × Value)) : List (Move Referee.wizard) :=
  [.openAnother ⟨"k"⟩ () .resume, .act 0 (.advance (SortedMap.ofList kind).entries),
    .act 0 (.visit Referee.Step.name), .act 0 (.advance (SortedMap.ofList name).entries),
    .act 0 .save]

def plainSubmissions : List (Move Referee.wizard) :=
  submissions [("kind", .string "professional")]
    [("name", .string "Ada"), ("relationship_years", .nat 3)]

def clutteredSubmissions : List (Move Referee.wizard) :=
  submissions
    [("email", .nat 7), ("kind", .string "professional"), ("relationship_years", .string "many")]
    [("colour", .null), ("kind", .array []), ("name", .string "Ada"),
      ("relationship_years", .nat 3)]

theorem unpermitted_parameters_unseen_cluttered :
    Desk.empty.AlikeRuns plainSubmissions clutteredSubmissions ∧
      Desk.empty.history plainSubmissions = Desk.empty.history clutteredSubmissions := by
  have alike : Desk.empty.AlikeRuns plainSubmissions clutteredSubmissions := by
    refine .cons (.same _) (.cons (.act rfl (.advance ?_)) (.cons (.same _)
      (.cons (.act rfl (.advance ?_)) (.cons (.same _) .nil))))
    · intro name permitted
      obtain rfl := List.mem_singleton.mp permitted
      rfl
    · intro name permitted
      rcases List.mem_cons.mp permitted with rfl | permitted
      · rfl
      · obtain rfl := List.mem_singleton.mp permitted
        rfl
  exact ⟨alike, unpermitted_parameters_unseen alike⟩

end

end Admissions.Wizard
