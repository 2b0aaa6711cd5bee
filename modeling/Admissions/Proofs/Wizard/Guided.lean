import Admissions.Proofs.Wizard.Navigation
import Admissions.Proofs.Wizard.Submission
import Mathlib.Data.List.Nodup

namespace Admissions.Wizard

open Json (Value Object)

variable {wizard : Definition}

theorem enter_of_working {store : Store} (working : store.Working) (key : StoreKey)
    (context : wizard.Context) :
    Handle.openBy store key context .start = (.ok (.fresh key context), store.without key) := by
  simp only [Handle.openBy, Handle.enter, Store.delete, working .delete]
  rfl

/-- The pages that are shown one after the other, from the one on which the session starts, when
    each is answered in turn. -/
inductive Guided (respond : wizard.Step → Object) (start : Session wizard) :
    List wizard.Step → Session wizard → Prop where
  | opened : Guided respond start [start.handle.step] start
  | turned {pages : List wizard.Step} {session between after : Session wizard}
      {following : wizard.Step} (earlier : Guided respond start pages session)
      (submitted : session.advance (respond session.handle.step) =
        (.ok (.next (.step following)), between))
      (shows : between.visit following = (.ok (.show following), after)) :
      Guided respond start (pages ++ [following]) after

/-- Of what a page permits, a reply holds only what is wanted, and in any case what the page is there
    for, the last that it permits. -/
structure Definition.Replies (wizard : Definition) (wanted : Object)
    (respond : wizard.Step → Object) : Prop where
  truthful : ∀ step, ∀ param ∈ respond step, (wizard.permitted step).contains param.1 = true →
    param ∈ wanted
  answered : ∀ step, ∀ param ∈ wanted, (wizard.permitted step).getLast? = some param.1 →
    param ∈ respond step

def Definition.Completes (wizard : Definition) (respond : wizard.Step → Object) (store : Store)
    (key : StoreKey) (context : wizard.Context) (pages : List wizard.Step)
    (output : wizard.Output) : Prop :=
  ∃ start final : Session wizard,
    Handle.openBy store key context .start = (.ok start.handle, start.store) ∧
    Guided respond start pages final ∧ final.save.1 = .ok (.created output)

structure Session.Stands (session : Session wizard) (context : wizard.Context)
    (step : wizard.Step) (answers : wizard.Answers) : Prop where
  working : session.store.Working
  handle : ∃ key, session.handle = ⟨key, context, step, answers⟩
  walked : Walked wizard answers context step

def Definition.Brings (wizard : Definition) (respond : wizard.Step → Object)
    (context : wizard.Context) (step : wizard.Step) (answers : wizard.Answers)
    (shown : List wizard.Step) (last : wizard.Step) (now : wizard.Answers) : Prop :=
  ∀ ⦃start session : Session wizard⦄ ⦃pages : List wizard.Step⦄,
    Guided respond start pages session → session.Stands context step answers →
    ∃ after, Guided respond start (pages ++ shown) after ∧ after.Stands context last now

variable {respond : wizard.Step → Object} {context : wizard.Context}
variable {step between following last : wizard.Step} {shown later : List wizard.Step}
variable {answers middle now : wizard.Answers}

namespace Definition.Replies

variable {wanted : Object}

theorem takes (replies : wizard.Replies wanted respond) (param : String × Value)
    (asked : param ∈ wanted) (own : (wizard.permitted step).getLast? = some param.1)
    (assigns : wizard.Assigns step answers param now)
    (others : ∀ other ∈ wanted, (wizard.permitted step).contains other.1 = true →
      (other = param ∨ wizard.Assigns step answers other answers) ∧
        wizard.Assigns step now other now) :
    wizard.Takes step answers (respond step) now := by
  have permits : (wizard.permitted step).contains param.1 = true := by
    simpa using List.mem_of_getLast? own
  exact .of_mem (replies.answered step param asked own) permits assigns
    fun other among allowed => others other (replies.truthful step other among allowed) allowed

theorem takes_alone (replies : wizard.Replies wanted respond)
    (distinct : (wanted.map Prod.fst).Nodup) (param : String × Value) (asked : param ∈ wanted)
    (alone : wizard.permitted step = [param.1]) (assigns : wizard.Assigns step answers param now)
    (again : wizard.Assigns step now param now) :
    wizard.Takes step answers (respond step) now := by
  refine replies.takes param asked (by simp [alone]) assigns fun other among allowed => ?_
  have named : other.1 = param.1 := by simpa [alone] using allowed
  obtain rfl : other = param := List.inj_on_of_nodup_map distinct among asked named
  exact ⟨.inl rfl, again⟩

end Definition.Replies

namespace Definition.Brings

theorem refl : wizard.Brings respond context step answers [] step answers := by
  intro start session pages guided stands
  exact ⟨session, by simpa using guided, stands⟩

theorem trans (first : wizard.Brings respond context step answers shown between middle)
    (second : wizard.Brings respond context between middle later last now) :
    wizard.Brings respond context step answers (shown ++ later) last now := by
  intro start session pages guided stands
  obtain ⟨halfway, guided, stands⟩ := first guided stands
  obtain ⟨after, guided, stands⟩ := second guided stands
  exact ⟨after, by simpa using guided, stands⟩

/-- What a page takes over is stored, and the page to which it leads is shown, where the page stays
    open and has nothing against it. -/
theorem of_takes {rank : wizard.Step → Nat} (regular : wizard.Regular)
    (takes : wizard.Takes step answers (respond step) now) (passes : wizard.Passes step now context)
    (leads : wizard.next step now context = .ok (.step following))
    (stays : ∀ key, Handle.submission ⟨key, context, step, answers⟩ (respond step) =
        .ok (.accepted now (.step following)) →
      Walked wizard answers context step → Walked wizard now context step)
    (climbs : wizard.Climbs rank now context) :
    wizard.Brings respond context step answers [following] following now := by
  intro start session pages guided stands
  obtain ⟨store, handle⟩ := session
  obtain ⟨working, ⟨key, rfl⟩, walked⟩ := stands
  let handle : Handle wizard := ⟨key, context, step, answers⟩
  have accepted : handle.submission (respond step) = .ok (.accepted now (.step following)) :=
    submission_of_takes regular takes passes leads
  have moves := moves_of_submission (regular.forward _ _ _) accepted
  have reached : Walked wizard now context following := (stays key accepted walked).moves moves
  let stored := Session.persisted ⟨store, handle⟩ now
  have shows : (stored.visit following).1 = .ok (.show following) :=
    Walked.visit_show reached climbs
  have visited : stored.visit following = (.ok (.show following), stored.moved following) :=
    Prod.ext shows (stored.visit_of_show shows).2
  have submitted := Session.advance_of_accepted ⟨store, handle⟩ accepted (working .write)
  exact ⟨_, guided.turned submitted visited, working, ⟨key, rfl⟩, reached⟩

theorem completes {output : wizard.Output} {store : Store} (working : store.Working)
    (key : StoreKey)
    (brings : wizard.Brings respond context (wizard.first context) wizard.blank shown last now)
    (complete : wizard.completed last now context = .ok true)
    (clean : wizard.validate last now context = .ok .empty)
    (made : wizard.materialize now context = .ok output) :
    wizard.Completes respond store key context (wizard.first context :: shown) output := by
  let start : Session wizard := ⟨store.without key, .fresh key context⟩
  have begun : start.Stands context (wizard.first context) wizard.blank :=
    ⟨working, ⟨key, rfl⟩, .first⟩
  obtain ⟨final, guided, stands⟩ := brings (.opened : Guided respond start _ start) begun
  refine ⟨start, final, enter_of_working working key context, guided, ?_⟩
  obtain ⟨working, ⟨key, held⟩, -⟩ := stands
  have saved : final.save.1 =
      (wizard.materialize final.handle.answers final.handle.context).map .created :=
    final.save_of_complete (by rwa [held]) (by rwa [held]) (working .delete)
  rw [saved, held, made]
  rfl

end Definition.Brings

end Admissions.Wizard
