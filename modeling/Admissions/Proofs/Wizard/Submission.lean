import Admissions.Proofs.Wizard.Path

namespace Admissions.Wizard

open Json (Value Object)

variable {wizard : Definition} {handle : Handle wizard}

theorem submission_accepted {params : Object} {answers : wizard.Answers}
    {target : Target wizard.Step}
    (submitted : handle.submission params = .ok (.accepted answers target)) :
    ∃ given, wizard.toJson handle.answers = .object given ∧
      wizard.ofJson? (.object (handle.assignAll given .empty params).1) = some answers ∧
      wizard.Passes handle.step answers handle.context ∧
      ∃ following, wizard.nextAfterSubmit handle.step answers handle.context = .ok following ∧
        wizard.resolve following = .ok target := by
  unfold Handle.submission at submitted
  split at submitted
  · contradiction
  cases written : wizard.toJson handle.answers with
  | object given =>
    simp only [written] at submitted
    split at submitted
    · simp at submitted
    · cases reads : wizard.ofJson? (.object (handle.assignAll given .empty params).1) with
      | none => simp [reads] at submitted
      | some read =>
        simp only [reads] at submitted
        obtain ⟨errors, validated, submitted⟩ := exists_of_bind_eq_ok submitted
        split at submitted
        · simp [pure, Except.pure] at submitted
        · rename_i valid
          obtain ⟨following, leads, submitted⟩ := exists_of_bind_eq_ok submitted
          obtain ⟨target, resolves, submitted⟩ := exists_of_bind_eq_ok submitted
          split at submitted
          · obtain ⟨rfl, rfl⟩ := Handle.Submission.accepted.inj (Except.ok.inj submitted)
            have passes : wizard.Passes handle.step read handle.context :=
              ⟨errors, validated, by simpa using valid⟩
            exact ⟨given, rfl, reads, passes, following, leads, resolves⟩
          · contradiction
  | null | bool b | number n | string s | array items => simp [written] at submitted

/-- Whatever object the answers are read from, the parameter makes these of them. -/
def Definition.Assigns (wizard : Definition) (step : wizard.Step) (answers : wizard.Answers)
    (param : String × Value) (now : wizard.Answers) : Prop :=
  ∀ ⦃members : Object⦄, wizard.ofJson? (.object members) = some answers →
    wizard.ofJson? (.object (wizard.assign step members param.1 param.2)) = some now

inductive Definition.Takes (wizard : Definition) (step : wizard.Step) :
    wizard.Answers → Object → wizard.Answers → Prop where
  | nil {answers : wizard.Answers} : Takes wizard step answers [] answers
  | permitted {answers between now : wizard.Answers} {param : String × Value} {params : Object}
      (permits : (wizard.permitted step).contains param.1 = true)
      (assigns : wizard.Assigns step answers param between)
      (rest : Takes wizard step between params now) :
      Takes wizard step answers (param :: params) now
  | foreign {answers now : wizard.Answers} {param : String × Value} {params : Object}
      (refuses : (wizard.permitted step).contains param.1 = false)
      (rest : Takes wizard step answers params now) :
      Takes wizard step answers (param :: params) now

namespace Definition.Takes

variable {step : wizard.Step} {before now : wizard.Answers} {params : Object}

theorem same (kept : ∀ param ∈ params, (wizard.permitted step).contains param.1 = true →
      wizard.Assigns step now param now) :
    wizard.Takes step now params now := by
  induction params with
  | nil => exact .nil
  | cons param params ih =>
    have rest := ih fun other member => kept other (List.mem_cons_of_mem _ member)
    cases permits : (wizard.permitted step).contains param.1 with
    | false => exact .foreign permits rest
    | true => exact .permitted permits (kept param List.mem_cons_self permits) rest

theorem of_mem {param : String × Value} (member : param ∈ params)
    (permits : (wizard.permitted step).contains param.1 = true)
    (assigns : wizard.Assigns step before param now)
    (others : ∀ other ∈ params, (wizard.permitted step).contains other.1 = true →
      (other = param ∨ wizard.Assigns step before other before) ∧
        wizard.Assigns step now other now) :
    wizard.Takes step before params now := by
  induction params with
  | nil => contradiction
  | cons head params ih =>
    have later := fun other found => others other (List.mem_cons_of_mem _ found)
    by_cases own : head = param
    · subst own
      exact .permitted permits assigns (same fun other found permits => (later other found permits).2)
    · have rest := ih ((List.mem_cons.mp member).resolve_left (Ne.symm own)) later
      cases allowed : (wizard.permitted step).contains head.1 with
      | false => exact .foreign allowed rest
      | true =>
        obtain ⟨unchanged, -⟩ := others head List.mem_cons_self allowed
        exact .permitted allowed (unchanged.resolve_left own) rest

end Definition.Takes

theorem assignAll_of_takes {answers now : wizard.Answers} {params given : Object}
    (takes : wizard.Takes handle.step answers params now)
    (reads : wizard.ofJson? (.object given) = some answers) (errors : ValidationErrors) :
    ∃ members, handle.assignAll given errors params = (members, errors) ∧
      wizard.ofJson? (.object members) = some now := by
  induction takes generalizing given with
  | nil => exact ⟨given, rfl, reads⟩
  | permitted permits assigns rest ih =>
    have later := assigns reads
    obtain ⟨members, assigned, reads⟩ := ih later
    refine ⟨members, ?_, reads⟩
    rw [Handle.assignAll, if_pos permits]
    simp only [later, Option.isSome_some, ↓reduceIte]
    exact assigned
  | foreign refuses rest ih =>
    obtain ⟨members, assigned, reads⟩ := ih reads
    refine ⟨members, ?_, reads⟩
    rw [Handle.assignAll, if_neg (Bool.eq_false_iff.mp refuses)]
    exact assigned

/-- Whatever its pages and its answers are, they can be stored and read back, and a page leads on
    alike whether or not it was just submitted. -/
structure Definition.Regular (wizard : Definition) : Prop where
  reads : ∀ answers, ∃ given, wizard.toJson answers = .object given ∧
    wizard.ofJson? (.object given) = some answers
  declared : ∀ step, wizard.declared.contains (wizard.stepName step) = true
  stepWritable : ∀ step, wizard.stepWritable step = true
  writable : ∀ answers, wizard.writable answers = true
  forward : ∀ step answers context,
    wizard.nextAfterSubmit step answers context = wizard.next step answers context

theorem submission_of_takes (regular : wizard.Regular) {params : Object} {now : wizard.Answers}
    {following : wizard.Step} (takes : wizard.Takes handle.step handle.answers params now)
    (passes : wizard.Passes handle.step now handle.context)
    (leads : wizard.next handle.step now handle.context = .ok (.step following)) :
    handle.submission params = .ok (.accepted now (.step following)) := by
  obtain ⟨given, written, reads⟩ := regular.reads handle.answers
  obtain ⟨members, assigned, reads⟩ := assignAll_of_takes takes reads .empty
  obtain ⟨errors, validated, valid⟩ := passes
  have leads := (regular.forward _ _ _).trans leads
  have none : ValidationErrors.empty.isEmpty = true := rfl
  have resolves := Definition.resolve_step_of_declared (regular.declared following)
  simp only [Handle.submission, regular.writable, regular.stepWritable, written, assigned, none,
    reads, validated, valid, leads, resolves, bind, Except.bind, Bool.not_true, Bool.and_self,
    Bool.false_eq_true, ↓reduceIte]
  rfl

end Admissions.Wizard
