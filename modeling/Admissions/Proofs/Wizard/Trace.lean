import Admissions.Proofs.Wizard.Event

namespace Admissions.Wizard

variable {wizard : Definition}

structure Tracked (wizard : Definition) where
  session : Session wizard
  marked : wizard.Step

namespace Tracked

def opened (store : Store) (handle : Handle wizard) : Tracked wizard :=
  ⟨⟨store, handle⟩, handle.step⟩

def after (tracked : Tracked wizard) (event : Event wizard) : Tracked wizard :=
  ⟨tracked.session.after event, (tracked.session.marks event).getD tracked.marked⟩

def run (tracked : Tracked wizard) (events : List (Event wizard)) : Tracked wizard :=
  events.foldl after tracked

/-- The handle is on the key, and resuming there would give the marked page and its answers. -/
structure InStep (key : StoreKey) (tracked : Tracked wizard) : Prop where
  onKey : tracked.session.handle.key = key
  resumes : wizard.resumed tracked.session.store key tracked.session.handle.context =
    (tracked.marked, tracked.session.handle.answers)

end Tracked

variable {tracked : Tracked wizard} {key : StoreKey}

theorem resumed_without (store : Store) (key : StoreKey) (context : wizard.Context) :
    wizard.resumed (store.without key) key context = (wizard.first context, wizard.blank) := by
  simp only [Definition.resumed, recalled_without_self, Option.getD_none]

theorem inStep_opened {store after : Store} {context : wizard.Context} {entry : Entry}
    {handle : Handle wizard} (opens : Handle.openBy store key context entry = (.ok handle, after)) :
    (Tracked.opened after handle).InStep key := by
  let closed : Session wizard := ⟨store, .fresh key context⟩
  rcases closed.openBy_cases context entry with opened | opened | ⟨failure, opened⟩
  · obtain ⟨rfl, rfl⟩ : handle = .fresh key context ∧ after = store.without key := by
      simpa [closed, Handle.fresh, opens] using opened
    exact ⟨rfl, resumed_without store key context⟩
  · obtain ⟨rfl, rfl⟩ : handle = wizard.resume store key context ∧ after = store := by
      simpa [closed, Handle.fresh, opens] using opened
    exact ⟨rfl, rfl⟩
  · simp [closed, Handle.fresh, opens] at opened

namespace Tracked.InStep

theorem effect {page : Option wizard.Step} {session : Session wizard}
    (inStep : tracked.InStep key) (faithful : wizard.Faithful)
    (steady : ∀ before now : wizard.Context, wizard.first before = wizard.first now)
    (effect : Effect (fun _ => True) tracked.session page session) :
    InStep key ⟨session, page.getD tracked.marked⟩ := by
  obtain ⟨rfl, resumes⟩ := inStep
  cases effect with
  | unchanged => exact ⟨rfl, resumes⟩
  | moved step walked => exact ⟨rfl, resumes⟩
  | persisted params answers target accepted =>
    have recalled := recalled_putRaw_self faithful tracked.session.store
      tracked.session.handle.key tracked.session.handle.step answers
    refine ⟨rfl, ?_⟩
    simp only [Session.persisted, Definition.resumed, recalled, Option.getD_some]
  | cleared context fits => exact ⟨rfl, resumed_without _ _ context⟩
  | resumed context fits => exact ⟨rfl, rfl⟩
  | revised context fits =>
    -- An untouched handle stands on the first page, which is the same in every context.
    have first := steady context tracked.session.handle.context
    refine ⟨rfl, ?_⟩
    rw [Definition.resumed] at resumes
    simp only [Session.revised, Definition.resumed, first, Option.getD_none, resumes]
  | failing refusing poisoned => exact ⟨rfl, resumes⟩

theorem run (inStep : tracked.InStep key) (faithful : wizard.Faithful)
    (steady : ∀ before now : wizard.Context, wizard.first before = wizard.first now)
    (events : List (Event wizard)) : (tracked.run events).InStep key := by
  induction events generalizing tracked with
  | nil => exact inStep
  | cons event events ih =>
    have fits : event.Admits fun _ => True := by cases event <;> trivial
    exact ih (inStep.effect faithful steady (effect_after trivial fits))

theorem load (inStep : tracked.InStep key) (readable : tracked.session.store.fault .read = none) :
    Handle.load tracked.session.store key tracked.session.handle.context =
      .ok ⟨key, tracked.session.handle.context, tracked.marked,
        tracked.session.handle.answers⟩ := by
  rw [load_eq_resume readable, Definition.resume, inStep.resumes]

end Tracked.InStep

end Admissions.Wizard
