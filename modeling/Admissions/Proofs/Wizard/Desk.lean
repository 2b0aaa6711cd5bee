import Admissions.Proofs.Wizard.Event

namespace Admissions.Wizard

variable {wizard : Definition}

structure Desk (wizard : Definition) where
  store : Store
  handles : List (Handle wizard)

inductive Move (wizard : Definition) where
  | openAnother (key : StoreKey) (context : wizard.Context) (entry : Entry)
  | act (place : Nat) (event : Event wizard)

def Move.Admits (admitted : wizard.Context → Prop) : Move wizard → Prop
  | .openAnother _ context _ => admitted context
  | .act _ event => event.Admits admitted

namespace Desk

def empty : Desk wizard := ⟨.empty, []⟩

def after (desk : Desk wizard) : Move wizard → Desk wizard
  | .openAnother key context entry =>
    match Handle.openBy desk.store key context entry with
    | (.ok handle, store) => ⟨store, desk.handles ++ [handle]⟩
    | (.error _, store) => { desk with store }
  | .act place event =>
    match desk.handles[place]? with
    | none => desk
    | some handle =>
      let session := Session.after ⟨desk.store, handle⟩ event
      ⟨session.store, desk.handles.set place session.handle⟩

def run (moves : List (Move wizard)) : Desk wizard := moves.foldl after empty

end Desk

variable {admitted : wizard.Context → Prop} {sound : wizard.Step → wizard.Answers → Prop}

/-- Opening, visiting and advancing keep a property of pages with answers. -/
structure Kept (wizard : Definition) (admitted : wizard.Context → Prop)
    (sound : wizard.Step → wizard.Answers → Prop) : Prop where
  fresh : ∀ context, admitted context → sound (wizard.first context) wizard.blank
  visited : ∀ step answers context requested, admitted context → sound step answers →
    Walked wizard answers context requested → sound requested answers
  advanced : ∀ (handle : Handle wizard) params answers target, admitted handle.context →
    sound handle.step handle.answers →
    handle.submission params = .ok (.accepted answers target) → sound handle.step answers

theorem Kept.restrict {narrower : wizard.Context → Prop} (kept : Kept wizard admitted sound)
    (fits : ∀ context, narrower context → admitted context) : Kept wizard narrower sound where
  fresh context present := kept.fresh context (fits context present)
  visited step answers context requested present :=
    kept.visited step answers context requested (fits context present)
  advanced handle params answers target present :=
    kept.advanced handle params answers target (fits _ present)

theorem Kept.and {other : wizard.Step → wizard.Answers → Prop}
    (first : Kept wizard admitted sound) (second : Kept wizard admitted other) :
    Kept wizard admitted fun step answers => sound step answers ∧ other step answers where
  fresh context fits := ⟨first.fresh context fits, second.fresh context fits⟩
  visited step answers context requested fits both walked :=
    ⟨first.visited step answers context requested fits both.1 walked,
      second.visited step answers context requested fits both.2 walked⟩
  advanced handle params answers target fits both submitted :=
    ⟨first.advanced handle params answers target fits both.1 submitted,
      second.advanced handle params answers target fits both.2 submitted⟩

def Stored (sound : wizard.Step → wizard.Answers → Prop) (store : Store) : Prop :=
  ∀ key step answers, wizard.recalled store key = some (step, answers) → sound step answers

structure Held (admitted : wizard.Context → Prop) (sound : wizard.Step → wizard.Answers → Prop)
    (handle : Handle wizard) : Prop where
  fits : admitted handle.context
  sound : sound handle.step handle.answers

theorem Stored.putRaw {store : Store} {key : StoreKey} {step : wizard.Step}
    {answers : wizard.Answers} (stored : Stored sound store) (faithful : wizard.Faithful)
    (fine : sound step answers) :
    Stored sound (store.putRaw key (Json.Value.object (wizard.envelope step answers)).text) := by
  intro other page held recalled
  by_cases same : other = key
  · subst same
    rw [recalled_putRaw_self faithful] at recalled
    cases recalled
    exact fine
  · rw [recalled_putRaw_of_ne same] at recalled
    exact stored other page held recalled

theorem Stored.without {store : Store} (stored : Stored sound store) (key : StoreKey) :
    Stored sound (store.without key) := by
  intro other page held recalled
  by_cases same : other = key
  · subst same
    rw [recalled_without_self] at recalled
    contradiction
  · rw [recalled_without_of_ne same] at recalled
    exact stored other page held recalled

theorem held_fresh (kept : Kept wizard admitted sound) {key : StoreKey} {context : wizard.Context}
    (fits : admitted context) : Held admitted sound (.fresh key context) :=
  ⟨fits, kept.fresh context fits⟩

theorem held_resume (kept : Kept wizard admitted sound) {store : Store} {key : StoreKey}
    {context : wizard.Context} (fits : admitted context) (stored : Stored sound store) :
    Held admitted sound (wizard.resume store key context) := by
  refine ⟨fits, ?_⟩
  unfold Definition.resume Definition.resumed
  cases recalled : wizard.recalled store key with
  | none => exact kept.fresh context fits
  | some pair => exact stored key pair.1 pair.2 recalled

theorem Effect.keeps {page : Option wizard.Step} {before now : Session wizard}
    (effect : Effect admitted before page now) (kept : Kept wizard admitted sound)
    (faithful : wizard.Faithful) (held : Held admitted sound before.handle)
    (stored : Stored sound before.store) :
    Held admitted sound now.handle ∧ Stored sound now.store := by
  cases effect with
  | unchanged => exact ⟨held, stored⟩
  | moved step walked =>
    exact ⟨⟨held.fits, kept.visited _ _ _ _ held.fits held.sound walked⟩, stored⟩
  | persisted params answers target accepted =>
    have fine := kept.advanced _ _ _ _ held.fits held.sound accepted
    exact ⟨⟨held.fits, fine⟩, stored.putRaw faithful fine⟩
  | cleared context fits => exact ⟨held_fresh kept fits, stored.without _⟩
  | resumed context fits => exact ⟨held_resume kept fits stored, stored⟩
  | revised context fits => exact ⟨⟨fits, held.sound⟩, stored⟩
  | failing refusing poisoned => exact ⟨held, stored⟩

structure Desk.Holds (admitted : wizard.Context → Prop)
    (sound : wizard.Step → wizard.Answers → Prop) (desk : Desk wizard) : Prop where
  held : ∀ handle ∈ desk.handles, Held admitted sound handle
  stored : Stored sound desk.store

namespace Desk.Holds

variable {desk : Desk wizard}

theorem empty : (Desk.empty : Desk wizard).Holds admitted sound where
  held := by simp [Desk.empty]
  stored := by
    intro key step answers recalled
    simp [Definition.recalled, Store.raw, Desk.empty, Store.empty] at recalled

theorem joined (holds : desk.Holds admitted sound) {handle : Handle wizard}
    (joins : Held admitted sound handle) :
    ∀ other ∈ desk.handles ++ [handle], Held admitted sound other := by
  intro other member
  rcases List.mem_append.mp member with member | member
  · exact holds.held other member
  · obtain rfl := List.mem_singleton.mp member
    exact joins

theorem after (holds : desk.Holds admitted sound) (kept : Kept wizard admitted sound)
    (faithful : wizard.Faithful) {move : Move wizard} (fits : move.Admits admitted) :
    (desk.after move).Holds admitted sound := by
  cases move with
  | openAnother key context entry =>
    unfold Desk.after
    rcases Session.openBy_cases ⟨desk.store, .fresh key context⟩ context entry with
      opened | opened | ⟨failure, opened⟩
    · simp only [Handle.fresh] at opened
      simp only [opened]
      exact ⟨holds.joined (held_fresh kept fits), holds.stored.without key⟩
    · simp only [Handle.fresh] at opened
      simp only [opened]
      exact ⟨holds.joined (held_resume kept fits holds.stored), holds.stored⟩
    · simp only [Handle.fresh] at opened
      simp only [opened]
      exact ⟨holds.held, holds.stored⟩
  | act place event =>
    unfold Desk.after
    dsimp only
    cases found : desk.handles[place]? with
    | none => exact holds
    | some handle =>
      let session : Session wizard := ⟨desk.store, handle⟩
      have own : Held admitted sound session.handle :=
        holds.held handle (List.mem_of_getElem? found)
      have effect : Effect admitted session (session.marks event) (session.after event) :=
        effect_after own.fits fits
      obtain ⟨mine, stored⟩ := effect.keeps kept faithful own holds.stored
      refine ⟨fun other member => ?_, stored⟩
      rcases List.mem_or_eq_of_mem_set member with member | rfl
      · exact holds.held other member
      · exact mine

theorem moves (holds : desk.Holds admitted sound) (kept : Kept wizard admitted sound)
    (faithful : wizard.Faithful) {moves : List (Move wizard)}
    (fits : ∀ move ∈ moves, move.Admits admitted) :
    (moves.foldl Desk.after desk).Holds admitted sound := by
  induction moves generalizing desk with
  | nil => exact holds
  | cons move moves ih =>
    have next := holds.after kept faithful (fits move (by simp))
    exact ih next fun other later => fits other (List.mem_cons_of_mem _ later)

end Desk.Holds

/-- What openings, visits and advances keep holds of every handle, after any moves. -/
theorem held_of_run (kept : Kept wizard admitted sound) (faithful : wizard.Faithful)
    {moves : List (Move wizard)} (fits : ∀ move ∈ moves, move.Admits admitted)
    {handle : Handle wizard} (member : handle ∈ (Desk.run moves).handles) :
    Held admitted sound handle :=
  (Desk.Holds.empty.moves kept faithful fits).held handle member

end Admissions.Wizard
