import Admissions.Proofs.Wizard.Event

namespace Admissions.Wizard

open Json (Value Object)

variable {wizard : Definition}

/-- Only the answers of the handle and the entry under its key are new: the entry holds the answers
    with the page. -/
structure Session.Stores (before now : Session wizard) : Prop where
  step : now.handle.step = before.handle.step
  key : now.handle.key = before.handle.key
  context : now.handle.context = before.handle.context
  entry : now.store.raw before.handle.key =
    some (Value.object (wizard.envelope before.handle.step now.handle.answers)).text
  others : ∀ other, other ≠ before.handle.key → now.store.raw other = before.store.raw other
  refusing : now.store.refusing = before.store.refusing
  poisoned : now.store.poisoned = before.store.poisoned

structure Store.Drops (key : StoreKey) (before now : Store) : Prop where
  entry : now.raw key = none
  others : ∀ other, other ≠ key → now.raw other = before.raw other
  refusing : now.refusing = before.refusing
  poisoned : now.poisoned = before.poisoned

theorem Session.stores_persisted (session : Session wizard) (answers : wizard.Answers) :
    session.Stores (session.persisted answers) where
  step := rfl
  key := rfl
  context := rfl
  entry := SortedMap.get?_insert_self _ _ _
  others _ different := raw_putRaw_of_ne different _
  refusing := rfl
  poisoned := rfl

theorem Store.drops_without (store : Store) (key : StoreKey) :
    store.Drops key (store.without key) where
  entry := SortedMap.get?_erase_self _ _
  others _ different := raw_without_of_ne different
  refusing := rfl
  poisoned := rfl

namespace Session

variable (session : Session wizard)

theorem advance_frame (params : Object) :
    match session.advance params with
    | (.ok (.next _), now) => session.Stores now
    | (_, now) => now = session := by
  rcases session.advance_cases params with
    ⟨answers, target, -, -, advanced⟩ | ⟨outcome, advanced, refused⟩
  · rw [advanced]
    exact session.stores_persisted answers
  · rw [advanced]
    cases outcome with
    | error failure => rfl
    | ok advance =>
      cases advance with
      | next target => exact absurd rfl (refused target)
      | invalid errors => rfl

theorem visit_frame (requested : wizard.Step) :
    match session.visit requested with
    | (.ok (.show shown), now) => shown = requested ∧ now = session.moved requested
    | (_, now) => now = session := by
  rcases session.visit_cases requested with ⟨-, visited⟩ | ⟨outcome, visited, hidden⟩
  · rw [visited]
    exact ⟨rfl, rfl⟩
  · rw [visited]
    cases outcome with
    | error failure => rfl
    | ok visit =>
      cases visit with
      | «show» step => exact absurd rfl (hidden step)
      | redirect step => rfl

theorem clear_frame :
    match session.clear with
    | (.ok (), now) => session.store.Drops session.handle.key now.store ∧
        now.handle = .fresh session.handle.key session.handle.context
    | (.error _, now) => now = session := by
  rcases session.clear_cases with ⟨-, cleared⟩ | ⟨error, -, cleared⟩
  · rw [cleared]
    exact ⟨session.store.drops_without session.handle.key, rfl⟩
  · rw [cleared]

theorem save_frame :
    match session.save with
    | (.ok (.created _), now) => session.store.Drops session.handle.key now.store ∧
        now.handle = .fresh session.handle.key session.handle.context
    | (_, now) => now = session := by
  rcases session.save_cases with ⟨output, -, -, saved⟩ | ⟨outcome, saved, refused⟩
  · rw [saved]
    exact ⟨session.store.drops_without session.handle.key, rfl⟩
  · rw [saved]
    cases outcome with
    | error failure => rfl
    | ok made =>
      cases made with
      | created output => exact absurd rfl (refused output)
      | skipped => rfl

end Session

theorem enter_frame (store : Store) (key : StoreKey) (context : wizard.Context) :
    match Handle.enter store key context with
    | (.ok handle, now) => store.Drops key now ∧ handle = .fresh key context
    | (.error _, now) => now = store := by
  unfold Handle.enter Store.delete
  cases store.fault .delete with
  | some error => rfl
  | none => exact ⟨store.drops_without key, rfl⟩

/-- A request changes what it is for when it succeeds, and else nothing at all, on whichever of its
    exits it leaves and whatever fails. -/
theorem failed_requests_change_nothing (session : Session wizard) :
    (∀ params, match session.advance params with
      | (.ok (.next _), now) => session.Stores now
      | (_, now) => now = session) ∧
    (∀ requested, match session.visit requested with
      | (.ok (.show shown), now) => shown = requested ∧ now = session.moved requested
      | (_, now) => now = session) ∧
    (match session.save with
      | (.ok (.created _), now) => session.store.Drops session.handle.key now.store ∧
          now.handle = .fresh session.handle.key session.handle.context
      | (_, now) => now = session) ∧
    (match session.clear with
      | (.ok (), now) => session.store.Drops session.handle.key now.store ∧
          now.handle = .fresh session.handle.key session.handle.context
      | (.error _, now) => now = session) ∧
    (∀ key (context : wizard.Context), match Handle.enter session.store key context with
      | (.ok handle, now) => session.store.Drops key now ∧ handle = .fresh key context
      | (.error _, now) => now = session.store) :=
  ⟨session.advance_frame, session.visit_frame, session.save_frame, session.clear_frame,
    enter_frame session.store⟩

end Admissions.Wizard
