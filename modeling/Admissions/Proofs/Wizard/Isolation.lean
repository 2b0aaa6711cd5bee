import Admissions.Proofs.Wizard.Desk
import Mathlib.Logic.Function.Basic

namespace Admissions.Wizard

open Json (Value Object)

structure Owner where
  wizard : String
  actor : UInt64
  entity : UInt64
deriving DecidableEq

namespace Owner

def key (owner : Owner) : StoreKey := .ofIds owner.wizard owner.actor owner.entity

theorem split_at_last {front otherFront back otherBack : List Char} (plain : '_' ∉ back)
    (otherPlain : '_' ∉ otherBack)
    (same : front ++ '_' :: back = otherFront ++ '_' :: otherBack) :
    front = otherFront ∧ back = otherBack := by
  rcases List.append_eq_append_iff.mp same with ⟨between, split, rest⟩ | ⟨between, split, rest⟩
  · cases between with
    | nil =>
      rw [List.append_nil] at split
      exact ⟨split.symm, (List.cons.inj rest).2⟩
    | cons c between =>
      have inner : back = between ++ '_' :: otherBack := (List.cons.inj rest).2
      exact absurd (by simp [inner]) plain
  · cases between with
    | nil =>
      rw [List.append_nil] at split
      exact ⟨split, (List.cons.inj rest).2.symm⟩
    | cons c between =>
      have inner : otherBack = between ++ '_' :: back := (List.cons.inj rest).2
      exact absurd (by simp [inner]) otherPlain

theorem toList_key (owner : Owner) :
    owner.key.text.toList =
      (owner.wizard.toList ++ "_store".toList ++ '_' :: Nat.toDigits 10 owner.actor.toNat) ++
        '_' :: Nat.toDigits 10 owner.entity.toNat := by
  simp [key, StoreKey.ofIds, StoreKey.make]

/-- A name may itself look like the rest of a key; the ids are what follows the last two
    underscores. -/
theorem key_injective : Function.Injective key := by
  intro left right same
  have texts := congrArg (fun key => key.text.toList) same
  simp only [toList_key] at texts
  obtain ⟨front, entities⟩ := split_at_last Nat.underscore_not_in_toDigits
    Nat.underscore_not_in_toDigits texts
  obtain ⟨names, actors⟩ := split_at_last Nat.underscore_not_in_toDigits
    Nat.underscore_not_in_toDigits front
  have wizards : left.wizard = right.wizard :=
    String.toList_inj.mp (List.append_cancel_right names)
  have ids : ∀ {m n : UInt64}, Nat.toDigits 10 m.toNat = Nat.toDigits 10 n.toNat → m = n := by
    intro m n digits
    have values := congrArg (Nat.ofDigitChars 10 · 0) digits
    simp only [Nat.ofDigitChars_ten_toDigits] at values
    exact UInt64.toNat_inj.mp values
  cases left
  cases right
  cases wizards
  cases ids actors
  cases ids entities
  rfl

section Own

variable {family : Owner → Type} {owner : Owner} {thing : (owner : Owner) × family owner}

def own (owner : Owner) (things : List ((owner : Owner) × family owner)) :
    List ((owner : Owner) × family owner) :=
  things.filter (·.1 = owner)

theorem own_cons_self (same : thing.1 = owner) (things : List ((owner : Owner) × family owner)) :
    owner.own (thing :: things) = thing :: owner.own things :=
  List.filter_cons_of_pos (decide_eq_true same)

theorem own_cons_of_ne (different : thing.1 ≠ owner)
    (things : List ((owner : Owner) × family owner)) :
    owner.own (thing :: things) = owner.own things :=
  List.filter_cons_of_neg (by simpa only [decide_eq_true_eq] using different)

end Own

end Owner

def Agree {α σ τ : Type} (related : σ → τ → Prop) (left : α × σ) (right : α × τ) : Prop :=
  left.1 = right.1 ∧ related left.2 right.2

/-- Nobody who uses only this key can tell the stores apart. -/
structure Store.Alike (key : StoreKey) (left right : Store) : Prop where
  entry : left.raw key = right.raw key
  refusing : left.refusing = right.refusing
  poisoned : left.poisoned = right.poisoned

namespace Store.Alike

variable {left right : Store} {key : StoreKey}

theorem refl (key : StoreKey) (store : Store) : store.Alike key store := ⟨rfl, rfl, rfl⟩

theorem trans {middle : Store} (first : left.Alike key middle) (second : middle.Alike key right) :
    left.Alike key right :=
  ⟨first.entry.trans second.entry, first.refusing.trans second.refusing,
    first.poisoned.trans second.poisoned⟩

theorem symm (alike : left.Alike key right) : right.Alike key left :=
  ⟨alike.entry.symm, alike.refusing.symm, alike.poisoned.symm⟩

theorem fault (alike : left.Alike key right) (call : StoreCall) :
    left.fault call = right.fault call := by
  rw [Store.fault, Store.fault, alike.refusing, alike.poisoned]

theorem read (alike : left.Alike key right) : left.read key = right.read key := by
  rw [Store.read, Store.read, alike.fault, alike.entry]

theorem write (alike : left.Alike key right) (state : Object) :
    Agree (Store.Alike key) (left.write key state) (right.write key state) := by
  unfold Store.write
  rw [alike.fault]
  cases right.fault .write with
  | some error => exact ⟨rfl, alike⟩
  | none =>
    refine ⟨rfl, ?_, alike.refusing, alike.poisoned⟩
    rw [raw_putRaw_self, raw_putRaw_self]

theorem delete (alike : left.Alike key right) :
    Agree (Store.Alike key) (left.delete key) (right.delete key) := by
  unfold Store.delete
  rw [alike.fault]
  cases right.fault .delete with
  | some error => exact ⟨rfl, alike⟩
  | none =>
    refine ⟨rfl, ?_, alike.refusing, alike.poisoned⟩
    exact (raw_without_self left key).trans (raw_without_self right key).symm

end Store.Alike

variable {wizard : Definition}

inductive Operation (wizard : Definition) where
  | visit (requested : wizard.Step)
  | advance (params : Object)
  | errors
  | next
  | previous
  | isComplete
  | save
  | clear

inductive Reply (wizard : Definition) where
  | opened (outcome : wizard.Result (Handle wizard))
  | visited (outcome : wizard.Result (Visit wizard.Step))
  | advanced (outcome : wizard.Result (Advance wizard.Step))
  | errors (outcome : wizard.Result ValidationErrors)
  | leads (outcome : wizard.Result (Target wizard.Step))
  | complete (outcome : wizard.Result Bool)
  | saved (outcome : wizard.Result (Saved wizard.Output))
  | cleared (outcome : wizard.Result Unit)
  | noHandle

inductive Call (wizard : Definition) where
  | openAnother (context : wizard.Context) (entry : Entry)
  | act (place : Nat) (operation : Operation wizard)

namespace Session

def perform (session : Session wizard) : Operation wizard → Reply wizard × Session wizard
  | .visit requested =>
    let (outcome, session) := session.visit requested
    (.visited outcome, session)
  | .advance params =>
    let (outcome, session) := session.advance params
    (.advanced outcome, session)
  | .errors => (.errors session.handle.errors, session)
  | .next => (.leads session.handle.next, session)
  | .previous => (.leads session.handle.previous, session)
  | .isComplete => (.complete session.handle.isComplete, session)
  | .save =>
    let (outcome, session) := session.save
    (.saved outcome, session)
  | .clear =>
    let (outcome, session) := session.clear
    (.cleared outcome, session)

structure Alike (left right : Session wizard) : Prop where
  handle : left.handle = right.handle
  store : left.store.Alike left.handle.key right.store

variable {left right : Session wizard}

theorem Alike.visit (alike : left.Alike right) (requested : wizard.Step) :
    Agree Alike (left.visit requested) (right.visit requested) := by
  obtain ⟨store, handle⟩ := left
  obtain ⟨otherStore, _⟩ := right
  obtain ⟨rfl, stores⟩ := alike
  have onKey : (handle.visit requested).2.key = handle.key := by
    unfold Handle.visit
    split <;> rfl
  refine ⟨rfl, rfl, ?_⟩
  change store.Alike (handle.visit requested).2.key otherStore
  rw [onKey]
  exact stores

theorem Alike.advance (alike : left.Alike right) (params : Object) :
    Agree Alike (left.advance params) (right.advance params) := by
  obtain ⟨store, handle⟩ := left
  obtain ⟨otherStore, _⟩ := right
  obtain ⟨rfl, stores⟩ := alike
  unfold Session.advance
  dsimp only
  cases handle.submission params with
  | error failure => exact ⟨rfl, rfl, stores⟩
  | ok submission =>
    cases submission with
    | invalid errors => exact ⟨rfl, rfl, stores⟩
    | accepted answers target =>
      obtain ⟨outcome, after⟩ := stores.write (wizard.envelope handle.step answers)
      dsimp only at outcome after ⊢
      generalize store.write handle.key (wizard.envelope handle.step answers) = written at *
      generalize otherStore.write handle.key (wizard.envelope handle.step answers) = also at *
      obtain ⟨written, store⟩ := written
      obtain ⟨_, otherStore⟩ := also
      cases outcome
      cases written with
      | error error => exact ⟨rfl, rfl, after⟩
      | ok done => exact ⟨rfl, rfl, after⟩

theorem Alike.clear (alike : left.Alike right) : Agree Alike left.clear right.clear := by
  obtain ⟨store, handle⟩ := left
  obtain ⟨otherStore, _⟩ := right
  obtain ⟨rfl, stores⟩ := alike
  obtain ⟨outcome, after⟩ := stores.delete
  unfold Session.clear
  dsimp only at outcome after ⊢
  generalize store.delete handle.key = deleted at *
  generalize otherStore.delete handle.key = also at *
  obtain ⟨deleted, store⟩ := deleted
  obtain ⟨_, otherStore⟩ := also
  cases outcome
  cases deleted with
  | error error => exact ⟨rfl, rfl, after⟩
  | ok done => exact ⟨rfl, rfl, after⟩

theorem Alike.save (alike : left.Alike right) : Agree Alike left.save right.save := by
  obtain ⟨outcome, after⟩ := alike.clear
  unfold Session.save
  rw [← alike.handle]
  cases finished left.handle with
  | error failure => exact ⟨rfl, alike⟩
  | ok made =>
    cases made with
    | none => exact ⟨rfl, alike⟩
    | some output =>
      dsimp only
      generalize left.clear = cleared at *
      generalize right.clear = also at *
      obtain ⟨cleared, session⟩ := cleared
      obtain ⟨_, otherSession⟩ := also
      cases outcome
      cases cleared with
      | error failure => exact ⟨rfl, after⟩
      | ok done => exact ⟨rfl, after⟩

theorem Alike.perform (alike : left.Alike right) (operation : Operation wizard) :
    Agree Alike (left.perform operation) (right.perform operation) := by
  cases operation with
  | visit requested =>
    obtain ⟨outcome, after⟩ := alike.visit requested
    exact ⟨congrArg Reply.visited outcome, after⟩
  | advance params =>
    obtain ⟨outcome, after⟩ := alike.advance params
    exact ⟨congrArg Reply.advanced outcome, after⟩
  | errors | next | previous | isComplete =>
    refine ⟨?_, alike⟩
    simp only [Session.perform, alike.handle]
  | save =>
    obtain ⟨outcome, after⟩ := alike.save
    exact ⟨congrArg Reply.saved outcome, after⟩
  | clear =>
    obtain ⟨outcome, after⟩ := alike.clear
    exact ⟨congrArg Reply.cleared outcome, after⟩

structure Confined (before now : Session wizard) : Prop where
  key : now.handle.key = before.handle.key
  others : ∀ other, other ≠ before.handle.key → before.store.Alike other now.store

theorem confined_refl (session : Session wizard) : session.Confined session :=
  ⟨rfl, fun other _ => .refl other session.store⟩

theorem confined_cleared (session : Session wizard) (context : wizard.Context) :
    session.Confined (session.cleared context) :=
  ⟨rfl, fun _ different => ⟨(raw_without_of_ne different).symm, rfl, rfl⟩⟩

theorem perform_confined (session : Session wizard) (operation : Operation wizard) :
    session.Confined (session.perform operation).2 := by
  unfold perform
  cases operation with
  | visit requested =>
    rcases session.visit_cases requested with ⟨-, visited⟩ | ⟨outcome, visited, -⟩
    · simp only [visited]
      exact ⟨rfl, fun other _ => .refl other session.store⟩
    · simp only [visited]
      exact session.confined_refl
  | advance params =>
    rcases session.advance_cases params with
      ⟨answers, target, -, -, advanced⟩ | ⟨outcome, advanced, -⟩
    · simp only [advanced]
      exact ⟨rfl, fun _ different => ⟨(raw_putRaw_of_ne different _).symm, rfl, rfl⟩⟩
    · simp only [advanced]
      exact session.confined_refl
  | errors | next | previous | isComplete => exact session.confined_refl
  | save =>
    rcases session.save_cases with ⟨output, -, -, saved⟩ | ⟨outcome, saved, -⟩
    · simp only [saved]
      exact session.confined_cleared _
    · simp only [saved]
      exact session.confined_refl
  | clear =>
    rcases session.clear_cases with ⟨-, cleared⟩ | ⟨error, -, cleared⟩
    · simp only [cleared]
      exact session.confined_cleared _
    · simp only [cleared]
      exact session.confined_refl

end Session

theorem openBy_alike {left right : Store} {key : StoreKey} (alike : left.Alike key right)
    (context : wizard.Context) (entry : Entry) :
    Agree (Store.Alike key) (Handle.openBy left key context entry : wizard.Result _ × Store)
      (Handle.openBy right key context entry) := by
  cases entry with
  | start =>
    obtain ⟨outcome, after⟩ := alike.delete
    unfold Handle.openBy Handle.enter
    dsimp only
    generalize left.delete key = deleted at *
    generalize right.delete key = also at *
    obtain ⟨deleted, store⟩ := deleted
    obtain ⟨_, otherStore⟩ := also
    cases outcome
    cases deleted with
    | error error => exact ⟨rfl, after⟩
    | ok done => exact ⟨rfl, after⟩
  | resume =>
    refine ⟨?_, alike⟩
    unfold Handle.openBy Handle.load
    rw [alike.read]

theorem key_of_openBy {store : Store} {key : StoreKey} {context : wizard.Context} {entry : Entry}
    {handle : Handle wizard} (opens : (Handle.openBy store key context entry).1 = .ok handle) :
    handle.key = key := by
  let closed : Session wizard := ⟨store, .fresh key context⟩
  rcases closed.openBy_cases context entry with opened | opened | ⟨failure, opened⟩
  · have made := congrArg Prod.fst opened
    cases made.symm.trans opens
    rfl
  · have made := congrArg Prod.fst opened
    cases made.symm.trans opens
    rfl
  · have made := congrArg Prod.fst opened
    cases made.symm.trans opens

theorem alike_openBy_of_ne {key other : StoreKey} (different : other ≠ key) (store : Store)
    (context : wizard.Context) (entry : Entry) :
    store.Alike other (Handle.openBy store key context entry).2 := by
  let closed : Session wizard := ⟨store, .fresh key context⟩
  rcases closed.openBy_cases context entry with opened | opened | ⟨failure, opened⟩
  · have left := congrArg Prod.snd opened
    exact left ▸ ⟨(raw_without_of_ne different).symm, rfl, rfl⟩
  · have left := congrArg Prod.snd opened
    exact left ▸ .refl other store
  · have left := congrArg Prod.snd opened
    exact left ▸ .refl other store

namespace Desk

def serve (desk : Desk wizard) (key : StoreKey) : Call wizard → Reply wizard × Desk wizard
  | .openAnother context entry =>
    match Handle.openBy desk.store key context entry with
    | (.ok handle, store) => (.opened (.ok handle), ⟨store, desk.handles ++ [handle]⟩)
    | (.error failure, store) => (.opened (.error failure), { desk with store })
  | .act place operation =>
    match desk.handles[place]? with
    | none => (.noHandle, desk)
    | some handle =>
      let (reply, session) := Session.perform ⟨desk.store, handle⟩ operation
      (reply, ⟨session.store, desk.handles.set place session.handle⟩)

def OnKey (key : StoreKey) (desk : Desk wizard) : Prop := ∀ handle ∈ desk.handles, handle.key = key

structure Alike (key : StoreKey) (left right : Desk wizard) : Prop where
  handles : left.handles = right.handles
  store : left.store.Alike key right.store

variable {desk left right : Desk wizard} {key other : StoreKey}

theorem OnKey.serve (onKey : desk.OnKey key) (call : Call wizard) :
    (desk.serve key call).2.OnKey key := by
  unfold Desk.serve
  cases call with
  | openAnother context entry =>
    have opens : ∀ handle : Handle wizard,
        (Handle.openBy desk.store key context entry).1 = .ok handle → handle.key = key :=
      fun _ => key_of_openBy
    dsimp only
    generalize Handle.openBy desk.store key context entry = opened at *
    obtain ⟨opened | opened, store⟩ := opened
    · exact onKey
    · intro handle member
      rcases List.mem_append.mp member with member | member
      · exact onKey handle member
      · obtain rfl := List.mem_singleton.mp member
        exact opens handle rfl
  | act place operation =>
    dsimp only
    cases found : desk.handles[place]? with
    | none => exact onKey
    | some handle =>
      have confined := Session.perform_confined ⟨desk.store, handle⟩ operation
      intro shown member
      rcases List.mem_or_eq_of_mem_set member with member | rfl
      · exact onKey shown member
      · exact confined.key.trans (onKey handle (List.mem_of_getElem? found))

theorem OnKey.serve_of_ne (onKey : desk.OnKey key) (different : other ≠ key)
    (call : Call wizard) : desk.store.Alike other (desk.serve key call).2.store := by
  unfold Desk.serve
  cases call with
  | openAnother context entry =>
    have left : desk.store.Alike other
        (Handle.openBy desk.store key context entry : wizard.Result _ × Store).2 :=
      alike_openBy_of_ne different desk.store context entry
    dsimp only
    generalize Handle.openBy desk.store key context entry = opened at *
    obtain ⟨opened | opened, store⟩ := opened
    · exact left
    · exact left
  | act place operation =>
    dsimp only
    cases found : desk.handles[place]? with
    | none => exact .refl other desk.store
    | some handle =>
      have confined := Session.perform_confined ⟨desk.store, handle⟩ operation
      have elsewhere : other ≠ handle.key := by
        rw [onKey handle (List.mem_of_getElem? found)]
        exact different
      exact confined.others other elsewhere

theorem Alike.serve (alike : left.Alike key right) (onKey : left.OnKey key) (call : Call wizard) :
    Agree (Alike key) (left.serve key call) (right.serve key call) := by
  obtain ⟨store, handles⟩ := left
  obtain ⟨otherStore, _⟩ := right
  obtain ⟨rfl, stores⟩ := alike
  unfold Desk.serve
  cases call with
  | openAnother context entry =>
    obtain ⟨outcome, after⟩ : Agree (Store.Alike key)
        (Handle.openBy store key context entry : wizard.Result _ × Store)
        (Handle.openBy otherStore key context entry) := openBy_alike stores context entry
    dsimp only
    generalize Handle.openBy store key context entry = opened at *
    generalize Handle.openBy otherStore key context entry = also at *
    obtain ⟨opened, store⟩ := opened
    obtain ⟨_, otherStore⟩ := also
    cases outcome
    cases opened with
    | error failure => exact ⟨rfl, rfl, after⟩
    | ok handle => exact ⟨rfl, rfl, after⟩
  | act place operation =>
    dsimp only
    cases found : handles[place]? with
    | none => exact ⟨rfl, rfl, stores⟩
    | some handle =>
      have sessions : Session.Alike ⟨store, handle⟩ ⟨otherStore, handle⟩ := by
        refine ⟨rfl, ?_⟩
        change store.Alike handle.key otherStore
        rw [onKey handle (List.mem_of_getElem? found)]
        exact stores
      obtain ⟨reply, after⟩ := sessions.perform operation
      have stays := (Session.perform_confined ⟨store, handle⟩ operation).key
      refine ⟨reply, congrArg (handles.set place) after.handle, ?_⟩
      have alikeAfter := after.store
      rw [stays, onKey handle (List.mem_of_getElem? found)] at alikeAfter
      exact alikeAfter

end Desk

/-- A store with the handles of every owner, whose wizard the registry has under its name. -/
structure Office (registry : String → Definition) where
  store : Store
  handles : (owner : Owner) → List (Handle (registry owner.wizard))

namespace Office

variable {registry : String → Definition}

abbrev Request (registry : String → Definition) : Type :=
  (owner : Owner) × Call (registry owner.wizard)

abbrev Answer (registry : String → Definition) : Type :=
  (owner : Owner) × Reply (registry owner.wizard)

def opened (registry : String → Definition) (store : Store) : Office registry :=
  ⟨store, fun _ => []⟩

def desk (office : Office registry) (owner : Owner) : Desk (registry owner.wizard) :=
  ⟨office.store, office.handles owner⟩

def put (office : Office registry) (owner : Owner) (desk : Desk (registry owner.wizard)) :
    Office registry :=
  ⟨desk.store, Function.update office.handles owner desk.handles⟩

@[simp] theorem desk_put_self (office : Office registry) (owner : Owner)
    (desk : Desk (registry owner.wizard)) : (office.put owner desk).desk owner = desk := by
  simp only [Office.desk, put, Function.update_self]

theorem handles_put_of_ne {owner other : Owner} (different : other ≠ owner)
    (office : Office registry) (desk : Desk (registry owner.wizard)) :
    (office.put owner desk).handles other = office.handles other := by
  unfold put
  exact Function.update_of_ne different _ _

def serve (office : Office registry) (request : Request registry) :
    Answer registry × Office registry :=
  let (reply, desk) := (office.desk request.1).serve request.1.key request.2
  (⟨request.1, reply⟩, office.put request.1 desk)

def run (office : Office registry) :
    List (Request registry) → List (Answer registry) × Office registry
  | [] => ([], office)
  | request :: requests =>
    let (answer, after) := office.serve request
    let (answers, final) := after.run requests
    (answer :: answers, final)

def Keyed (office : Office registry) : Prop := ∀ owner, (office.desk owner).OnKey owner.key

theorem Keyed.serve {office : Office registry} (keyed : office.Keyed) (request : Request registry) :
    (office.serve request).2.Keyed := by
  intro owner
  by_cases same : owner = request.1
  · subst same
    have after := (keyed request.1).serve request.2
    change ((office.put request.1 _).desk request.1).OnKey _
    rw [desk_put_self]
    exact after
  · intro handle member
    refine keyed owner handle ?_
    change handle ∈ (office.put request.1 _).handles owner at member
    rwa [handles_put_of_ne same] at member

theorem Keyed.serve_of_ne {office : Office registry} (keyed : office.Keyed)
    {request : Request registry} {owner : Owner} (different : owner ≠ request.1) :
    (office.desk owner).Alike owner.key ((office.serve request).2.desk owner) where
  handles := (handles_put_of_ne different office _).symm
  store := (keyed request.1).serve_of_ne (Owner.key_injective.ne different) request.2

theorem run_alike {owner : Owner} {office alone : Office registry} (keyed : office.Keyed)
    (alike : (office.desk owner).Alike owner.key (alone.desk owner))
    (requests : List (Request registry)) :
    owner.own (office.run requests).1 = (alone.run (owner.own requests)).1 ∧
    ((office.run requests).2.desk owner).Alike owner.key
      ((alone.run (owner.own requests)).2.desk owner) := by
  induction requests generalizing office alone with
  | nil => exact ⟨rfl, alike⟩
  | cons request requests ih =>
    by_cases same : request.1 = owner
    · subst same
      obtain ⟨reply, after⟩ := alike.serve (keyed request.1) request.2
      have following : ((office.serve request).2.desk request.1).Alike request.1.key
          ((alone.serve request).2.desk request.1) := by
        change ((office.put request.1 _).desk request.1).Alike _ ((alone.put request.1 _).desk _)
        rw [desk_put_self, desk_put_self]
        exact after
      obtain ⟨answers, final⟩ := ih (keyed.serve request) following
      have answer : (office.serve request).1 = (alone.serve request).1 :=
        congrArg (Sigma.mk request.1) reply
      rw [Owner.own_cons_self rfl]
      refine ⟨?_, final⟩
      change Owner.own request.1 ((office.serve request).1 :: ((office.serve request).2.run _).1) =
        (alone.serve request).1 :: ((alone.serve request).2.run _).1
      rw [← answer, ← answers]
      exact Owner.own_cons_self rfl _
    · -- What others ask does not show at the desk of the owner.
      have unseen := keyed.serve_of_ne (Ne.symm same)
      have following : ((office.serve request).2.desk owner).Alike owner.key (alone.desk owner) :=
        ⟨unseen.handles.symm.trans alike.handles, unseen.store.symm.trans alike.store⟩
      obtain ⟨answers, final⟩ := ih (keyed.serve request) following
      rw [Owner.own_cons_of_ne same]
      refine ⟨?_, final⟩
      change owner.own ((office.serve request).1 :: ((office.serve request).2.run _).1) = _
      have told : (office.serve request).1.1 ≠ owner := same
      rw [Owner.own_cons_of_ne told, answers]

/-- Each owner is served, and has a state stored, as though alone: nobody else has the key of the
    owner. -/
theorem owners_share_no_state :
    Function.Injective Owner.key ∧
    ∀ (registry : String → Definition) (store : Store) (requests : List (Request registry))
      (owner : Owner),
      let office := opened registry store
      let alone := owner.own requests
      owner.own (office.run requests).1 = (office.run alone).1 ∧
      (office.run requests).2.store.raw owner.key = (office.run alone).2.store.raw owner.key ∧
      (office.run requests).2.handles owner = (office.run alone).2.handles owner := by
  refine ⟨Owner.key_injective, fun registry store requests owner => ?_⟩
  have keyed : (opened registry store).Keyed := by
    intro owner handle member
    exact absurd member List.not_mem_nil
  obtain ⟨answers, final⟩ := run_alike keyed ⟨rfl, .refl owner.key store⟩ requests
  exact ⟨answers, final.store.entry, final.handles⟩

end Office

end Admissions.Wizard
