import Admissions.Proofs.Wizard.Event
import Admissions.Sample.Maze

namespace Admissions.Wizard

variable {wizard : Definition} {answers : wizard.Answers} {context : wizard.Context}

inductive WalkedIn (wizard : Definition) (answers : wizard.Answers) (context : wizard.Context) :
    Nat → wizard.Step → Prop where
  | first : WalkedIn wizard answers context 0 (wizard.first context)
  | next {count : Nat} {step following : wizard.Step}
      (before : WalkedIn wizard answers context count step)
      (moves : wizard.Moves answers context step following) :
      WalkedIn wizard answers context (count + 1) following

/-- What comes of a visit that looks at `limit` pages of the way. -/
inductive Outcome (wizard : Definition) (answers : wizard.Answers) (context : wizard.Context)
    (requested : wizard.Step) (limit : Nat) : wizard.Result (Visit wizard.Step) → Prop where
  | shows (count : Nat) (near : count < limit)
      (stands : WalkedIn wizard answers context count requested) :
      Outcome wizard answers context requested limit (.ok (.show requested))
  | redirects (count : Nat) (step : wizard.Step) (near : count < limit)
      (stands : WalkedIn wizard answers context count step)
      (ends : wizard.Ends answers context step)
      (missed : ∀ earlier ≤ count, ¬WalkedIn wizard answers context earlier requested) :
      Outcome wizard answers context requested limit (.ok (.redirect step))
  | fails (count : Nat) (step : wizard.Step) (failure : Failure wizard.Violation)
      (near : count < limit) (stands : WalkedIn wizard answers context count step)
      (fails : wizard.Fails answers context step failure)
      (missed : ∀ earlier ≤ count, ¬WalkedIn wizard answers context earlier requested) :
      Outcome wizard answers context requested limit (.error failure)
  | endless (step : wizard.Step) (stands : WalkedIn wizard answers context limit step)
      (missed : ∀ earlier < limit, ¬WalkedIn wizard answers context earlier requested) :
      Outcome wizard answers context requested limit (.error (.endlessSteps wizard.name))

variable {step other requested : wizard.Step} {count later limit : Nat}

namespace WalkedIn

theorem zero_iff :
    WalkedIn wizard answers context 0 step ↔ step = wizard.first context := by
  constructor
  · rintro ⟨⟩
    rfl
  · rintro rfl
    exact .first

theorem succ_iff :
    WalkedIn wizard answers context (count + 1) step ↔
      ∃ before, WalkedIn wizard answers context count before ∧
        wizard.Moves answers context before step := by
  constructor
  · rintro (_ | ⟨before, moves⟩)
    exact ⟨_, before, moves⟩
  · rintro ⟨before, stands, moves⟩
    exact .next stands moves

theorem unique (stands : WalkedIn wizard answers context count step)
    (stands' : WalkedIn wizard answers context count other) : step = other := by
  induction stands generalizing other with
  | first =>
    cases stands' with
    | first => rfl
  | next before moves ih =>
    cases stands' with
    | next before' moves' =>
      obtain rfl := ih before'
      have same := moves.onward.symm.trans moves'.onward
      simpa using same

theorem moves_of_lt (stands : WalkedIn wizard answers context later step) (earlier : count < later) :
    ∃ page following, WalkedIn wizard answers context count page ∧
      wizard.Moves answers context page following := by
  induction stands with
  | first => contradiction
  | @next before page following stands moves ih =>
    rcases Nat.lt_succ_iff_lt_or_eq.mp earlier with earlier | rfl
    · exact ih earlier
    · exact ⟨page, following, stands, moves⟩

theorem walked (stands : WalkedIn wizard answers context count step) :
    Walked wizard answers context step := by
  induction stands with
  | first => exact .first
  | next before moves ih => exact ih.next moves.passes moves.leads moves.declared

theorem le_of_stuck (stands : WalkedIn wizard answers context count step)
    (stuck : ∀ following, ¬wizard.Moves answers context step following)
    (stands' : WalkedIn wizard answers context later other) : later ≤ count := by
  refine Nat.le_of_not_lt fun before => ?_
  obtain ⟨page, following, stands'', moves⟩ := stands'.moves_of_lt before
  obtain rfl := stands.unique stands''
  exact stuck following moves

end WalkedIn

theorem outcome_of_walk {handle : Handle wizard} {fuel : Nat}
    (stands : WalkedIn wizard handle.answers handle.context count step)
    (total : count + fuel = limit)
    (missed : ∀ earlier < count, ¬WalkedIn wizard handle.answers handle.context earlier requested) :
    Outcome wizard handle.answers handle.context requested limit
      (handle.walk requested fuel step) := by
  -- On the pages that may still be looked at, from whichever page the walk stands on.
  induction fuel generalizing count step with
  | zero =>
    obtain rfl : count = limit := total
    exact .endless step stands missed
  | succ fuel ih =>
    have near : count < limit := by omega
    by_cases same : step = requested
    · subst same
      rw [Handle.walk, if_pos rfl]
      exact .shows count near stands
    · have missed' : ∀ earlier ≤ count,
          ¬WalkedIn wizard handle.answers handle.context earlier requested := by
        intro earlier before reaches
        rcases Nat.lt_or_eq_of_le before with before | rfl
        · exact missed earlier before reaches
        · exact same (stands.unique reaches)
      rw [walk_of_onward same]
      rcases wizard.onward_cases handle.answers handle.context step with
        ⟨following, moves⟩ | ends | ⟨failure, fails⟩
      · rw [moves.onward]
        exact ih (stands.next moves) (by omega) fun earlier before => missed' earlier (by omega)
      · rw [ends.onward]
        exact .redirects count step near stands ends missed'
      · rw [fails.onward]
        exact .fails count step failure near stands fails missed'

theorem outcome_of_visit (handle : Handle wizard) (requested : wizard.Step) :
    Outcome wizard handle.answers handle.context requested Handle.longestWalk
      (handle.visit requested).1 := by
  have outcome : Outcome wizard handle.answers handle.context requested Handle.longestWalk
      (handle.walk requested Handle.longestWalk (wizard.first handle.context)) :=
    outcome_of_walk .first (Nat.zero_add _) (by simp)
  unfold Handle.visit
  split
  · rename_i walked
    rwa [walked] at outcome
  · exact outcome

namespace Outcome

variable {result : wizard.Result (Visit wizard.Step)} {failure : Failure wizard.Violation}

theorem eq_show (outcome : Outcome wizard answers context requested limit result)
    (near : count < limit) (stands : WalkedIn wizard answers context count requested) :
    result = .ok (.show requested) := by
  cases outcome with
  | shows => rfl
  | redirects later step near' stands' ends missed =>
    exact absurd stands (missed count (stands'.le_of_stuck ends.stuck stands))
  | fails later step failure near' stands' fails missed =>
    exact absurd stands (missed count (stands'.le_of_stuck fails.stuck stands))
  | endless step stands' missed => exact absurd stands (missed count near)

theorem of_stuck (outcome : Outcome wizard answers context requested limit result)
    (near : count < limit) (stands : WalkedIn wizard answers context count step)
    (stuck : ∀ following, ¬wizard.Moves answers context step following)
    (missed : ∀ earlier ≤ count, ¬WalkedIn wizard answers context earlier requested) :
    (wizard.Ends answers context step ∧ result = .ok (.redirect step)) ∨
    ∃ failure, wizard.Fails answers context step failure ∧ result = .error failure := by
  cases outcome with
  | shows later near' stands' =>
    exact absurd stands' (missed later (stands.le_of_stuck stuck stands'))
  | redirects later other near' stands' ends missed' =>
    have before := stands.le_of_stuck stuck stands'
    have after := stands'.le_of_stuck ends.stuck stands
    obtain rfl := Nat.le_antisymm before after
    obtain rfl := stands.unique stands'
    exact .inl ⟨ends, rfl⟩
  | fails later other failure near' stands' fails missed' =>
    have before := stands.le_of_stuck stuck stands'
    have after := stands'.le_of_stuck fails.stuck stands
    obtain rfl := Nat.le_antisymm before after
    obtain rfl := stands.unique stands'
    exact .inr ⟨failure, fails, rfl⟩
  | endless other stands' missed' =>
    have before := stands.le_of_stuck stuck stands'
    omega

theorem eq_endless (outcome : Outcome wizard answers context requested limit result)
    (stands : WalkedIn wizard answers context limit step)
    (missed : ∀ earlier < limit, ¬WalkedIn wizard answers context earlier requested) :
    result = .error (.endlessSteps wizard.name) := by
  cases outcome with
  | shows later near stands' => exact absurd stands' (missed later near)
  | redirects later other near stands' ends missed' =>
    have before := stands'.le_of_stuck ends.stuck stands
    omega
  | fails later other failure near stands' fails missed' =>
    have before := stands'.le_of_stuck fails.stuck stands
    omega
  | endless => rfl

end Outcome

namespace Session

variable (session : Session wizard) (requested : wizard.Step)

theorem visit_eq_show_iff :
    (session.visit requested).1 = .ok (.show requested) ↔
      ∃ count < Handle.longestWalk,
        WalkedIn wizard session.handle.answers session.handle.context count requested := by
  have outcome := outcome_of_visit session.handle requested
  constructor
  · intro shows
    change (session.handle.visit requested).1 = _ at shows
    rw [shows] at outcome
    cases outcome with
    | shows count near stands => exact ⟨count, near, stands⟩
  · rintro ⟨count, near, stands⟩
    exact outcome.eq_show near stands

theorem visit_eq_redirect_iff (step : wizard.Step) :
    (session.visit requested).1 = .ok (.redirect step) ↔
      ∃ count < Handle.longestWalk,
        WalkedIn wizard session.handle.answers session.handle.context count step ∧
        wizard.Ends session.handle.answers session.handle.context step ∧
        ∀ earlier ≤ count,
          ¬WalkedIn wizard session.handle.answers session.handle.context earlier requested := by
  have outcome := outcome_of_visit session.handle requested
  constructor
  · intro redirects
    change (session.handle.visit requested).1 = _ at redirects
    rw [redirects] at outcome
    cases outcome with
    | redirects count step near stands ends missed => exact ⟨count, near, stands, ends, missed⟩
  · rintro ⟨count, near, stands, ends, missed⟩
    rcases outcome.of_stuck near stands ends.stuck missed with ⟨-, redirects⟩ | ⟨failure, fails, -⟩
    · exact redirects
    · exact absurd fails ends.not_fails

theorem visit_eq_error_iff (failure : Failure wizard.Violation) :
    (session.visit requested).1 = .error failure ↔
      (∃ count < Handle.longestWalk, ∃ step,
        WalkedIn wizard session.handle.answers session.handle.context count step ∧
        wizard.Fails session.handle.answers session.handle.context step failure ∧
        ∀ earlier ≤ count,
          ¬WalkedIn wizard session.handle.answers session.handle.context earlier requested) ∨
      failure = .endlessSteps wizard.name ∧
        (∃ step, WalkedIn wizard session.handle.answers session.handle.context
          Handle.longestWalk step) ∧
        ∀ earlier < Handle.longestWalk,
          ¬WalkedIn wizard session.handle.answers session.handle.context earlier requested := by
  have outcome := outcome_of_visit session.handle requested
  constructor
  · intro failed
    change (session.handle.visit requested).1 = _ at failed
    rw [failed] at outcome
    cases outcome with
    | fails count step failure near stands fails missed =>
      exact .inl ⟨count, near, step, stands, fails, missed⟩
    | endless step stands missed => exact .inr ⟨rfl, ⟨step, stands⟩, missed⟩
  · rintro (⟨count, near, step, stands, fails, missed⟩ | ⟨rfl, ⟨step, stands⟩, missed⟩)
    · rcases outcome.of_stuck near stands fails.stuck missed with ⟨ends, -⟩ | ⟨other, fails', failed⟩
      · exact absurd fails ends.not_fails
      · exact failed.trans (congrArg Except.error (fails'.unique fails))
    · exact outcome.eq_endless stands missed

theorem visit_eq_moved :
    (session.visit requested).2 = session.moved (session.visit requested).2.handle.step := by
  rcases session.visit_cases requested with ⟨-, visited⟩ | ⟨outcome, visited, -⟩ <;> rw [visited] <;>
    rfl

end Session

/-- A visit to a page that is among the first 64 of the way shows it. Otherwise it redirects to the
    page on which the way ends, or reports the failure on which it stops, or that it has no end. -/
theorem visit_follows_way (session : Session wizard) (requested : wizard.Step) :
    let walked := WalkedIn wizard session.handle.answers session.handle.context
    let visited := session.visit requested
    (visited.1 = .ok (.show requested) ↔ ∃ count < 64, walked count requested) ∧
    (∀ step, visited.1 = .ok (.redirect step) ↔
      ∃ count < 64, walked count step ∧
        wizard.Ends session.handle.answers session.handle.context step ∧
        ∀ earlier ≤ count, ¬walked earlier requested) ∧
    (∀ failure, visited.1 = .error failure ↔
      (∃ count < 64, ∃ step, walked count step ∧
        wizard.Fails session.handle.answers session.handle.context step failure ∧
        ∀ earlier ≤ count, ¬walked earlier requested) ∨
      failure = .endlessSteps wizard.name ∧ (∃ step, walked 64 step) ∧
        ∀ earlier < 64, ¬walked earlier requested) ∧
    (∀ shown, visited.1 = .ok (.show shown) → shown = requested) ∧
    (∀ step, visited.1 = .ok (.redirect step) → (visited.2.visit step).1 = .ok (.show step)) ∧
    (∀ count < 64, walked count requested →
      ∀ earlier ≤ count, ∀ page, walked earlier page →
        (visited.2.visit page).1 = .ok (.show page)) ∧
    visited.2.store = session.store ∧
    visited.2.handle = { session.handle with step := visited.2.handle.step } := by
  intro walked visited
  have moved : visited.2 = session.moved visited.2.handle.step := session.visit_eq_moved requested
  -- The visit leaves the answers alone, so a later one is along the same way.
  have again (page : wizard.Step) : (visited.2.visit page).1 = .ok (.show page) ↔
      ∃ count < 64, walked count page := by
    rw [moved]
    exact (session.moved visited.2.handle.step).visit_eq_show_iff page
  refine ⟨session.visit_eq_show_iff requested, session.visit_eq_redirect_iff requested,
    session.visit_eq_error_iff requested, ?_, ?_, ?_, ?_, ?_⟩
  · intro shown shows
    rcases session.visit_cases requested with ⟨-, shows'⟩ | ⟨outcome, shows', hidden⟩
    · simpa [visited, shows'] using shows.symm
    · exact absurd (by simpa [visited, shows'] using shows) (hidden shown)
  · intro step redirects
    obtain ⟨count, near, stands, -, -⟩ := (session.visit_eq_redirect_iff requested step).mp redirects
    exact (again step).mpr ⟨count, near, stands⟩
  · intro count near stands earlier before page stands'
    exact (again page).mpr ⟨earlier, Nat.lt_of_le_of_lt before near, stands'⟩
  · rw [moved]
    rfl
  · rw [moved]
    rfl

def untaggedRing : Session Sample.Maze.wizard :=
  let routes := SortedMap.ofList [("a", .string "b"), ("b", .string "c"), ("c", .string "b")]
  ⟨.empty, ⟨⟨"k"⟩, (), Sample.Maze.Step.a, ⟨routes, [], .null⟩⟩⟩

theorem visit_follows_way_untagged :
    (untaggedRing.visit Sample.Maze.Step.c).1 = .ok (.redirect Sample.Maze.Step.b) ∧
    ((untaggedRing.visit Sample.Maze.Step.c).2.visit Sample.Maze.Step.b).1 =
      .ok (.show Sample.Maze.Step.b) := by
  have redirects : (untaggedRing.visit Sample.Maze.Step.c).1 =
      .ok (.redirect Sample.Maze.Step.b) := rfl
  obtain ⟨-, -, -, -, again, -⟩ := visit_follows_way untaggedRing Sample.Maze.Step.c
  exact ⟨redirects, again Sample.Maze.Step.b redirects⟩

end Admissions.Wizard
