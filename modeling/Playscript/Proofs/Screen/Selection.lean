import Playscript.Proofs.Screen.Patience

/-!
The selection in a menu from one picture to the next. It is carried over, moved by a key, or begins
anew when there was no menu before.
-/

namespace Playscript

namespace Screen

/-- The selection is one of the options and within the rows that are drawn. -/
structure OnScreen (screen : Screen) : Prop where
  valid : screen.selected < screen.choices.length
  above : screen.scroll ≤ screen.selected
  below : screen.selected < screen.scroll + menuRows

/-- What becomes of the selection from one picture to the next. -/
inductive Moves (before after : Screen) : Prop
  | bare : after.choices = [] → Moves before after
  | fresh : before.choices = [] → after.selected = 0 → after.scroll = 0 → Moves before after
  | kept : before.choices ≠ [] → after.selected = before.selected →
      after.scroll = before.scroll → Moves before after
  | up : before.choices ≠ [] → after.choices = before.choices →
      after.selected = before.selectUp.selected → after.scroll = before.selectUp.scroll →
      Moves before after
  | down : before.choices ≠ [] → after.choices = before.choices →
      after.selected = before.selectDown.selected → after.scroll = before.selectDown.scroll →
      Moves before after

section

variable {before after screen told : Screen} {session : Session}

theorem OnScreen.selectUp (onScreen : screen.OnScreen) : screen.selectUp.OnScreen := by
  obtain ⟨valid, above, below⟩ := onScreen
  constructor
  · simp only [Screen.selectUp]
    omega
  · simp only [Screen.selectUp]
    omega
  · simp only [Screen.selectUp]
    omega

theorem OnScreen.selectDown (onScreen : screen.OnScreen) : screen.selectDown.OnScreen := by
  obtain ⟨valid, above, below⟩ := onScreen
  have rows : menuRows = 5 := rfl
  constructor
  · simp only [Screen.selectDown]
    omega
  · simp only [Screen.selectDown]
    split <;> omega
  · simp only [Screen.selectDown]
    split <;> omega

theorem Moves.onScreen (moves : before.Moves after) (offering : after.choices ≠ [])
    (onScreen : before.choices ≠ [] → before.OnScreen)
    (room : before.choices ≠ [] → before.selected < after.choices.length) : after.OnScreen := by
  cases moves with
  | bare bare => exact absurd bare offering
  | fresh _ selected scroll =>
      have some := List.length_pos_iff.mpr offering
      exact ⟨by omega, by omega, by simp only [menuRows]; omega⟩
  | kept was selected scroll =>
      obtain ⟨_, above, below⟩ := onScreen was
      exact ⟨by rw [selected]; exact room was, by omega, by omega⟩
  | up was same selected scroll =>
      obtain ⟨valid, above, below⟩ := (onScreen was).selectUp
      exact ⟨by rw [selected, same]; exact valid, by omega, by omega⟩
  | down was same selected scroll =>
      obtain ⟨valid, above, below⟩ := (onScreen was).selectDown
      exact ⟨by rw [selected, same]; exact valid, by omega, by omega⟩

theorem Moves.room (moves : before.Moves after) (was : before.choices ≠ [])
    (offering : after.choices ≠ []) (onScreen : before.OnScreen) (stays : after.OnScreen) :
    before.selected < after.choices.length := by
  cases moves with
  | bare bare => exact absurd bare offering
  | fresh bare => exact absurd bare was
  | kept _ selected => exact selected ▸ stays.valid
  | up _ same | down _ same => exact same ▸ onScreen.valid

theorem SameMenu.moves (same : before.SameMenu after) : before.Moves after := by
  by_cases was : before.choices = []
  · exact .bare (same.choices.trans was)
  · exact .kept was same.selected same.scroll

theorem SameMenu.trans (first : before.SameMenu screen) (second : screen.SameMenu after) :
    before.SameMenu after :=
  ⟨second.choices.trans first.choices, second.selected.trans first.selected,
    second.scroll.trans first.scroll⟩

theorem Moves.sameMenu (moves : before.Moves screen) (same : screen.SameMenu after) :
    before.Moves after := by
  obtain ⟨choices, selected, scroll⟩ := same
  cases moves with
  | bare bare => exact .bare (choices.trans bare)
  | fresh was top unscrolled => exact .fresh was (selected.trans top) (scroll.trans unscrolled)
  | kept was top unscrolled => exact .kept was (selected.trans top) (scroll.trans unscrolled)
  | up was same top unscrolled =>
      exact .up was (choices.trans same) (selected.trans top) (scroll.trans unscrolled)
  | down was same top unscrolled =>
      exact .down was (choices.trans same) (selected.trans top) (scroll.trans unscrolled)

theorem sync_choices (screen : Screen) (session : Session) : (screen.sync session).choices =
    session.playback.pending.map fun option => (option.index, option.label) :=
  rfl

theorem sync_kept (was : screen.choices ≠ []) (offering : (screen.sync session).choices ≠ []) :
    (screen.sync session).selected = screen.selected ∧
      (screen.sync session).scroll = screen.scroll := by
  have pending : session.playback.pending ≠ [] := by simpa [sync_choices] using offering
  simp [sync, was, pending]

theorem sync_fresh (session : Session) (was : screen.choices = []) :
    (screen.sync session).selected = 0 ∧ (screen.sync session).scroll = 0 := by
  simp [sync, was]

theorem sync_moves (same : before.SameMenu told) : before.Moves (told.sync session) := by
  by_cases offering : (told.sync session).choices = []
  · exact .bare offering
  · by_cases was : before.choices = []
    · obtain ⟨selected, scroll⟩ := sync_fresh session (same.choices.trans was)
      exact .fresh was selected scroll
    · have still : told.choices ≠ [] := by rwa [same.choices]
      obtain ⟨selected, scroll⟩ := sync_kept still offering
      exact .kept was (selected.trans same.selected) (scroll.trans same.scroll)

theorem sync_sync (same : (screen.sync session).SameMenu told) :
    (screen.sync session).SameMenu (told.sync session) := by
  by_cases offering : (screen.sync session).choices = []
  · have pending : session.playback.pending = [] := by simpa [sync_choices] using offering
    constructor <;> simp [sync, pending]
  · -- The menu is the same both times, so the second time nothing begins anew.
    have still : told.choices ≠ [] := by rwa [same.choices]
    have offers : (told.sync session).choices ≠ [] := offering
    obtain ⟨selected, scroll⟩ := sync_kept still offers
    exact ⟨rfl, selected.trans same.selected, scroll.trans same.scroll⟩

theorem settle_moves (same : before.SameMenu screen)
    (settled : (settle screen session).screen.SameMenu told) :
    before.Moves (told.sync session) :=
  (sync_moves same).sameMenu (sync_sync settled)

theorem settleOutcome_moves {status : String} {step : Except Fault Outcome × Session}
    (settled : (before.settleOutcome status step).screen.SameMenu told) :
    before.Moves (told.sync step.2) := by
  obtain ⟨outcome, next⟩ := step
  cases outcome with
  | error fault => exact sync_moves settled
  | ok outcome =>
      refine settle_moves ?_ settled
      exact ⟨rfl, rfl, rfl⟩

theorem selected_moves (moved : Screen) (same : before.choices = (before.sync session).choices)
    (was : before.choices ≠ []) (menu : moved.choices = before.choices)
    (settled : (settle moved session).screen.SameMenu told) :
    (told.sync session).choices = before.choices ∧
      (told.sync session).selected = moved.selected ∧
      (told.sync session).scroll = moved.scroll := by
  have again := sync_sync settled
  have still : moved.choices ≠ [] := by rwa [menu]
  have offering : (moved.sync session).choices ≠ [] := by
    rw [sync_choices, ← sync_choices before, ← same]
    exact was
  obtain ⟨selected, scroll⟩ := sync_kept still offering
  exact ⟨same.symm, again.selected.trans selected, again.scroll.trans scroll⟩

theorem Responds.moves {keyPress : KeyPress} {moments : List Moment} {pressed : Pressed}
    (responds : before.Responds session keyPress moments pressed)
    (current : before.choices = (before.sync session).choices)
    (same : pressed.screen.SameMenu told) : before.Moves (told.sync pressed.session) := by
  cases responds with
  | still _ still => exact sync_moves (still.trans same)
  | lost => exact sync_moves same
  | turned still => exact settle_moves still same
  | skipped =>
      refine settle_moves ?_ same
      exact ⟨rfl, rfl, rfl⟩
  | up was =>
      obtain ⟨choices, selected, scroll⟩ := selected_moves before.selectUp current was rfl same
      exact .up was choices selected scroll
  | down was =>
      obtain ⟨choices, selected, scroll⟩ := selected_moves before.selectDown current was rfl same
      exact .down was choices selected scroll
  | restarted | advanced | chosen =>
      rw [settleOutcome_session]
      exact settleOutcome_moves same

end

end Screen

namespace Watch.Sound

variable {production : Production} {watch : Watch}

theorem turn_moves (watch : Watch) {moment : Moment}
    (same : (watch.playback.after watch.session.production moment).pending =
      watch.playback.pending) :
    watch.ready.screen.Moves (watch.turn moment).ready.screen := by
  apply Screen.SameMenu.moves
  cases current : watch.current with
  | true =>
      simp only [ready, turn, current, if_true]
      exact ⟨rfl, rfl, rfl⟩
  | false =>
      simp only [ready, turn, current, Bool.false_eq_true, if_false]
      have pending : (watch.playback.after watch.session.production moment).pending =
          watch.viewing.session.playback.pending := same
      constructor <;> simp [Viewing.update, Screen.sync, screen, pending]

theorem after_moves (sound : watch.Sound production) (happening : Happening) :
    watch.ready.screen.Moves (watch.after happening).ready.screen := by
  cases happening with
  | tick => exact turn_moves watch watch.playback.tick_turned.pending
  | work => exact turn_moves watch watch.playback.work_turned.pending
  | sync =>
      have same : (watch.after .sync).ready.screen = watch.screen.sync watch.session := rfl
      rw [same, ready]
      split
      · exact Screen.sync_moves .rfl
      · exact Screen.SameMenu.moves .rfl
  | poll now =>
      rcases watch.ready.poll_cases now with ⟨_, polled⟩ | ⟨_, _, same, polled⟩
      · apply Screen.SameMenu.moves
        simp only [Watch.after, polled]
        exact ⟨rfl, rfl, rfl⟩
      · simp only [Watch.after, polled]
        exact Screen.sync_moves same
  | press keyPress =>
      have responds := watch.ready.screen.press_responds watch.ready.session keyPress
      have current : watch.ready.screen.choices =
          (watch.ready.screen.sync watch.ready.session).choices := by
        rw [Screen.sync_choices, ready_session]
        exact sound.ready_pictures.choices
      have moves := responds.moves current (watch.ready.press_sameMenu keyPress)
      rw [← Viewing.press_session] at moves
      exact moves

end Watch.Sound

end Playscript
