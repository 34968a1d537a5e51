import Playscript.Proofs.Playback.Rest
import Playscript.Proofs.Screen.Watch

/-!
The full-screen player waits for the text. Its picture may be older than the session, yet what it
tells of the menu is true, and a line that had settled in it has settled; so neither a key nor the
timer ever replaces a line that is still appearing.
-/

namespace Playscript

/-- The picture tells the menu and the end, and nothing is revealed without its showing so. -/
structure Screen.Pictures (screen : Screen) (playback : Playback) : Prop where
  choices : screen.choices = playback.pending.map fun option => (option.index, option.label)
  ended : screen.ended = true ↔ playback.phase = .terminated
  revealing : playback.isRevealing = true → screen.revealing = true
  calm : screen.choices ≠ [] → screen.revealing = false

namespace Screen.Pictures

variable {screen : Screen} {playback : Playback} {production : Production}

theorem sync (screen : Screen) {session : Session}
    (menu : MenuInvariant production session.playback) (rested : session.playback.Rested) :
    (screen.sync session).Pictures session.playback where
  choices := rfl
  ended := by simp [Screen.sync]
  revealing revealing := revealing
  calm offering := by
    have pending : session.playback.pending ≠ [] := by simpa [Screen.sync] using offering
    exact (rested (menu.awaiting_iff.mpr pending)).still

theorem turned {next : Playback} (pictures : screen.Pictures playback)
    (turned : playback.Turned next) : screen.Pictures next where
  choices := by rw [turned.pending, pictures.choices]
  ended := by rw [turned.phase, pictures.ended]
  revealing running := pictures.revealing (turned.revealing running)
  calm := pictures.calm

theorem awaiting (pictures : screen.Pictures playback) (menu : MenuInvariant production playback)
    (offering : screen.choices ≠ []) : playback.phase = .awaitingChoice := by
  rw [menu.awaiting_iff]
  rintro empty
  exact offering (by rw [pictures.choices, empty, List.map_nil])

theorem settled (pictures : screen.Pictures playback) (menu : MenuInvariant production playback)
    (whole : playback.Whole) (settled : screen.settled = true) :
    playback.AtRest ∧ playback.phase ≠ .awaitingChoice ∧ playback.phase ≠ .terminated := by
  simp only [Screen.settled, Bool.and_eq_true, Bool.not_eq_true', List.isEmpty_iff] at settled
  obtain ⟨⟨shown, bare⟩, goesOn⟩ := settled
  refine ⟨Playback.atRest_of_still whole ?_, ?_, ?_⟩
  · cases running : playback.isRevealing with
    | false => rfl
    | true => simp [pictures.revealing running] at shown
  · rw [Ne, menu.awaiting_iff]
    simpa [pictures.choices] using bare
  · rw [Ne, ← pictures.ended, goesOn]
    decide

end Screen.Pictures

namespace Watch

structure Sound (watch : Watch) (production : Production) : Prop where
  plays : watch.session.production = production
  reached : ∃ moments, watch.playback = production.reached moments
  rested : watch.playback.Rested
  pictures : watch.current = true → watch.screen.Pictures watch.playback

/-- What a happening may ask: a line or an option only of a line at rest, unless it begins anew. -/
inductive Patient (playback : Playback) : Happening → List Moment → Prop
  | nothing {happening : Happening} : Patient playback happening []
  | tick : Patient playback .tick [.host .tick]
  | work : Patient playback .work [.worker]
  | skip (keyPress : KeyPress) : Patient playback (.press keyPress) [.host .skip]
  | advance {happening : Happening} : playback.AtRest → Patient playback happening [.host .advance]
  | choose (keyPress : KeyPress) {index : Nat} : playback.AtRest →
      Patient playback (.press keyPress) [.host (.choose index)]
  | anew (control : Bool) :
      Patient playback (.press ⟨.char 'r', control⟩) [.host .restart, .host .advance]

theorem Patient.rested {production : Production} {playback : Playback} {happening : Happening}
    {moments : List Moment} (patient : Patient playback happening moments)
    (rested : playback.Rested) :
    (moments.foldl (Playback.after production) playback).Rested := by
  cases patient with
  | nothing => exact rested
  | tick => exact rested.turned playback.tick_turned
  | work => exact rested.turned playback.work_turned
  | skip => exact rested.turned playback.skip_turned
  | advance rest => exact rest.advance
  | @choose _ index rest => exact rest.choose index
  | anew =>
      have rest : production.opening.AtRest := fun _ revealed => nomatch revealed
      exact rest.advance

theorem Patient.atRest {playback : Playback} {happening : Happening} {moments : List Moment}
    (patient : Patient playback happening moments) {operation : Operation}
    (asked : .host operation ∈ moments)
    (plays : operation = .advance ∨ ∃ index, operation = .choose index)
    (other : ∀ control, happening ≠ .press ⟨.char 'r', control⟩) : playback.AtRest := by
  cases patient with
  | nothing | work => simp at asked
  | tick | skip =>
      obtain rfl : operation = _ := by simpa using asked
      simp at plays
  | advance rest | choose _ rest => exact rest
  | anew control => exact absurd rfl (other control)

namespace Sound

variable {production : Production} {watch : Watch}

theorem menu (sound : watch.Sound production) : MenuInvariant production watch.playback := by
  obtain ⟨moments, reached⟩ := sound.reached
  rw [reached]
  exact (MenuInvariant.kept production).reached moments

theorem whole (sound : watch.Sound production) : watch.playback.Whole := by
  obtain ⟨moments, reached⟩ := sound.reached
  rw [reached]
  exact (Playback.whole_kept production).reached moments

theorem ready_pictures (sound : watch.Sound production) :
    watch.ready.screen.Pictures watch.playback := by
  unfold ready
  split
  · rename_i current
    exact sound.pictures current
  · exact .sync watch.screen sound.menu sound.rested

theorem press_patient (sound : watch.Sound production) (keyPress : KeyPress) :
    Patient watch.playback (.press keyPress) (watch.asks (.press keyPress)) := by
  have pictures := sound.ready_pictures
  have responds := watch.ready.screen.press_responds watch.session keyPress
  simp only [asks]
  generalize watch.ready.screen.asks watch.session keyPress = moments at responds ⊢
  generalize watch.ready.screen.press watch.session keyPress = pressed at responds
  cases responds with
  | still | turned | up | down | lost => exact .nothing
  | restarted control => exact .anew control
  | skipped => exact .skip keyPress
  | advanced _ shown _ =>
      -- There was nothing to skip, whatever the picture says of it.
      apply Patient.advance
      apply Playback.atRest_of_still sound.whole
      rw [← Playback.skip_fst]
      exact shown
  | chosen found =>
      apply Patient.choose
      apply sound.rested
      apply pictures.awaiting sound.menu
      intro bare
      simp [bare] at found

theorem poll_patient (sound : watch.Sound production) (now : Nat) :
    Patient watch.playback (.poll now) (watch.asks (.poll now)) := by
  simp only [asks]
  split
  · rename_i fires
    exact .advance (sound.ready_pictures.settled sound.menu sound.whole
      (Screen.settled_of_poll fires)).1
  · exact .nothing

theorem asks_patient (sound : watch.Sound production) (happening : Happening) :
    Patient watch.playback happening (watch.asks happening) := by
  cases happening with
  | tick => exact .tick
  | work => exact .work
  | sync => exact .nothing
  | poll now => exact sound.poll_patient now
  | press keyPress => exact sound.press_patient keyPress

theorem after_pictures (sound : watch.Sound production) (happening : Happening)
    (current : (watch.after happening).current = true) :
    (watch.after happening).screen.Pictures (watch.after happening).playback := by
  cases happening with
  | tick => exact (sound.pictures current).turned watch.playback.tick_turned
  | work => exact (sound.pictures current).turned watch.playback.work_turned
  | sync => exact .sync watch.screen sound.menu sound.rested
  | press keyPress => cases current
  | poll now =>
      -- The timer has not fired, so nothing but the timer has changed.
      have pictures := sound.ready_pictures
      have same := watch.ready_session
      rcases watch.ready.poll_cases now with ⟨_, polled⟩ | ⟨_, _, _, polled⟩
      · simp only [after, screen, playback, session, polled]
        rw [same]
        exact ⟨pictures.choices, pictures.ended, pictures.revealing, pictures.calm⟩
      · simp [after, polled] at current

theorem after (sound : watch.Sound production) (happening : Happening) :
    (watch.after happening).Sound production where
  plays := by rw [after_production, sound.plays]
  reached := by
    obtain ⟨moments, reached⟩ := sound.reached
    refine ⟨moments ++ watch.asks happening, ?_⟩
    rw [after_playback, sound.plays, reached, Production.reached, Production.reached,
      List.foldl_append]
  rested := by
    rw [after_playback]
    exact (sound.asks_patient happening).rested sound.rested
  pictures := sound.after_pictures happening

theorem opening (production : Production) (auto : Bool) :
    (production.watched auto []).Sound production where
  plays := rfl
  reached := ⟨[.host .advance], rfl⟩
  rested := by
    have rest : production.opening.AtRest := fun _ revealed => nomatch revealed
    exact rest.advance
  pictures current := nomatch current

/-- The run lemma: a watch is sound at every point. -/
theorem watched (production : Production) (auto : Bool) (happenings : List Happening) :
    (production.watched auto happenings).Sound production := by
  have run {start : Watch} (sound : start.Sound production) :
      (happenings.foldl Watch.after start).Sound production := by
    induction happenings generalizing start with
    | nil => exact sound
    | cons happening rest ih => exact ih (sound.after happening)
  exact run (opening production auto)

end Sound
end Watch

/-- No menu is pending while text is appearing, and a line is only left or an option picked when the
body is whole. -/
theorem player_waitsForText (production : Production) (auto : Bool) (happenings : List Happening) :
    let watch := production.watched auto happenings
    (watch.playback.phase = .awaitingChoice →
      ∀ reveal, watch.playback.reveal = some reveal → reveal.progress.finished = true) ∧
    ∀ happening,
      (watch.after happening).playback =
        (watch.asks happening).foldl (Playback.after production) watch.playback ∧
      (∀ operation, .host operation ∈ watch.asks happening →
        (operation = .advance ∨ ∃ index, operation = .choose index) →
        (∀ control, happening ≠ .press ⟨.char 'r', control⟩) →
        watch.session.visibleText = watch.playback.view.body) ∧
      ∀ now, happening = .poll now → watch.asks happening ≠ [] →
        watch.asks happening = [.host .advance] ∧
        watch.playback.phase ≠ .awaitingChoice ∧ watch.playback.phase ≠ .terminated := by
  intro watch
  have sound : watch.Sound production := Watch.Sound.watched production auto happenings
  refine ⟨sound.rested, fun happening => ⟨?_, ?_, ?_⟩⟩
  · rw [watch.after_playback, sound.plays]
  · intro operation asked plays other
    have rest := (sound.asks_patient happening).atRest asked plays other
    exact rest.visibleText sound.whole
  · rintro now rfl asks
    simp only [Watch.asks] at asks ⊢
    split at asks
    · rename_i fires
      have settled := sound.ready_pictures.settled sound.menu sound.whole
        (Screen.settled_of_poll fires)
      exact ⟨if_pos fires, settled.2⟩
    · contradiction

end Playscript
