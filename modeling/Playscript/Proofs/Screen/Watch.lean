import Playscript.Proofs.Playback.Menu
import Playscript.Proofs.Screen.Keys

/-!
Watching a script in the full-screen player. Keys, looks at the clock and moves of the reveal come in
any order; before a key or a look at the clock the picture is brought up to date, and the reveal may
have moved on since. All that is ever done to the playback is what the player asks of it.
-/

namespace Playscript

inductive Happening where
  | tick
  | work
  | sync
  | poll (now : Nat)
  | press (keyPress : KeyPress)
  deriving DecidableEq, Repr

/-- A viewing, and whether its picture was brought up to date since the player last acted. -/
structure Watch where
  viewing : Viewing
  current : Bool

namespace Watch

def screen (watch : Watch) : Screen := watch.viewing.screen

def session (watch : Watch) : Session := watch.viewing.session

def playback (watch : Watch) : Playback := watch.session.playback

def ready (watch : Watch) : Viewing :=
  if watch.current then watch.viewing else watch.viewing.update

def turn (watch : Watch) (moment : Moment) : Watch where
  viewing := ⟨watch.screen, { watch.session with
    playback := watch.playback.after watch.session.production moment }⟩
  current := watch.current

def after (watch : Watch) : Happening → Watch
  | .tick => watch.turn (.host .tick)
  | .work => watch.turn .worker
  | .sync => ⟨watch.viewing.update, true⟩
  | .poll now =>
    let (fired, viewing) := watch.ready.poll now
    ⟨viewing, !fired⟩
  | .press keyPress => ⟨(watch.ready.press keyPress).2, false⟩

def asks (watch : Watch) : Happening → List Moment
  | .tick => [.host .tick]
  | .work => [.worker]
  | .sync => []
  | .poll now =>
    if (watch.ready.screen.poll watch.session.config now).1 then [.host .advance] else []
  | .press keyPress => watch.ready.screen.asks watch.session keyPress

end Watch

namespace Production

def opened (production : Production) : Session := ⟨production, production.opening, .empty⟩

/-- All the ways to watch a script, with automatic playing on or off from the start. -/
def watched (production : Production) (auto : Bool) (happenings : List Happening) : Watch :=
  happenings.foldl Watch.after ⟨(Viewing.opening auto production.opened).2, false⟩

theorem watched_append (production : Production) (auto : Bool) (earlier : List Happening)
    (happening : Happening) : production.watched auto (earlier ++ [happening]) =
      (production.watched auto earlier).after happening :=
  List.foldl_append

end Production

namespace Viewing

theorem poll_cases (viewing : Viewing) (now : Nat) :
    (viewing.screen.poll viewing.session.config now).1 = false ∧
      viewing.poll now =
        (false, ⟨(viewing.screen.poll viewing.session.config now).2, viewing.session⟩) ∨
    (viewing.screen.poll viewing.session.config now).1 = true ∧ ∃ screen,
      viewing.screen.SameMenu screen ∧
      viewing.poll now = (true, ⟨screen, viewing.session.advance.2⟩) := by
  cases fires : (viewing.screen.poll viewing.session.config now).1 with
  | false =>
      refine .inl ⟨rfl, ?_⟩
      simp only [poll, fires, Bool.false_eq_true, if_false]
  | true =>
      refine .inr ⟨rfl, ?_⟩
      simp only [poll, fires, if_true]
      cases viewing.session.advance with
      | mk outcome next =>
          cases outcome with
          | error fault =>
              refine ⟨_, ?_, rfl⟩
              exact ⟨rfl, rfl, rfl⟩
          | ok outcome =>
              refine ⟨_, ?_, rfl⟩
              exact ⟨rfl, rfl, rfl⟩

theorem press_session (viewing : Viewing) (keyPress : KeyPress) :
    (viewing.press keyPress).2.session =
      (viewing.screen.press viewing.session keyPress).session := by
  simp only [press]
  cases (viewing.screen.press viewing.session keyPress).quit <;> rfl

theorem press_sameMenu (viewing : Viewing) (keyPress : KeyPress) :
    (viewing.screen.press viewing.session keyPress).screen.SameMenu
      (viewing.press keyPress).2.screen := by
  simp only [press]
  cases (viewing.screen.press viewing.session keyPress).quit <;> exact ⟨rfl, rfl, rfl⟩

end Viewing

theorem Screen.settled_of_poll {screen : Screen} {config : Config} {now : Nat}
    (fires : (screen.poll config now).1 = true) : screen.settled = true := by
  cases settled : screen.settled with
  | true => rfl
  | false => simp [Screen.poll, AutoPlay.poll, settled] at fires

namespace Watch

theorem ready_session (watch : Watch) : watch.ready.session = watch.session := by
  unfold ready
  split <;> rfl

theorem after_production (watch : Watch) (happening : Happening) :
    (watch.after happening).session.production = watch.session.production := by
  cases happening with
  | tick | work | sync => rfl
  | poll now =>
      rcases watch.ready.poll_cases now with ⟨_, polled⟩ | ⟨_, _, _, polled⟩
      · simp only [after, session, polled]
        rw [ready_session]
        rfl
      · simp only [after, session, polled]
        rw [ready_session]
        rfl
  | press keyPress =>
      have responds := watch.ready.screen.press_responds watch.ready.session keyPress
      simp only [after, session, Viewing.press_session, responds.production]
      rw [ready_session]
      rfl

theorem after_playback (watch : Watch) (happening : Happening) :
    (watch.after happening).playback =
      (watch.asks happening).foldl (Playback.after watch.session.production) watch.playback := by
  cases happening with
  | tick | work | sync => rfl
  | poll now =>
      have same := watch.ready_session
      simp only [asks, ← same]
      rcases watch.ready.poll_cases now with ⟨quiet, polled⟩ | ⟨fires, _, _, polled⟩
      · simp only [after, playback, session, polled, quiet, Bool.false_eq_true, if_false]
        rw [same]
        rfl
      · simp only [after, playback, session, polled, fires, if_true]
        rw [same]
        rfl
  | press keyPress =>
      have responds := watch.ready.screen.press_responds watch.ready.session keyPress
      simp only [after, asks, playback, session, Viewing.press_session, responds.playback]
      rw [ready_session]
      rfl

end Watch
end Playscript
