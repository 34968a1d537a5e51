import Mathlib.Data.List.Induction
import Playscript.Proofs.AutoPlay
import Playscript.Proofs.Screen.Patience

/-!
The hold of the timer while a script is watched. A hold is begun by a look at the clock that meets a
settled line, and runs on while every later look meets a settled line as well.
-/

namespace Playscript

namespace Screen

variable {screen : Screen} {session : Session}

theorem settleOutcome_auto (status : String) (step : Except Fault Outcome × Session) :
    (screen.settleOutcome status step).screen.auto = screen.auto := by
  obtain ⟨outcome, next⟩ := step
  cases outcome <;> rfl

theorem moveSelection_auto {moved : Screen} (same : moved.auto = screen.auto) :
    (screen.moveSelection session moved).screen.auto = screen.auto := by
  unfold moveSelection
  split
  · rfl
  · exact same

theorem confirm_auto (screen : Screen) (session : Session) :
    (screen.confirm session).screen.auto = screen.auto := by
  cases bare : screen.choices.isEmpty with
  | true =>
      simp only [confirm, bare, if_true]
      split
      · rfl
      · split
        · rfl
        · exact settleOutcome_auto _ _
  | false =>
      simp only [confirm, bare, Bool.false_eq_true, if_false]
      split
      · rfl
      · exact settleOutcome_auto _ _

theorem press_auto (screen : Screen) (session : Session) (keyPress : KeyPress) :
    (screen.press session keyPress).screen.auto =
      if keyPress.key = .char 'a' then screen.auto.toggle else screen.auto := by
  obtain ⟨key, control⟩ := keyPress
  cases quit : quits ⟨key, control⟩ with
  | true =>
      have other : key ≠ .char 'a' := by
        rintro rfl
        simp [quits] at quit
      simp only [press, quit, if_true, if_neg other]
  | false =>
      simp only [press, quit, Bool.false_eq_true, if_false]
      split
      · rfl
      · rfl
      · rfl
      · exact settleOutcome_auto _ _
      · exact moveSelection_auto rfl
      · exact moveSelection_auto rfl
      · exact confirm_auto screen session
      · exact confirm_auto screen session
      · rename_i other _ _ _ _ _
        exact (if_neg other).symm

end Screen

namespace Viewing

theorem poll_auto (viewing : Viewing) (now : Nat) : (viewing.poll now).2.screen.auto =
    (viewing.screen.auto.poll viewing.session.config now viewing.screen.settled
      viewing.screen.units).2 := by
  simp only [poll]
  split
  · split <;> rfl
  · rfl

theorem press_auto (viewing : Viewing) (keyPress : KeyPress) :
    (viewing.press keyPress).2.screen.auto =
      if keyPress.key = .char 'a' then viewing.screen.auto.toggle else viewing.screen.auto := by
  rw [← Screen.press_auto viewing.screen viewing.session]
  simp only [press]
  cases (viewing.screen.press viewing.session keyPress).quit <;> rfl

end Viewing

namespace Watch

/-- What holds of each happening of a stretch, in the state in which it happens. -/
def Throughout (property : Watch → Happening → Prop) (watch : Watch) : List Happening → Prop
  | [] => True
  | happening :: rest => property watch happening ∧ Throughout property (watch.after happening) rest

def fires (watch : Watch) (now : Nat) : Bool :=
  (watch.ready.screen.poll watch.session.config now).1

/-- A hold begins with a look at a settled line while none is running. -/
structure Begins (watch : Watch) : Prop where
  enabled : watch.screen.auto = ⟨true, none⟩
  settled : watch.ready.screen.settled = true

def holdOver (watch : Watch) (begun : Nat) : Nat :=
  begun + (watch.session.config.autoPlayHold watch.ready.screen.units).nanoseconds

/-- What leaves a hold running. -/
def Undisturbed (watch : Watch) : Happening → Prop
  | .tick | .work | .sync => True
  | .poll now => watch.ready.screen.settled = true ∧ watch.fires now = false
  | .press keyPress => keyPress.key ≠ .char 'a'

variable {property : Watch → Happening → Prop}

theorem throughout_append (watch : Watch) (before later : List Happening) :
    watch.Throughout property (before ++ later) ↔ watch.Throughout property before ∧
      (before.foldl Watch.after watch).Throughout property later := by
  induction before generalizing watch with
  | nil => simp [Throughout]
  | cons happening rest ih => simp only [List.cons_append, Throughout, ih, and_assoc, List.foldl_cons]

theorem ready_auto (watch : Watch) : watch.ready.screen.auto = watch.screen.auto := by
  unfold ready
  split <;> rfl

theorem polled (watch : Watch) (now : Nat) :
    watch.screen.auto.Polled watch.session.config now watch.ready.screen.settled
      watch.ready.screen.units (watch.fires now, (watch.after (.poll now)).screen.auto) := by
  have told : watch.fires now = (watch.screen.auto.poll watch.session.config now
      watch.ready.screen.settled watch.ready.screen.units).1 := by
    simp only [fires, Screen.poll, ready_auto]
  have done : (watch.after (.poll now)).screen.auto = (watch.screen.auto.poll
      watch.session.config now watch.ready.screen.settled watch.ready.screen.units).2 := by
    have done := watch.ready.poll_auto now
    rw [ready_auto, ready_session] at done
    exact done
  rw [told, done]
  exact watch.screen.auto.poll_polled ..

theorem after_press_auto (watch : Watch) (keyPress : KeyPress) :
    (watch.after (.press keyPress)).screen.auto =
      if keyPress.key = .char 'a' then watch.screen.auto.toggle else watch.screen.auto := by
  have pressed := watch.ready.press_auto keyPress
  rw [ready_auto] at pressed
  exact pressed

theorem after_undisturbed {watch : Watch} {deadline : Nat} {happening : Happening}
    (held : watch.screen.auto = ⟨true, some deadline⟩) (calm : watch.Undisturbed happening) :
    (watch.after happening).screen.auto = ⟨true, some deadline⟩ := by
  cases happening with
  | tick | work | sync => exact held
  | press keyPress => rw [after_press_auto, if_neg calm, held]
  | poll now =>
      obtain ⟨settled, quiet⟩ := calm
      have polled := watch.polled now
      rw [quiet] at polled
      generalize (watch.after (.poll now)).screen.auto = timer at polled ⊢
      cases polled with
      | idle idle => simp [held, settled] at idle
      | begins _ _ unheld => simp [held] at unheld
      | holds => exact held

theorem foldl_undisturbed {watch : Watch} {deadline : Nat} {later : List Happening}
    (held : watch.screen.auto = ⟨true, some deadline⟩) (calm : watch.Throughout Undisturbed later) :
    (later.foldl Watch.after watch).screen.auto = ⟨true, some deadline⟩ := by
  induction later generalizing watch with
  | nil => exact held
  | cons happening rest ih => exact ih (after_undisturbed held calm.1) calm.2

theorem Begins.poll {watch : Watch} (begins : watch.Begins) (begun : Nat) :
    watch.fires begun = false ∧
      (watch.after (.poll begun)).screen.auto = ⟨true, some (watch.holdOver begun)⟩ := by
  have polled := watch.polled begun
  generalize watch.fires begun = fired, (watch.after (.poll begun)).screen.auto = timer at polled ⊢
  cases polled with
  | idle idle => simp [begins.enabled, begins.settled] at idle
  | begins => exact ⟨rfl, rfl⟩
  | holds _ _ held | fires _ _ held => simp [begins.enabled] at held

theorem hold_cases {watch : Watch} {deadline : Nat} {happening : Happening}
    (held : (watch.after happening).screen.auto.holdUntil = some deadline) :
    (watch.screen.auto.holdUntil = some deadline ∧ watch.Undisturbed happening) ∨
      ∃ begun, happening = .poll begun ∧ watch.Begins ∧ watch.holdOver begun = deadline := by
  cases happening with
  | tick | work | sync => exact .inl ⟨held, trivial⟩
  | press keyPress =>
      rw [after_press_auto] at held
      split at held
      · cases held
      · rename_i other
        exact .inl ⟨held, other⟩
  | poll now =>
      have polled := watch.polled now
      generalize told : watch.fires now = fired,
        (watch.after (.poll now)).screen.auto = timer at polled held
      cases polled with
      | idle | fires => cases held
      | begins enabled settled idle =>
          have rest : watch.screen.auto = ⟨true, none⟩ := by rw [← enabled, ← idle]
          exact .inr ⟨now, rfl, ⟨rest, settled⟩, Option.some.inj held⟩
      | holds _ settled => exact .inl ⟨held, settled, told⟩

end Watch

namespace Production

/-- A hold that is running: what came before the look that began it, and what has happened since. -/
structure Holding (production : Production) (auto : Bool) (happenings earlier : List Happening)
    (begun : Nat) (later : List Happening) : Prop where
  split : happenings = earlier ++ .poll begun :: later
  begins : (production.watched auto earlier).Begins
  unbroken : ((production.watched auto earlier).after (.poll begun)).Throughout
    Watch.Undisturbed later

variable {production : Production} {auto : Bool} {happenings earlier later : List Happening}
  {begun : Nat}

theorem watched_of_split (split : happenings = earlier ++ .poll begun :: later) :
    production.watched auto happenings =
      later.foldl Watch.after ((production.watched auto earlier).after (.poll begun)) := by
  rw [split, watched, List.foldl_append]
  rfl

theorem Holding.timer (holding : production.Holding auto happenings earlier begun later) :
    (production.watched auto happenings).screen.auto =
      ⟨true, some ((production.watched auto earlier).holdOver begun)⟩ := by
  rw [watched_of_split holding.split]
  exact Watch.foldl_undisturbed (holding.begins.poll begun).2 holding.unbroken

theorem Holding.extend (holding : production.Holding auto happenings earlier begun later)
    {happening : Happening} (calm : (production.watched auto happenings).Undisturbed happening) :
    production.Holding auto (happenings ++ [happening]) earlier begun (later ++ [happening]) where
  split := by rw [holding.split, List.append_assoc, List.cons_append]
  begins := holding.begins
  unbroken := by
    rw [Watch.throughout_append, ← watched_of_split holding.split]
    exact ⟨holding.unbroken, calm, trivial⟩

/-- The run lemma: whenever the timer holds, the hold was begun by a look and has run on since. -/
theorem holding_of_holdUntil {deadline : Nat}
    (held : (production.watched auto happenings).screen.auto.holdUntil = some deadline) :
    ∃ earlier begun later, production.Holding auto happenings earlier begun later ∧
      (production.watched auto earlier).holdOver begun = deadline := by
  induction happenings using List.reverseRecOn with
  | nil => cases held
  | append_singleton happenings happening ih =>
      rw [watched_append] at held
      rcases Watch.hold_cases held with ⟨before, calm⟩ | ⟨begun, rfl, begins, ends⟩
      · obtain ⟨earlier, begun, later, holding, ends⟩ := ih before
        exact ⟨earlier, begun, later ++ [happening], holding.extend calm, ends⟩
      · exact ⟨happenings, begun, [], ⟨rfl, begins, trivial⟩, ends⟩

/-- The timer fires at a settled line when a hold is over, and never otherwise. -/
theorem fires_iff (now : Nat) : (production.watched auto happenings).fires now = true ↔
    (production.watched auto happenings).ready.screen.settled = true ∧
      ∃ earlier begun later, production.Holding auto happenings earlier begun later ∧
        (production.watched auto earlier).holdOver begun ≤ now := by
  have polled := (production.watched auto happenings).polled now
  constructor
  · intro fired
    rw [fired] at polled
    generalize ((production.watched auto happenings).after (.poll now)).screen.auto = timer at polled
    cases polled with
    | fires _ settled held elapsed =>
        obtain ⟨earlier, begun, later, holding, ends⟩ := holding_of_holdUntil held
        exact ⟨settled, earlier, begun, later, holding, ends ▸ elapsed⟩
  · rintro ⟨settled, earlier, begun, later, holding, elapsed⟩
    have timer := holding.timer
    generalize (production.watched auto happenings).fires now = fired,
      ((production.watched auto happenings).after (.poll now)).screen.auto = next at polled ⊢
    cases polled with
    | idle idle => simp [timer, settled] at idle
    | begins _ _ unheld => simp [timer] at unheld
    | @holds deadline _ _ held early =>
        simp only [timer, Option.some.injEq] at held
        omega
    | fires => rfl

end Production
end Playscript
