import Playscript.Proofs.Player.LineMode

/-!
The player that reads lines, taken as the loops that it goes round in. A loop reads a line from the
bytes that are left only when it asks, and it keeps account of the lines that it has read and of the
operations that it has asked of its session. It always comes to an end, and there it has played what
the turns of `LineMode.play` play.
-/

namespace Playscript.LineMode

/-- Where the player is: about to show what comes next, about to ask, or done. -/
inductive Place where
  | showing (told : Option Outcome)
  | asking (prompt : Prompt)
  | done (result : Except Fault Unit)
  deriving DecidableEq

structure Loop where
  place : Place
  session : Session
  printed : String
  unread : List UInt8
  read : List (List UInt8) := []
  asked : List Operation := []

namespace Loop

def start (title : String) (session : Session) (input : List UInt8) : Loop where
  place := .showing none
  session := session
  printed := banner title
  unread := input

def goTo (loop : Loop) (place : Place) : Loop := { loop with place := place }

def print (loop : Loop) (text : String) : Loop := { loop with printed := loop.printed ++ text }

def operate (loop : Loop) (operation : Operation) (next : Session) : Loop :=
  { loop with session := next, asked := loop.asked ++ [operation] }

def take (loop : Loop) : Loop :=
  let (line, rest) := Text.cutLine loop.unread
  { loop with unread := rest, read := loop.read ++ [line] }

def tell (loop : Loop) : Outcome → Loop
  | .line .. =>
    let shown := loop.operate .skip loop.session.skip.2
    (shown.print (lineText shown.session.playback.view)).goTo (.asking .afterLine)
  | .choices options => (loop.print (menuText options)).goTo (.asking (.atMenu options))
  | .ended => (loop.print endText).goTo (.done (.ok ()))

/-- Goes on with what an operation has given, if it has given something. -/
def settle (loop : Loop) (goOn : Outcome → Loop) : Except Fault Outcome → Loop
  | .error fault => loop.goTo (.done (.error fault))
  | .ok outcome => goOn outcome

def showNext (loop : Loop) : Loop :=
  let (result, session) := loop.session.advance
  let next := loop.operate .advance session
  next.settle next.tell result

def choose (loop : Loop) (index : Nat) : Loop :=
  let (result, session) := loop.session.choose index
  let next := loop.operate (.choose index) session
  next.settle (fun outcome => next.goTo (.showing (some outcome))) result

/-- Does what a line asks for. -/
def heed (loop : Loop) (prompt : Prompt) (line : String) : Loop :=
  match command loop.session line with
  | (.askAgain, lines, _) => (loop.print (unlines lines)).goTo (.asking prompt)
  | (.quit, lines, _) => (loop.print (unlines lines)).goTo (.done (.ok ()))
  | (.showNext, lines, session) =>
    ((loop.operate .restart session).print (unlines lines)).goTo (.showing none)
  | (.notHandled, _, _) =>
    match prompt with
    | .afterLine => loop.goTo (.showing none)
    | .atMenu options =>
      match picked? options line with
      | some index => loop.choose index
      | none => (loop.print (unlines ["invalid choice: " ++ line])).goTo (.asking prompt)

def ask (loop : Loop) (prompt : Prompt) : Loop :=
  let asking := loop.print prompt.text
  if loop.unread = [] then asking.goTo (.done (.ok ()))
  else
    match inputLine? (Text.cutLine loop.unread).1 with
    | none => asking.take.goTo (.done (.error .inputNotUtf8))
    | some line => asking.take.heed prompt line

def step (loop : Loop) : Loop :=
  match loop.place with
  | .showing none => loop.showNext
  | .showing (some outcome) => loop.tell outcome
  | .asking prompt => loop.ask prompt
  | .done _ => loop

def after (loop : Loop) : Nat → Loop
  | 0 => loop
  | steps + 1 => (loop.after steps).step

def before (loop : Loop) (rest : Finished) : Finished :=
  (rest.after loop.printed).calling loop.asked

/-- What a session comes to from here on, when it is played in turns. -/
def outlook (loop : Loop) : Finished :=
  let lines := Text.byteLines loop.unread
  match loop.place with
  | .showing none => loop.before (goOn (LineMode.showNext loop.session) lines)
  | .showing (some outcome) => loop.before (goOn (showOutcome loop.session (.ok outcome)) lines)
  | .asking prompt => loop.before (goOn (Turn.ask "" loop.session prompt) lines)
  | .done result => ⟨loop.printed, loop.asked, result, loop.session, lines⟩

end Loop

theorem goOn_close (printed : String) (session : Session) (result : Except Fault Unit)
    (lines : List (List UInt8)) :
    goOn (Turn.close printed session result) lines = ⟨printed, [], result, session, lines⟩ := by
  cases lines <;> rfl

theorem goOn_after (text : String) (turn : Turn) (lines : List (List UInt8)) :
    goOn (turn.after text) lines = (goOn turn lines).after text := by
  obtain ⟨printed, calls, session, standing⟩ := turn
  cases lines with
  | nil => cases standing <;> rfl
  | cons line rest =>
      cases standing with
      | asking prompt =>
          exact congrArg (Finished.calling calls) (Finished.after_after _ text printed).symm
      | _ => rfl

theorem goOn_ask_eq (printed : String) (session : Session) (prompt : Prompt)
    (lines : List (List UInt8)) :
    goOn (Turn.ask printed session prompt) lines =
      (goOn (Turn.ask "" session prompt) lines).after printed := by
  rw [← goOn_after]
  simp [Turn.ask, Turn.after]

inductive Heard (session : Session) : Action × List String × Session → Prop
  | informed (lines : List String) : Heard session (.askAgain, lines, session)
  | restarted : Heard session (.showNext, ["restarted"], session.restart)
  | left : Heard session (.quit, ["bye"], session)
  | other : Heard session (.notHandled, [], session)

theorem command_heard (session : Session) (line : String) :
    Heard session (command session line) := by
  unfold command
  split
  · exact .informed _
  · exact .informed _
  · exact .restarted
  · exact .left
  · exact .other

namespace Loop

theorem before_after (loop : Loop) (text : String) (rest : Finished) :
    loop.before (rest.after text) = (loop.print text).before rest := by
  rw [before, Finished.after_after]
  rfl

theorem before_calling (loop : Loop) (operation : Operation) (next : Session) (rest : Finished) :
    loop.before (rest.calling [operation]) = (loop.operate operation next).before rest := by
  rw [before, Finished.after_calling, Finished.calling_calling]
  rfl

theorem before_close (loop : Loop) (printed : String) (result : Except Fault Unit)
    (lines : List (List UInt8)) :
    loop.before (goOn (Turn.close printed loop.session result) lines) =
      ⟨loop.printed ++ printed, loop.asked, result, loop.session, lines⟩ := by
  simp [goOn_close, before, Finished.after, Finished.calling]

theorem close_outlook (loop : Loop) (result : Except Fault Unit) :
    (loop.goTo (.done result)).outlook =
      loop.before (goOn (Turn.close "" loop.session result) (Text.byteLines loop.unread)) := by
  rw [before_close, String.append_empty]
  rfl

theorem tell_outlook (loop : Loop) (outcome : Outcome) :
    (loop.tell outcome).outlook = loop.before (goOn (showOutcome loop.session (.ok outcome))
      (Text.byteLines loop.unread)) := by
  cases outcome with
  | line address kind =>
      simp only [tell, showOutcome]
      rw [goOn_calling, goOn_ask_eq, before_calling loop .skip loop.session.skip.2, before_after]
      rfl
  | choices options =>
      simp only [tell, showOutcome]
      rw [goOn_ask_eq, before_after]
      rfl
  | ended =>
      simp only [tell, showOutcome, before_close]
      rfl

theorem showNext_outlook (loop : Loop) :
    loop.showNext.outlook = loop.before (goOn (LineMode.showNext loop.session)
      (Text.byteLines loop.unread)) := by
  cases advanced : loop.session.advance with
  | mk result next =>
      simp only [showNext, LineMode.showNext, advanced]
      rw [goOn_calling, before_calling loop .advance next]
      cases result with
      | ok outcome => exact tell_outlook (loop.operate .advance next) outcome
      | error fault => exact (loop.operate .advance next).close_outlook (.error fault)

theorem choose_outlook (loop : Loop) (index : Nat) :
    (loop.choose index).outlook =
      loop.before (goOn ((showOutcome (loop.session.choose index).2
        (loop.session.choose index).1).calling [.choose index]) (Text.byteLines loop.unread)) := by
  cases chosen : loop.session.choose index with
  | mk result next =>
      simp only [choose, chosen]
      rw [goOn_calling, before_calling loop (.choose index) next]
      cases result with
      | ok outcome => rfl
      | error fault => exact (loop.operate (.choose index) next).close_outlook (.error fault)

theorem heed_outlook (loop : Loop) (prompt : Prompt) (line : String) :
    (loop.heed prompt line).outlook = loop.before (goOn (answer loop.session prompt line)
      (Text.byteLines loop.unread)) := by
  have heard := command_heard loop.session line
  unfold heed answer
  generalize command loop.session line = response at heard ⊢
  cases heard with
  | informed lines =>
      dsimp only
      rw [goOn_ask_eq, before_after]
      rfl
  | restarted =>
      dsimp only
      rw [goOn_calling, before_calling loop .restart loop.session.restart, goOn_after, before_after]
      rfl
  | left =>
      simp only [before_close]
      rfl
  | other =>
      cases prompt with
      | afterLine => rfl
      | atMenu options =>
          simp only [answerMenu]
          cases picked? options line with
          | some index => exact loop.choose_outlook index
          | none =>
              dsimp only
              rw [goOn_ask_eq, before_after]
              rfl

theorem ask_outlook (loop : Loop) (prompt : Prompt) :
    (loop.ask prompt).outlook = loop.before (goOn (Turn.ask "" loop.session prompt)
      (Text.byteLines loop.unread)) := by
  by_cases ended : loop.unread = []
  · simp [ask, ended, outlook, goTo, print, Text.byteLines, goOn, Turn.ask, before, Finished.after,
      Finished.calling]
  · have asks : goOn (Turn.ask "" loop.session prompt) (Text.byteLines loop.unread) =
        (goOn (answerBytes loop.session prompt (Text.cutLine loop.unread).1)
          (Text.byteLines (Text.cutLine loop.unread).2)).after prompt.text := by
      rw [Text.byteLines_cut ended, goOn_ask, String.empty_append]
    rw [asks, before_after]
    simp only [ask, ended, if_false, answerBytes]
    cases inputLine? (Text.cutLine loop.unread).1 with
    | none => exact (loop.print prompt.text).take.close_outlook (.error .inputNotUtf8)
    | some line => exact heed_outlook (loop.print prompt.text).take prompt line

/-- The step lemma: going round a loop does not change what the session comes to. -/
theorem step_outlook (loop : Loop) : loop.step.outlook = loop.outlook := by
  obtain ⟨place, session, printed, unread, read, asked⟩ := loop
  cases place with
  | showing told =>
      cases told with
      | none => exact showNext_outlook _
      | some outcome => exact tell_outlook _ outcome
  | asking prompt => exact ask_outlook _ prompt
  | done result => rfl

theorem after_outlook (loop : Loop) (steps : Nat) : (loop.after steps).outlook = loop.outlook := by
  induction steps with
  | zero => rfl
  | succ steps ih => rw [after, step_outlook, ih]

theorem start_outlook (title : String) (session : Session) (input : List UInt8) :
    (start title session input).outlook = play title session input :=
  rfl

def rank (loop : Loop) : Nat :=
  match loop.place with
  | .showing _ => 2 * loop.unread.length + 2
  | .asking _ => 2 * loop.unread.length + 1
  | .done _ => 0

theorem take_unread_lt {loop : Loop} (more : loop.unread ≠ []) :
    loop.take.unread.length < loop.unread.length := by
  have line := List.length_pos_of_ne_nil fun none =>
    more ((Text.cutLine_eq_nil_iff loop.unread).mp none)
  have whole := congrArg List.length (Text.cutLine_append loop.unread)
  rw [List.length_append] at whole
  change (Text.cutLine loop.unread).2.length < loop.unread.length
  omega

theorem tell_rank (loop : Loop) (outcome : Outcome) :
    (loop.tell outcome).rank ≤ 2 * loop.unread.length + 1 := by
  cases outcome with
  | line | choices => exact Nat.le_refl _
  | ended => exact Nat.zero_le _

theorem showNext_rank (loop : Loop) : loop.showNext.rank ≤ 2 * loop.unread.length + 1 := by
  unfold showNext
  cases loop.session.advance with
  | mk result next =>
      cases result with
      | ok outcome => exact tell_rank (loop.operate .advance next) outcome
      | error fault => exact Nat.zero_le _

theorem choose_rank (loop : Loop) (index : Nat) :
    (loop.choose index).rank ≤ 2 * loop.unread.length + 2 := by
  unfold choose
  cases loop.session.choose index with
  | mk result next =>
      cases result with
      | ok outcome => exact Nat.le_refl _
      | error fault => exact Nat.zero_le _

theorem heed_rank (loop : Loop) (prompt : Prompt) (line : String) :
    (loop.heed prompt line).rank ≤ 2 * loop.unread.length + 2 := by
  have heard := command_heard loop.session line
  unfold heed
  generalize command loop.session line = response at heard ⊢
  cases heard with
  | informed => exact Nat.le_succ _
  | restarted => exact Nat.le_refl _
  | left => exact Nat.zero_le _
  | other =>
      cases prompt with
      | afterLine => exact Nat.le_refl _
      | atMenu options =>
          dsimp only
          cases picked? options line with
          | some index => exact loop.choose_rank index
          | none => exact Nat.le_succ _

theorem ask_rank (loop : Loop) (prompt : Prompt) :
    (loop.ask prompt).rank ≤ 2 * loop.unread.length := by
  by_cases ended : loop.unread = []
  · simp only [ask, ended, if_true]
    exact Nat.zero_le _
  · simp only [ask, ended, if_false]
    have shorter : (loop.print prompt.text).take.unread.length < loop.unread.length :=
      take_unread_lt ended
    cases inputLine? (Text.cutLine loop.unread).1 with
    | none => exact Nat.zero_le _
    | some line =>
        have heeded := (loop.print prompt.text).take.heed_rank prompt line
        dsimp only
        omega

theorem step_rank (loop : Loop) :
    (∃ result, loop.place = .done result) ∨ loop.step.rank < loop.rank := by
  obtain ⟨place, session, printed, unread, read, asked⟩ := loop
  cases place with
  | showing told =>
      right
      cases told with
      | none => exact Nat.lt_succ_of_le (showNext_rank _)
      | some outcome => exact Nat.lt_succ_of_le (tell_rank _ outcome)
  | asking prompt => exact Or.inr (Nat.lt_succ_of_le (ask_rank _ prompt))
  | done result => exact Or.inl ⟨result, rfl⟩

theorem after_rank (loop : Loop) (steps : Nat) :
    (∃ result, (loop.after steps).place = .done result) ∨
      (loop.after steps).rank + steps ≤ loop.rank := by
  induction steps with
  | zero => exact Or.inr (Nat.le_refl _)
  | succ steps ih =>
      rw [after]
      rcases ih with ⟨result, done⟩ | spent
      · left
        exact ⟨result, by simp only [step, done]⟩
      · rcases (loop.after steps).step_rank with ⟨result, done⟩ | less
        · left
          exact ⟨result, by simp only [step, done]⟩
        · right
          omega

/-- The run lemma: however the session goes, the player comes to an end. -/
theorem after_ends (loop : Loop) : ∃ result, (loop.after loop.rank).place = .done result := by
  rcases loop.after_rank loop.rank with done | spent
  · exact done
  · have nothing : (loop.after loop.rank).rank = 0 := by omega
    generalize loop.after loop.rank = final at nothing ⊢
    obtain ⟨place, session, printed, unread, read, asked⟩ := final
    cases place with
    | showing | asking => simp [rank] at nothing
    | done result => exact ⟨result, rfl⟩

end Loop

end Playscript.LineMode
