import Playscript.Proofs.Playback.Course
import Playscript.Proofs.Playback.Failure
import Playscript.Proofs.Player.LineLoop

/-!
The player that reads lines never goes astray on what is typed. At every step it keeps to the pace
of its input, it chooses only what is pending and offered, and the menu that it asks with is the one
of the session. It ends without a fault, or on a line that is no text, or where the story leads to
no record.
-/

namespace Playscript

def Operation.plays : Operation → Bool
  | .advance | .choose _ => true
  | _ => false

namespace Session

/-- The session offers what a menu lists, and where it fails there is no record at the cursor. -/
def Backs (session : Session) : Except Fault Outcome → Prop
  | .ok (.line ..) | .ok .ended => True
  | .ok (.choices options) =>
    session.playback.phase = .awaitingChoice ∧ session.playback.pending = options
  | .error fault =>
    fault = .addressMissing session.playback.view.cursor ∧
      session.production.graph.contains session.playback.view.cursor = false

theorem advance_backs {session : Session} (playable : session.production.Playable) :
    session.advance.2.Backs session.advance.1 := by
  cases result : session.advance.1 with
  | ok outcome =>
      cases outcome with
      | line | ended => trivial
      | choices options => exact advance_menu (Prod.ext result rfl)
  | error fault =>
      have stays : session.advance.2.playback = session.playback :=
        (Playback.advance_failed result).1
      obtain ⟨_, missing, named⟩ :=
        (Playback.advance_fault_iff playable session.playback fault).mp result
      exact ⟨by rw [stays, named], by rw [stays]; exact missing⟩

theorem choose_backs {session : Session} (playable : session.production.Playable) {index : Nat}
    (awaiting : session.playback.phase = .awaitingChoice)
    (within : index < session.playback.pending.length) :
    (session.choose index).2.Backs (session.choose index).1 := by
  rw [choose_eq_advance awaiting (List.getElem?_eq_getElem within)]
  exact advance_backs playable

end Session

namespace LineMode

theorem lt_length_of_picked {options : List BranchOption} {line : String} {index : Nat}
    (picked : picked? options line = some index) : index < options.length := by
  rw [picked?, Option.filter_eq_some_iff] at picked
  exact of_decide_eq_true picked.2

theorem encodeUtf8_ne_of_unreadable {bytes : List UInt8} (unreadable : inputLine? bytes = none)
    (text : String) : Text.encodeUtf8 text ≠ bytes := by
  rintro rfl
  simp [inputLine?, Text.decodeUtf8?_encodeUtf8] at unreadable

def Prompt.Suits (session : Session) : Prompt → Prop
  | .afterLine => True
  | .atMenu options => session.Backs (.ok (.choices options))

def Place.allowance : Place → Nat
  | .showing none => 0
  | _ => 1

theorem Place.allowance_le (place : Place) : place.allowance ≤ 1 := by
  unfold allowance
  split <;> decide

namespace Loop

/-- What was asked for has led to where the session is, and what was read are the first lines of the
input. -/
structure Track (first : Session) (input : List UInt8) (loop : Loop) : Prop where
  production : loop.session.production = first.production
  played : loop.session.playback = (first.playback.run first.production loop.asked).next
  chosen (earlier : List Operation) (index : Nat) : earlier ++ [.choose index] <+: loop.asked →
    let before := (first.playback.run first.production earlier).next
    before.phase = .awaitingChoice ∧ index < before.pending.length
  lines : loop.read ++ Text.byteLines loop.unread = Text.byteLines input
  bytes : loop.read.flatten ++ loop.unread = input
  lineEnds : loop.unread ≠ [] → ∀ line ∈ loop.read, line.getLast? = some 0x0A

def plays (loop : Loop) : Nat := loop.asked.countP Operation.plays

variable {first : Session} {input : List UInt8} {loop : Loop}

namespace Track

theorem start (title : String) (session : Session) (input : List UInt8) :
    (Loop.start title session input).Track session input where
  production := rfl
  played := rfl
  chosen earlier index asked := by
    have nothing := List.prefix_nil.mp asked
    simp at nothing
  lines := rfl
  bytes := rfl
  lineEnds _ _ listed := absurd listed List.not_mem_nil

theorem goTo (track : loop.Track first input) (place : Place) :
    (loop.goTo place).Track first input :=
  ⟨track.production, track.played, track.chosen, track.lines, track.bytes, track.lineEnds⟩

theorem print (track : loop.Track first input) (text : String) :
    (loop.print text).Track first input :=
  ⟨track.production, track.played, track.chosen, track.lines, track.bytes, track.lineEnds⟩

theorem operate (track : loop.Track first input) {operation : Operation} {next : Session}
    (production : next.production = loop.session.production)
    (performed : next.playback = (loop.session.playback.perform first.production operation).next)
    (offered : ∀ index, operation = .choose index →
      loop.session.playback.phase = .awaitingChoice ∧
        index < loop.session.playback.pending.length) :
    (loop.operate operation next).Track first input where
  production := production.trans track.production
  played := by
    rw [Playback.run_next]
    simp only [Loop.operate, List.map_append, List.foldl_append, ← Playback.run_next,
      ← track.played]
    exact performed
  chosen earlier index asked := by
    rcases List.prefix_concat_iff.mp asked with last | before
    · obtain ⟨rfl, same⟩ := List.append_inj' last rfl
      rw [← track.played]
      exact offered index (List.singleton_inj.mp same).symm
    · exact track.chosen earlier index before
  lines := track.lines
  bytes := track.bytes
  lineEnds := track.lineEnds

theorem take (track : loop.Track first input) (more : loop.unread ≠ []) :
    loop.take.Track first input where
  production := track.production
  played := track.played
  chosen := track.chosen
  lines := by
    rw [← track.lines, Text.byteLines_cut more]
    simp [Loop.take]
  bytes := by
    rw [← track.bytes, ← Text.cutLine_append loop.unread]
    simp [Loop.take, Text.cutLine_append]
  lineEnds left line listed := by
    rcases List.mem_append.mp listed with before | now
    · exact track.lineEnds more line before
    · rw [List.mem_singleton.mp now]
      exact Text.cutLine_ends left

end Track

def Stands (loop : Loop) : Prop :=
  match loop.place with
  | .showing none | .done (.ok ()) => True
  | .showing (some outcome) => loop.session.Backs (.ok outcome)
  | .asking prompt => prompt.Suits loop.session
  | .done (.error fault) =>
    loop.session.Backs (.error fault) ∨ fault = .inputNotUtf8 ∧
      ∃ line, loop.read.getLast? = some line ∧ ∀ text, Text.encodeUtf8 text ≠ line

structure Orderly (first : Session) (input : List UInt8) (loop : Loop) : Prop where
  track : loop.Track first input
  stands : loop.Stands
  pace : loop.plays ≤ loop.read.length + loop.place.allowance

theorem start_orderly (title : String) (session : Session) (input : List UInt8) :
    (Loop.start title session input).Orderly session input :=
  ⟨.start title session input, trivial, Nat.le_refl 0⟩

theorem plays_operate (loop : Loop) (operation : Operation) (next : Session) :
    (loop.operate operation next).plays = loop.plays + if operation.plays then 1 else 0 := by
  simp [plays, operate, List.countP_cons]

theorem tell_orderly (track : loop.Track first input) {outcome : Outcome}
    (backs : loop.session.Backs (.ok outcome)) (pace : loop.plays ≤ loop.read.length + 1) :
    (loop.tell outcome).Orderly first input := by
  cases outcome with
  | line address kind =>
      have skipped : (loop.operate .skip loop.session.skip.2).Track first input :=
        track.operate rfl rfl (by simp)
      have same : (loop.operate .skip loop.session.skip.2).plays = loop.plays :=
        plays_operate loop .skip _
      exact ⟨(skipped.print _).goTo _, trivial, Nat.le_trans (Nat.le_of_eq same) pace⟩
  | choices options => exact ⟨(track.print _).goTo _, backs, pace⟩
  | ended => exact ⟨(track.print _).goTo _, trivial, pace⟩

theorem settle_orderly (track : loop.Track first input) {goOn : Outcome → Loop}
    {result : Except Fault Outcome} (backs : loop.session.Backs result)
    (pace : loop.plays ≤ loop.read.length + 1)
    (goesOn : ∀ outcome, loop.session.Backs (.ok outcome) → (goOn outcome).Orderly first input) :
    (loop.settle goOn result).Orderly first input := by
  cases result with
  | ok outcome => exact goesOn outcome backs
  | error fault => exact ⟨track.goTo _, Or.inl backs, pace⟩

theorem showNext_orderly (playable : first.production.Playable) (track : loop.Track first input)
    (pace : loop.plays ≤ loop.read.length) : loop.showNext.Orderly first input := by
  have backs : loop.session.advance.2.Backs loop.session.advance.1 :=
    Session.advance_backs (by rw [track.production]; exact playable)
  have advanced : (loop.operate .advance loop.session.advance.2).Track first input :=
    track.operate rfl (by rw [← track.production]; rfl) (by simp)
  have grown : (loop.operate .advance loop.session.advance.2).plays ≤ loop.read.length + 1 := by
    rw [plays_operate]
    exact Nat.succ_le_succ pace
  exact settle_orderly advanced backs grown fun outcome told => tell_orderly advanced told grown

theorem choose_orderly (playable : first.production.Playable) (track : loop.Track first input)
    (pace : loop.plays ≤ loop.read.length) {index : Nat}
    (awaiting : loop.session.playback.phase = .awaitingChoice)
    (within : index < loop.session.playback.pending.length) :
    (loop.choose index).Orderly first input := by
  have backs : (loop.session.choose index).2.Backs (loop.session.choose index).1 :=
    Session.choose_backs (by rw [track.production]; exact playable) awaiting within
  have chosen : (loop.operate (.choose index) (loop.session.choose index).2).Track first input := by
    refine track.operate rfl ?_ ?_
    · rw [← track.production]
      rfl
    · rintro _ ⟨⟩
      exact ⟨awaiting, within⟩
  have grown : (loop.operate (.choose index) (loop.session.choose index).2).plays ≤
      loop.read.length + 1 := by
    rw [plays_operate]
    exact Nat.succ_le_succ pace
  exact settle_orderly chosen backs grown fun outcome told => ⟨chosen.goTo _, told, grown⟩

theorem heed_orderly (playable : first.production.Playable) (track : loop.Track first input)
    (pace : loop.plays ≤ loop.read.length) {prompt : Prompt}
    (suits : prompt.Suits loop.session) (line : String) :
    (loop.heed prompt line).Orderly first input := by
  have within : loop.plays ≤ loop.read.length + 1 := Nat.le_succ_of_le pace
  have heard := command_heard loop.session line
  unfold heed
  generalize command loop.session line = response at heard ⊢
  cases heard with
  | informed lines => exact ⟨(track.print _).goTo _, suits, within⟩
  | restarted =>
      have again : (loop.operate .restart loop.session.restart).Track first input :=
        track.operate rfl (by rw [← track.production]; rfl) (by simp)
      have same : (loop.operate .restart loop.session.restart).plays = loop.plays :=
        plays_operate loop .restart _
      exact ⟨(again.print _).goTo _, trivial, Nat.le_trans (Nat.le_of_eq same) pace⟩
  | left => exact ⟨(track.print _).goTo _, trivial, within⟩
  | other =>
      cases prompt with
      | afterLine => exact ⟨track.goTo _, trivial, pace⟩
      | atMenu options =>
          dsimp only
          cases picks : picked? options line with
          | none => exact ⟨(track.print _).goTo _, suits, within⟩
          | some index =>
              -- The options are those of the session, so the number is one of them there too.
              obtain ⟨awaiting, rfl⟩ : loop.session.Backs (.ok (.choices options)) := suits
              exact choose_orderly playable track pace awaiting (lt_length_of_picked picks)

theorem ask_orderly (playable : first.production.Playable) (track : loop.Track first input)
    (pace : loop.plays ≤ loop.read.length + 1) {prompt : Prompt}
    (suits : prompt.Suits loop.session) : (loop.ask prompt).Orderly first input := by
  by_cases ended : loop.unread = []
  · simp only [ask, ended, if_true]
    exact ⟨(track.print _).goTo _, trivial, pace⟩
  · have taken : (loop.print prompt.text).take.Track first input := (track.print _).take ended
    have read : (loop.print prompt.text).take.read = loop.read ++ [(Text.cutLine loop.unread).1] :=
      rfl
    have afterLine : (loop.print prompt.text).take.plays ≤
        (loop.print prompt.text).take.read.length := by
      rw [read, List.length_append]
      exact pace
    simp only [ask, ended, if_false]
    cases readable : inputLine? (Text.cutLine loop.unread).1 with
    | some line => exact heed_orderly playable taken afterLine suits line
    | none =>
        refine ⟨taken.goTo _, Or.inr ⟨rfl, _, ?_, encodeUtf8_ne_of_unreadable readable⟩,
          Nat.le_succ_of_le afterLine⟩
        exact (congrArg List.getLast? read).trans List.getLast?_concat

theorem Orderly.step (playable : first.production.Playable) (orderly : loop.Orderly first input) :
    loop.step.Orderly first input := by
  obtain ⟨track, stands, pace⟩ := orderly
  obtain ⟨place, session, printed, unread, read, asked⟩ := loop
  cases place with
  | showing told =>
      cases told with
      | none => exact showNext_orderly playable track pace
      | some outcome => exact tell_orderly track stands pace
  | asking prompt => exact ask_orderly playable track pace stands
  | done result => exact ⟨track, stands, pace⟩

theorem Orderly.after (playable : first.production.Playable) (orderly : loop.Orderly first input)
    (steps : Nat) : (loop.after steps).Orderly first input := by
  induction steps with
  | zero => exact orderly
  | succ steps ih => exact ih.step playable

theorem choose_ne_asking (loop : Loop) (index : Nat) (prompt : Prompt) :
    (loop.choose index).place ≠ .asking prompt := by
  unfold choose
  cases loop.session.choose index with
  | mk result next => cases result <;> simp [settle, goTo]

theorem heed_again {prompt next : Prompt} {line : String}
    (again : (loop.heed prompt line).place = .asking next) :
    next = prompt ∧ (loop.heed prompt line).session = loop.session := by
  have heard := command_heard loop.session line
  unfold heed at again ⊢
  generalize command loop.session line = response at heard again ⊢
  cases heard with
  | informed => exact ⟨(Place.asking.inj again).symm, rfl⟩
  | restarted | left => simp [goTo] at again
  | other =>
      cases prompt with
      | afterLine => simp [goTo] at again
      | atMenu options =>
          dsimp only at again ⊢
          cases picks : picked? options line with
          | some index =>
              rw [picks] at again
              exact absurd again (loop.choose_ne_asking index next)
          | none =>
              rw [picks] at again
              exact ⟨(Place.asking.inj again).symm, rfl⟩

theorem heed_refused (loop : Loop) {options : List BranchOption} {line : String}
    (plain : (command loop.session line).1 = .notHandled) (refused : picked? options line = none) :
    loop.heed (.atMenu options) line =
      (loop.print (unlines ["invalid choice: " ++ line])).goTo (.asking (.atMenu options)) := by
  have heard := command_heard loop.session line
  unfold heed
  generalize command loop.session line = response at heard plain ⊢
  cases heard with
  | informed | restarted | left => simp at plain
  | other => simp only [refused]

theorem ask_again {prompt next : Prompt} (again : (loop.ask prompt).place = .asking next) :
    next = prompt ∧ (loop.ask prompt).session = loop.session := by
  by_cases ended : loop.unread = []
  · simp [ask, ended, goTo] at again
  · simp only [ask, ended, if_false] at again ⊢
    cases readable : inputLine? (Text.cutLine loop.unread).1 with
    | none => simp [readable, goTo] at again
    | some line =>
        simp only [readable] at again ⊢
        exact heed_again again

theorem step_refused {options : List BranchOption} {line : String}
    (asking : loop.place = .asking (.atMenu options)) (more : loop.unread ≠ [])
    (readable : inputLine? (Text.cutLine loop.unread).1 = some line)
    (plain : (command loop.session line).1 = .notHandled) (refused : picked? options line = none) :
    loop.step.place = loop.place ∧ loop.step.session = loop.session := by
  have heeded : (loop.print (Prompt.atMenu options).text).take.heed (.atMenu options) line = _ :=
    heed_refused _ plain refused
  simp only [step, asking, ask, more, if_false, readable, heeded]
  exact ⟨rfl, rfl⟩

/-- All that the player keeps to as it goes round. -/
structure InOrder (first : Session) (input : List UInt8) (loop : Loop) : Prop
    extends loop.Track first input where
  pace : loop.plays ≤ loop.read.length + 1
  menu (options : List BranchOption) : loop.place = .asking (.atMenu options) →
    loop.session.playback.phase = .awaitingChoice ∧ loop.session.playback.pending = options
  again (options : List BranchOption) (next : Prompt) : loop.place = .asking (.atMenu options) →
    loop.step.place = .asking next → next = .atMenu options ∧ loop.step.session = loop.session
  refused (options : List BranchOption) (line : String) :
    loop.place = .asking (.atMenu options) → loop.unread ≠ [] →
    inputLine? (Text.cutLine loop.unread).1 = some line →
    (command loop.session line).1 = .notHandled → picked? options line = none →
    loop.step.place = loop.place ∧ loop.step.session = loop.session
  failed (fault : Fault) : loop.place = .done (.error fault) →
    (fault.code = "TUI_IO" ∧
      ∃ line, loop.read.getLast? = some line ∧ ∀ text, Text.encodeUtf8 text ≠ line) ∨
    (fault.code = "ENGINE_ADDRESS_NOT_FOUND" ∧
      first.production.graph.contains loop.session.playback.view.cursor = false)

theorem Orderly.inOrder (orderly : loop.Orderly first input) : loop.InOrder first input := by
  obtain ⟨track, stands, pace⟩ := orderly
  refine ⟨track, ?_, ?_, ?_, fun _ _ => step_refused, ?_⟩
  · exact Nat.le_trans pace (Nat.add_le_add_left loop.place.allowance_le _)
  · intro options asking
    rw [Stands, asking] at stands
    exact stands
  · intro options next asking again
    simp only [Loop.step, asking] at again ⊢
    exact ask_again again
  · intro fault stopped
    rw [Stands, stopped] at stands
    rcases stands with ⟨rfl, missing⟩ | ⟨rfl, unreadable⟩
    · right
      rw [← track.production]
      exact ⟨rfl, missing⟩
    · exact Or.inl ⟨rfl, unreadable⟩

end Loop
end LineMode

/-- Whatever is typed, the player is in order at every step and comes to an end. -/
theorem lineMode_staysInOrder {text : String} {request : Request} {session : Session}
    (made : Production.ofText text request = .ok session.production) (title : String)
    (input : List UInt8) :
    let start := LineMode.Loop.start title session input
    let last := start.after (2 * input.length + 2)
    (∃ result, last.place = .done result ∧ LineMode.play title session input =
      ⟨last.printed, last.asked, result, last.session, Text.byteLines last.unread⟩) ∧
    ∀ steps, (start.after steps).InOrder session input := by
  intro start last
  have playable := Production.ofText_playable made
  have orderly := LineMode.Loop.start_orderly title session input
  refine ⟨?_, fun steps => (orderly.after playable steps).inOrder⟩
  obtain ⟨result, stopped⟩ : ∃ result, last.place = .done result := start.after_ends
  refine ⟨result, stopped, ?_⟩
  rw [← LineMode.Loop.start_outlook, ← start.after_outlook (2 * input.length + 2)]
  change last.outlook = _
  rw [LineMode.Loop.outlook, stopped]

def crossroadsPlayer : Session := ⟨crossroads, crossroads.opening, .empty⟩

theorem lineMode_atCrossroads :
    let input : List UInt8 := [0x0A, 0x39, 0x0A, 0x31, 0x0A]
    let asking := (LineMode.Loop.start "crossroads" crossroadsPlayer input).after 3
    let finished := LineMode.play "crossroads" crossroadsPlayer input
    Production.ofText (crossroadsText "9") { cast := crossroads.cast } = .ok crossroads ∧
    asking.place = .asking (.atMenu [⟨0, 2, "Left", 4⟩, ⟨1, 3, "Right", 9⟩]) ∧
    asking.step.place = asking.place ∧ asking.step.session = asking.session ∧
    finished.result = .error (.addressMissing 9) ∧ finished.unread = [] := by
  intro input asking finished
  have made : Production.ofText (crossroadsText "9") { cast := crossroads.cast } =
      .ok crossroadsPlayer.production := rfl
  obtain ⟨_, inOrder⟩ := lineMode_staysInOrder made "crossroads" input
  have menu : asking.place = .asking (.atMenu [⟨0, 2, "Left", 4⟩, ⟨1, 3, "Right", 9⟩]) := by
    decide +kernel
  obtain ⟨samePlace, sameSession⟩ := (inOrder 3).refused _ "9" menu (by decide +kernel)
    (by decide +kernel) (by decide +kernel) (by decide +kernel)
  refine ⟨made, menu, samePlace, sameSession, ?_, ?_⟩
  · decide +kernel
  · decide +kernel

def curtain : Production :=
  { crossroads with graph := ⟨[⟨1, "END", "", "", none, "default"⟩], by unfold Ascending; decide⟩ }

/-- A story may be over before a line is read, and then what is left starts after no line end. -/
theorem lineMode_atCurtain :
    let input : List UInt8 := [0x61, 0x62, 0x63]
    let finished := LineMode.play "curtain" ⟨curtain, curtain.opening, .empty⟩ input
    Production.ofText "at,tag,who,what,next\n1,END,,," { cast := crossroads.cast } = .ok curtain ∧
    finished.result = .ok () ∧ finished.unread = [input] ∧
    ¬(finished.unread.flatten = [] ∨
      ∃ before, before ++ [0x0A] ++ finished.unread.flatten = input) := by
  intro input finished
  have left : finished.unread = [input] := by decide +kernel
  refine ⟨rfl, by decide +kernel, left, ?_⟩
  rw [left]
  rintro (nothing | ⟨before, whole⟩)
  · contradiction
  · have longer := congrArg List.length whole
    simp at longer
    omega

end Playscript
