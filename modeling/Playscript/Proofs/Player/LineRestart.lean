import Playscript.Proofs.Player.LineOrder

/-!
A restart that is typed. Wherever the player asks, it leaves nothing behind of what was played
before: from there on the player goes on as it does when it has just begun.
-/

namespace Playscript

theorem Session.openSource_playable {mode : RevealMode} {source : Source} {session : Session}
    (opened : Session.openSource mode source = .ok session) : session.production.Playable := by
  obtain ⟨_, made, rfl⟩ := (Session.openSource_eq_ok_iff mode source session).mp opened
  exact Production.ofText_playable made

theorem Session.restart_of_opened {mode : RevealMode} {source : Source} {session played : Session}
    (opened : Session.openSource mode source = .ok session)
    (production : played.production = session.production) : played.restart = session := by
  obtain ⟨_, _, rfl⟩ := (Session.openSource_eq_ok_iff mode source session).mp opened
  simp [Session.restart, production]

namespace LineMode

theorem command_restart {line : String} (typed : Text.trim line = ":restart") (session : Session) :
    command session line = (.showNext, ["restarted"], session.restart) := by
  unfold command
  rw [typed]
  rfl

theorem answerBytes_restart {bytes : List UInt8} {line : String}
    (readable : inputLine? bytes = some line) (typed : Text.trim line = ":restart")
    (session : Session) (prompt : Prompt) :
    answerBytes session prompt bytes =
      ((showNext session.restart).after (unlines ["restarted"])).calling [.restart] := by
  simp only [answerBytes, readable, answer, command_restart typed]

namespace Loop

theorem outlook_restart {loop : Loop} {prompt : Prompt} {bytes rest : List UInt8} {line : String}
    (asking : loop.place = .asking prompt) (cut : Text.cutLine loop.unread = (bytes, rest))
    (readable : inputLine? bytes = some line) (typed : Text.trim line = ":restart") :
    loop.outlook =
      ((goOn (LineMode.showNext loop.session.restart) (Text.byteLines rest)).after
        (loop.printed ++ prompt.text ++ unlines ["restarted"])).calling
          (loop.asked ++ [.restart]) := by
  have more : loop.unread ≠ [] := by
    intro nothing
    rw [nothing] at cut
    obtain ⟨rfl, rfl⟩ := Prod.mk.inj cut
    obtain rfl : "" = line := Option.some.inj readable
    exact absurd typed (by decide)
  have lines : Text.byteLines loop.unread = bytes :: Text.byteLines rest := by
    rw [Text.byteLines_cut more, cut]
  simp only [outlook, asking, lines]
  rw [goOn_ask, answerBytes_restart readable typed, goOn_calling, goOn_after, String.empty_append,
    Finished.after_calling, before, Finished.after_calling, Finished.calling_calling,
    Finished.after_after, Finished.after_after]

end Loop
end LineMode

/-- A restart that is typed at any prompt begins a new session, fed with only the rest of the input.
-/
theorem typedRestart_beginsAnew {mode : RevealMode} {source : Source} {session : Session}
    (opened : Session.openSource mode source = .ok session) (title : String)
    (input : List UInt8) (steps : Nat) {prompt : LineMode.Prompt} {bytes rest : List UInt8}
    {line : String} :
    let loop := (LineMode.Loop.start title session input).after steps
    let finished := LineMode.play title session input
    let fresh := LineMode.play title session rest
    loop.place = .asking prompt → Text.cutLine loop.unread = (bytes, rest) →
    LineMode.inputLine? bytes = some line → Text.trim line = ":restart" →
    loop.read.flatten ++ bytes ++ rest = input ∧
    ∃ later, fresh.printed = LineMode.banner title ++ later ∧
      finished.printed = loop.printed ++ prompt.text ++ LineMode.unlines ["restarted"] ++ later ∧
      finished.calls = loop.asked ++ .restart :: fresh.calls ∧
      finished.result = fresh.result ∧ finished.session = fresh.session ∧
      finished.unread = fresh.unread := by
  intro loop finished fresh asking cut readable typed
  have orderly := LineMode.Loop.start_orderly title session input
  have track := (orderly.after (Session.openSource_playable opened) steps).track
  have anew : loop.session.restart = session := Session.restart_of_opened opened track.production
  have played : finished =
      ((LineMode.goOn (LineMode.showNext session) (Text.byteLines rest)).after
        (loop.printed ++ prompt.text ++ LineMode.unlines ["restarted"])).calling
          (loop.asked ++ [.restart]) := by
    rw [← anew, ← LineMode.Loop.outlook_restart asking cut readable typed]
    exact ((LineMode.Loop.start title session input).after_outlook steps).symm
  have whole : loop.read.flatten ++ bytes ++ rest = input := by
    have unread := Text.cutLine_append loop.unread
    rw [cut] at unread
    rw [List.append_assoc, unread, track.bytes]
  refine ⟨whole, (LineMode.goOn (LineMode.showNext session) (Text.byteLines rest)).printed, rfl, ?_⟩
  rw [played]
  exact ⟨rfl, by simp [fresh, LineMode.play, LineMode.Finished.calling, LineMode.Finished.after],
    rfl, rfl, rfl⟩

theorem typedRestart_atDetour :
    let typed : List UInt8 :=
      [0x3A, 0x72, 0x65, 0x73, 0x74, 0x61, 0x72, 0x74, 0x20, 0x0D, 0x0A]
    let input := [0x0A, 0x0A, 0x37, 0x0A] ++ typed ++ [0x0A, 0x0A, 0x31, 0x0A]
    let loop := (LineMode.Loop.start "detour" detourSession input).after 6
    let finished := LineMode.play "detour" detourSession input
    let fresh := LineMode.play "detour" detourSession [0x0A, 0x0A, 0x31, 0x0A]
    Session.openSource .manual detour = .ok detourSession ∧
    loop.place = .asking (.atMenu [⟨0, 3, "Wait", 10⟩, ⟨1, 4, "Go", 20⟩]) ∧
    Text.cutLine loop.unread = (typed, [0x0A, 0x0A, 0x31, 0x0A]) ∧
    LineMode.inputLine? typed = some ":restart " ∧
    fresh.result = .ok () ∧ finished.result = .ok () ∧ finished.session = fresh.session := by
  intro typed input loop finished fresh
  have opened : Session.openSource .manual detour = .ok detourSession := rfl
  have menu : loop.place = .asking (.atMenu [⟨0, 3, "Wait", 10⟩, ⟨1, 4, "Go", 20⟩]) := by
    decide +kernel
  have cut : Text.cutLine loop.unread = (typed, [0x0A, 0x0A, 0x31, 0x0A]) := by decide +kernel
  have readable : LineMode.inputLine? typed = some ":restart " := by decide +kernel
  have ends : fresh.result = .ok () := by decide +kernel
  obtain ⟨_, _, _, _, _, result, same, _⟩ :=
    typedRestart_beginsAnew opened "detour" input 6 menu cut readable (by decide +kernel)
  exact ⟨opened, menu, cut, readable, ends, result.trans ends, same⟩

end Playscript
