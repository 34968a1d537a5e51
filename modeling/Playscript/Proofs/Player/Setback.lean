import Playscript.Proofs.Player.Drive
import Playscript.Proofs.Player.Staging

/-!
What can stop a script that was read from a text. While it is driven by choices only a search that
goes on for too long, a number that the menu does not have, a number too many, or a dangling jump
gets in the way.
-/

namespace Playscript

/-- What may go wrong while a script with this graph is driven. -/
inductive Setback (graph : Graph) : Fault → Prop
  | stepLimit (steps : Nat) : Setback graph (.stepLimit steps)
  | outOfRange (index : Nat) : Setback graph (.choiceOutOfRange index)
  | unused (index : Nat) : Setback graph (.choiceUnused index)
  | astray {source target : Address} : (source, target) ∈ graph.danglingJumps →
      Setback graph (.addressMissing target)

namespace Session

theorem settleResult_line_fault {rest : Runner} {next : Session} {address : Address}
    {kind : LineKind} {fault : Fault}
    (failed : (settleResult rest (.ok (.line address kind), next)).1 = .error fault) :
    (rest next.skip.2).1 = .error fault := by
  cases continued : (rest next.skip.2).1 with
  | ok later => simp [settleResult, settle, continued, Except.map] at failed
  | error cause => simpa [settleResult, settle, continued, Except.map] using failed

/-- A session of a script that was read from a text, wherever its performance has got to. -/
structure OnCourse (session : Session) (graph : Graph) : Prop where
  graph : session.production.graph = graph
  playable : session.production.Playable
  menu : MenuInvariant session.production session.playback
  course : CourseInvariant session.production session.playback

namespace OnCourse

variable {graph : Graph} {session reached final : Session} {boundary : Boundary} {fault : Fault}

theorem opened {mode : RevealMode} {source : Source} {report : Table.Report}
    (loaded : Table.load source.config source.text = .ok report)
    (opened : openSource mode source = .ok session) : session.OnCourse report.graph := by
  obtain ⟨production, made, rfl⟩ := (openSource_eq_ok_iff mode source session).mp opened
  refine ⟨?_, Production.ofText_playable made, (MenuInvariant.kept production).opening,
    (CourseInvariant.kept production (Production.ofText_entry made)).opening⟩
  obtain ⟨other, otherLoaded, prepared⟩ := (Production.ofText_eq_ok_iff _ _ _).mp made
  obtain rfl : report = other := by simpa [loaded] using otherLoaded
  obtain ⟨_, _, _, _, rfl⟩ := (Production.prepare_eq_ok_iff _ _ _).mp prepared
  rfl

theorem advance {outcome : Except Fault Outcome} (course : session.OnCourse graph)
    (advanced : session.advance = (outcome, reached)) : reached.OnCourse graph := by
  obtain ⟨_, rfl⟩ := Prod.mk.inj advanced
  exact ⟨course.graph, course.playable, course.menu.advance, course.course.advance⟩

theorem skip (course : session.OnCourse graph) : session.skip.2.OnCourse graph := by
  refine ⟨course.graph, course.playable, Sound.skip course.menu, ?_⟩
  have turned := session.playback.skip_turned
  constructor
  · simp only [Session.skip, turned.view]
    exact course.course.cursor
  · simp only [Session.skip, turned.pending]
    exact course.course.targets

theorem pick {option : BranchOption} (course : session.OnCourse graph)
    (offered : option ∈ session.playback.pending) : (session.pick option).OnCourse graph :=
  ⟨course.graph, course.playable, Sound.pick session option,
    course.course.targets option offered, by simp [Session.pick, Playback.moveTo]⟩

theorem plays (course : session.OnCourse graph) (plays : session.Plays boundary final) :
    final.OnCourse graph := by
  induction plays with
  | line advanced _ ih => exact ih (course.advance advanced).skip
  | menu advanced => exact course.advance advanced
  | ended advanced => exact course.advance advanced

theorem advance_fault (course : session.OnCourse graph) (failed : session.advance.1 = .error fault) :
    Setback graph fault := by
  obtain ⟨_, missing, rfl⟩ :=
    (Playback.advance_fault_iff course.playable session.playback fault).mp failed
  -- The cursor got here by a jump, which must be a dangling one.
  obtain ⟨source, dangling⟩ := course.course.cursor.resolve_left (by simp [missing])
  rw [course.graph] at dangling
  exact .astray dangling

theorem runFor_fault {steps : Nat} (course : session.OnCourse graph)
    (failed : (session.runFor steps).1 = .error fault) : Setback graph fault := by
  induction steps generalizing session with
  | zero =>
      obtain rfl := Except.error.inj failed
      exact .stepLimit stepLimit
  | succ steps ih =>
      rw [runFor] at failed
      cases advanced : session.advance with
      | mk result next =>
          rw [advanced] at failed
          cases result with
          | error cause =>
              obtain rfl := Except.error.inj failed
              exact course.advance_fault (congrArg Prod.fst advanced)
          | ok outcome =>
              cases outcome with
              | choices | ended => cases failed
              | line address kind =>
                  exact ih (course.advance advanced).skip (settleResult_line_fault failed)

theorem chooseToBoundary_fault {index : Nat} (course : session.OnCourse graph)
    (awaiting : session.playback.phase = .awaitingChoice)
    (failed : (session.chooseToBoundary index).1 = .error fault) : Setback graph fault := by
  cases found : session.playback.pending[index]? with
  | some option =>
      rw [chooseToBoundary_eq awaiting found] at failed
      exact (course.pick (List.mem_of_getElem? found)).runFor_fault failed
  | none =>
      have offering := (course.menu.offered awaiting).1
      simp only [chooseToBoundary, choose, Playback.choose, awaiting, offering, found,
        Playback.failedStep, settleResult, ne_eq, not_true_eq_false, or_self, if_false,
        Except.error.injEq] at failed
      subst failed
      exact .outOfRange index

theorem pickAll_fault {choices : List Nat} (course : session.OnCourse graph)
    (settled : session.Settled boundary.kind)
    (failed : session.pickAll boundary choices = .error fault) : Setback graph fault := by
  induction choices generalizing session boundary with
  | nil => simp [pickAll] at failed
  | cons index rest ih =>
      obtain ⟨lines, kind⟩ := boundary
      cases kind with
      | ended =>
          simp only [pickAll, Except.error.injEq] at failed
          subst failed
          exact .unused index
      | choices options =>
          have awaiting : session.playback.phase = .awaitingChoice := by
            cases settled
            assumption
          simp only [pickAll] at failed
          cases chosen : session.chooseToBoundary index with
          | mk result later =>
              rw [chosen] at failed
              cases result with
              | error cause =>
                  obtain rfl := Except.error.inj failed
                  exact course.chooseToBoundary_fault awaiting (congrArg Prod.fst chosen)
              | ok next =>
                  obtain ⟨option, _, found, plays⟩ := chooseToBoundary_plays chosen
                  have picked := course.pick (List.mem_of_getElem? found)
                  apply ih (picked.plays plays) plays.settled
                  rcases (bind_eq_error_iff _ _ fault).mp failed with told | ⟨_, _, told⟩
                  · exact told
                  · cases told

theorem transcript_fault {choices : List Nat} (course : session.OnCourse graph)
    (failed : session.transcript choices = .error fault) : Setback graph fault := by
  rw [transcript] at failed
  cases ran : session.runToBoundary with
  | mk result reached =>
      rw [ran] at failed
      cases result with
      | error cause =>
          obtain rfl := Except.error.inj failed
          exact course.runFor_fault (congrArg Prod.fst ran)
      | ok boundary =>
          have plays := runToBoundary_plays ran
          exact (course.plays plays).pickAll_fault plays.settled failed

end OnCourse
end Session
end Playscript
