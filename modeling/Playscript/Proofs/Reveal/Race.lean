import Playscript.Proofs.Reveal
import Playscript.Reveal.Race

/-!
A worker and a host at one reveal. Whatever the order of their accesses, the worker never takes back
what the host has shown, and it is gone after one round more than there are units. A worker that is
left alone ends as a reveal does that is ticked by hand.
-/

namespace Playscript

inductive Reveal.TickedOut : Reveal → Reveal → Prop
  | last {reveal : Reveal} : reveal.tick.1 = false → TickedOut reveal reveal.tick.2
  | more {reveal after : Reveal} : reveal.tick.1 = true → TickedOut reveal.tick.2 after →
      TickedOut reveal after

theorem Progress.step_of_full {progress : Progress} (full : progress.visible = progress.total) :
    progress.step = { progress with finished := true } := by
  obtain ⟨visible, total, finished⟩ := progress
  obtain rfl : visible = total := full
  cases finished <;> simp [step]

namespace Race

/-- What the worker last saw is still so, or else the host has shown everything since. -/
structure Sound (race : Race) : Prop where
  progress : race.reveal.progress.Sound
  adding {seen : Nat} : race.worker = .adding seen → seen < race.reveal.progress.total ∧
    (race.reveal.progress.visible = seen ∨
      race.reveal.progress.visible = race.reveal.progress.total)
  closing : race.worker = .closing → race.reveal.progress.visible = race.reveal.progress.total
  gone : race.worker = .gone → race.reveal.cancelled = true ∨ race.reveal.progress.finished = true
  filled : race.host = .filled → race.reveal.progress.visible = race.reveal.progress.total

def roundsBegun (race : Race) : Nat :=
  if race.worker = .resting then race.reveal.progress.visible
  else race.reveal.progress.visible + 1

def left (race : Race) : Nat :=
  let missing := race.reveal.progress.total - race.reveal.progress.visible
  match race.worker with
  | .resting => 3 * missing + 3
  | .looking => 3 * missing + 2
  | .adding _ => if missing = 0 then 2 else 3 * missing + 1
  | .closing => 1
  | .gone => 0

def afterthought (race : Race) : Nat :=
  match race.worker with
  | .looking | .adding _ => 1
  | .resting | .closing | .gone => 0

theorem roundsBegun_le_visible (race : Race) :
    race.roundsBegun ≤ race.reveal.progress.visible + 1 := by
  unfold roundsBegun
  split <;> omega

theorem afterthought_le_one (race : Race) : race.afterthought ≤ 1 := by
  unfold afterthought
  split <;> decide

theorem start_sound (total : Nat) (interval : Duration) : (start total interval).Sound where
  progress := Progress.start_sound total
  adding := nofun
  closing := nofun
  gone := nofun
  filled := nofun

theorem reader_cases {progress : Progress} (sound : progress.Sound) :
    progress.visible < progress.total ∧ progress.reader = .adding progress.visible ∨
      progress.visible = progress.total ∧ progress.reader = .closing := by
  by_cases more : progress.visible < progress.total
  · exact .inl ⟨more, if_pos more⟩
  · exact .inr ⟨Nat.le_antisymm sound.bounded (Nat.not_lt.mp more), if_neg more⟩

section

variable {reveal : Reveal} {worker : Worker} {host : Finishing}

theorem Sound.reader (sound : Sound ⟨reveal, worker, host⟩) :
    Sound ⟨reveal, reveal.progress.reader, host⟩ := by
  rcases reader_cases sound.progress with ⟨more, reads⟩ | ⟨full, reads⟩
  · rw [reads]
    refine ⟨sound.progress, ?_, nofun, nofun, sound.filled⟩
    rintro seen ⟨⟩
    exact ⟨more, .inl rfl⟩
  · rw [reads]
    exact ⟨sound.progress, nofun, fun _ => full, nofun, sound.filled⟩

theorem left_reader (sound : Sound ⟨reveal, worker, host⟩) :
    left ⟨reveal, reveal.progress.reader, host⟩ =
      3 * (reveal.progress.total - reveal.progress.visible) + 1 := by
  rcases reader_cases sound.progress with ⟨more, reads⟩ | ⟨full, reads⟩
  · rw [reads]
    exact if_neg (Nat.sub_ne_zero_of_lt more)
  · rw [reads, full, Nat.sub_self]
    rfl

end

namespace Step

variable {race next : Race} {access : Access}

theorem frame (step : race.Step access next) : next.reveal = { race.reveal with
    progress := ⟨next.reveal.progress.visible, race.reveal.progress.total,
      next.reveal.progress.finished⟩
    cancelled := next.reveal.cancelled } := by
  cases step <;> rfl

theorem finished (step : race.Step access next) (finished : race.reveal.progress.finished = true) :
    next.reveal.progress.finished = true := by
  cases step with
  | mark | close => rfl
  | check | leave | look | add | late | slip | cancel | stop | fill => exact finished

theorem cancelled (step : race.Step access next) (cancelled : race.reveal.cancelled = true) :
    next.reveal.cancelled = true := by
  cases step with
  | cancel | stop => rfl
  | check | leave | look | add | late | slip | mark | fill | close => exact cancelled

theorem visible_le (step : race.Step access next) (sound : race.Sound) :
    race.reveal.progress.visible ≤ next.reveal.progress.visible := by
  cases step with
  | add same => exact Nat.le_succ_of_le (Nat.le_of_eq same)
  | fill => exact sound.progress.bounded
  | check | leave | look | late | slip | mark | cancel | stop | close => exact Nat.le_refl _

theorem sound (step : race.Step access next) (sound : race.Sound) : next.Sound := by
  cases step with
  | check => exact ⟨sound.progress, nofun, nofun, nofun, sound.filled⟩
  | leave cancelled => exact ⟨sound.progress, nofun, nofun, fun _ => .inl cancelled, sound.filled⟩
  | look | late | slip => exact sound.reader
  | @add reveal _ seen same =>
      -- Nothing has changed since the worker looked, so there is room, and the host has not filled.
      have room : seen < reveal.progress.total := (sound.adding rfl).1
      have unfilled : reveal.progress.visible ≠ reveal.progress.total := by omega
      refine ⟨⟨room, fun finished => ?_⟩, nofun, nofun, nofun, fun filled => ?_⟩
      · exact absurd (sound.progress.complete finished) unfilled
      · exact absurd (sound.filled filled) unfilled
  | mark =>
      have full := sound.closing rfl
      exact ⟨⟨sound.progress.bounded, fun _ => full⟩, nofun, nofun, fun _ => .inr rfl, sound.filled⟩
  | cancel =>
      exact ⟨sound.progress, sound.adding, sound.closing, fun _ => .inl rfl, sound.filled⟩
  | stop => exact ⟨sound.progress, sound.adding, sound.closing, fun _ => .inl rfl, nofun⟩
  | fill =>
      refine ⟨⟨Nat.le_refl _, fun _ => rfl⟩, ?_, fun _ => rfl, sound.gone, fun _ => rfl⟩
      exact fun adding => ⟨(sound.adding adding).1, .inr rfl⟩
  | close =>
      have full := sound.filled rfl
      refine ⟨⟨sound.progress.bounded, fun _ => full⟩, sound.adding, sound.closing, ?_, nofun⟩
      exact fun _ => .inr rfl

theorem roundsBegun_le (step : race.Step access next) (sound : race.Sound) :
    [access].count .check + race.roundsBegun ≤ next.roundsBegun := by
  cases step with
  | check | leave => exact Nat.le_of_eq (Nat.add_comm 1 _)
  | add same => exact Nat.le_of_eq (by simp [roundsBegun, Reveal.showing, same])
  | look | late | slip =>
      have active : ∀ progress : Progress, progress.reader ≠ .resting := by
        intro progress
        unfold Progress.reader
        split <;> exact nofun
      exact Nat.le_of_eq (by simp [roundsBegun, active])
  | mark | cancel | stop | close => exact Nat.le_of_eq (Nat.zero_add _)
  | fill =>
      have bounded := sound.progress.bounded
      simp only [roundsBegun, Reveal.showing] at bounded ⊢
      split <;> simp <;> omega

theorem left_le (step : race.Step access next) (sound : race.Sound) :
    [access].countP Access.works + next.left ≤ race.left := by
  cases step with
  | check => exact Nat.le_of_eq (Nat.add_comm 1 _)
  | leave => exact Nat.le_add_left 1 _
  | look =>
      rw [left_reader sound]
      exact Nat.le_of_eq (Nat.add_comm 1 _)
  | @add reveal _ seen same =>
      have once : [Access.add].countP Access.works = 1 := rfl
      have room : seen < reveal.progress.total := (sound.adding rfl).1
      simp only [left, Reveal.showing, same, if_neg (Nat.sub_ne_zero_of_lt room)]
      omega
  | @late reveal _ seen changed =>
      -- Since the worker looked, the host has shown everything.
      have full : reveal.progress.visible = reveal.progress.total :=
        (sound.adding rfl).2.resolve_left changed
      rw [left_reader sound]
      simp only [left, full, Nat.sub_self]
      exact Nat.le_refl 2
  | slip =>
      have none : [Access.slip].countP Access.works = 0 := rfl
      rw [left_reader sound]
      simp only [left]
      split <;> omega
  | mark => exact Nat.le_refl 1
  | cancel | stop | close => exact Nat.le_of_eq (Nat.zero_add _)
  | @fill reveal worker =>
      have none : [Access.fill].countP Access.works = 0 := rfl
      have bounded : reveal.progress.visible ≤ reveal.progress.total := sound.progress.bounded
      simp only [left, Reveal.showing, Nat.sub_self]
      cases worker with
      | resting | looking | closing | gone =>
          simp only
          omega
      | adding =>
          simp only [if_true]
          split <;> omega

theorem afterthought_le (step : race.Step access next) (cancelled : race.reveal.cancelled = true)
    (unfilled : access ≠ .fill) :
    next.reveal.progress.visible + next.afterthought ≤
      race.reveal.progress.visible + race.afterthought := by
  cases step with
  | check wanted => exact absurd cancelled (by simp [wanted])
  | leave | mark | cancel | stop | close => exact Nat.le_refl _
  | look | late | slip => exact Nat.add_le_add_left (afterthought_le_one _) _
  | add same => exact Nat.le_of_eq (by simp [afterthought, Reveal.showing, same])
  | fill => exact absurd rfl unfilled

theorem of_present (race : Race) (present : race.worker ≠ .gone) :
    ∃ access next, access.works = true ∧ race.Step access next := by
  obtain ⟨reveal, worker, host⟩ := race
  cases worker with
  | resting =>
      cases cancelled : reveal.cancelled with
      | false => exact ⟨.check, _, rfl, .check cancelled⟩
      | true => exact ⟨.check, _, rfl, .leave cancelled⟩
  | looking => exact ⟨.look, _, rfl, .look⟩
  | adding seen =>
      by_cases same : reveal.progress.visible = seen
      · exact ⟨.add, _, rfl, .add same⟩
      · exact ⟨.add, _, rfl, .late same⟩
  | closing => exact ⟨.mark, _, rfl, .mark⟩
  | gone => exact absurd rfl present

theorem cancelled_of_byWorker (step : race.Step access next) (worker : access.byWorker = true) :
    next.reveal.cancelled = race.reveal.cancelled := by
  cases step with
  | cancel | stop | fill | close => cases worker
  | check | leave | look | add | late | slip | mark => rfl

end Step

namespace Runs

variable {start race next : Race} {accesses : List Access}

/-- The run lemma: the worker goes by what is so, at every point. -/
theorem sound (run : start.Runs accesses race) (sound : start.Sound) : race.Sound := by
  induction run with
  | refl => exact sound
  | tail _ step ih => exact step.sound ih

theorem frame (run : start.Runs accesses race) : race.reveal = { start.reveal with
    progress := ⟨race.reveal.progress.visible, start.reveal.progress.total,
      race.reveal.progress.finished⟩
    cancelled := race.reveal.cancelled } := by
  induction run with
  | refl => rfl
  | tail _ step ih => rw [step.frame, ih]

theorem visible_le (run : start.Runs accesses race) (sound : start.Sound) :
    start.reveal.progress.visible ≤ race.reveal.progress.visible := by
  induction run with
  | refl => exact Nat.le_refl _
  | tail before step ih => exact Nat.le_trans ih (step.visible_le (before.sound sound))

theorem roundsBegun_le (run : start.Runs accesses race) (sound : start.Sound) :
    accesses.count .check + start.roundsBegun ≤ race.roundsBegun := by
  induction run with
  | refl => exact Nat.le_of_eq (Nat.zero_add _)
  | tail before step ih =>
      have last := step.roundsBegun_le (before.sound sound)
      rw [List.count_append]
      omega

theorem left_le (run : start.Runs accesses race) (sound : start.Sound) :
    accesses.countP Access.works + race.left ≤ start.left := by
  induction run with
  | refl => exact Nat.le_of_eq (Nat.zero_add _)
  | tail before step ih =>
      have last := step.left_le (before.sound sound)
      rw [List.countP_append]
      omega

theorem cancelled (run : start.Runs accesses race) (cancelled : start.reveal.cancelled = true) :
    race.reveal.cancelled = true := by
  induction run with
  | refl => exact cancelled
  | tail _ step ih => exact step.cancelled ih

theorem afterthought_le (run : start.Runs accesses race) (cancelled : start.reveal.cancelled = true)
    (unfilled : .fill ∉ accesses) :
    race.reveal.progress.visible + race.afterthought ≤
      start.reveal.progress.visible + start.afterthought := by
  induction run with
  | refl => exact Nat.le_refl _
  | tail before step ih =>
      rw [List.mem_append, not_or, List.mem_singleton] at unfilled
      obtain ⟨earlier, last⟩ := unfilled
      exact Nat.le_trans (step.afterthought_le (before.cancelled cancelled) (Ne.symm last))
        (ih earlier)

theorem cancelled_of_mem (run : start.Runs accesses race) (cancels : .cancel ∈ accesses) :
    race.reveal.cancelled = true := by
  induction run with
  | refl => cases cancels
  | tail _ step ih =>
      rcases List.mem_append.mp cancels with earlier | last
      · exact step.cancelled (ih earlier)
      · obtain rfl := List.mem_singleton.mp last
        cases step
        rfl

theorem visible_of_mem (run : start.Runs accesses race) (sound : start.Sound)
    (fills : .fill ∈ accesses) : race.reveal.progress.visible = race.reveal.progress.total := by
  induction run with
  | refl => cases fills
  | @tail _ _ race next before step ih =>
      have earlierSound := before.sound sound
      rcases List.mem_append.mp fills with earlier | last
      · have grown := step.visible_le earlierSound
        have bounded := (step.sound earlierSound).progress.bounded
        have full := ih earlier
        have total : next.reveal.progress.total = race.reveal.progress.total := by rw [step.frame]
        omega
      · obtain rfl := List.mem_singleton.mp last
        cases step
        rfl

theorem finished_of_mem (run : start.Runs accesses race) (closes : .close ∈ accesses) :
    race.reveal.progress.finished = true := by
  induction run with
  | refl => cases closes
  | tail _ step ih =>
      rcases List.mem_append.mp closes with earlier | last
      · exact step.finished (ih earlier)
      · obtain rfl := List.mem_singleton.mp last
        cases step
        rfl

theorem cancelled_of_byWorker (run : start.Runs accesses race)
    (alone : ∀ access ∈ accesses, access.byWorker = true) :
    race.reveal.cancelled = start.reveal.cancelled := by
  induction run with
  | refl => rfl
  | tail _ step ih =>
      have last := alone _ (List.mem_append_right _ (List.mem_singleton_self _))
      rw [step.cancelled_of_byWorker last]
      exact ih fun access earlier => alone access (List.mem_append_left _ earlier)

end Runs

theorem runs_work {reveal : Reveal} {host : Finishing} (threaded : reveal.mode = .threaded)
    (sound : reveal.progress.Sound) : ∃ accesses worker,
      Runs ⟨reveal, .resting, host⟩ accesses ⟨reveal.work, worker, host⟩ ∧
      (∀ access ∈ accesses, access.byWorker = true) ∧ (worker = .resting ∨ worker = .gone) := by
  cases cancelled : reveal.cancelled with
  | true =>
      have still : reveal.work = reveal := by simp [Reveal.work, threaded, cancelled]
      rw [still]
      exact ⟨[.check], .gone, .tail .refl (.leave cancelled), by decide, .inr rfl⟩
  | false =>
      have looks : Runs ⟨reveal, .resting, host⟩ [.check, .look]
          ⟨reveal, reveal.progress.reader, host⟩ :=
        .tail (.tail .refl (.check cancelled)) .look
      rcases reader_cases sound with ⟨more, reads⟩ | ⟨full, reads⟩
      · rw [reads] at looks
        have unfinished : reveal.progress.finished = false := by
          cases finished : reveal.progress.finished with
          | false => rfl
          | true => exact absurd (sound.complete finished) (Nat.ne_of_lt more)
        have adds : reveal.work = reveal.showing (reveal.progress.visible + 1) := by
          simp [Reveal.work, threaded, cancelled, Progress.step, unfinished, more, Reveal.showing]
        rw [adds]
        exact ⟨_, .resting, looks.tail (.add rfl), by decide, .inl rfl⟩
      · rw [reads] at looks
        have closes : reveal.work = reveal.closed := by
          simp [Reveal.work, threaded, cancelled, Progress.step_of_full full, Reveal.closed]
        rw [closes]
        exact ⟨_, .gone, looks.tail .mark, by decide, .inr rfl⟩

theorem runs_finishNow {reveal : Reveal} (threaded : reveal.mode = .threaded) (worker : Worker) :
    Runs ⟨reveal, worker, .idle⟩ [.stop, .fill, .close] ⟨reveal.finishNow, worker, .idle⟩ := by
  have stopped : Runs ⟨reveal, worker, .idle⟩ [.stop] ⟨reveal.cancel, worker, .stopped⟩ :=
    .tail .refl .stop
  have shown : reveal.finishNow = (reveal.cancel.showing reveal.progress.total).closed := by
    simp only [Reveal.finishNow, threaded]
    rw [← threaded]
    rfl
  rw [shown]
  exact (stopped.tail .fill).tail .close

theorem Runs.waited {total : Nat} {interval : Duration} {accesses : List Access} {race : Race}
    (run : (start total interval).Runs accesses race)
    (alone : ∀ access ∈ accesses, access.byWorker = true) (gone : race.worker = .gone) :
    race.reveal = (Reveal.start .threaded total interval).wait := by
  have sound := run.sound (start_sound total interval)
  have wanted : race.reveal.cancelled = false := run.cancelled_of_byWorker alone
  have finished : race.reveal.progress.finished = true := by
    simpa [wanted] using sound.gone gone
  have full := sound.progress.complete finished
  have frame := run.frame
  have total_eq : race.reveal.progress.total = total := by rw [frame]; rfl
  rw [frame, wanted, finished, full, total_eq]
  rfl

end Race

theorem Reveal.tickedOut_of_visible_le (interval : Duration) {visible total : Nat}
    (within : visible ≤ total) :
    TickedOut ⟨.manual, interval, ⟨visible, total, false⟩, false⟩
      ⟨.manual, interval, ⟨total, total, true⟩, false⟩ := by
  induction missing : total - visible generalizing visible with
  | zero =>
      obtain rfl : visible = total := by omega
      have last : tick ⟨.manual, interval, ⟨visible, visible, false⟩, false⟩ =
          (false, ⟨.manual, interval, ⟨visible, visible, true⟩, false⟩) := by
        simp [tick, Progress.advances, Progress.step]
      have ticked := TickedOut.last (congrArg Prod.fst last)
      rwa [last] at ticked
  | succ missing ih =>
      have more : visible < total := by omega
      have next : tick ⟨.manual, interval, ⟨visible, total, false⟩, false⟩ =
          (true, ⟨.manual, interval, ⟨visible + 1, total, false⟩, false⟩) := by
        simp [tick, Progress.advances, Progress.step, more]
      apply TickedOut.more (congrArg Prod.fst next)
      rw [next]
      exact ih more (by omega)

/-- A tick that comes late never undoes a skip, and a worker that is left alone ends as one ticked
by hand. -/
theorem skip_outlastsTick (total : Nat) (interval : Duration) {accesses : List Access} {race : Race}
    (run : (Race.start total interval).Runs accesses race) :
    race.reveal.progress.visible ≤ total ∧
    (race.reveal.progress.finished = true → race.reveal.progress.visible = total) ∧
    (.fill ∈ accesses → race.reveal.progress.visible = total) ∧
    (.close ∈ accesses → race.reveal.progress.finished = true) ∧
    (∀ {later : List Access} {next : Race}, race.Runs later next →
      race.reveal.progress.visible ≤ next.reveal.progress.visible ∧
      (.cancel ∈ accesses → .fill ∉ later →
        next.reveal.progress.visible ≤ race.reveal.progress.visible + 1)) ∧
    accesses.count .check ≤ total + 1 ∧
    accesses.countP Access.works ≤ 3 * (total + 1) ∧
    (race.worker ≠ .gone → ∃ access next, access.works = true ∧ race.Step access next) ∧
    (race.worker = .resting → ∃ later worker,
      race.Runs later ⟨race.reveal.work, worker, race.host⟩ ∧
      (∀ access ∈ later, access.byWorker = true) ∧ (worker = .resting ∨ worker = .gone)) ∧
    (race.host = .idle →
      race.Runs [.stop, .fill, .close] ⟨race.reveal.finishNow, race.worker, .idle⟩) ∧
    ((∀ access ∈ accesses, access.byWorker = true) → race.worker = .gone →
      ∃ ticked, (Reveal.start .manual total interval).TickedOut ticked ∧
        race.reveal.progress = ticked.progress ∧ race.reveal.isRunning = ticked.isRunning) := by
  have sound := run.sound (Race.start_sound total interval)
  have whole : race.reveal.progress.total = total := by
    rw [run.frame]
    rfl
  have threaded : race.reveal.mode = .threaded := by
    rw [run.frame]
    rfl
  have bounded : race.reveal.progress.visible ≤ total := whole ▸ sound.progress.bounded
  have complete := whole ▸ sound.progress.complete
  refine ⟨bounded, complete, ?_, run.finished_of_mem, ?_, ?_, ?_, Race.Step.of_present race, ?_, ?_,
    ?_⟩
  · exact fun fills => whole ▸ run.visible_of_mem (Race.start_sound total interval) fills
  · intro later next after
    refine ⟨after.visible_le sound, fun cancels unfilled => ?_⟩
    have shown := after.afterthought_le (run.cancelled_of_mem cancels) unfilled
    have one := race.afterthought_le_one
    omega
  · have begun := run.roundsBegun_le (Race.start_sound total interval)
    have most := race.roundsBegun_le_visible
    omega
  · have worked := run.left_le (Race.start_sound total interval)
    have all : (Race.start total interval).left = 3 * total + 3 := rfl
    omega
  · intro resting
    obtain ⟨reveal, worker, host⟩ := race
    obtain rfl : worker = .resting := resting
    exact Race.runs_work threaded sound.progress
  · intro idle
    obtain ⟨reveal, worker, host⟩ := race
    obtain rfl : host = .idle := idle
    exact Race.runs_finishNow threaded worker
  · intro alone gone
    refine ⟨_, Reveal.tickedOut_of_visible_le interval (Nat.zero_le total), ?_⟩
    rw [run.waited alone gone]
    exact ⟨rfl, rfl⟩

theorem skip_duringRound :
    let accesses : List Access := [.check, .look, .stop, .fill, .add, .close, .mark]
    let raced : Race := ⟨⟨.threaded, .zero, ⟨2, 2, true⟩, true⟩, .gone, .idle⟩
    (Race.start 2 .zero).Runs accesses raced ∧ raced.reveal.progress.visible = 2 ∧
    raced.reveal.progress.finished = true ∧ accesses.count .check ≤ 3 := by
  intro accesses raced
  have run : (Race.start 2 .zero).Runs accesses raced := by
    -- The worker has seen nothing visible when the host fills in both units, and so adds too late.
    have looked : (Race.start 2 .zero).Runs [.check, .look]
        ⟨Reveal.start .threaded 2 .zero, .adding 0, .idle⟩ :=
      .tail (.tail .refl (.check rfl)) .look
    have filled := (looked.tail .stop).tail .fill
    have missed := filled.tail (.late (by decide))
    exact (missed.tail .close).tail .mark
  obtain ⟨_, _, fills, closes, _, rounds, _⟩ := skip_outlastsTick 2 .zero run
  exact ⟨run, fills (by decide), closes (by decide), rounds⟩

end Playscript
