import Chip8.Headless
import Chip8.Proofs.Clock.Frames
import Chip8.Proofs.Emulator.Reports
import Chip8.Proofs.Tool.Progress

/-!
# What the frames of a run are worth

A run without a window clocks the emulator at `frame / rate` for each frame. Both schedules begin anew
with the program, so the first frame has one cycle and one tick, and a later one has as many as whole
periods have been completed since the frame before. The leftovers add up: after any number of frames
exactly as many cycles and ticks were run as fit up to the last of them, and no cap is passed that covers
a frame.
-/

namespace Chip8

open Scheduler (dueWithin following)

/-- Frames from one on that go well. In each of them as many cycles are run as are due, then as many
ticks, and then the screen is kept. -/
inductive Filmed (frequency : Rat) (rate : Int) :
    Nat → List Firing → List Screen → Machine → Machine → Prop where
  | nil (frame : Nat) (machine : Machine) : Filmed frequency rate frame [] [] machine machine
  | cons {frame : Nat} {firing : Firing} {firings : List Firing} {screens : List Screen}
    {first reached last : Machine}
    (cycles_due : dueWithin frequency rate frame + firing.cycles = dueWithin frequency rate (frame + 1))
    (ticks_due : dueWithin 60 rate frame + firing.ticks = dueWithin 60 rate (frame + 1))
    (cycles : first.cycles 0 firing.cycles = ⟨reached, firing.cycles, .ok ()⟩)
    (rest : Filmed frequency rate (frame + 1) firings screens
      (Machine.tickTimers^[firing.ticks] reached) last) :
    Filmed frequency rate frame (firing :: firings)
      ((Machine.tickTimers^[firing.ticks] reached).screen :: screens) first last

namespace Filmed

variable {frequency : Rat} {rate : Int} {frame : Nat} {firings : List Firing} {screens : List Screen}
  {first last : Machine}

theorem length_screens (filmed : Filmed frequency rate frame firings screens first last) :
    screens.length = firings.length := by
  induction filmed with
  | nil frame machine => rfl
  | cons cycles_due ticks_due cycles rest ih => exact congrArg (· + 1) ih

/-- The cycles and the ticks of the frames are those that have become due. -/
theorem sums (filmed : Filmed frequency rate frame firings screens first last) :
    dueWithin frequency rate frame + (firings.map Firing.cycles).sum =
        dueWithin frequency rate (frame + firings.length) ∧
      dueWithin 60 rate frame + (firings.map Firing.ticks).sum =
        dueWithin 60 rate (frame + firings.length) := by
  induction filmed with
  | nil frame machine => exact ⟨rfl, rfl⟩
  | @cons frame firing firings screens _ _ _ cycles_due ticks_due cycles rest ih =>
      rw [List.map_cons, List.sum_cons, List.map_cons, List.sum_cons, ← Nat.add_assoc, ← Nat.add_assoc,
        cycles_due, ticks_due, List.length_cons, Nat.add_comm firings.length 1, ← Nat.add_assoc frame]
      exact ih

/-- From the first frame on, the cycles and the ticks are all those that are due. -/
theorem sums_of_first (filmed : Filmed frequency rate 0 firings screens first last) :
    (firings.map Firing.cycles).sum = dueWithin frequency rate firings.length ∧
      (firings.map Firing.ticks).sum = dueWithin 60 rate firings.length := by
  rcases filmed.sums with ⟨cycles, ticks⟩
  rw [Scheduler.dueWithin, Nat.zero_add, Nat.zero_add] at cycles ticks
  exact ⟨cycles, ticks⟩

end Filmed

namespace Emulator

/-- Both schedules have followed the first frames. -/
structure Following (emulator : Emulator Rat) (frequency : Rat) (cap rate : Int) (frames : Nat) :
    Prop where
  cpuClock : emulator.cpuClock = following frequency (some cap) rate frames
  timerClock : emulator.timerClock = following 60 (some (coveringTicks frequency cap)) rate frames

/-- Nothing has been skipped. -/
structure Complete (emulator : Emulator Rat) : Prop where
  cpuClock : emulator.cpuClock.dropped = 0
  timerClock : emulator.timerClock.dropped = 0

variable {frequency : Rat} {cap rate : Int} {emulator : Emulator Rat} {host : Host} {now : Rat}
  {firing : Firing} {frame count : Nat}

theorem Following.complete (follows : emulator.Following frequency cap rate frame) :
    emulator.Complete where
  cpuClock := by rw [follows.cpuClock, Scheduler.dropped_following]
  timerClock := by rw [follows.timerClock, Scheduler.dropped_following]

/-- A clock call that ends well is cycles and ticks, and the screen that the host gets is the one in the
machine. -/
theorem machine_clock_of_ok (done : (emulator.clock host now).outcome = .ok firing) :
    (∃ reached, (emulator.lent host).cycles 0 firing.cycles = ⟨reached, firing.cycles, .ok ()⟩ ∧
      (emulator.clock host now).emulator.machine = Machine.tickTimers^[firing.ticks] reached) ∧
    (emulator.clock host now).host.screen = (emulator.clock host now).emulator.machine.screen ∧
    (emulator.clock host now).host.keys = (emulator.clock host now).emulator.machine.keys ∧
    (emulator.clock host now).host.screen.size = (64, 32) ∧
    (emulator.clock host now).host.keys.length = 16 := by
  have polls := clockDone_of_outcome done
  have cycles := Scheduler.runs_of_advance polls.cycles
  have ticks := Scheduler.runs_of_advance polls.ticks
  rcases interleaved_of_ticks ticks with ⟨screen, ticked⟩
  have keys : (emulator.timerPoll host now).state.keys = host.keys :=
    ticked.keys_eq.trans (interleaved_of_cycles cycles).2.keys_eq
  have ran := cycles_of_runs cycles 0
  rw [Nat.zero_add] at ran
  refine ⟨⟨_, ran, ?_⟩, ?_, ?_, ?_, ?_⟩
  · rw [polls.machine_eq]
    exact ticks_of_runs ticks
  · rw [polls.screen_eq, polls.machine_eq]
    exact screen.symm
  · rw [polls.keys_eq, polls.machine_eq, keys]
  · rw [polls.screen_eq]
    exact (size_screen_of_runs cycles).trans polls.size_screen
  · rw [polls.keys_eq, polls.length_keys]

section

variable (positive : 0 < frequency) (rated : 0 < rate) (covers : frequency / rate ≤ cap)

include positive rated covers

/-- The cap of the timers covers a frame if the one of the processor does. -/
theorem sixty_div_le_coveringTicks : 60 / rate ≤ (coveringTicks frequency cap : Rat) := by
  have gap : frequency * (1 / rate) ≤ cap := by rwa [mul_one_div]
  have ticks := le_coveringTicks_mul positive gap
  have ratePositive : (0 : Rat) < rate := by exact_mod_cast rated
  rw [div_le_iff₀ ratePositive] at ticks ⊢
  linarith

variable (follows : emulator.Following frequency cap rate frame)

include follows

/-- A frame that goes well has the cycles and ticks that are due in it. -/
theorem Following.clock_of_ok (done : (emulator.clock host (frame / rate)).outcome = .ok firing) :
    (emulator.clock host (frame / rate)).emulator.Following frequency cap rate (frame + 1) ∧
      dueWithin frequency rate frame + firing.cycles = dueWithin frequency rate (frame + 1) ∧
      dueWithin 60 rate frame + firing.ticks = dueWithin 60 rate (frame + 1) := by
  have polls := clockDone_of_outcome done
  have cycles := polls.cycles
  have ticks := polls.ticks
  have cpuClock := polls.cpuClock_eq
  have timerClock := polls.timerClock_eq
  rw [cpuPoll, follows.cpuClock] at cycles cpuClock
  rw [timerPoll, follows.timerClock] at ticks timerClock
  rcases Scheduler.advance_following_of_ok positive rated covers cycles with ⟨cycles_due, cpuMoved⟩
  rcases Scheduler.advance_following_of_ok (by norm_num) rated
    (sixty_div_le_coveringTicks positive rated covers) ticks with ⟨ticks_due, timerMoved⟩
  exact ⟨⟨cpuClock.trans cpuMoved, timerClock.trans timerMoved⟩, cycles_due, ticks_due⟩

/-- A frame that fails does so for a cycle that is due in it, after the cycles before this one and without
any tick. Nothing is skipped. -/
theorem Following.clock_of_error (size : host.screen.size = (64, 32)) (length : host.keys.length = 16)
    {fault : PollFault Fault}
    (failed : (emulator.clock host (frame / rate)).outcome = .error fault) :
    ∃ count cause, fault = .action cause ∧
      dueWithin frequency rate frame + count < dueWithin frequency rate (frame + 1) ∧
      (emulator.lent host).cycles 0 count =
        ⟨(emulator.clock host (frame / rate)).emulator.machine, count, .ok ()⟩ ∧
      (emulator.clock host (frame / rate)).emulator.machine.cycle = .error cause ∧
      (emulator.clock host (frame / rate)).emulator.Complete := by
  have attaches : attach emulator.machine host = .ok (emulator.lent host) :=
    attach_eq_ok_iff.mpr ⟨size, length, rfl⟩
  have period : 0 < emulator.cpuClock.period := by
    rw [follows.cpuClock, Scheduler.period_following]
    exact one_div_pos.mpr positive
  have timerPeriod : 0 < emulator.timerClock.period := by
    rw [follows.timerClock, Scheduler.period_following]
    norm_num
  have ends := emulator.clock_ends host (frame / rate)
  generalize emulator.clock host (frame / rate) = called at ends failed ⊢
  cases ends with
  | done _ _ _ => cases failed
  | refused refused => cases attaches.symm.trans refused
  | unticked _ _ timers =>
      rcases Scheduler.advance_of_error timerPeriod (congrArg Poll.outcome timers) with
        ⟨_, cause, _, rfl, _⟩
      exact absurd timers advance_tickAction_ne_action
  | stopped attached cpu =>
      cases failed
      cases attaches.symm.trans attached
      rcases Scheduler.advance_of_error period (congrArg Poll.outcome cpu) with
        ⟨count, cause, before, rfl, owes, runs, refused, unskipped⟩
      rw [cpu] at refused unskipped
      rcases cycleAction_eq_error_iff.mp refused with ⟨cycle, same⟩
      dsimp only at same unskipped ⊢
      rw [same]
      have ran := cycles_of_runs runs 0
      rw [Nat.zero_add] at ran
      rw [follows.cpuClock] at owes
      have due := Scheduler.dueWithin_add_owed positive rated covers (some cap) frame
      exact ⟨count, cause, rfl, by omega, ran, cycle, unskipped.trans follows.complete.cpuClock,
        follows.complete.timerClock⟩

end

/-- How frames from one on end. -/
inductive FramesEnd (frequency : Rat) (rate : Int) (frame count : Nat) (first : Machine) :
    Frames Rat → Prop where
  | finished {done : Frames Rat} {firings : List Firing}
    (filmed : Filmed frequency rate frame firings done.screens first done.emulator.machine)
    (all : firings.length = count) (complete : done.emulator.Complete)
    (outcome : done.outcome = .ok ()) : FramesEnd frequency rate frame count first done
  /-- A cycle fails in the first frame in which it is due. -/
  | stopped {done : Frames Rat} {firings : List Firing} {last : Machine} {number : Nat} {fault : Fault}
    (filmed : Filmed frequency rate frame firings done.screens first last)
    (early : firings.length < count)
    (cycles : last.cycles 0 number = ⟨done.emulator.machine, number, .ok ()⟩)
    (failed : done.emulator.machine.cycle = .error fault)
    (due : dueWithin frequency rate (frame + firings.length) + number <
      dueWithin frequency rate (frame + firings.length + 1))
    (complete : done.emulator.Complete)
    (outcome : done.outcome = .error (.poll (.action fault))) :
    FramesEnd frequency rate frame count first done

/-- A frame that goes well, before others. -/
theorem FramesEnd.cons {first reached : Machine} {rest : Frames Rat}
    (cycles_due : dueWithin frequency rate frame + firing.cycles = dueWithin frequency rate (frame + 1))
    (ticks_due : dueWithin 60 rate frame + firing.ticks = dueWithin 60 rate (frame + 1))
    (cycles : first.cycles 0 firing.cycles = ⟨reached, firing.cycles, .ok ()⟩)
    (ends : FramesEnd frequency rate (frame + 1) count (Machine.tickTimers^[firing.ticks] reached) rest) :
    FramesEnd frequency rate frame (count + 1) first
      { rest with screens := (Machine.tickTimers^[firing.ticks] reached).screen :: rest.screens } := by
  cases ends with
  | finished filmed all complete outcome =>
      exact .finished (.cons cycles_due ticks_due cycles filmed) (congrArg (· + 1) all) complete outcome
  | @stopped firings _ _ _ filmed early ran failed due complete outcome =>
      rw [Nat.add_right_comm frame] at due
      exact .stopped (.cons cycles_due ticks_due cycles filmed) (Nat.add_lt_add_right early 1) ran failed
        due complete outcome

variable {bar : ProgressBar} {total : Int}

/-- Frames from one on, begun with schedules that have followed the frames before, go well with what is
due in them, or end with the first cycle that fails. The bar has no part in it. -/
theorem runFrames_ends (positive : 0 < frequency) (rated : 0 < rate) (covers : frequency / rate ≤ cap)
    (follows : emulator.Following frequency cap rate frame) (size : host.screen.size = (64, 32))
    (length : host.keys.length = 16) (begun : 0 < count ∨ emulator.lent host = emulator.machine)
    (counts : bar.Counts total) (within : frame + count ≤ total) :
    FramesEnd frequency rate frame count (emulator.lent host)
      (runFrames bar rate emulator host frame count) := by
  induction count generalizing emulator host frame with
  | zero =>
      have none : Filmed frequency rate frame [] [] (emulator.lent host) emulator.machine := by
        rw [begun.resolve_left (Nat.lt_irrefl 0)]
        exact .nil frame _
      change FramesEnd frequency rate frame 0 (emulator.lent host) ⟨emulator, host, [], .ok ()⟩
      exact .finished none rfl follows.complete rfl
  | succ count ih =>
      have now : (ClockNumber.ofQuotient frame rate : Except NumberFault Rat) = .ok (frame / rate) := by
        simp [ClockNumber.ofQuotient, rated.ne']
      unfold runFrames
      simp only [now]
      rcases clocked : (emulator.clock host (frame / rate)).outcome with fault | firing
      · rcases follows.clock_of_error positive rated covers size length clocked with
          ⟨number, cause, rfl, due, cycles, failed, complete⟩
        exact .stopped (.nil frame _) (Nat.succ_pos count) cycles failed due complete rfl
      · rcases follows.clock_of_ok positive rated covers clocked with ⟨next, cycles_due, ticks_due⟩
        rcases machine_clock_of_ok clocked with ⟨⟨reached, cycles, machine⟩, screen, keys, size, length⟩
        have same : (emulator.clock host (frame / rate)).emulator.lent
            (emulator.clock host (frame / rate)).host =
              (emulator.clock host (frame / rate)).emulator.machine := by
          rw [lent, screen, keys]
        have ends := ih next size length (.inr same)
        have later : ((frame + 1 : Nat) : Int) + count ≤ total := by omega
        have told : bar.advance (frame + 1) = .ok () := counts.advance_eq_ok _ (by omega)
        replace ends := ends later
        rw [same, machine] at ends
        rw [machine] at screen
        rw [screen, told]
        exact .cons cycles_due ticks_due cycles ends

theorem FramesEnd.length_screens_le {first : Machine} {done : Frames Rat}
    (ends : FramesEnd frequency rate frame count first done) : done.screens.length ≤ count := by
  cases ends with
  | finished filmed all complete outcome => exact (filmed.length_screens.trans all).le
  | stopped filmed early cycles failed due complete outcome =>
      exact (filmed.length_screens.trans_lt early).le

variable {tools : Tools} {plan : Plan} {run : Run Rat} {screens : List Screen}

/-- A bar that counts leaves the frames of a run as they are. -/
theorem barredFrames_eq (counts : bar.Counts plan.frames)
    (few : (runFrames bar plan.rate emulator host 0 plan.frames.toNat).screens.length ≤ plan.frames) :
    barredFrames bar plan emulator host = runFrames bar plan.rate emulator host 0 plan.frames.toNat := by
  have closed := counts.close_eq_ok _ few
  unfold barredFrames
  dsimp only
  rw [closed]

section

variable {frames : Int} (counted : 0 < frames) (short : frames < 10 ^ Number.digitLimit)

include counted short

/-- A bar is made for a number of frames that can be told. -/
theorem exists_makeBar (counts : tools.Counts frames (!Level.info.passes emulator.log.threshold)) :
    ∃ bar, emulator.makeBar tools frames = .ok bar ∧ bar.Counts frames := by
  rcases ProgressBar.exists_text? counted short with ⟨text, told⟩
  rcases counts.exists_bar text with ⟨bar, made, counts⟩
  refine ⟨bar, ?_, counts⟩
  rw [makeBar, told]
  dsimp only
  rw [made]
  rfl

/-- The usual bar is made unless it is shown and the number of frames is beyond the range of doubles. -/
theorem makeBar_usual (room : Nat) (newName? : String → Except FileFault (Option String)) :
    emulator.makeBar (.usual room newName?) frames =
      if Level.info.passes emulator.log.threshold then
        match Binary64.ofInt frames with
        | .error fault => .error (.tool (Misuse.number fault).fault)
        | .ok _ => .ok .calm
      else .ok .calm := by
  rcases ProgressBar.exists_text? counted short with ⟨text, told⟩
  have made := @Progress.barOf_eq frames text counted (!Level.info.passes emulator.log.threshold)
  rw [makeBar, told, Tools.usual]
  dsimp only
  rw [made]
  rcases Level.info.passes emulator.log.threshold
  · rfl
  · rcases Binary64.ofInt frames with fault | nearest <;> rfl

end

/-- Emulators that differ in their logs at most. -/
def SameButLog (emulator other : Emulator Rat) : Prop := ∃ log, emulator = { other with log }

theorem SameButLog.machine_eq {other : Emulator Rat} (same : emulator.SameButLog other) :
    emulator.machine = other.machine := by
  rcases same with ⟨_, rfl⟩
  rfl

theorem SameButLog.complete {other : Emulator Rat} (same : emulator.SameButLog other)
    (complete : other.Complete) : emulator.Complete := by
  rcases same with ⟨_, rfl⟩
  exact ⟨complete.cpuClock, complete.timerClock⟩

/-- Saving a video changes the log of the emulator only, and leaves the video of the screens. -/
theorem saveVideo_keeps (unsaved : run.videos = []) :
    (saveVideo tools plan screens run).emulator.SameButLog run.emulator ∧
      (saveVideo tools plan screens run).videos =
        plan.record.toList.flatMap fun file => (recording tools plan screens file).1.toList := by
  unfold saveVideo
  split
  next none =>
    rw [none]
    exact ⟨⟨_, rfl⟩, unsaved⟩
  next file asked =>
    rw [asked, Option.toList_some, List.flatMap_singleton]
    split
    next recorded =>
      rw [recorded]
      exact ⟨⟨_, rfl⟩, rfl⟩
    next recorded =>
      rw [recorded]
      exact ⟨⟨_, rfl⟩, rfl⟩

/-- Saving a picture changes the log of the emulator only, and no video. -/
theorem saveLastScreen_keeps :
    (saveLastScreen tools plan run).emulator.SameButLog run.emulator ∧
      (saveLastScreen tools plan run).videos = run.videos := by
  unfold saveLastScreen
  split
  next => exact ⟨⟨_, rfl⟩, rfl⟩
  next =>
    split
    next => exact ⟨⟨_, rfl⟩, rfl⟩
    next => exact ⟨⟨_, rfl⟩, rfl⟩

/-- Frames that go well are followed by what is to be saved. -/
theorem runHeadless_of_finished (rated : 0 < plan.rate)
    (barred : emulator.makeBar tools plan.frames = .ok bar)
    (finished : (barredFrames bar plan emulator host).outcome = .ok ()) :
    let done := barredFrames bar plan emulator host
    let run := emulator.runHeadless tools plan host
    run.emulator.SameButLog done.emulator ∧
      (run.videos = plan.record.toList.flatMap fun file => (recording tools plan done.screens file).1.toList) ∧
      (plan.record = none → plan.screenshot = none → run.outcome = .ok ()) := by
  intro done run
  have ended : (ClockNumber.ofQuotient plan.frames plan.rate : Except NumberFault Rat) =
      .ok (plan.frames / plan.rate) := by
    simp [ClockNumber.ofQuotient, rated.ne']
  let noted : Run Rat :=
    { emulator := done.emulator.noted (.emulated plan.frames plan.rate), host := done.host,
      outcome := .ok () }
  let recorded := saveVideo tools plan done.screens noted
  have recordedKeeps : recorded.emulator.SameButLog noted.emulator ∧ recorded.videos = _ :=
    saveVideo_keeps rfl
  have run_eq : run = recorded ∧ (∃ fault, recorded.outcome = .error fault) ∨
      run = saveLastScreen tools plan recorded ∧ recorded.outcome = .ok () := by
    simp only [run, runHeadless, barred, finished, ended]
    split
    next fault failed => exact .inl ⟨rfl, fault, failed⟩
    next saved => exact .inr ⟨rfl, saved⟩
  rcases recordedKeeps with ⟨⟨log, kept⟩, videos⟩
  rcases run_eq with ⟨run_eq, fault, failed⟩ | ⟨run_eq, saved⟩
  · rw [run_eq]
    refine ⟨⟨log, kept⟩, videos, ?_⟩
    intro unrecorded _
    simp only [recorded, saveVideo, unrecorded] at failed
    cases failed
  · rcases @saveLastScreen_keeps tools plan recorded with ⟨⟨last, later⟩, sameVideos⟩
    rw [run_eq]
    refine ⟨⟨last, ?_⟩, sameVideos.trans videos, ?_⟩
    · rw [later, kept]
      rfl
    · intro _ unsaved
      simp only [saveLastScreen, unsaved]
      exact saved

/-- Nothing is run without a bar. -/
theorem runHeadless_of_barless {fault : RunFault}
    (barless : emulator.makeBar tools plan.frames = .error fault) :
    emulator.runHeadless tools plan host = { emulator, host, outcome := .error fault } := by
  simp only [runHeadless, barless]

/-- Nothing is saved after a frame that fails. -/
theorem runHeadless_of_stopped {fault : RunFault}
    (barred : emulator.makeBar tools plan.frames = .ok bar)
    (stopped : (barredFrames bar plan emulator host).outcome = .error fault) :
    emulator.runHeadless tools plan host =
      { emulator := (barredFrames bar plan emulator host).emulator
        host := (barredFrames bar plan emulator host).host
        outcome := .error fault } := by
  simp only [runHeadless, barred, stopped]

/-- A program that was just loaded has followed no frame yet. -/
theorem following_of_load {log : Log} {past : List (Call Rat)} {program : List UInt8} {seed : Option Int}
    {loaded : Emulator Rat} {inUse : Int}
    (loads : ((fresh frequency (some cap) log).afterAll past).load program seed = (loaded, .ok inUse))
    (rate : Int) :
    loaded.Following frequency cap rate 0 ∧ loaded.log.threshold = log.threshold := by
  rcases eq_of_load loads with ⟨_, _, cpuClock, timerClock⟩
  refine ⟨⟨cpuClock, timerClock⟩, ?_⟩
  have kept := threshold_load ((fresh frequency (some cap) log).afterAll past) program seed
  rw [loads, threshold_afterAll] at kept
  exact kept

/-- The default cap allows a cycle and covers a frame. -/
theorem exists_defaultCap_covering (positive : 0 < frequency) (rated : 0 < rate) :
    ∃ cap, defaultCap frequency rate = .ok cap ∧ max 1 (frequency / rate) ≤ cap := by
  have ratePositive : (0 : Rat) < rate := by exact_mod_cast rated
  rcases exists_defaultCap_eq_ok ratePositive with ⟨cap, worked, room, covers⟩
  refine ⟨cap, worked, max_le (by exact_mod_cast room) (le_trans ?_ covers)⟩
  rw [mul_div_left_comm]
  have some : 0 < frequency / rate := by positivity
  linarith

/-- A run without a window executes what its frames are worth. Let the number of its frames be one that can be
told, and its bar one that counts so many. Then, whatever the emulator did before the program was loaded,
every cap that covers a frame, as the default one does, lets nothing be skipped.
If no cycle fails, there is one cycle and one more for each whole period up to the last frame, there are as
many ticks, and the screen after each frame is what a video is made of. Otherwise the run ends with the
fault of the cycle that fails, in the first frame in which this cycle is due, and saves nothing. -/
theorem headless_run_executes_due_cycles (positive : 0 < frequency) (log : Log) {plan : Plan}
    (rated : 1 ≤ plan.rate) (framed : 1 ≤ plan.frames)
    (short : plan.frames < 10 ^ Number.digitLimit)
    (counts : tools.Counts plan.frames (!Level.info.passes log.threshold))
    (size : host.screen.size = (64, 32)) (length : host.keys.length = 16) :
    (∃ cap, defaultCap frequency plan.rate = .ok cap ∧ max 1 (frequency / plan.rate) ≤ cap) ∧
    ∀ cap : Int, max 1 (frequency / plan.rate) ≤ cap →
      ∃ made, create frequency (some cap) log = .ok made ∧
        ∀ past program seed loaded inUse,
          (made.afterAll past).load program seed = (loaded, .ok inUse) →
          let run := loaded.runHeadless tools plan host
          run.emulator.Complete ∧
          ((∃ firings screens,
              Filmed frequency plan.rate 0 firings screens (loaded.lent host) run.emulator.machine ∧
              firings.length = plan.frames ∧ screens.length = plan.frames ∧
              (firings.map Firing.cycles).sum =
                1 + ⌊((plan.frames - 1 : Int) : Rat) * frequency / plan.rate⌋ ∧
              (firings.map Firing.ticks).sum =
                1 + ⌊((plan.frames - 1 : Int) : Rat) * 60 / plan.rate⌋ ∧
              (run.videos = plan.record.toList.flatMap fun file =>
                (recording tools plan screens file).1.toList) ∧
              (plan.record = none → plan.screenshot = none → run.outcome = .ok ())) ∨
            ∃ firings screens last number fault,
              Filmed frequency plan.rate 0 firings screens (loaded.lent host) last ∧
              firings.length < plan.frames ∧
              last.cycles 0 number = ⟨run.emulator.machine, number, .ok ()⟩ ∧
              run.emulator.machine.cycle = .error fault ∧
              (firings.map Firing.cycles).sum = dueWithin frequency plan.rate firings.length ∧
              dueWithin frequency plan.rate firings.length + number <
                dueWithin frequency plan.rate (firings.length + 1) ∧
              run.outcome = .error (.poll (.action fault)) ∧ run.videos = [] ∧ run.pictures = []) := by
  have sixty : (0 : Rat) < 60 := by norm_num
  constructor
  · exact exists_defaultCap_covering positive rated
  intro cap covers
  have room : 1 ≤ cap := by exact_mod_cast (le_max_left _ _).trans covers
  have made : create frequency (some cap) log = .ok (fresh frequency (some cap) log) :=
    create_eq_ok_iff.mpr ⟨positive, by simpa using room, rfl⟩
  refine ⟨_, made, ?_⟩
  intro past program seed loaded inUse loads run
  rcases following_of_load loads plan.rate with ⟨follows, threshold⟩
  have frames : (plan.frames.toNat : Int) = plan.frames := Int.toNat_of_nonneg (by omega)
  rw [← threshold] at counts
  rcases exists_makeBar framed short counts with ⟨bar, barred, counted⟩
  have ends := runFrames_ends positive rated ((le_max_right _ _).trans covers) follows size length
    (.inl (show 0 < plan.frames.toNat by omega)) counted (by omega)
  have few := ends.length_screens_le
  rw [← barredFrames_eq counted (by omega)] at ends
  generalize done_eq : barredFrames bar plan loaded host = done at ends
  cases ends with
  | @finished firings filmed all complete outcome =>
      rw [← done_eq] at outcome
      rcases runHeadless_of_finished rated barred outcome with ⟨same, videos, ended⟩
      rw [done_eq] at same videos
      rcases filmed.sums_of_first with ⟨cycles, ticks⟩
      rw [all] at cycles ticks
      refine ⟨same.complete complete, .inl ⟨firings, done.screens, ?_, ?_, ?_, ?_, ?_, videos, ended⟩⟩
      · rwa [same.machine_eq]
      · rw [all, frames]
      · rw [filmed.length_screens, all, frames]
      · rw [cycles, Scheduler.natCast_dueWithin positive rated framed]
      · rw [ticks, Scheduler.natCast_dueWithin sixty rated framed]
  | @stopped firings last number fault filmed early cycles failed due complete outcome =>
      rw [← done_eq] at outcome
      have stopped : run = _ := runHeadless_of_stopped barred outcome
      rw [done_eq] at stopped
      rw [Nat.zero_add] at due
      rw [stopped]
      exact ⟨complete, .inr ⟨firings, done.screens, last, number, fault, filmed, by omega, cycles, failed,
        filmed.sums_of_first.1, due, rfl, rfl, rfl⟩⟩

/-- Three frames at thirty frames per second hold thirty-four cycles, at five hundred a second, and five
ticks. -/
theorem headless_run_executes_due_cycles_of_loop :
    ∃ made loaded : Emulator Rat, create 500 (some 17) { threshold := .info } = .ok made ∧
      made.load Machine.loop none = (loaded, .ok (seedFor Machine.loop none)) ∧
      let run := loaded.runHeadless (.usual 0 fun file => .ok (some file)) { frames := 3 } {}
      run.outcome = .ok () ∧ run.emulator.Complete ∧
        ∃ firings screens, Filmed 500 30 0 firings screens (loaded.lent {}) run.emulator.machine ∧
          screens.length = 3 ∧ (firings.map Firing.cycles).sum = 34 ∧
          (firings.map Firing.ticks).sum = 5 := by
  let plan : Plan := { frames := 3 }
  let names (file : String) : Except FileFault (Option String) := .ok (some file)
  have inRange : ∃ nearest, Binary64.ofInt 3 = .ok nearest := ⟨_, rfl⟩
  have short : (3 : Int) < 10 ^ Number.digitLimit :=
    calc (3 : Int) < 10 ^ 1 := by norm_num
      _ ≤ 10 ^ Number.digitLimit := pow_le_pow_right₀ (by norm_num) (by decide)
  have runs := (@headless_run_executes_due_cycles 500 {} (.usual 0 names) (by norm_num)
    { threshold := .info } plan (by decide) (by decide) short
    (Tools.counts_usual 0 names (by decide) fun _ => inRange) rfl rfl).2
  rcases runs 17 (by norm_num [plan]) with ⟨made, isMade, loaded⟩
  rcases create_eq_ok_iff.mp isMade with ⟨_, _, rfl⟩
  rcases exists_load_loop (fresh 500 (some 17) { threshold := .info }) {} with ⟨reached, loads, _⟩
  rcases loaded [] Machine.loop none reached _ loads with ⟨complete, ends⟩
  have barred : reached.makeBar (.usual 0 names) 3 = .ok .calm := by
    rcases inRange with ⟨nearest, held⟩
    rw [makeBar_usual (by decide) short, held]
    exact ite_self _
  have afterwards : (fresh 500 (some 17) { threshold := .info }).after (.load Machine.loop none) = reached :=
    congrArg Prod.fst loads
  have well : (barredFrames .calm plan ((fresh 500 (some 17) { threshold := .info }).after
      (.load Machine.loop none)) {}).outcome.toBool = true := by decide +kernel
  rw [afterwards] at well
  rcases exists_eq_ok_of_toBool well with ⟨_, finished⟩
  have ended := (@runHeadless_of_finished reached {} _ (.usual 0 names) plan (by decide) barred
    finished).2.2 rfl rfl
  refine ⟨_, reached, isMade, loads, ended, complete, ?_⟩
  rcases ends with ⟨firings, screens, filmed, _, length, cycles, ticks, _⟩ |
    ⟨_, _, _, _, _, _, _, _, _, _, _, failed, _⟩
  · have cyclesDue : 1 + ⌊((plan.frames - 1 : Int) : Rat) * 500 / plan.rate⌋ = 34 := by decide +kernel
    have ticksDue : 1 + ⌊((plan.frames - 1 : Int) : Rat) * 60 / plan.rate⌋ = 5 := by decide +kernel
    have frames : plan.frames = 3 := rfl
    rw [cyclesDue] at cycles
    rw [ticksDue] at ticks
    rw [frames] at length
    exact ⟨firings, screens, filmed, by exact_mod_cast length, by exact_mod_cast cycles,
      by exact_mod_cast ticks⟩
  · cases ended.symm.trans failed

/-- An emulator that was made for a log and has loaded a word which is no instruction. -/
structure Stuck (threshold : Level) (loaded : Emulator Rat) : Prop where
  loads : ∃ made, create 500 (some 34) { threshold } = .ok made ∧
    made.load [0xFF, 0xFF] none = (loaded, .ok (seedFor [0xFF, 0xFF] none))
  threshold_eq : loaded.log.threshold = threshold
  cycle_fails : (loaded.lent {}).cycle = .error (.unknownOpcode 0xFFFF)

theorem exists_stuck (threshold : Level) : ∃ loaded, Stuck threshold loaded := by
  have made : create 500 (some 34) { threshold } = .ok (fresh 500 (some 34) { threshold }) :=
    create_eq_ok_iff.mpr ⟨by norm_num, by simp, rfl⟩
  have nonzero : seedFor [0xFF, 0xFF] none % 0x10000 ≠ 0 := seedFor_none_ne_zero _
  rcases (fresh 500 (some 34) { threshold }).exists_load_eq_ok (by decide) nonzero with ⟨loaded, loads⟩
  have fetched : (loaded.lent {}).fetch = .ok (Word.ofBytes 0xFF 0xFF) := by
    rw [lent, machine_of_load loads]
    exact Machine.fetch_beginning _ (by decide)
  refine ⟨loaded, ⟨_, made, loads⟩, ?_, ?_⟩
  · rw [(@following_of_load _ _ _ [] _ _ _ _ loads 30).2]
  · rw [Machine.cycle, fetched]
    rfl

/-- So many frames that their number cannot be told, or is beyond the range of doubles for a bar that is shown:
the run fails before the first cycle is run, and does not end with the fault of this cycle. -/
theorem headless_run_of_countless_frames :
    ∃ quiet loud : Emulator Rat, Stuck .error quiet ∧ Stuck .info loud ∧
      (let run := quiet.runHeadless (.usual 0 fun file => .ok (some file))
        { frames := 10 ^ Number.digitLimit } {}
      run.emulator = quiet ∧ run.outcome = .error .untold) ∧
      let run := loud.runHeadless (.usual 0 fun file => .ok (some file)) { frames := 10 ^ 400 } {}
      run.emulator = loud ∧
        run.outcome = .error (.tool ⟨"OverflowError", "int too large to convert to float"⟩) := by
  rcases exists_stuck .error with ⟨quiet, isQuiet⟩
  rcases exists_stuck .info with ⟨loud, isLoud⟩
  let names (file : String) : Except FileFault (Option String) := .ok (some file)
  refine ⟨quiet, loud, isQuiet, isLoud, ?_, ?_⟩
  · have long : ProgressBar.text? (10 ^ Number.digitLimit) = none := by
      rw [ProgressBar.text?_eq_none_iff, Int.natAbs_pow]
      exact Nat.pow_le_pow_left (by decide) _
    have untold : quiet.makeBar (.usual 0 names) (10 ^ Number.digitLimit) = .error .untold := by
      rw [makeBar, long]
    have ended := @runHeadless_of_barless quiet {} _ { frames := 10 ^ Number.digitLimit } _ untold
    exact ⟨congrArg Run.emulator ended, congrArg Run.outcome ended⟩
  · have short : (10 ^ 400 : Int) < 10 ^ Number.digitLimit :=
      pow_lt_pow_right₀ (by norm_num) (by decide)
    have beyond : Binary64.ofInt (10 ^ 400) = .error .integerTooLarge :=
      Binary64.ofInt_eq_error (by decide +kernel)
    have unshown : loud.makeBar (.usual 0 names) (10 ^ 400) =
        .error (.tool ⟨"OverflowError", "int too large to convert to float"⟩) := by
      rw [makeBar_usual (by positivity) short, isLoud.threshold_eq, if_pos (by decide), beyond]
      rfl
    have ended := @runHeadless_of_barless loud {} _ { frames := 10 ^ 400 } _ unshown
    exact ⟨congrArg Run.emulator ended, congrArg Run.outcome ended⟩

end Emulator

end Chip8
