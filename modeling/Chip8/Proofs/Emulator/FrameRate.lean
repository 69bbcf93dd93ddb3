import Chip8.Proofs.Emulator.Idle
import Chip8.Proofs.Machine.Timers

/-!
# The frame rate does not matter

A host that polls more often has fewer cycles run in each call, and ticks fall between other cycles. An
emulator without a cap has run one cycle at the first timestamp and one more for every whole period up
to the largest one, however many calls there were in between and in whatever order their timestamps
came. As only `FX07` reads a timer, two runs of a program without this instruction that begin at one
timestamp and come to one largest timestamp are the same but for their timers.
-/

namespace Chip8.Emulator

section

variable {Time : Type} [ClockNumber Time]

/-- Clock calls at these timestamps all end well, each with the host as the call before left it, and
their cycles execute these words. -/
inductive Driven : List Time → List Word → Emulator Time → Host → Emulator Time → Host → Prop where
  | nil (emulator : Emulator Time) (host : Host) : Driven [] [] emulator host emulator host
  | cons {now : Time} {times : List Time} {words : List Word} {emulator last : Emulator Time}
    {host lastHost : Host} {firing : Firing}
    (done : (emulator.clock host now).outcome = .ok firing)
    (rest : Driven times words (emulator.clock host now).emulator (emulator.clock host now).host last
      lastHost) :
    Driven (now :: times) ((emulator.lent host).executed firing.cycles ++ words) emulator host last
      lastHost

variable {emulator last : Emulator Time} {host lastHost : Host} {now : Time} {times : List Time}
  {words : List Word} {firing : Firing}

theorem Driven.exists_clocks (driven : Driven times words emulator host last lastHost) :
    ∃ polls, polls.map Prod.snd = times ∧ Clocks polls emulator last := by
  induction driven with
  | nil emulator host => exact ⟨[], rfl, .nil emulator⟩
  | cons done rest ih =>
      rcases ih with ⟨polls, rfl, clocks⟩
      exact ⟨_ :: polls, rfl, .cons done clocks⟩

/-- Runs of the processor action execute a word each. -/
theorem interleaved_of_cycles {count : Nat} {first reached : Machine}
    (runs : cycleAction.Runs count first reached) :
    (first.executed count).length = count ∧
      Machine.Interleaved (first.executed count) first reached := by
  induction runs with
  | zero machine => exact ⟨rfl, .nil machine⟩
  | @succ count machine after reached ran rest ih =>
      have cycled := cycleAction_eq_ok_iff.mp ran
      rcases Machine.cycle_eq_ok_iff.mp cycled with ⟨word, _, _, _, fetched, _⟩
      simp only [Machine.executed, fetched, cycled, List.length_cons]
      exact ⟨congrArg (· + 1) ih.1, .cycle fetched cycled ih.2⟩

/-- Runs of the timer action are ticks. -/
theorem interleaved_of_ticks {count : Nat} {first reached : Machine}
    (runs : tickAction.Runs count first reached) :
    reached.screen = first.screen ∧ Machine.Interleaved [] first reached := by
  induction runs with
  | zero machine => exact ⟨rfl, .nil machine⟩
  | succ ran rest ih =>
      cases ran
      exact ⟨ih.1, .tick ih.2⟩

/-- A clock call is cycles and then ticks, and leaves the host with what is in the machine. -/
theorem interleaved_of_clock (done : (emulator.clock host now).outcome = .ok firing) :
    ((emulator.lent host).executed firing.cycles).length = firing.cycles ∧
      Machine.Interleaved ((emulator.lent host).executed firing.cycles) (emulator.lent host)
        ((emulator.clock host now).emulator.lent (emulator.clock host now).host) := by
  have polls := clockDone_of_outcome done
  rcases interleaved_of_cycles (Scheduler.runs_of_advance polls.cycles) with ⟨length, cycles⟩
  rcases interleaved_of_ticks (Scheduler.runs_of_advance polls.ticks) with ⟨screen, ticks⟩
  have run := cycles.append ticks
  rw [List.append_nil] at run
  have keys : (emulator.timerPoll host now).state.keys = host.keys := run.keys_eq
  have drawn : (emulator.timerPoll host now).state.screen =
      (emulator.cpuPoll host now).state.screen := screen
  have unchanged : (emulator.clock host now).emulator.lent (emulator.clock host now).host =
      (emulator.timerPoll host now).state := by
    rw [lent, polls.screen_eq, polls.keys_eq, polls.machine_eq, ← keys, ← drawn]
  refine ⟨length, ?_⟩
  rw [unchanged]
  exact run

theorem Driven.interleaved (driven : Driven times words emulator host last lastHost) :
    Machine.Interleaved words (emulator.lent host) (last.lent lastHost) := by
  induction driven with
  | nil emulator host => exact .nil _
  | cons done rest ih => exact (interleaved_of_clock done).2.append ih

end

variable {emulator last : Emulator Rat} {host lastHost : Host} {now previous latest : Rat}
  {times : List Rat} {words : List Word} {firing : Firing}

/-- Without a cap a clock call moves the last run on by as many periods as it runs cycles. -/
theorem last_of_clock (positive : 0 < emulator.cpuClock.period)
    (uncapped : emulator.cpuClock.cap = none) (started : emulator.cpuClock.last = some previous)
    (done : (emulator.clock host now).outcome = .ok firing) :
    (emulator.clock host now).emulator.cpuClock.last =
      some (previous + firing.cycles * emulator.cpuClock.period) := by
  have polls := clockDone_of_outcome done
  rcases Scheduler.advance_of_ok positive started polls.cycles with ⟨cycles, moved⟩
  rw [Scheduler.allowed_of_uncapped uncapped] at cycles
  rw [cycles]
  exact congrArg Scheduler.last (polls.cpuClock_eq.trans moved)

/-- Clock calls of a schedule that has caught up with one timestamp move its last run on by as many
periods as words are executed, and let it catch up with the largest timestamp. -/
theorem Driven.last_eq (positive : 0 < emulator.cpuClock.period)
    (uncapped : emulator.cpuClock.cap = none)
    (driven : Driven times words emulator host last lastHost)
    (started : emulator.cpuClock.last = some previous) (near : emulator.cpuClock.Near latest) :
    last.cpuClock.last = some (previous + words.length * emulator.cpuClock.period) ∧
      last.cpuClock.Near (times.foldl max latest) := by
  induction driven generalizing previous latest with
  | nil emulator host =>
      refine ⟨?_, near⟩
      simpa using started
  | @cons now times words emulator last host lastHost firing done rest ih =>
      have polls := clockDone_of_outcome done
      have alike := emulator.alike_clock host now
      have moved := last_of_clock positive uncapped started done
      have caughtUp : (emulator.clock host now).emulator.cpuClock.Near (max latest now) := by
        rw [polls.cpuClock_eq]
        exact Scheduler.near_advance positive near polls.cycles
      rw [← alike.cpuClock.period_eq] at positive
      rw [← alike.cpuClock.cap_eq] at uncapped
      rcases ih positive uncapped moved caughtUp with ⟨later, nearLater⟩
      refine ⟨?_, nearLater⟩
      rw [later, List.length_append, (interleaved_of_clock done).1, alike.cpuClock.period_eq]
      congr 1
      push_cast
      ring

/-- Clock calls that begin anew execute one word at the first timestamp, and one more for each whole
period up to the largest timestamp. -/
theorem Driven.length_words (positive : 0 < emulator.cpuClock.period)
    (uncapped : emulator.cpuClock.cap = none) (unset : emulator.cpuClock.last = none)
    (driven : Driven (now :: times) words emulator host last lastHost) :
    words.length = 1 + emulator.cpuClock.due now (times.foldl max now) := by
  cases driven with
  | @cons _ _ words _ _ _ _ firing done rest =>
      have polls := clockDone_of_outcome done
      have alike := emulator.alike_clock host now
      rcases Scheduler.advance_first_of_ok unset polls.cycles with ⟨once, begun⟩
      have started : (emulator.clock host now).emulator.cpuClock.last = some now :=
        congrArg Scheduler.last (polls.cpuClock_eq.trans begun)
      have near : (emulator.clock host now).emulator.cpuClock.Near now := by
        rw [polls.cpuClock_eq]
        exact Scheduler.near_advance_first positive unset polls.cycles
      have period : (emulator.clock host now).emulator.cpuClock.period = emulator.cpuClock.period :=
        alike.cpuClock.period_eq
      rcases rest.exists_clocks with ⟨_, _, clocks⟩
      have lastPeriod : last.cpuClock.period = emulator.cpuClock.period :=
        clocks.alike.cpuClock.period_eq.trans period
      rcases rest.last_eq (by rwa [period]) (by rwa [alike.cpuClock.cap_eq]) started near with
        ⟨moved, ended, isLast, ended_le, caughtUp⟩
      cases moved.symm.trans isLast
      rw [period] at ended_le caughtUp
      rw [lastPeriod] at caughtUp
      have due : emulator.cpuClock.due now (times.foldl max now) = words.length :=
        Scheduler.due_eq positive (ended_le.trans (le_max_right _ _)) (by linarith)
      rw [List.length_append, (interleaved_of_clock done).1, once, due]

/-- Two rows of clock calls that begin anew execute equally many words if their first and their largest
timestamps are the same. -/
theorem Driven.length_words_eq {other otherLast : Emulator Rat} {otherHost otherLastHost : Host}
    {otherTimes : List Rat} {otherWords : List Word} (positive : 0 < emulator.cpuClock.period)
    (uncapped : emulator.cpuClock.cap = none) (unset : emulator.cpuClock.last = none)
    (clocks : other.cpuClock = emulator.cpuClock)
    (driven : Driven times words emulator host last lastHost)
    (otherDriven : Driven otherTimes otherWords other otherHost otherLast otherLastHost)
    (first : times.head? = otherTimes.head?) (latest : times.max? = otherTimes.max?) :
    words.length = otherWords.length := by
  cases times with
  | nil =>
      cases otherTimes with
      | nil =>
          cases driven
          cases otherDriven
          rfl
      | cons otherNow otherTimes => cases first
  | cons now times =>
      cases otherTimes with
      | nil => cases first
      | cons otherNow otherTimes =>
          cases first
          rw [List.max?_cons', List.max?_cons', Option.some.injEq] at latest
          rw [driven.length_words positive uncapped unset,
            otherDriven.length_words (by rwa [clocks]) (by rwa [clocks]) (by rwa [clocks]), clocks,
            latest]

/-- A machine that idles executes one word for ever. -/
theorem eq_of_mem_executed_of_idle {machine : Machine} {word executed : Word} (idle : machine.Idle)
    (fetched : machine.fetch = .ok word) {count : Nat} (mem : executed ∈ machine.executed count) :
    executed = word := by
  induction count with
  | zero => cases mem
  | succ count ih =>
      simp only [Machine.executed, fetched, idle.cycle_eq] at mem
      rcases List.mem_cons.mp mem with rfl | later
      · rfl
      · exact ih later

/-- A machine that idles can be driven by any timestamps. -/
theorem exists_driven_of_idle (cpuPositive : 0 < emulator.cpuClock.period)
    (timerPositive : 0 < emulator.timerClock.period) (size : host.screen.size = (64, 32))
    (length : host.keys.length = 16) (idle : (emulator.lent host).Idle) {word : Word}
    (fetched : (emulator.lent host).fetch = .ok word) (times : List Rat) :
    ∃ words last lastHost, Driven times words emulator host last lastHost ∧
      ∀ executed ∈ words, executed = word := by
  induction times generalizing emulator host with
  | nil => exact ⟨[], emulator, host, .nil emulator host, by simp⟩
  | cons now times ih =>
      rcases exists_clock_of_idle cpuPositive timerPositive size length idle now with
        ⟨firing, done, machine, screen⟩
      have alike := emulator.alike_clock host now
      have keys := (clockDone_of_outcome done).keys_eq
      have same := lent_eq_of_machine_eq_lent machine screen keys
      rcases ih (by rwa [alike.cpuClock.period_eq]) (by rwa [alike.timerClock.period_eq])
        (by rwa [screen]) (by rwa [keys]) (by rwa [same]) (by rwa [same]) with
        ⟨words, last, lastHost, driven, only⟩
      refine ⟨_, last, lastHost, .cons done driven, ?_⟩
      intro executed mem
      rcases List.mem_append.mp mem with now | later
      · exact eq_of_mem_executed_of_idle idle fetched now
      · exact only executed later

/-- Every emulator can load the program that jumps to itself and then be driven by any timestamps. -/
theorem exists_driven_of_loop (emulator : Emulator Rat) (cpuPositive : 0 < emulator.cpuClock.period)
    (timerPositive : 0 < emulator.timerClock.period) (times : List Rat) :
    ∃ loaded words last lastHost,
      emulator.load Machine.loop none = (loaded, .ok (seedFor Machine.loop none)) ∧
      Driven times words loaded {} last lastHost ∧
      ∀ executed ∈ words, executed = ⟨0x1, 0x2, 0x0, 0x0⟩ := by
  rcases exists_load_loop emulator {} with ⟨loaded, done, cpuClock, timerClock, fetched, idle⟩
  have cpuBegins : 0 < loaded.cpuClock.period := by
    rw [cpuClock]
    exact cpuPositive
  have timerBegins : 0 < loaded.timerClock.period := by
    rw [timerClock]
    exact timerPositive
  rcases exists_driven_of_idle cpuBegins timerBegins rfl rfl idle fetched times with
    ⟨words, last, lastHost, driven, only⟩
  exact ⟨loaded, words, last, lastHost, done, driven, only⟩

/-- The frame rate does not matter. If two emulators of one frequency and without a cap load a program
with one seed, whatever they did before, and are driven with equal screens and keys by timestamps of
which the first and the largest are the same, then both end with the same machine but for its timers,
provided that the first one does not execute `FX07`. -/
theorem runs_agree_at_any_frame_rate {frequency : Rat} {log otherLog : Log}
    {made otherMade loaded otherLoaded last otherLast : Emulator Rat}
    {program : List UInt8} {seed : Option Int} {inUse otherInUse : Int}
    {host otherHost lastHost otherLastHost : Host} {times otherTimes : List Rat}
    {words otherWords : List Word} (past otherPast : List (Call Rat))
    (isMade : create frequency none log = .ok made)
    (otherIsMade : create frequency none otherLog = .ok otherMade)
    (loads : (made.afterAll past).load program seed = (loaded, .ok inUse))
    (otherLoads : (otherMade.afterAll otherPast).load program seed = (otherLoaded, .ok otherInUse))
    (screen : otherHost.screen = host.screen) (keys : otherHost.keys = host.keys)
    (first : times.head? = otherTimes.head?) (latest : times.max? = otherTimes.max?)
    (driven : Driven times words loaded host last lastHost)
    (otherDriven : Driven otherTimes otherWords otherLoaded otherHost otherLast otherLastHost)
    (blind : ∀ word ∈ words, ¬(Pattern.closed 0xF 0x0 0x7).Matches word) :
    last.machine.registers = otherLast.machine.registers ∧
      last.machine.index = otherLast.machine.index ∧
      last.machine.counter = otherLast.machine.counter ∧
      last.machine.stack = otherLast.machine.stack ∧
      last.machine.memory = otherLast.machine.memory ∧
      last.machine.random = otherLast.machine.random ∧
      lastHost.screen = otherLastHost.screen := by
  rcases create_eq_ok_iff.mp isMade with ⟨positive, _, rfl⟩
  rcases create_eq_ok_iff.mp otherIsMade with ⟨_, _, rfl⟩
  rcases eq_of_load loads with ⟨machine, _, cpuClock, _⟩
  rcases eq_of_load otherLoads with ⟨otherMachine, _, otherCpuClock, _⟩
  have sameSeed : otherInUse = inUse := (load_of_ok otherLoads).1.trans (load_of_ok loads).1.symm
  have begun : otherLoaded.lent otherHost = loaded.lent host := by
    rw [lent, lent, machine, otherMachine, sameSeed, screen, keys]
  have period : 0 < loaded.cpuClock.period := by
    rw [cpuClock]
    exact one_div_pos.mpr positive
  have length_eq := driven.length_words_eq period (congrArg Scheduler.cap cpuClock)
    (congrArg Scheduler.last cpuClock) (otherCpuClock.trans cpuClock.symm) otherDriven first latest
  have otherRun := otherDriven.interleaved
  rw [begun] at otherRun
  rcases driven.interleaved.agree otherRun (Machine.sameButTimers_refl _) length_eq blind with
    ⟨_, delay, sound, same⟩
  exact ⟨(congrArg Machine.registers same).symm, (congrArg Machine.index same).symm,
    (congrArg Machine.counter same).symm, (congrArg Machine.stack same).symm,
    (congrArg Machine.memory same).symm, (congrArg Machine.random same).symm,
    (congrArg Machine.screen same).symm⟩

/-- The program that jumps to itself, driven by timestamps that go back, and driven at sixty frames per
second by a host that has used the emulator before. -/
theorem runs_agree_at_any_frame_rate_of_loop :
    let made := fresh 500 none {}
    ∃ loaded otherLoaded words otherWords last otherLast lastHost otherLastHost,
      made.load Machine.loop none = (loaded, .ok (seedFor Machine.loop none)) ∧
      (made.afterAll [.clock {} 7]).load Machine.loop none =
        (otherLoaded, .ok (seedFor Machine.loop none)) ∧
      Driven [0, 1 / 30, 1 / 60] words loaded {} last lastHost ∧
      Driven [0, 1 / 60, 1 / 60, 1 / 30] otherWords otherLoaded {} otherLast otherLastHost ∧
      last.machine.registers = otherLast.machine.registers ∧
      last.machine.index = otherLast.machine.index ∧
      last.machine.counter = otherLast.machine.counter ∧
      last.machine.stack = otherLast.machine.stack ∧
      last.machine.memory = otherLast.machine.memory ∧
      last.machine.random = otherLast.machine.random ∧
      lastHost.screen = otherLastHost.screen := by
  intro made
  have isMade : create 500 none {} = .ok made :=
    create_eq_ok_iff.mpr ⟨by norm_num, by simp, rfl⟩
  have alike := made.alike_afterAll [.clock {} 7]
  have cpuPositive : 0 < made.cpuClock.period := by decide +kernel
  have timerPositive : 0 < made.timerClock.period := by decide +kernel
  rcases exists_driven_of_loop made cpuPositive timerPositive [0, 1 / 30, 1 / 60] with
    ⟨loaded, words, last, lastHost, loads, driven, jumps⟩
  rw [← alike.cpuClock.period_eq] at cpuPositive
  rw [← alike.timerClock.period_eq] at timerPositive
  rcases exists_driven_of_loop _ cpuPositive timerPositive [0, 1 / 60, 1 / 60, 1 / 30] with
    ⟨otherLoaded, otherWords, otherLast, otherLastHost, otherLoads, otherDriven, _⟩
  have blind : ∀ word ∈ words, ¬(Pattern.closed 0xF 0x0 0x7).Matches word := by
    intro word mem
    rw [jumps word mem]
    decide
  have first : [0, 1 / 30, 1 / 60].head? = ([0, 1 / 60, 1 / 60, 1 / 30] : List Rat).head? := rfl
  have latest : [0, 1 / 30, 1 / 60].max? = ([0, 1 / 60, 1 / 60, 1 / 30] : List Rat).max? := by
    decide +kernel
  exact ⟨loaded, otherLoaded, words, otherWords, last, otherLast, lastHost, otherLastHost, loads,
    otherLoads, driven, otherDriven,
    runs_agree_at_any_frame_rate [] [.clock {} 7] isMade isMade loads otherLoads rfl rfl first latest
      driven otherDriven blind⟩

end Chip8.Emulator
