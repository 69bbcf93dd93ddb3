import Chip8.Proofs.Emulator.Polled
import Chip8.Proofs.Emulator.Renewal
import Chip8.Proofs.Machine.Cycle
import Chip8.Proofs.Machine.Fetch

/-!
# Machines that idle

A program that has nothing left to do jumps to its own last instruction for ever. Once its timers have
run out neither a cycle nor a tick changes the machine, so that every clock call ends well and leaves
it as it was.
-/

namespace Chip8

theorem Timer.tick_eq_of_eq_zero {timer : Timer} (out : timer.value = 0) : timer.tick = timer := by
  rcases timer with ⟨value⟩
  cases out
  rfl

namespace Machine

/-- Neither a cycle nor a tick changes the machine. -/
structure Idle (machine : Machine) : Prop where
  cycle_eq : machine.cycle = .ok machine
  tickTimers_eq : machine.tickTimers = machine

/-- A machine whose timers have run out idles where the program jumps to the jump itself. -/
theorem idle_of_jump {machine : Machine} {word : Word} (fetched : machine.fetch = .ok word)
    (jumps : (Pattern.led 0x1).Matches word) (back : machine.counter = word.address)
    (delay : machine.delayTimer.value = 0) (sound : machine.soundTimer.value = 0) :
    machine.Idle where
  cycle_eq := by
    have found : word.instruction? = some (.jump word.address) :=
      Word.instruction?_eq_some_iff.mpr ⟨jumps, rfl⟩
    have inBounds : (word.address : Int) % 0x10000 = word.address := by
      simp only [Word.address]
      omega
    apply cycle_eq_ok_iff.mpr
    refine ⟨word, _, machine, .jump word.address, fetched, found, rfl, ?_⟩
    rw [Flow.apply, inBounds, ← back]
  tickTimers_eq := by
    rw [tickTimers, Timer.tick_eq_of_eq_zero delay, Timer.tick_eq_of_eq_zero sound]

/-- When a program begins it stands in memory from the counter on. -/
theorem byteAt_beginning (program : List UInt8) (seed : Int) (offset : Nat)
    (inside : offset < program.length) :
    (beginning program seed).byteAt (0x200 + offset) = program[offset].toNat := by
  have front : (fontSprites ++ List.replicate 0x1B0 0).length = 0x200 := by
    rw [List.length_append, length_fontSprites, List.length_replicate]
  have position : (0x200 + offset : Int).toNat = 0x200 + offset := by omega
  have found : (image program)[0x200 + offset]? = some program[offset] := by
    rw [image, List.getElem?_append_left, List.getElem?_append_right, front, Nat.add_sub_cancel_left,
      List.getElem?_eq_getElem inside]
    · omega
    · rw [List.length_append, front]
      omega
  rw [byteAt, position, beginning, Array.getD_eq_getD_getElem?, List.getElem?_toArray, found,
    Option.getD_some]

/-- The first word of a program is fetched first. -/
theorem fetch_beginning {high low : UInt8} {rest : List UInt8} (seed : Int)
    (fits : (high :: low :: rest).length ≤ 0xE00) :
    (beginning (high :: low :: rest) seed).fetch = .ok (Word.ofBytes high low) := by
  have size : (beginning (high :: low :: rest) seed).memory.size = 0x1000 := by
    simp only [beginning, image, Memory.size, List.size_toArray, List.length_append,
      length_fontSprites, List.length_replicate]
    omega
  have first := byteAt_beginning (high :: low :: rest) seed 0 (Nat.succ_pos _)
  have second := byteAt_beginning (high :: low :: rest) seed 1 (Nat.succ_lt_succ (Nat.succ_pos _))
  have counter : (beginning (high :: low :: rest) seed).counter = 0x200 := rfl
  rw [fetch_eq_ok_iff size (by rw [counter]; decide), Faces, counter]
  refine ⟨by decide, (Word.ofBytes_eq_iff.mp rfl).trans ?_⟩
  rw [show (0x200 : Int) = 0x200 + (0 : Nat) from rfl, first,
    show (0x200 + (0 : Nat) + 1 : Int) = 0x200 + (1 : Nat) from rfl, second]
  rfl

/-- A program that jumps to itself. -/
def loop : List UInt8 := [0x12, 0x00]

end Machine

namespace Emulator

variable {emulator : Emulator Rat} {host : Host}

/-- What the host lends again changes nothing. -/
theorem lent_eq_of_machine_eq_lent {reached : Emulator Rat} {later : Host}
    (machine : reached.machine = emulator.lent host) (screen : later.screen = host.screen)
    (keys : later.keys = host.keys) : reached.lent later = emulator.lent host := by
  rw [lent, machine, screen, keys]
  rfl

/-- A machine that idles is clocked without failure and does not change. -/
theorem exists_clock_of_idle (cpuPositive : 0 < emulator.cpuClock.period)
    (timerPositive : 0 < emulator.timerClock.period) (size : host.screen.size = (64, 32))
    (length : host.keys.length = 16) (idle : (emulator.lent host).Idle) (now : Rat) :
    ∃ firing, (emulator.clock host now).outcome = .ok firing ∧
      (emulator.clock host now).emulator.machine = emulator.lent host ∧
      (emulator.clock host now).host.screen = host.screen := by
  have cycles : cycleAction (emulator.lent host) = (emulator.lent host, .ok ()) :=
    cycleAction_eq_ok_iff.mpr idle.cycle_eq
  have ticks : tickAction (emulator.lent host) = (emulator.lent host, .ok ()) := by
    rw [tickAction, idle.tickTimers_eq]
  rcases Scheduler.exists_advance_of_fixed cpuPositive cycles now with ⟨cycled, cpuDone, cpuState⟩
  rcases Scheduler.exists_advance_of_fixed timerPositive ticks now with ⟨ticked, timerDone, timerState⟩
  have reached : (emulator.cpuPoll host now).state = emulator.lent host := cpuState
  have timerPoll : emulator.timerPoll host now =
      emulator.timerClock.advance now tickAction (emulator.lent host) := by
    rw [Emulator.timerPoll, reached]
  have done : (emulator.clock host now).outcome = .ok ⟨cycled, ticked⟩ :=
    outcome_clock_of_polls size length cpuDone (by rw [timerPoll, timerDone])
  have polls := clockDone_of_outcome done
  refine ⟨_, done, ?_, ?_⟩
  · rw [polls.machine_eq, timerPoll, timerState]
  · rw [polls.screen_eq, reached, lent]

/-- A machine that idles is run as often as the caps allow of what is due. -/
theorem outcome_clock_of_idle (cpuPositive : 0 < emulator.cpuClock.period)
    (timerPositive : 0 < emulator.timerClock.period) (size : host.screen.size = (64, 32))
    (length : host.keys.length = 16) (idle : (emulator.lent host).Idle) {cpuLast timerLast : Rat}
    (cpuStarted : emulator.cpuClock.last = some cpuLast)
    (timerStarted : emulator.timerClock.last = some timerLast) (now : Rat) :
    (emulator.clock host now).outcome =
      .ok ⟨emulator.cpuClock.allowed (emulator.cpuClock.due cpuLast now),
        emulator.timerClock.allowed (emulator.timerClock.due timerLast now)⟩ := by
  rcases exists_clock_of_idle cpuPositive timerPositive size length idle now with ⟨firing, done, _⟩
  have polls := clockDone_of_outcome done
  rw [done, ← (Scheduler.advance_of_ok cpuPositive cpuStarted polls.cycles).1,
    ← (Scheduler.advance_of_ok timerPositive timerStarted polls.ticks).1]

/-- Every emulator can load the program that jumps to itself, and then idles from the beginning on. -/
theorem exists_load_loop (emulator : Emulator Rat) (host : Host) :
    ∃ loaded, emulator.load Machine.loop none = (loaded, .ok (seedFor Machine.loop none)) ∧
      loaded.cpuClock = emulator.cpuClock.reset ∧ loaded.timerClock = emulator.timerClock.reset ∧
      (loaded.lent host).fetch = .ok ⟨0x1, 0x2, 0x0, 0x0⟩ ∧ (loaded.lent host).Idle := by
  have nonzero : seedFor Machine.loop none % 0x10000 ≠ 0 := seedFor_none_ne_zero _
  rcases emulator.exists_load_eq_ok (by decide) nonzero with ⟨loaded, done⟩
  rcases load_of_ok done with ⟨_, _, cpuClock, timerClock, _⟩
  have lent_eq : loaded.lent host =
      { Machine.beginning Machine.loop (seedFor Machine.loop none) with
        screen := host.screen, keys := host.keys } := by
    rw [lent, machine_of_load done]
  have fetched : (loaded.lent host).fetch = .ok ⟨0x1, 0x2, 0x0, 0x0⟩ := by
    rw [lent_eq]
    exact Machine.fetch_beginning (seedFor Machine.loop none) (by decide)
  refine ⟨loaded, done, cpuClock, timerClock, fetched, ?_⟩
  apply Machine.idle_of_jump fetched (by decide)
  · rw [lent_eq]
    rfl
  · rw [lent_eq]
    rfl
  · rw [lent_eq]
    rfl

end Emulator

end Chip8
