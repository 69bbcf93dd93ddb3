import Chip8.Proofs.Emulator.Idle
import Chip8.Proofs.Emulator.Journal
import Chip8.Proofs.Machine.Footprint

/-!
# Every random byte is used once

A program draws its random bytes from one stream, which begins with the seed in use. Of all words only
`CXNN` draws, one byte each time, and nothing else reads or moves the stream: neither another word nor a
cycle that fails, neither ticks nor skipped periods, neither a host that lends something else nor one
that forgets the phase.

So the bytes that a program gets are the first of the stream, in order and without a gap, and as many
as `CXNN` was completed.
-/

namespace Chip8

namespace Lfsr

/-- One byte more is the next one of the register that the bytes before have left. -/
theorem nextBytes_succ (register : Lfsr) (count : Nat) :
    register.nextBytes (count + 1) =
      ((register.nextBytes count).1.nextByte.1,
        (register.nextBytes count).2 ++ [(register.nextBytes count).1.nextByte.2]) := by
  induction count generalizing register with
  | zero => rfl
  | succ count ih =>
      have rest : register.nextBytes (count + 2) =
          ((register.nextByte.1.nextBytes (count + 1)).1,
            register.nextByte.2 :: (register.nextByte.1.nextBytes (count + 1)).2) := rfl
      rw [rest, ih]
      rfl

end Lfsr

/-- The cycles that have drawn a random byte. -/
def draws (completed : List Completed) : List Completed :=
  completed.filter fun entry => (Pattern.led 0xC).Matches entry.word

section

variable {completed : List Completed} {entry : Completed}

theorem draws_append_of_draw (drawn : (Pattern.led 0xC).Matches entry.word) :
    draws (completed ++ [entry]) = draws completed ++ [entry] := by
  rw [draws, List.filter_append, List.filter_cons_of_pos (by simpa using drawn), List.filter_nil]
  rfl

theorem draws_append_of_other (other : ¬(Pattern.led 0xC).Matches entry.word) :
    draws (completed ++ [entry]) = draws completed := by
  rw [draws, List.filter_append, List.filter_cons_of_neg (by simpa using other), List.filter_nil,
    List.append_nil]
  rfl

end

namespace Machine

variable {machine after : Machine} {word : Word}

/-- Only `CXNN` moves the random register. -/
theorem random_of_execute (done : machine.execute word = .ok after)
    (other : ¬(Pattern.led 0xC).Matches word) : after.random = machine.random :=
  (covers_of_execute done).random.resolve_right other

/-- `CXNN` takes the next byte of the random register, under its mask. -/
theorem random_of_draw (done : machine.execute word = .ok after)
    (draws : (Pattern.led 0xC).Matches word) :
    after.random = machine.random.nextByte.1 ∧
      after.register word.x = machine.random.nextByte.2 &&& word.byte := by
  have isDraw : word.instruction? = some (.random word.x word.byte) :=
    Word.instruction?_eq_some_iff.mpr ⟨draws, rfl, rfl⟩
  rcases execute_eq_ok_iff.mp done with ⟨instruction, performed, flow, found, performs, rfl⟩
  cases isDraw.symm.trans found
  cases performs
  exact ⟨rfl, register_setRegister_self _ _ _⟩

end Machine

/-- The cycles that have drawn a byte have drawn the first ones of a stream, and the random register of
the machine stands after them. -/
structure Journal.InStream (start : Lfsr) (journal : Journal) : Prop where
  random_eq : journal.machine.random = (start.nextBytes (draws journal.completed).length).1
  bytes : List.Forall₂
    (fun draw byte => draw.after.register draw.word.x = byte &&& draw.word.byte)
    (draws journal.completed) (start.nextBytes (draws journal.completed).length).2

namespace Journal

theorem inStream_complete {start : Lfsr} {journal : Journal} {word : Word} {after : Machine}
    (inStream : journal.InStream start) (done : journal.machine.execute word = .ok after) :
    (journal.complete word after).InStream start := by
  rcases inStream with ⟨random_eq, bytes⟩
  by_cases drawn : (Pattern.led 0xC).Matches word
  · rcases Machine.random_of_draw done drawn with ⟨random, byte⟩
    rw [random_eq] at random byte
    constructor
    · rw [complete, draws_append_of_draw drawn, List.length_append, List.length_singleton,
        Lfsr.nextBytes_succ]
      exact random
    · rw [complete, draws_append_of_draw drawn, List.length_append, List.length_singleton,
        Lfsr.nextBytes_succ]
      exact List.rel_append bytes (.cons byte .nil)
  · constructor
    · rw [complete, draws_append_of_other drawn]
      exact (Machine.random_of_execute done drawn).trans random_eq
    · rw [complete, draws_append_of_other drawn]
      exact bytes

theorem invariant_inStream (start : Lfsr) : Invariant (InStream start) where
  cycles _ _ _ inStream _ done := inStream_complete inStream done
  ticks _ inStream := ⟨inStream.random_eq, inStream.bytes⟩
  lends _ _ _ inStream := ⟨inStream.random_eq, inStream.bytes⟩

end Journal

namespace Emulator

variable {Time : Type} [ClockNumber Time] {emulator loaded : Emulator Time} {program : List UInt8}
  {seed : Option Int} {inUse : Int}

/-- After a program was loaded, and whatever the host does with it, the random register stands after as
many bytes of the stream of the seed in use as `CXNN` was completed, and each completed `CXNN` has put
the byte of its own place in the stream, under its mask, into its register. -/
theorem random_bytes_drawn_in_order (done : emulator.load program seed = (loaded, .ok inUse))
    {calls : List (Call Time)} (continues : ∀ call ∈ calls, call.Continues) :
    ∃ start, Lfsr.seeded inUse = .ok start ∧
      let drawn := draws (loaded.completedAfterAll [] calls)
      let stream := start.nextBytes drawn.length
      (loaded.afterAll calls).machine.random = stream.1 ∧
        List.Forall₂ (fun draw byte => draw.after.register draw.word.x = byte &&& draw.word.byte)
          drawn stream.2 := by
  rcases load_of_ok done with ⟨_, _, _, _, memory, start, _, started, machine⟩
  have begins : Journal.InStream start ⟨loaded.machine, []⟩ := by
    rw [machine]
    exact ⟨rfl, .nil⟩
  have inStream := completedAfterAll_keeps (Journal.invariant_inStream start) continues begins
  exact ⟨start, started, inStream.random_eq, inStream.bytes⟩

/-- `C00F` puts the low half of the first byte into its register, and the register stands after it. -/
theorem random_bytes_drawn_in_order_of_step :
    let emulator : Emulator Rat :=
      { frequency := 500, cpuClock := { period := 1 / 500 }, timerClock := { period := 1 / 60 } }
    ∃ loaded start after, emulator.load [0xC0, 0x0F] (some 1) = (loaded, .ok 1) ∧
      Lfsr.seeded 1 = .ok start ∧
      draws (loaded.completedAfterAll [] [.step {}]) = [⟨⟨0xC, 0x0, 0x0, 0xF⟩, after⟩] ∧
      after.register 0 = start.nextByte.2 &&& 0x0F ∧
      (loaded.afterAll [.step {}]).machine.random = start.nextByte.1 := by
  intro emulator
  have nonzero : seedFor [0xC0, 0x0F] (some 1) % 0x10000 ≠ 0 := by decide
  rcases emulator.exists_load_eq_ok (by decide) nonzero with ⟨loaded, done⟩
  have fetched : (loaded.lent {}).fetch = .ok ⟨0xC, 0x0, 0x0, 0xF⟩ := by
    rw [lent, machine_of_load done]
    exact Machine.fetch_beginning 1 (by decide)
  have succeeds : ∃ after, (loaded.lent {}).execute ⟨0xC, 0x0, 0x0, 0xF⟩ = .ok after :=
    ⟨_, Machine.execute_eq_ok_iff.mpr ⟨.random 0x0 0x0F, _, _, rfl, rfl, rfl⟩⟩
  rcases succeeds with ⟨after, executed⟩
  have attached : attach loaded.machine {} = .ok (loaded.lent {}) :=
    attach_eq_ok_iff.mpr ⟨by decide, by decide, rfl⟩
  have drawn : draws (loaded.completedAfterAll [] [.step {}]) = [⟨⟨0xC, 0x0, 0x0, 0xF⟩, after⟩] := by
    simp only [completedAfterAll, completedAfter, attached, Journal.cycleAction, fetched, executed]
    rfl
  have continues : ∀ call ∈ ([.step {}] : List (Call Rat)), call.Continues := by
    simp [Call.Continues]
  rcases random_bytes_drawn_in_order done continues with ⟨start, started, random, bytes⟩
  rw [drawn] at random bytes
  cases bytes with
  | cons byte _ => exact ⟨loaded, start, after, done, started, drawn, byte, random⟩

end Emulator

end Chip8
