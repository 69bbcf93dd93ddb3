import Chip8.Proofs.CallStack
import Chip8.Proofs.Lfsr.Running
import Chip8.Proofs.Machine.Fetch
import Chip8.Proofs.Pattern

/-!
# Bounds of the machine

The bounds that a machine keeps from the moment a program is loaded. They support each other: what a
return jumps to is bounded because calls push the address after a word in memory, and the counter of
a word in memory is bounded because it was fetched. The counter never comes near the end of its
sixteen bits, so taking addresses to sixteen bits loses nothing.
-/

namespace Chip8

/-- Where the program goes on after an instruction at `counter`, before the counter is taken to
sixteen bits. -/
def Flow.target (flow : Flow) (counter : Int) : Int :=
  match flow with
  | wait => counter
  | next => counter + 2
  | skip => counter + 4
  | jump address => address

namespace Flow

theorem apply_eq_target {flow : Flow} {counter : Int} (nonneg : 0 ≤ flow.target counter)
    (small : flow.target counter < 0x10000) : flow.apply counter = flow.target counter := by
  cases flow <;> simp only [target] at nonneg small <;> simp only [apply, target]
  all_goals omega

/-- The program goes on no further than the farthest jump with an offset. -/
def Reaches (flow : Flow) (counter : Int) : Prop :=
  0 ≤ flow.target counter ∧ flow.target counter ≤ 0x10FE

theorem reaches_next {counter : Int} (nonneg : 0 ≤ counter) (inMemory : counter ≤ 0xFFE) :
    next.Reaches counter := by
  simp only [Reaches, target]
  omega

theorem reaches_skipIf {counter : Int} (nonneg : 0 ≤ counter) (inMemory : counter ≤ 0xFFE)
    (condition : Bool) : (skipIf condition).Reaches counter := by
  cases condition <;> simp only [skipIf, Reaches, target] <;> simp <;> omega

end Flow

namespace CallStack

/-- Return addresses are those of words after a word in memory, and free cells are clear. -/
structure Bounded (stack : CallStack) : Prop where
  /-- The address after a word in memory is at least two and at most the size of memory. -/
  live : ∀ address ∈ stack.toList, 2 ≤ address.toNat ∧ address.toNat ≤ 0x1000
  free : ∀ cell (inside : cell < 16), stack.pointer ≤ cell → stack.cells[cell] = 0

theorem bounded_empty : empty.Bounded where
  live := by simp
  free := freeCellsClear_empty

theorem bounded_push {stack pushed : CallStack} {address : Int} (bounded : stack.Bounded)
    (lower : 2 ≤ address) (upper : address ≤ 0x1000) (done : stack.push address = .ok pushed) :
    pushed.Bounded where
  live := by
    intro live mem
    rw [toList_push done, List.mem_append, List.mem_singleton] at mem
    rcases mem with old | rfl
    · exact bounded.live live old
    · have value : ((UInt16.ofInt address).toNat : Int) = address :=
        toNat_ofInt (by omega) (by omega)
      omega
  free := freeCellsClear_push bounded.free done

/-- The address that is popped is in the bounds, and the stack stays in them. -/
theorem bounded_pop {stack popped : CallStack} {address : UInt16} (bounded : stack.Bounded)
    (done : stack.pop = .ok (popped, address)) :
    popped.Bounded ∧ 2 ≤ address.toNat ∧ address.toNat ≤ 0x1000 := by
  have split := toList_pop done
  refine ⟨⟨?_, freeCellsClear_pop bounded.free done⟩, bounded.live address (by simp [split])⟩
  intro live mem
  exact bounded.live live (by simp [split, mem])

end CallStack

namespace Timer

theorem value_tick_le {timer : Timer} (small : timer.value ≤ 0xFF) : timer.tick.value ≤ 0xFF := by
  simp only [tick]
  omega

end Timer

/-- The addresses in an instruction have the twelve bits that a word has room for. -/
def Instruction.Reaches : Instruction → Prop
  | jump address | call address | setIndex address | jumpOffset address => address < 0x1000
  | _ => True

theorem Word.address_lt (word : Word) : word.address < 0x1000 := by
  simp only [address]
  omega

theorem Word.reaches_of_instruction? {word : Word} {instruction : Instruction}
    (found : word.instruction? = some instruction) : instruction.Reaches := by
  rcases instruction?_eq_some_iff.mp found with ⟨_, operands⟩
  cases instruction with
  | jump address | call address | setIndex address | jumpOffset address =>
      cases operands
      exact word.address_lt
  | _ => trivial

namespace Machine

/-- The bounds of a machine with a program. -/
structure Bounded (machine : Machine) : Prop where
  index_mem : 0 ≤ machine.index ∧ machine.index ≤ 0xFFFF
  /-- The counter reaches no further than the farthest jump with an offset. -/
  counter_mem : 0 ≤ machine.counter ∧ machine.counter ≤ 0x10FE
  stack : machine.stack.Bounded
  fontBase : machine.fontBase = 0
  size_memory : machine.memory.size = 0x1000
  random : machine.random.Running
  delay_mem : 0 ≤ machine.delayTimer.value ∧ machine.delayTimer.value ≤ 0xFF
  sound_mem : 0 ≤ machine.soundTimer.value ∧ machine.soundTimer.value ≤ 0xFF

/-- Combining registers changes registers only. -/
theorem exists_combine_eq (machine : Machine) (operation : Operation) (x y : Nibble) :
    ∃ registers, machine.combine operation x y = { machine with registers } := by
  cases operation <;> exact ⟨_, rfl⟩

/-- An instruction keeps the bounds, and the program goes on within them. -/
theorem bounded_perform {machine after : Machine} {instruction : Instruction} {flow : Flow}
    (bounded : machine.Bounded) (inMemory : machine.counter ≤ 0xFFE)
    (reaches : instruction.Reaches) (done : machine.perform instruction = .ok (after, flow)) :
    after.Bounded ∧ flow.Reaches machine.counter := by
  have nonneg := bounded.counter_mem.1
  have next := Flow.reaches_next nonneg inMemory
  cases instruction with
  | noOperation | clearScreen | setByte _ _ | addByte _ _ =>
      cases done
      exact ⟨{ bounded with }, next⟩
  | endCall =>
      simp only [perform, bind_eq_ok_iff, Except.ok.injEq, Prod.mk.injEq] at done
      rcases done with ⟨⟨stack, address⟩, popped, rfl, rfl⟩
      rcases CallStack.bounded_pop bounded.stack popped with ⟨rest, lower, upper⟩
      refine ⟨{ bounded with stack := rest }, ?_⟩
      simp only [Flow.Reaches, Flow.target]
      omega
  | jump address =>
      cases done
      refine ⟨bounded, ?_⟩
      simp only [Flow.Reaches, Flow.target, Instruction.Reaches] at reaches ⊢
      omega
  | call address =>
      simp only [perform, bind_eq_ok_iff, Except.ok.injEq, Prod.mk.injEq] at done
      rcases done with ⟨stack, pushed, rfl, rfl⟩
      -- The pushed address is that of the word after the call, which stands in memory.
      have more := CallStack.bounded_push bounded.stack (by omega) (by omega) pushed
      refine ⟨{ bounded with stack := more }, ?_⟩
      simp only [Flow.Reaches, Flow.target, Instruction.Reaches] at reaches ⊢
      omega
  | skipIfByte _ _ | skipUnlessByte _ _ | skipIfEqual _ _ | skipUnlessEqual _ _ =>
      cases done
      exact ⟨bounded, Flow.reaches_skipIf nonneg inMemory _⟩
  | combine operation x y =>
      cases done
      rcases machine.exists_combine_eq operation x y with ⟨registers, combined⟩
      rw [combined]
      exact ⟨{ bounded with }, next⟩
  | setIndex address =>
      cases done
      refine ⟨{ bounded with index_mem := ?_ }, next⟩
      simp only [Instruction.Reaches] at reaches ⊢
      omega
  | jumpOffset address =>
      cases done
      refine ⟨bounded, ?_⟩
      have offset := (machine.register 0).toNat_lt
      simp only [Flow.Reaches, Flow.target, Instruction.Reaches] at reaches ⊢
      omega
  | random x mask =>
      cases done
      exact ⟨{ bounded with random := Lfsr.running_nextByte bounded.random }, next⟩
  | draw x y rows =>
      simp only [perform, bind_eq_ok_iff, Except.ok.injEq, Prod.mk.injEq] at done
      rcases done with ⟨sprite, _, drawn, _, rfl, rfl⟩
      exact ⟨{ bounded with }, next⟩
  | skipIfKey x | skipUnlessKey x =>
      simp only [perform, bind_eq_ok_iff, Except.ok.injEq, Prod.mk.injEq] at done
      rcases done with ⟨down, _, rfl, rfl⟩
      exact ⟨bounded, Flow.reaches_skipIf nonneg inMemory _⟩
  | readDelay x =>
      cases done
      exact ⟨{ bounded with }, next⟩
  | awaitKey x =>
      simp only [perform] at done
      split at done <;> cases done
      · exact ⟨{ bounded with }, next⟩
      · refine ⟨bounded, ?_⟩
        simp only [Flow.Reaches, Flow.target]
        omega
  | setDelay x =>
      cases done
      have value := Timer.value_set_mem machine.delayTimer (machine.register x).toNat
      exact ⟨{ bounded with delay_mem := ⟨value.1, by simp only; omega⟩ }, next⟩
  | setSound x =>
      cases done
      have value := Timer.value_set_mem machine.soundTimer (machine.register x).toNat
      exact ⟨{ bounded with sound_mem := ⟨value.1, by simp only; omega⟩ }, next⟩
  | addIndex x =>
      cases done
      refine ⟨{ bounded with index_mem := ?_ }, next⟩
      simp only
      omega
  | fontDigit x =>
      cases done
      refine ⟨{ bounded with index_mem := ?_ }, next⟩
      have fontBase := bounded.fontBase
      simp only
      omega
  | storeDigits x | storeRegisters x =>
      simp only [perform, bind_eq_ok_iff, Except.ok.injEq, Prod.mk.injEq] at done
      rcases done with ⟨memory, written, rfl, rfl⟩
      have size := (Memory.size_writeBlock written).trans bounded.size_memory
      exact ⟨{ bounded with size_memory := size }, next⟩
  | loadRegisters x =>
      simp only [perform, bind_eq_ok_iff, Except.ok.injEq, Prod.mk.injEq] at done
      rcases done with ⟨bytes, _, rfl, rfl⟩
      exact ⟨{ bounded with }, next⟩

/-- In the cycle to come, taking addresses to sixteen bits loses nothing: neither where the program
goes on nor the address that a call would push. -/
def KeepsAddresses (machine : Machine) : Prop :=
  ∀ word, machine.fetch = .ok word →
    (UInt16.ofInt (machine.counter + 2)).toNat = machine.counter + 2 ∧
      ∀ performed flow, machine.dispatch word = .ok (performed, flow) →
        flow.apply machine.counter = flow.target machine.counter

theorem counter_le_of_fetch {machine : Machine} {word : Word} (bounded : machine.Bounded)
    (fetched : machine.fetch = .ok word) : machine.counter ≤ 0xFFE := by
  have inside := (counter_mem_of_fetch fetched).2
  rw [bounded.size_memory] at inside
  omega

theorem bounded_dispatch {machine performed : Machine} {word : Word} {flow : Flow}
    (bounded : machine.Bounded) (fetched : machine.fetch = .ok word)
    (done : machine.dispatch word = .ok (performed, flow)) :
    performed.Bounded ∧ flow.Reaches machine.counter ∧
      flow.apply machine.counter = flow.target machine.counter := by
  rcases bind_eq_ok_iff.mp done with ⟨instruction, found, performs⟩
  have reaches := Word.reaches_of_instruction? (Word.instruction_eq_ok_iff.mp found)
  rcases bounded_perform bounded (counter_le_of_fetch bounded fetched) reaches performs with
    ⟨kept, onward⟩
  refine ⟨kept, onward, Flow.apply_eq_target onward.1 ?_⟩
  have upper := onward.2
  omega

theorem Bounded.keepsAddresses {machine : Machine} (bounded : machine.Bounded) :
    machine.KeepsAddresses := by
  intro word fetched
  have nonneg := bounded.counter_mem.1
  have inMemory := counter_le_of_fetch bounded fetched
  refine ⟨CallStack.toNat_ofInt (by omega) (by omega), ?_⟩
  intro performed flow done
  exact (bounded_dispatch bounded fetched done).2.2

theorem bounded_cycle {machine after : Machine} (bounded : machine.Bounded)
    (done : machine.cycle = .ok after) : after.Bounded := by
  simp only [cycle, execute, bind_eq_ok_iff, Except.ok.injEq] at done
  rcases done with ⟨word, fetched, ⟨performed, flow⟩, dispatched, rfl⟩
  rcases bounded_dispatch bounded fetched dispatched with ⟨kept, onward, untruncated⟩
  refine { kept with counter_mem := ?_ }
  simp only [untruncated]
  exact onward

/-- Cycles keep the bounds, up to the one that fails if one does. -/
theorem bounded_cycles {machine : Machine} (bounded : machine.Bounded) (done count : Nat) :
    (machine.cycles done count).machine.Bounded := by
  induction count generalizing machine done with
  | zero => exact bounded
  | succ count ih =>
      unfold cycles
      split
      next fault failed => exact bounded
      next after cycled => exact ih (bounded_cycle bounded cycled) (done + 1)

theorem bounded_tickTimers {machine : Machine} (bounded : machine.Bounded) :
    machine.tickTimers.Bounded :=
  { bounded with
    delay_mem := ⟨Timer.value_tick_nonneg _, Timer.value_tick_le bounded.delay_mem.2⟩
    sound_mem := ⟨Timer.value_tick_nonneg _, Timer.value_tick_le bounded.sound_mem.2⟩ }

/-- A machine that begins with a program is in the bounds. -/
theorem bounded_of_program {program : List UInt8} {memory : Memory} {random : Lfsr}
    (fits : programMemory program = .ok memory) (running : random.Running) :
    ({ memory, random } : Machine).Bounded where
  index_mem := by simp
  counter_mem := by simp
  stack := CallStack.bounded_empty
  fontBase := rfl
  size_memory := by
    rcases bind_eq_ok_iff.mp fits with ⟨sprites, font, written⟩
    rw [Memory.size_writeBlock written, Memory.size_writeBlock font, Memory.size_blank]
  random := running
  delay_mem := by simp
  sound_mem := by simp

end Machine

end Chip8
