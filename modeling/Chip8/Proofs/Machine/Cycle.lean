import Chip8.Machine
import Chip8.Proofs.Outcome
import Chip8.Proofs.Pattern

/-!
# A cycle taken apart

A cycle that succeeds has fetched a word, found its instruction and performed it, and has then moved
the counter. Every statement about what cycles do starts from this one.
-/

namespace Chip8.Machine

theorem execute_eq_ok_iff {machine after : Machine} {word : Word} :
    machine.execute word = .ok after ↔
      ∃ instruction performed flow, word.instruction? = some instruction ∧
        machine.perform instruction = .ok (performed, flow) ∧
        after = { performed with counter := flow.apply machine.counter } := by
  simp only [execute, dispatch, bind_eq_ok_iff, Word.instruction_eq_ok_iff, Except.ok.injEq]
  constructor
  · rintro ⟨⟨performed, flow⟩, ⟨instruction, found, done⟩, rfl⟩
    exact ⟨instruction, performed, flow, found, done, rfl⟩
  · rintro ⟨instruction, performed, flow, found, done, rfl⟩
    exact ⟨(performed, flow), ⟨instruction, found, done⟩, rfl⟩

theorem execute_eq_ok_iff_of_instruction {machine after : Machine} {word : Word}
    {instruction : Instruction} (found : word.instruction? = some instruction) :
    machine.execute word = .ok after ↔
      ∃ performed flow, machine.perform instruction = .ok (performed, flow) ∧
        after = { performed with counter := flow.apply machine.counter } := by
  simp only [execute_eq_ok_iff, found, Option.some.injEq, exists_and_left, exists_eq_left']

theorem cycle_eq_ok_iff {machine after : Machine} :
    machine.cycle = .ok after ↔
      ∃ word instruction performed flow, machine.fetch = .ok word ∧
        word.instruction? = some instruction ∧
        machine.perform instruction = .ok (performed, flow) ∧
        after = { performed with counter := flow.apply machine.counter } := by
  simp only [cycle, bind_eq_ok_iff, execute_eq_ok_iff, exists_and_left]

/-- Cycles in a row lead from one machine to the next. -/
theorem cycle_cycles_eq_ok {machine : Machine} {done count : Nat}
    (succeeds : (machine.cycles done count).outcome = .ok ()) {index : Nat} (inside : index < count) :
    (machine.cycles done index).machine.cycle =
      .ok (machine.cycles done (index + 1)).machine := by
  induction count generalizing machine done index with
  | zero => exact absurd inside (Nat.not_lt_zero index)
  | succ count ih =>
      unfold cycles at succeeds
      rcases first : machine.cycle with fault | next
      · rw [first] at succeeds
        cases succeeds
      · rw [first] at succeeds
        cases index with
        | zero => simp only [cycles, first]
        | succ index =>
            have later := ih succeeds (Nat.lt_of_succ_lt_succ inside)
            unfold cycles
            rw [first]
            exact later

end Chip8.Machine
