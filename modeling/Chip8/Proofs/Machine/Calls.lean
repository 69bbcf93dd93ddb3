import Chip8.Proofs.CallStack
import Chip8.Proofs.Machine.Cycle
import Chip8.Proofs.Machine.Fetch
import Mathlib.Control.Monad.Basic

/-!
# Calls and returns

A program may call subroutines from subroutines, jump about in them and rewrite itself on the way. The
stack still keeps calls and returns matched: what was on it when a subroutine was called stays at its
bottom for as long as the stack is deeper than before the call, with the address after the call on
top of it. So the cycle that first brings the stack back to its old depth is a return, it leads to the
instruction after the call, and the stack is the old one.

The argument needs nothing about programs, only what one instruction does to the stack.
-/

namespace Chip8

/-- What an instruction makes of the stack. -/
def Instruction.Restacks (machine after : Machine) (flow : Flow) : Instruction → Prop
  | .call _ => machine.stack.push (machine.counter + 2) = .ok after.stack
  | .endCall =>
    ∃ address : UInt16, machine.stack.pop = .ok (after.stack, address) ∧
      flow = .jump address.toNat
  | _ => after.stack = machine.stack

namespace Machine

theorem restacks_of_perform {machine after : Machine} {instruction : Instruction} {flow : Flow}
    (done : machine.perform instruction = .ok (after, flow)) :
    instruction.Restacks machine after flow := by
  cases instruction with
  | call address =>
      simp only [perform, bind_eq_ok_iff, Except.ok.injEq, Prod.mk.injEq] at done
      rcases done with ⟨stack, pushed, rfl, rfl⟩
      exact pushed
  | endCall =>
      simp only [perform, bind_eq_ok_iff, Except.ok.injEq, Prod.mk.injEq] at done
      rcases done with ⟨⟨stack, address⟩, popped, rfl, rfl⟩
      exact ⟨address, popped, rfl⟩
  | combine operation x y =>
      cases done
      cases operation <;> rfl
  | awaitKey x =>
      simp only [perform] at done
      split at done <;> cases done <;> rfl
  | draw _ _ _ =>
      simp only [perform, bind_eq_ok_iff, Except.ok.injEq, Prod.mk.injEq] at done
      rcases done with ⟨_, _, _, _, rfl, rfl⟩
      rfl
  | skipIfKey _ | skipUnlessKey _ | storeDigits _ | storeRegisters _ | loadRegisters _ =>
      simp only [perform, bind_eq_ok_iff, Except.ok.injEq, Prod.mk.injEq] at done
      rcases done with ⟨_, _, rfl, rfl⟩
      rfl
  | _ =>
      cases done
      rfl

/-- The return addresses at the bottom of the stack, and free cells that are clear. -/
structure Holds (machine : Machine) (bottom : List UInt16) : Prop where
  bottom : bottom <+: machine.stack.toList
  clear : machine.stack.FreeCellsClear

variable {machine after : Machine} {bottom saved : List UInt16} {address : UInt16}

theorem Holds.length_le (holds : machine.Holds bottom) : bottom.length ≤ machine.stack.depth := by
  rw [← CallStack.length_toList]
  exact holds.bottom.length_le

/-- A cycle after which the stack is still as deep as its bottom has not touched the bottom. -/
theorem holds_cycle (holds : machine.Holds bottom) (done : machine.cycle = .ok after)
    (deep : bottom.length ≤ after.stack.depth) : after.Holds bottom := by
  rcases cycle_eq_ok_iff.mp done with ⟨word, instruction, performed, flow, _, _, performs, rfl⟩
  have restacks := restacks_of_perform performs
  cases instruction with
  | call target =>
      have grown := CallStack.toList_push restacks
      refine ⟨?_, CallStack.freeCellsClear_push holds.clear restacks⟩
      rw [grown]
      exact holds.bottom.trans (List.prefix_append _ _)
  | endCall =>
      rcases restacks with ⟨address, popped, -⟩
      have split := CallStack.toList_pop popped
      refine ⟨?_, CallStack.freeCellsClear_pop holds.clear popped⟩
      have whole := holds.bottom
      rw [split] at whole
      exact List.prefix_of_prefix_length_le whole (List.prefix_append _ _) (by simpa using deep)
  | _ =>
      have same : performed.stack = machine.stack := restacks
      exact ⟨by simpa only [same] using holds.bottom, by simpa only [same] using holds.clear⟩

/-- A cycle after which the stack is less deep than its bottom was is a return. It takes the last
address off the bottom and goes on there. -/
theorem returns_of_cycle (holds : machine.Holds (saved ++ [address]))
    (done : machine.cycle = .ok after) (shallow : after.stack.depth = saved.length) :
    (∃ word, machine.fetch = .ok word ∧ (Pattern.whole 0x0 0x0 0xE 0xE).Matches word) ∧
      after.counter = address.toNat ∧ after.stack.toList = saved ∧
      after.stack.FreeCellsClear := by
  have deep : saved.length + 1 ≤ machine.stack.depth := by simpa using holds.length_le
  rcases cycle_eq_ok_iff.mp done with
    ⟨word, instruction, performed, flow, fetched, found, performs, rfl⟩
  simp only at shallow
  have restacks := restacks_of_perform performs
  cases instruction with
  | call target =>
      have grown := congrArg List.length (CallStack.toList_push restacks)
      simp at grown
      omega
  | endCall =>
      rcases restacks with ⟨popped, pops, rfl⟩
      have split := CallStack.toList_pop pops
      have whole := holds.bottom
      rw [split] at whole
      have equal := whole.eq_of_length (by simp [shallow])
      rcases List.append_inj' equal rfl with ⟨same, top⟩
      cases top
      have pattern := (Word.instruction?_eq_some_iff.mp found).1
      refine ⟨⟨word, fetched, pattern⟩, ?_, same.symm, ?_⟩
      · have small := address.toNat_lt
        simp only [Flow.apply]
        omega
      · exact CallStack.freeCellsClear_pop holds.clear pops
  | _ =>
      have same : performed.stack = machine.stack := restacks
      rw [same] at shallow
      omega

/-- A call puts the address after it on top of the return addresses. -/
theorem toList_of_call {word : Word} (fetched : machine.fetch = .ok word)
    (calls : (Pattern.led 0x2).Matches word) (done : machine.cycle = .ok after) :
    machine.stack.push (machine.counter + 2) = .ok after.stack := by
  rcases cycle_eq_ok_iff.mp done with
    ⟨other, instruction, performed, flow, otherFetched, found, performs, rfl⟩
  cases fetched.symm.trans otherFetched
  have isCall : word.instruction? = some (.call word.address) :=
    Word.instruction?_eq_some_iff.mpr ⟨calls, rfl⟩
  cases isCall.symm.trans found
  exact restacks_of_perform performs

/-- While the stack is deeper than before a call, what was on it stays at its bottom, with the address
after the call on top. -/
theorem holds_during_call {run : Nat → Machine} {count : Nat} {bottom : List UInt16}
    (entered : (run 1).Holds bottom)
    (cycles : ∀ index < count, (run index).cycle = .ok (run (index + 1)))
    (deep : ∀ index, 0 < index → index < count → bottom.length ≤ (run index).stack.depth) :
    ∀ index, 0 < index → index < count → (run index).Holds bottom := by
  intro index positive inside
  induction index with
  | zero => exact absurd positive (Nat.lt_irrefl 0)
  | succ index ih =>
      rcases Nat.eq_zero_or_pos index with rfl | later
      · exact entered
      · exact holds_cycle (ih later (by omega)) (cycles index (by omega))
          (deep (index + 1) positive inside)

/-- Calls and returns match. If a run of cycles begins with a call, keeps the stack deeper than before
the call and then brings it back to the old depth, its last cycle is a return that leads to the
instruction after the call, and the stack is the old one. -/
theorem return_matches_call {run : Nat → Machine} {count : Nat} {word : Word}
    (addressable : (run 0).memory.size ≤ 0xFFFF)
    (clear : ∀ cell (inside : cell < 16),
      (run 0).stack.pointer ≤ cell → (run 0).stack.cells[cell] = 0)
    (fetched : (run 0).fetch = .ok word) (calls : (Pattern.led 0x2).Matches word)
    (several : 2 ≤ count)
    (cycles : ∀ index < count, (run index).cycle = .ok (run (index + 1)))
    (deeper : ∀ index, 0 < index → index < count →
      (run 0).stack.depth < (run index).stack.depth)
    (back : (run count).stack.depth = (run 0).stack.depth) :
    (∃ last, (run (count - 1)).fetch = .ok last ∧
        (Pattern.whole 0x0 0x0 0xE 0xE).Matches last) ∧
      (run count).counter = (run 0).counter + 2 ∧ (run count).stack = (run 0).stack := by
  have pushed := toList_of_call fetched calls (cycles 0 (by omega))
  have grown := CallStack.toList_push pushed
  have entered : (run 1).Holds
      ((run 0).stack.toList ++ [UInt16.ofInt ((run 0).counter + 2)]) :=
    ⟨grown ▸ List.prefix_rfl, CallStack.freeCellsClear_push clear pushed⟩
  have deep : ∀ index, 0 < index → index < count →
      ((run 0).stack.toList ++ [UInt16.ofInt ((run 0).counter + 2)]).length ≤
        (run index).stack.depth := by
    intro index positive inside
    rw [List.length_append, CallStack.length_toList]
    exact deeper index positive inside
  have holds := holds_during_call entered cycles deep (count - 1) (by omega) (by omega)
  have last := cycles (count - 1) (by omega)
  rw [Nat.sub_add_cancel (by omega : 1 ≤ count)] at last
  rcases returns_of_cycle holds last (by simpa using back) with ⟨isReturn, arrived, same, free⟩
  refine ⟨isReturn, ?_, CallStack.eq_of_toList_eq free clear same⟩
  have inMemory := counter_mem_of_fetch fetched
  rw [arrived]
  exact CallStack.toNat_ofInt (by omega) (by omega)

/-- A subroutine that calls another one, at addresses four and eight. -/
theorem return_matches_call_of_nested :
    let machine : Machine :=
      { memory := ⟨#[0x20, 0x04, 0x00, 0x00, 0x20, 0x08, 0x00, 0xEE, 0x00, 0xEE]⟩, counter := 0 }
    let run : Nat → Machine := fun count => (machine.cycles 0 count).machine
    (run 0).fetch = .ok ⟨0x2, 0x0, 0x0, 0x4⟩ ∧
      (∀ index < 4, (run index).cycle = .ok (run (index + 1))) ∧
      (∀ index, 0 < index → index < 4 → (run 0).stack.depth < (run index).stack.depth) ∧
      (run 4).counter = (run 0).counter + 2 ∧ (run 4).stack = (run 0).stack := by
  intro machine run
  have addressable : (run 0).memory.size ≤ 0xFFFF := by decide
  have clear : ∀ cell (inside : cell < 16),
      (run 0).stack.pointer ≤ cell → (run 0).stack.cells[cell] = 0 := by
    decide
  have fetched : (run 0).fetch = .ok ⟨0x2, 0x0, 0x0, 0x4⟩ := by decide +kernel
  have succeeds : (machine.cycles 0 4).outcome = .ok () := by decide +kernel
  have cycles : ∀ index < 4, (run index).cycle = .ok (run (index + 1)) :=
    fun index inside => cycle_cycles_eq_ok succeeds inside
  have deeper : ∀ index, 0 < index → index < 4 →
      (run 0).stack.depth < (run index).stack.depth := by
    have below : ∀ index < 4, 0 < index → (run 0).stack.depth < (run index).stack.depth := by
      decide +kernel
    exact fun index positive inside => below index inside positive
  have back : (run 4).stack.depth = (run 0).stack.depth := by decide +kernel
  rcases return_matches_call addressable clear fetched (by decide) (by decide) cycles deeper back with
    ⟨_, counter, stack⟩
  exact ⟨fetched, cycles, deeper, counter, stack⟩
end Machine

end Chip8
