import Chip8.CallStack

/-!
# Cells of the call stack

A push and a pop write one cell each, and fail just if there is no room or no address. Popping clears the
cell it empties, so the cells above the pointer stay zero if they once are. Of such a stack nothing is
hidden behind its return addresses: two of them with the same addresses are equal.
-/

namespace Chip8.CallStack

/-- The cells that are not in use hold zero. -/
def FreeCellsClear (stack : CallStack) : Prop :=
  ∀ cell (inside : cell < 16), stack.pointer ≤ cell → stack.cells[cell] = 0

theorem freeCellsClear_empty : empty.FreeCellsClear := by
  intro cell inside _
  simp [empty]

theorem freeCellsClear_push {stack pushed : CallStack} {address : Int}
    (clear : stack.FreeCellsClear) (done : stack.push address = .ok pushed) :
    pushed.FreeCellsClear := by
  intro cell inside above
  unfold push at done
  split at done
  next room =>
    cases done
    simp only at above
    have different : stack.pointer ≠ cell := by omega
    rw [Vector.getElem_set_ne _ _ different]
    exact clear cell inside (by omega)
  next => cases done

theorem freeCellsClear_pop {stack popped : CallStack} {address : UInt16}
    (clear : stack.FreeCellsClear) (done : stack.pop = .ok (popped, address)) :
    popped.FreeCellsClear := by
  intro cell inside above
  rcases stack with ⟨cells, _ | top, pointer_le⟩
  · cases done
  · cases done
    simp only at above
    by_cases cleared : top = cell
    · subst cleared
      simp
    · rw [Vector.getElem_set_ne _ _ cleared]
      exact clear cell inside (by simp only; omega)

theorem pointer_push {stack pushed : CallStack} {address : Int}
    (done : stack.push address = .ok pushed) : pushed.pointer = stack.pointer + 1 := by
  unfold push at done
  split at done <;> cases done
  rfl

theorem cells_push {stack pushed : CallStack} {address : Int}
    (done : stack.push address = .ok pushed) (cell : Nat) (inside : cell < 16) :
    pushed.cells[cell] = stack.cells[cell] ∨ cell = stack.pointer := by
  unfold push at done
  split at done <;> cases done
  by_cases written : stack.pointer = cell
  · exact .inr written.symm
  · exact .inl (by simp [written])

theorem pointer_pop {stack popped : CallStack} {address : UInt16}
    (done : stack.pop = .ok (popped, address)) : popped.pointer + 1 = stack.pointer := by
  rcases stack with ⟨cells, _ | top, pointer_le⟩ <;> cases done
  rfl

/-- A pop writes the cell at the new pointer only. -/
theorem cells_pop {stack popped : CallStack} {address : UInt16}
    (done : stack.pop = .ok (popped, address)) (cell : Nat) (inside : cell < 16) :
    popped.cells[cell] = stack.cells[cell] ∨ cell = popped.pointer := by
  rcases stack with ⟨cells, _ | top, pointer_le⟩ <;> cases done
  by_cases cleared : top = cell
  · exact .inr cleared.symm
  · exact .inl (by simp [cleared])

theorem push_eq_error_iff {stack : CallStack} {address : Int} {fault : Fault} :
    stack.push address = .error fault ↔ stack.pointer = 16 ∧ fault = .stackOverflow address := by
  have := stack.pointer_le
  unfold push
  split
  · simp only [reduceCtorEq, false_iff]
    omega
  · simp only [Except.error.injEq]
    constructor
    · rintro rfl
      exact ⟨by omega, rfl⟩
    · rintro ⟨_, rfl⟩
      rfl

theorem pop_eq_error_iff {stack : CallStack} {fault : Fault} :
    stack.pop = .error fault ↔ stack.pointer = 0 ∧ fault = .stackUnderflow := by
  rcases stack with ⟨cells, _ | top, pointer_le⟩
  · simp [pop, eq_comm]
  · simp [pop]

theorem toNat_ofInt_eq_emod (address : Int) :
    ((UInt16.ofInt address).toNat : Int) = address % 0x10000 := by
  simp only [UInt16.ofInt, UInt16.toNat_ofNat']
  omega

theorem toNat_ofInt {address : Int} (nonneg : 0 ≤ address) (small : address < 0x10000) :
    ((UInt16.ofInt address).toNat : Int) = address := by
  rw [toNat_ofInt_eq_emod, Int.emod_eq_of_lt nonneg small]

theorem getElem?_toList (stack : CallStack) {cell : Nat} (used : cell < stack.pointer) :
    stack.toList[cell]? = stack.cells[cell]? := by
  simp [toList, used]

/-- A stack whose free cells are clear is known from its return addresses. -/
theorem eq_of_toList_eq {stack other : CallStack} (clear : stack.FreeCellsClear)
    (otherClear : other.FreeCellsClear) (same : stack.toList = other.toList) : stack = other := by
  have samePointer : stack.pointer = other.pointer := by
    simpa [depth] using congrArg List.length same
  have sameCells : stack.cells = other.cells := by
    ext cell inside
    by_cases used : cell < stack.pointer
    · have read := stack.getElem?_toList used
      rw [same, other.getElem?_toList (by omega)] at read
      simp only [Vector.getElem?_eq_getElem inside, Option.some.injEq] at read
      rw [read]
    · rw [clear cell inside (by omega), otherClear cell inside (by omega)]
  rcases stack with ⟨cells, pointer, pointer_le⟩
  rcases other with ⟨otherCells, otherPointer, otherPointer_le⟩
  cases samePointer
  cases sameCells
  rfl

end Chip8.CallStack
