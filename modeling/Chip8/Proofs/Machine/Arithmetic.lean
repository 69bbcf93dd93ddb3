import Chip8.Proofs.Machine.Cycle

/-!
# The equations of arithmetic

Bytes wrap around, and a flag tells by how much. Read as numbers, the result and the flag of an operation
solve one equation with its operands: a sum is the result and 256 for a carry, a minuend that is too small
borrows 256, and a shift moves one bit between the result and the flag. Within their bounds the equation
has one solution, so it tells both.

The operands may be one register, and the flag may be among them or be the target: they are read before
anything is written, and the flag is written last.
-/

namespace Chip8

namespace Operation

/-- What ties the result and the flag of an operation, if it sets one, to its operands. -/
inductive Balances (first second : Nat) : Operation → Nat → Option Nat → Prop where
  /-- `8XY0` takes the second operand. -/
  | copy : Balances first second .copy second none
  /-- `8XY1` takes the bits of either operand. -/
  | or : Balances first second .or (first ||| second) none
  /-- `8XY2` takes the bits of both operands. -/
  | and : Balances first second .and (first &&& second) none
  /-- `8XY3` takes the bits of one operand only. -/
  | xor : Balances first second .xor (first ^^^ second) none
  /-- `8XY4` adds and carries. -/
  | add {result carry : Nat} (sum : result + 0x100 * carry = first + second) :
    Balances first second .add result (some carry)
  /-- `8XY5` subtracts, and the flag is one if nothing is borrowed. -/
  | subtract {result unborrowed : Nat} (difference : result + second = first + 0x100 * (1 - unborrowed)) :
    Balances first second .subtract result (some unborrowed)
  /-- `8XY6` halves the first operand. -/
  | shiftRight {result rest : Nat} (half : 2 * result + rest = first) :
    Balances first second .shiftRight result (some rest)
  /-- `8XY7` subtracts the other way around. -/
  | subtractFrom {result unborrowed : Nat}
    (difference : result + first = second + 0x100 * (1 - unborrowed)) :
    Balances first second .subtractFrom result (some unborrowed)
  /-- `8XYE` doubles the first operand and carries. -/
  | shiftLeft {result carry : Nat} (double : result + 0x100 * carry = 2 * first) :
    Balances first second .shiftLeft result (some carry)

/-- A byte and a bit that balance the operands of an operation. -/
structure Solution (operation : Operation) (first second result : Nat) (flag? : Option Nat) : Prop where
  result_lt : result < 0x100
  flag_lt : ∀ bit ∈ flag?, bit < 2
  balances : operation.Balances first second result flag?

/-- An operation leaves the machine no choice. -/
theorem Solution.unique {operation : Operation} {first second result other : Nat}
    {flag? otherFlag? : Option Nat} (solution : operation.Solution first second result flag?)
    (same : operation.Solution first second other otherFlag?) :
    other = result ∧ otherFlag? = flag? := by
  rcases solution with ⟨resultSmall, flagSmall, balances⟩
  rcases same with ⟨otherSmall, otherFlagSmall, otherBalances⟩
  cases balances with
  | copy | or | and | xor =>
      cases otherBalances
      exact ⟨rfl, rfl⟩
  | add _ | subtract _ | shiftRight _ | subtractFrom _ | shiftLeft _ =>
      cases otherBalances
      simp only [Option.mem_some_iff, forall_eq'] at flagSmall otherFlagSmall
      simp only [Option.some.injEq]
      omega

theorem toNat_decide (condition : Prop) [Decidable condition] :
    (decide condition).toNat = if condition then 1 else 0 := by
  by_cases holds : condition <;> simp [holds]

theorem toNat_add_carry (first second : UInt8) :
    (first + second).toNat + 0x100 * (decide (0x100 ≤ first.toNat + second.toNat)).toNat =
      first.toNat + second.toNat := by
  have firstSmall := first.toNat_lt
  have secondSmall := second.toNat_lt
  rw [UInt8.toNat_add, toNat_decide]
  split <;> omega

theorem toNat_sub_borrow (minuend subtrahend : UInt8) :
    (minuend - subtrahend).toNat + subtrahend.toNat =
      minuend.toNat + 0x100 * (1 - (decide (subtrahend ≤ minuend)).toNat) := by
  have minuendSmall := minuend.toNat_lt
  have subtrahendSmall := subtrahend.toNat_lt
  rw [UInt8.toNat_sub, toNat_decide]
  simp only [UInt8.le_iff_toNat_le]
  split <;> omega

theorem toNat_shiftRight_one (byte : UInt8) :
    2 * (byte >>> 1).toNat + (decide (byte &&& 1 = 1)).toNat = byte.toNat := by
  have half : (byte >>> 1).toNat = byte.toNat / 2 := by
    rw [UInt8.toNat_shiftRight]
    exact Nat.shiftRight_eq_div_pow byte.toNat 1
  have low : (byte &&& 1).toNat = byte.toNat % 2 := by
    rw [UInt8.toNat_and]
    exact Nat.and_one_is_mod byte.toNat
  rw [half, toNat_decide]
  simp only [← UInt8.toNat_inj, low, UInt8.toNat_one]
  split <;> omega

theorem toNat_shiftLeft_one (byte : UInt8) :
    (byte <<< 1).toNat + 0x100 * (decide (0x80 ≤ byte)).toNat = 2 * byte.toNat := by
  have small := byte.toNat_lt
  have double : (byte <<< 1).toNat = byte.toNat * 2 % 0x100 := by
    rw [UInt8.toNat_shiftLeft]
    exact congrArg (· % 0x100) (Nat.shiftLeft_eq byte.toNat 1)
  have top : 0x80 ≤ byte ↔ 0x80 ≤ byte.toNat := UInt8.le_iff_toNat_le
  rw [double, toNat_decide]
  simp only [top]
  split <;> omega

/-- Bytes that wrap around solve the equations of numbers. -/
theorem solution_apply (operation : Operation) (first second : UInt8) :
    operation.Solution first.toNat second.toNat (operation.apply first second).1.toNat
      ((operation.apply first second).2.map Bool.toNat) := by
  refine ⟨UInt8.toNat_lt _, ?_, ?_⟩
  · intro bit set
    rcases Option.map_eq_some_iff.mp set with ⟨condition, _, rfl⟩
    exact condition.toNat_lt
  · cases operation with
    | copy => exact .copy
    | or =>
        rw [apply, UInt8.toNat_or]
        exact .or
    | and =>
        rw [apply, UInt8.toNat_and]
        exact .and
    | xor =>
        rw [apply, UInt8.toNat_xor]
        exact .xor
    | add => exact .add (toNat_add_carry first second)
    | subtract => exact .subtract (toNat_sub_borrow first second)
    | shiftRight => exact .shiftRight (toNat_shiftRight_one first)
    | subtractFrom => exact .subtractFrom (toNat_sub_borrow second first)
    | shiftLeft => exact .shiftLeft (toNat_shiftLeft_one first)

end Operation

namespace Machine

variable {machine : Machine} {word : Word} {operation : Operation} {x y : Nibble} {result : UInt8}

theorem combine_of_flagless
    (computed : operation.apply (machine.register x) (machine.register y) = (result, none)) :
    machine.combine operation x y = machine.setRegister x result := by
  rw [combine, computed]

theorem combine_of_flag {condition : Bool}
    (computed : operation.apply (machine.register x) (machine.register y) = (result, some condition)) :
    machine.combine operation x y = (machine.setRegister x result).setFlag condition := by
  rw [combine, computed]

/-- A combination leaves a solution of its equation in its target and in the flag. The flag is written over
the result, and all other registers stay. -/
theorem exists_solution_combine (machine : Machine) (operation : Operation) (x y : Nibble) :
    ∃ result flag?,
      operation.Solution (machine.register x).toNat (machine.register y).toNat result flag? ∧
      (∀ bit ∈ flag?, ((machine.combine operation x y).register flag).toNat = bit) ∧
      (flag? = none ∨ x ≠ flag → ((machine.combine operation x y).register x).toNat = result) ∧
      ∀ name, name ≠ x → flag? = none ∨ name ≠ flag →
        (machine.combine operation x y).register name = machine.register name := by
  have solution := operation.solution_apply (machine.register x) (machine.register y)
  rcases computed : operation.apply (machine.register x) (machine.register y) with
    ⟨result, _ | condition⟩
  · rw [computed] at solution
    rw [combine_of_flagless computed]
    refine ⟨result.toNat, none, solution, by simp, ?_, ?_⟩
    · intro _
      rw [register_setRegister_self]
    · intro name isOther _
      exact register_setRegister_of_ne machine result isOther
  · rw [computed] at solution
    rw [combine_of_flag computed]
    refine ⟨result.toNat, some condition.toNat, solution, ?_, ?_, ?_⟩
    · intro bit set
      cases set
      rw [setFlag, register_setRegister_self]
      cases condition <;> rfl
    · intro apart
      have target : x ≠ flag := apart.resolve_left (by simp)
      rw [setFlag, register_setRegister_of_ne _ _ target, register_setRegister_self]
    · intro name isOther apart
      have unflagged : name ≠ flag := apart.resolve_left (by simp)
      rw [setFlag, register_setRegister_of_ne _ _ unflagged, register_setRegister_of_ne _ _ isOther]

/-- A word of arithmetic puts the only solution of its equation into its registers, whichever they are. If
the flag is the target as well, it keeps the flag and not the result. -/
theorem execute_solves (machine : Machine) (fits : (Pattern.framed 0x8 operation.digit).Matches word) :
    ∃ after result flag?, machine.execute word = .ok after ∧
      operation.Solution (machine.register word.x).toNat (machine.register word.y).toNat result flag? ∧
      (∀ other otherFlag?, operation.Solution (machine.register word.x).toNat
        (machine.register word.y).toNat other otherFlag? → other = result ∧ otherFlag? = flag?) ∧
      (∀ bit ∈ flag?, (after.register flag).toNat = bit) ∧
      (flag? = none ∨ word.x ≠ flag → (after.register word.x).toNat = result) ∧
      ∀ name, name ≠ word.x → flag? = none ∨ name ≠ flag →
        after.register name = machine.register name := by
  have isCombine : word.instruction? = some (.combine operation word.x word.y) :=
    Word.instruction?_eq_some_iff.mpr ⟨fits, rfl, rfl⟩
  have done : machine.execute word = .ok { machine.combine operation word.x word.y with
      counter := Flow.next.apply machine.counter } :=
    execute_eq_ok_iff.mpr ⟨_, _, _, isCombine, rfl, rfl⟩
  rcases machine.exists_solution_combine operation word.x word.y with
    ⟨result, flag?, solution, flagged, target, others⟩
  refine ⟨_, result, flag?, done, solution, ?_, flagged, target, others⟩
  intro other otherFlag? same
  exact solution.unique same

/-- `8FF5` takes the flag from itself: nothing is borrowed, and the flag tells this and not the difference,
which is zero. -/
theorem execute_solves_of_flag_operands :
    let machine : Machine := { registers := .replicate 16 0x42 }
    ∃ after, machine.execute ⟨0x8, 0xF, 0xF, 0x5⟩ = .ok after ∧ (after.register flag).toNat = 1 ∧
      after.register 0 = 0x42 := by
  intro machine
  have fits : (Pattern.framed 0x8 Operation.subtract.digit).Matches ⟨0x8, 0xF, 0xF, 0x5⟩ := by decide
  have balances : Operation.subtract.Solution 0x42 0x42 0 (some 1) :=
    ⟨by decide, by simp, .subtract rfl⟩
  rcases execute_solves machine fits with
    ⟨after, result, flag?, done, _, only, flagged, _, others⟩
  rcases only 0 (some 1) balances with ⟨_, same⟩
  exact ⟨after, done, flagged 1 same.symm, others 0 (by decide) (.inr (by decide))⟩

end Machine

end Chip8
