import Chip8.Proofs.CallStack
import Mathlib.Data.List.Basic

/-!
# The call stack as a bounded list

Whoever pushes addresses onto the call stack and pops them can reckon with a list of at most sixteen of
them instead, whose elements are the addresses without what is above their low sixteen bits. The array and
its pointer give the same answers as the list, also after uses that fail, and the cells that no address is
in are zero again.

What a use is, and that a failing one changes nothing, is said once for any kind of stack. An array and a
list that agree before a use agree after it, and so they do after any uses.
-/

namespace Chip8

/-- What can be asked of a stack of addresses. -/
inductive StackUse where
  | push (address : Int)
  | pop

/-- What a kind of stack does when an address is put on top and when the top one is taken off. -/
structure StackKind (Stack : Type) where
  push : Stack → Int → Except Fault Stack
  pop : Stack → Except Fault (Stack × Int)

namespace StackKind

variable {Stack : Type} (kind : StackKind Stack)

/-- The stack after a use, and the address that was taken off, or why the use failed. A stack stays as it
is when a use fails. -/
def answer (stack : Stack) : StackUse → Stack × Except Fault (Option Int)
  | .push address =>
    match kind.push stack address with
    | .ok pushed => (pushed, .ok none)
    | .error fault => (stack, .error fault)
  | .pop =>
    match kind.pop stack with
    | .ok (popped, address) => (popped, .ok (some address))
    | .error fault => (stack, .error fault)

/-- The stack after uses, one after the other, and the answer to each of them. -/
def answerAll (stack : Stack) : List StackUse → Stack × List (Except Fault (Option Int))
  | [] => (stack, [])
  | use :: rest =>
    let (after, answer) := kind.answer stack use
    let (last, answers) := answerAll after rest
    (last, answer :: answers)

end StackKind

/-- At most sixteen addresses, oldest first. -/
@[ext]
structure AddressList where
  addresses : List Int := []
  length_le : addresses.length ≤ 16 := by decide

namespace AddressList

def push (list : AddressList) (address : Int) : Except Fault AddressList :=
  if room : list.addresses.length < 16 then
    .ok { addresses := list.addresses ++ [address % 0x10000]
          length_le := by rw [List.length_append]; exact room }
  else .error (.stackOverflow address)

def pop (list : AddressList) : Except Fault (AddressList × Int) :=
  match list.addresses.getLast? with
  | none => .error .stackUnderflow
  | some last =>
    .ok ({ addresses := list.addresses.dropLast
           length_le := Nat.le_trans (List.dropLast_sublist _).length_le list.length_le }, last)

def kind : StackKind AddressList := ⟨push, pop⟩

variable {list rest : AddressList} {address : Int} {fault : Fault}

theorem push_eq_ok_iff :
    list.push address = .ok rest ↔
      list.addresses.length ≠ 16 ∧ rest.addresses = list.addresses ++ [address % 0x10000] := by
  have bound := list.length_le
  unfold push
  split
  next room =>
    rw [Except.ok.injEq, AddressList.ext_iff, eq_comm]
    exact (and_iff_right (by omega)).symm
  next full =>
    simp only [reduceCtorEq, false_iff, not_and]
    intro room
    omega

theorem push_eq_error_iff :
    list.push address = .error fault ↔
      list.addresses.length = 16 ∧ fault = .stackOverflow address := by
  have bound := list.length_le
  unfold push
  split
  next room =>
    simp only [reduceCtorEq, false_iff, not_and]
    intro full
    omega
  next full =>
    rw [Except.error.injEq, eq_comm]
    exact (and_iff_right (by omega)).symm

theorem pop_eq_ok_iff :
    list.pop = .ok (rest, address) ↔ list.addresses = rest.addresses ++ [address] := by
  unfold pop
  split
  next nothing =>
    rw [List.getLast?_eq_none_iff] at nothing
    simp [nothing]
  next last top =>
    rcases List.getLast?_eq_some_iff.mp top with ⟨earlier, whole⟩
    simp only [Except.ok.injEq, Prod.mk.injEq, AddressList.ext_iff, whole, List.dropLast_concat]
    exact ⟨by rintro ⟨rfl, rfl⟩; rfl, fun same => by simpa using same⟩

theorem pop_eq_error_iff :
    list.pop = .error fault ↔ list.addresses = [] ∧ fault = .stackUnderflow := by
  unfold pop
  split
  next nothing =>
    rw [List.getLast?_eq_none_iff] at nothing
    simp [nothing, eq_comm]
  next last top =>
    rcases List.getLast?_eq_some_iff.mp top with ⟨earlier, whole⟩
    simp [whole]

end AddressList

namespace CallStack

def kind : StackKind CallStack where
  push := push
  pop stack := stack.pop.map fun (popped, address) => (popped, (address.toNat : Int))

/-- The stack holds a list of addresses. -/
structure Represents (stack : CallStack) (list : AddressList) : Prop where
  pointer_eq : stack.pointer = list.addresses.length
  used (cell : Nat) (inside : cell < 16) (below : cell < stack.pointer) :
    list.addresses[cell]? = some (stack.cells[cell].toNat : Int)
  /-- The other cells hold zero. -/
  free : stack.FreeCellsClear

variable {stack after : CallStack} {list : AddressList} {address : Int} {top : UInt16}

theorem represents_iff :
    stack.Represents list ↔
      stack.toList.map (fun address => (address.toNat : Int)) = list.addresses ∧
        stack.FreeCellsClear := by
  have bound := stack.pointer_le
  constructor
  · rintro ⟨pointer_eq, used, free⟩
    refine ⟨?_, free⟩
    apply List.ext_getElem?
    intro cell
    by_cases below : cell < stack.pointer
    · have inside : cell < 16 := by omega
      rw [used cell inside below, List.getElem?_map, getElem?_toList stack below]
      simp [inside]
    · rw [List.getElem?_eq_none, List.getElem?_eq_none (by omega)]
      simpa [depth] using below
  · rintro ⟨same, free⟩
    refine ⟨?_, ?_, free⟩
    · simpa [depth] using congrArg List.length same
    · intro cell inside below
      rw [← same, List.getElem?_map, getElem?_toList stack below]
      simp [inside]

theorem represents_empty : empty.Represents {} :=
  represents_iff.mpr ⟨rfl, freeCellsClear_empty⟩

theorem represents_push (represents : stack.Represents list) (pushed : stack.push address = .ok after) :
    ∃ rest, list.push address = .ok rest ∧ after.Represents rest := by
  rcases represents_iff.mp represents with ⟨same, free⟩
  -- Were the list full, so would be the array, whose pointer is the list's length.
  have room : list.addresses.length ≠ 16 := by
    intro full
    have refused : stack.push address = .error (.stackOverflow address) :=
      push_eq_error_iff.mpr ⟨represents.pointer_eq.trans full, rfl⟩
    cases pushed.symm.trans refused
  have more := list.length_le
  let rest : AddressList :=
    { addresses := list.addresses ++ [address % 0x10000], length_le := by simp; omega }
  refine ⟨rest, AddressList.push_eq_ok_iff.mpr ⟨room, rfl⟩, represents_iff.mpr ⟨?_, ?_⟩⟩
  · rw [toList_push pushed, List.map_append, same, List.map_singleton, toNat_ofInt_eq_emod]
  · exact freeCellsClear_push free pushed

theorem represents_pop (represents : stack.Represents list) (popped : stack.pop = .ok (after, top)) :
    ∃ rest, list.pop = .ok (rest, top.toNat) ∧ after.Represents rest := by
  rcases represents_iff.mp represents with ⟨same, free⟩
  rw [toList_pop popped, List.map_append, List.map_singleton] at same
  have fewer : (after.toList.map fun address => (address.toNat : Int)).length ≤ 16 := by
    simpa [depth] using after.pointer_le
  let rest : AddressList := ⟨after.toList.map fun address => (address.toNat : Int), fewer⟩
  refine ⟨rest, AddressList.pop_eq_ok_iff.mpr same.symm, represents_iff.mpr ⟨rfl, ?_⟩⟩
  exact freeCellsClear_pop free popped

/-- The address that is taken off is the last one of the list. -/
theorem getLast?_of_pop (represents : stack.Represents list) (popped : stack.pop = .ok (after, top)) :
    list.addresses.getLast? = some (top.toNat : Int) := by
  rcases represents_pop represents popped with ⟨rest, listed, -⟩
  rw [AddressList.pop_eq_ok_iff.mp listed, List.getLast?_concat]

/-- One step: stack and list answer a use alike, and the stack after it holds the list after it. -/
theorem represents_answer (represents : stack.Represents list) (use : StackUse) :
    (kind.answer stack use).2 = (AddressList.kind.answer list use).2 ∧
      (kind.answer stack use).1.Represents (AddressList.kind.answer list use).1 := by
  cases use with
  | push address =>
      rcases pushed : stack.push address with fault | after
      · rcases push_eq_error_iff.mp pushed with ⟨full, rfl⟩
        have refused : list.push address = .error (.stackOverflow address) :=
          AddressList.push_eq_error_iff.mpr ⟨represents.pointer_eq.symm.trans full, rfl⟩
        simpa [StackKind.answer, kind, AddressList.kind, pushed, refused] using represents
      · rcases represents_push represents pushed with ⟨rest, listed, represented⟩
        simpa [StackKind.answer, kind, AddressList.kind, pushed, listed] using represented
  | pop =>
      rcases popped : stack.pop with fault | ⟨after, top⟩
      · rcases pop_eq_error_iff.mp popped with ⟨nothing, rfl⟩
        have refused : list.pop = .error .stackUnderflow := by
          refine AddressList.pop_eq_error_iff.mpr ⟨List.length_eq_zero_iff.mp ?_, rfl⟩
          exact represents.pointer_eq.symm.trans nothing
        simpa [StackKind.answer, kind, AddressList.kind, popped, refused, Except.map] using represents
      · rcases represents_pop represents popped with ⟨rest, listed, represented⟩
        simpa [StackKind.answer, kind, AddressList.kind, popped, listed, Except.map] using represented

theorem represents_answerAll (represents : stack.Represents list) (uses : List StackUse) :
    (kind.answerAll stack uses).2 = (AddressList.kind.answerAll list uses).2 ∧
      (kind.answerAll stack uses).1.Represents (AddressList.kind.answerAll list uses).1 := by
  induction uses generalizing stack list with
  | nil => exact ⟨rfl, represents⟩
  | cons use later ih =>
      rcases represents_answer represents use with ⟨answer, represented⟩
      rcases ih represented with ⟨answers, last⟩
      exact ⟨congrArg₂ List.cons answer answers, last⟩

/-- The call stack is a list of at most sixteen addresses. After any uses of the empty stack, failing ones
included, the answers were those of the list, and the cells hold the list and zeros. The next address finds
no room just if the list has sixteen, none can be taken off just if the list has none, and otherwise the
one that was put on last is taken off. -/
theorem answers_as_bounded_list (uses : List StackUse) :
    let stack := (kind.answerAll empty uses).1
    let list := (AddressList.kind.answerAll {} uses).1
    (kind.answerAll empty uses).2 = (AddressList.kind.answerAll {} uses).2 ∧
      stack.Represents list ∧
      (∀ address fault, stack.push address = .error fault ↔
        list.addresses.length = 16 ∧ fault = .stackOverflow address) ∧
      (∀ fault, stack.pop = .error fault ↔ list.addresses = [] ∧ fault = .stackUnderflow) ∧
      ∀ last, (∃ after top, stack.pop = .ok (after, top) ∧ (top.toNat : Int) = last) ↔
        list.addresses.getLast? = some last := by
  intro stack list
  rcases represents_answerAll represents_empty uses with ⟨answers, represents⟩
  have pointer : stack.pointer = list.addresses.length := represents.pointer_eq
  refine ⟨answers, represents, ?_, ?_, ?_⟩
  · intro address fault
    rw [push_eq_error_iff, pointer]
  · intro fault
    rw [pop_eq_error_iff, pointer, List.length_eq_zero_iff]
  · intro last
    constructor
    · rintro ⟨after, top, popped, rfl⟩
      exact getLast?_of_pop represents popped
    · intro newest
      rcases popped : stack.pop with fault | ⟨after, top⟩
      · have nothing := (pop_eq_error_iff.mp popped).1
        rw [pointer, List.length_eq_zero_iff] at nothing
        simp [nothing] at newest
      · have taken := getLast?_of_pop represents popped
        exact ⟨after, top, rfl, Option.some.inj (taken.symm.trans newest)⟩

end CallStack

end Chip8
