import Chip8.Proofs.Machine.Bounds
import Chip8.Proofs.Machine.Cycle
import Mathlib.Control.Monad.Basic
import Mathlib.Tactic.SplitIfs

/-!
# Where the program goes on

The counter after a cycle is read off the form of the word and the state before it: some words jump, six
forms skip the next instruction under a condition, `FX0A` waits while no key is down, and every other word
leads to the next instruction.

Instructions are looked at first. Their flow is told by the state before them alone, although some of them
change it, and it leads nowhere that sixteen bits have no room for.
-/

namespace Chip8

namespace Machine

/-- The state of the key that a register names, if there is one. -/
def keyState? (machine : Machine) (x : Nibble) : Option Bool := machine.keys[(machine.register x).toNat]?

/-- Where the program goes on after an instruction that is performed. -/
def flowAfter (machine : Machine) : Instruction → Flow
  | .endCall => .jump (machine.stack.toList.getLastD 0).toNat
  | .jump address | .call address => .jump address
  | .jumpOffset address => .jump (address + (machine.register 0).toNat)
  | .skipIfByte x byte => .skipIf (machine.register x = byte)
  | .skipUnlessByte x byte => .skipIf (machine.register x ≠ byte)
  | .skipIfEqual x y => .skipIf (machine.register x = machine.register y)
  | .skipUnlessEqual x y => .skipIf (machine.register x ≠ machine.register y)
  | .skipIfKey x => .skipIf (machine.keyState? x = some true)
  | .skipUnlessKey x => .skipIf (machine.keyState? x = some false)
  | .awaitKey _ => if true ∈ machine.keys then .next else .wait
  | _ => .next

end Machine

namespace Word

/-- The words that skip the next instruction, with their conditions. -/
def Skips (word : Word) (machine : Machine) : Prop :=
  (Pattern.led 0x3).Matches word ∧ machine.register word.x = word.byte ∨
    (Pattern.led 0x4).Matches word ∧ machine.register word.x ≠ word.byte ∨
    (Pattern.framed 0x5 0x0).Matches word ∧ machine.register word.x = machine.register word.y ∨
    (Pattern.framed 0x9 0x0).Matches word ∧ machine.register word.x ≠ machine.register word.y ∨
    (Pattern.closed 0xE 0x9 0xE).Matches word ∧ machine.keyState? word.x = some true ∨
    (Pattern.closed 0xE 0xA 0x1).Matches word ∧ machine.keyState? word.x = some false

instance (word : Word) (machine : Machine) : Decidable (word.Skips machine) :=
  inferInstanceAs (Decidable (_ ∨ _ ∨ _ ∨ _ ∨ _ ∨ _))

/-- The counter after a word, as its form and the state before it tell. -/
def counterAfter (word : Word) (machine : Machine) : Int :=
  if (Pattern.closed 0xF 0x0 0xA).Matches word ∧ true ∉ machine.keys then machine.counter
  else if (Pattern.led 0x1).Matches word ∨ (Pattern.led 0x2).Matches word then word.address
  else if (Pattern.led 0xB).Matches word then word.address + (machine.register 0).toNat
  else if (Pattern.whole 0x0 0x0 0xE 0xE).Matches word then
    (machine.stack.toList.getLastD 0).toNat
  else if word.Skips machine then machine.counter + 4
  else machine.counter + 2

end Word

theorem Flow.target_skipIf (condition : Bool) (counter : Int) :
    (skipIf condition).target counter = if condition then counter + 4 else counter + 2 := by
  cases condition <;> rfl

namespace Machine

variable {machine performed after : Machine} {instruction : Instruction} {flow : Flow} {word : Word}

theorem keyState?_of_keyDown {x : Nibble} {down : Bool} (found : machine.keyDown x = .ok down) :
    machine.keyState? x = some down := by
  unfold keyDown at found
  dsimp only at found
  split at found
  · split at found <;> cases found
    assumption
  · cases found

/-- The flow of an instruction is told by the state before it. -/
theorem flow_of_perform (done : machine.perform instruction = .ok (performed, flow)) :
    flow = machine.flowAfter instruction := by
  cases instruction with
  | endCall =>
      simp only [perform, bind_eq_ok_iff, Except.ok.injEq, Prod.mk.injEq] at done
      rcases done with ⟨⟨stack, address⟩, popped, rfl, rfl⟩
      simp [flowAfter, CallStack.toList_pop popped]
  | skipIfKey x | skipUnlessKey x =>
      simp only [perform, bind_eq_ok_iff, Except.ok.injEq, Prod.mk.injEq] at done
      rcases done with ⟨down, found, rfl, rfl⟩
      simp [flowAfter, keyState?_of_keyDown found]
  | awaitKey x =>
      simp only [perform] at done
      split at done <;> cases done
      next key pressed =>
        have down : true ∈ machine.keys := List.isSome_idxOf?.mp (by rw [pressed]; rfl)
        rw [flowAfter, if_pos down]
      next released => rw [flowAfter, if_neg (List.idxOf?_eq_none_iff.mp released)]
  | draw _ _ _ =>
      simp only [perform, bind_eq_ok_iff, Except.ok.injEq, Prod.mk.injEq] at done
      rcases done with ⟨_, _, _, _, _, rfl⟩
      rfl
  | call _ | storeDigits _ | storeRegisters _ | loadRegisters _ =>
      simp only [perform, bind_eq_ok_iff, Except.ok.injEq, Prod.mk.injEq] at done
      rcases done with ⟨_, _, _, rfl⟩
      rfl
  | _ =>
      cases done
      rfl

/-- The flow of the instruction of a word leads where the form of the word tells. -/
theorem target_flowAfter (found : word.instruction? = some instruction) :
    (machine.flowAfter instruction).target machine.counter = word.counterAfter machine := by
  rcases Word.instruction?_eq_some_iff.mp found with ⟨fits, operands⟩
  simp only [Word.counterAfter, Word.Skips, Pattern.matches_led, Pattern.matches_framed,
    Pattern.matches_closed, Pattern.matches_whole]
  rcases word with ⟨family, x, y, n⟩
  cases instruction with
  | noOperation | clearScreen | endCall =>
      cases Pattern.matches_whole.mp fits
      rfl
  | jump _ | call _ | setIndex _ | jumpOffset _ =>
      cases Pattern.matches_led.mp fits
      cases operands
      rfl
  | skipIfByte _ _ | skipUnlessByte _ _ =>
      cases Pattern.matches_led.mp fits
      rcases operands with ⟨rfl, rfl⟩
      simp [flowAfter, Flow.target_skipIf]
  | skipIfEqual _ _ | skipUnlessEqual _ _ =>
      rcases Pattern.matches_framed.mp fits with ⟨rfl, rfl⟩
      rcases operands with ⟨rfl, rfl⟩
      simp [flowAfter, Flow.target_skipIf]
  | skipIfKey _ | skipUnlessKey _ =>
      rcases Pattern.matches_closed.mp fits with ⟨rfl, rfl, rfl⟩
      cases operands
      simp [flowAfter, Flow.target_skipIf]
  | awaitKey _ =>
      rcases Pattern.matches_closed.mp fits with ⟨rfl, rfl, rfl⟩
      by_cases down : true ∈ machine.keys <;> simp [flowAfter, Flow.target, down]
  | setByte _ _ | addByte _ _ | random _ _ | draw _ _ _ =>
      cases Pattern.matches_led.mp fits
      rfl
  | combine _ _ _ =>
      rcases Pattern.matches_framed.mp fits with ⟨rfl, -⟩
      rfl
  | readDelay _ | setDelay _ | setSound _ | addIndex _ | fontDigit _ | storeDigits _
  | storeRegisters _ | loadRegisters _ =>
      rcases Pattern.matches_closed.mp fits with ⟨rfl, rfl, rfl⟩
      rfl

/-- Seen from a word in memory, the program goes on within sixteen bits. -/
theorem counterAfter_mem (nonneg : 0 ≤ machine.counter) (inMemory : machine.counter + 1 < 0x1000)
    (word : Word) : 0 ≤ word.counterAfter machine ∧ word.counterAfter machine < 0x10000 := by
  have address := word.address_lt
  have offset := (machine.register 0).toNat_lt
  have saved := (machine.stack.toList.getLastD 0).toNat_lt
  unfold Word.counterAfter
  split_ifs <;> omega

/-- A word that was fetched leads where its form tells, also without sixteen bits for the counter. -/
theorem flow_of_dispatch (size : machine.memory.size = 0x1000) (fetched : machine.fetch = .ok word)
    (done : machine.dispatch word = .ok (performed, flow)) :
    flow.target machine.counter = word.counterAfter machine ∧
      flow.apply machine.counter = flow.target machine.counter := by
  rcases bind_eq_ok_iff.mp done with ⟨instruction, found, performs⟩
  have inMemory := counter_mem_of_fetch fetched
  rw [size] at inMemory
  have target : flow.target machine.counter = word.counterAfter machine := by
    rw [flow_of_perform performs, target_flowAfter (Word.instruction_eq_ok_iff.mp found)]
  have inBounds := counterAfter_mem inMemory.1 inMemory.2 word
  rw [← target] at inBounds
  exact ⟨target, Flow.apply_eq_target inBounds.1 inBounds.2⟩

/-- A cycle takes no address to sixteen bits that does not fit into them. -/
theorem keepsAddresses_of_size (size : machine.memory.size = 0x1000) : machine.KeepsAddresses := by
  intro word fetched
  have inMemory := counter_mem_of_fetch fetched
  rw [size] at inMemory
  refine ⟨CallStack.toNat_ofInt (by omega) (by omega), ?_⟩
  intro performed flow done
  exact (flow_of_dispatch size fetched done).2

/-- A key that is waited for is the first one that is down. -/
theorem register_of_awaitKey {x : Nibble} (length : machine.keys.length = 16)
    (down : true ∈ machine.keys) (done : machine.perform (.awaitKey x) = .ok (performed, flow)) :
    ∃ key, machine.keys[key]? = some true ∧ (∀ other < key, machine.keys[other]? = some false) ∧
      (performed.register x).toNat = key := by
  simp only [perform] at done
  split at done <;> cases done
  next key pressed =>
    rcases List.idxOf?_eq_some_iff.mp pressed with ⟨inside, isDown, first⟩
    refine ⟨key, ?_, ?_, ?_⟩
    · rw [List.getElem?_eq_getElem inside, isDown]
    · intro other earlier
      have up := first other earlier
      rw [List.getElem?_eq_getElem (Nat.lt_trans earlier inside), Bool.eq_false_iff.mpr up]
    · have small : key < UInt8.size := by
        rw [length] at inside
        exact Nat.lt_trans inside (by decide)
      rw [register_setRegister_self, UInt8.toNat_ofNat_of_lt' small]
  next released => exact absurd down (List.idxOf?_eq_none_iff.mp released)

end Machine

end Chip8
