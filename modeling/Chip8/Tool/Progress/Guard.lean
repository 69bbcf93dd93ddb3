import Chip8.Tool.Text.Reckoning

/-!
# Guards

Before a bar is drawn its guard may be asked to let it: whether to wait for it, and for how many seconds
at most. A question that makes sense is granted, and then the guard sees to it that nothing is drawn.
-/

namespace Chip8.Guard

/-- The nanoseconds of a number of seconds, rounded away from zero. -/
def nanoseconds (seconds : Amount) : Except Misuse Int :=
  match seconds with
  | .whole number =>
    let count := number * 1000000000
    if Integer64.holds count then .ok count else .error (.longTime true)
  | .real number =>
    let count := number * 1e9
    let away : Except NumberFault Int :=
      if count < 0.0 then (-·) <$> Binary64.ceil (-count) else Binary64.ceil count
    match away with
    | .ok count => if Integer64.holds count then .ok count else .error (.longTime false)
    | .error _ => .error (.longTime false)

def seconds (time : Datum) : Except Misuse Amount :=
  match time, time.amount? with
  | .absent, _ => .error (.notWhole time.typeName)
  | _, none => .error (.notReal time.typeName)
  | _, some amount => do
    let _ ← amount.toFloat.mapError .number
    return amount

def waits (answer : Datum) : Except Misuse Bool :=
  match answer.whole? with
  | none => .error (.notWhole answer.typeName)
  | some number =>
    if number < -0x80000000 ∨ 0x7FFFFFFF < number then .error .wideWhole else .ok (number ≠ 0)

/-- What a guard is asked. -/
def questions (asked : Datum) : Except Misuse (List Datum) :=
  match asked with
  | .list items | .group items => .ok items
  | .text words => .ok (words.toList.map fun character => .text (String.singleton character))
  | .table rows => .ok (rows.map fun (name, _) => .text name)
  | other => .error (.noQuestion other.typeName)

/-- Asks a guard. Less than no time is no time to wait, except minus one second, which stands for as
long as it takes. -/
def ask (asked : Datum) : Except Misuse Unit := do
  match ← questions asked with
  | [] => return
  | [answer] =>
    let _ ← waits answer
  | [answer, time] =>
    let waiting ← waits answer
    let limit ← nanoseconds (← seconds time)
    if limit = -1000000000 then return
    else if !waiting then .error .timeWithoutWait
    else if limit < 0 then .error .negativeTime
    else return
  | items => .error (.longQuestion items.length)

end Chip8.Guard
