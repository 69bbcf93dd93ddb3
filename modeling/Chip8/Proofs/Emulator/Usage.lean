import Chip8.Proofs.Emulator.Journal

/-!
# A host with a screen of its own

Most hosts have one screen. They lend it with every call, the program draws on it, and it is lent again
as the call has left it, while the keys are what they are at the time. So what a host gets to see depends
on its requests and on the emulator, and two hosts that make the same requests of emulators whose journals
are related see the same.
-/

namespace Chip8

variable {Time : Type}

/-- What a host with a screen of its own can ask for. -/
inductive Request (Time : Type) where
  | lend (screen : Screen)
  | clock (keys : List Bool) (now : Time)
  | step (keys : List Bool)
  | resync

/-- A host, its emulator, and what has happened between them. -/
structure Usage (Time : Type) where
  emulator : Emulator Time
  host : Host
  completed : List Completed := []
  outcomes : List (Except (PollFault Fault) Unit) := []

namespace Usage

/-- Two hosts have seen the same, and the journals of their machines are related. -/
structure Related (relation : Journal → Journal → Prop) (usage other : Usage Time) : Prop where
  emulators : usage.emulator.Related relation other.emulator usage.completed other.completed
  screen_eq : other.host.screen = usage.host.screen
  outcomes_eq : other.outcomes = usage.outcomes

/-- What the host lends together with the states of its keys. -/
def lending (usage : Usage Time) (keys : List Bool) : Host := { usage.host with keys }

variable [ClockNumber Time]

def serve (usage : Usage Time) : Request Time → Usage Time
  | .lend screen => { usage with host := { usage.host with screen } }
  | .clock keys now =>
    let called := usage.emulator.clock (usage.lending keys) now
    { emulator := called.emulator
      host := called.host
      completed := usage.emulator.completedAfter usage.completed (.clock (usage.lending keys) now)
      outcomes := usage.outcomes ++ [called.outcome.map fun _ => ()] }
  | .step keys =>
    let called := usage.emulator.step (usage.lending keys)
    { emulator := called.emulator
      host := called.host
      completed := usage.emulator.completedAfter usage.completed (.step (usage.lending keys))
      outcomes := usage.outcomes ++ [called.outcome] }
  | .resync =>
    { usage with emulator := usage.emulator.resync, outcomes := usage.outcomes ++ [.ok ()] }

def serveAll (usage : Usage Time) (requests : List (Request Time)) : Usage Time :=
  requests.foldl serve usage

variable {relation : Journal → Journal → Prop} {usage other : Usage Time}

theorem Related.serve (kept : Journal.Kept relation) (related : usage.Related relation other)
    (request : Request Time) : (usage.serve request).Related relation (other.serve request) := by
  rcases related with ⟨emulators, screen_eq, outcomes_eq⟩
  cases request with
  | lend screen => exact ⟨emulators, rfl, outcomes_eq⟩
  | clock keys now =>
      have screen : (other.lending keys).screen = (usage.lending keys).screen := screen_eq
      have called := Emulator.clock_lockstep kept emulators screen rfl now
      exact ⟨called.related, called.screen_eq, by simp only [Usage.serve, outcomes_eq, called.outcome_eq]⟩
  | step keys =>
      have screen : (other.lending keys).screen = (usage.lending keys).screen := screen_eq
      have called := Emulator.step_lockstep kept emulators screen rfl
      exact ⟨called.related, called.screen_eq, by simp only [Usage.serve, outcomes_eq, called.outcome_eq]⟩
  | resync =>
      refine ⟨⟨?_, emulators.journals⟩, screen_eq, by simp only [Usage.serve, outcomes_eq]⟩
      simp only [Usage.serve]
      rw [emulators.same]
      rfl

/-- The same requests lead two hosts to see the same, if they did so before. -/
theorem Related.serveAll (kept : Journal.Kept relation) (related : usage.Related relation other)
    (requests : List (Request Time)) :
    (usage.serveAll requests).Related relation (other.serveAll requests) := by
  induction requests generalizing usage other with
  | nil => exact related
  | cons request rest ih => exact ih (related.serve kept request)

end Usage

end Chip8
