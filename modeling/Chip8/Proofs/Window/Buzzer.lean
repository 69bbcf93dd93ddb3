import Chip8.Proofs.Emulator.Polled
import Chip8.Tool.Desktop
import Chip8.Window
import Mathlib.Data.List.Basic

/-!
# The buzzer of a window

A clock call that is completed says whether the buzzer is to sound. After each frame the window tells the
sound device, but only if this has changed since it told it last, so the device is told in turn to play, to
stop and to play again. During a pause no clock call is made: the sound timer stands still, and the sound
stays as it is.

Whether the sound is on is read off the calls on the device alone. The window keeps a flag of its own for
this. One frame keeps calls, flag and sound timer in tune, and so does a run of frames.
-/

namespace Chip8

namespace SoundCall

/-- The call that turns the sound on or off. -/
def switch (on : Bool) : SoundCall := if on then play else stop

/-- Whether a call is made on the sound itself. -/
def isSwitch : SoundCall → Bool
  | play | stop => true
  | prepare _ | take _ => false

/-- The calls that are made on the sound itself. -/
def switches (calls : Array SoundCall) : List SoundCall := calls.toList.filter isSwitch

/-- Whether the sound is on after a call, by whether it was so before. -/
def leaves (before : Bool) : SoundCall → Bool
  | play => true
  | stop => false
  | prepare _ | take _ => before

/-- Whether the sound is on after calls. -/
def soundsAfter (calls : Array SoundCall) : Bool := calls.foldl leaves false

/-- So many calls in turn: to play, to stop, to play and so on. -/
def inTurn (count : Nat) : List SoundCall :=
  (List.range count).map fun index => switch (index % 2 = 0)

theorem switches_push_switch (calls : Array SoundCall) (on : Bool) :
    switches (calls.push (switch on)) = switches calls ++ [switch on] := by
  cases on <;> simp [switches, switch, isSwitch]

theorem soundsAfter_push_switch (calls : Array SoundCall) (on : Bool) :
    soundsAfter (calls.push (switch on)) = on := by
  cases on <;> simp [soundsAfter, switch, leaves]

theorem inTurn_succ (count : Nat) : inTurn (count + 1) = inTurn count ++ [switch (count % 2 = 0)] := by
  simp [inTurn, List.range_succ]

end SoundCall

open SoundCall (switches soundsAfter inTurn)

variable {Time : Type}

/-- The sound timer at the end of a clock call that is completed. -/
def Emulated.timer? (called : Emulated Time Firing) : Option Timer :=
  match called.outcome with
  | .ok _ => some called.emulator.machine.soundTimer
  | .error _ => none

/-- A frame that was completed. -/
structure Shown (Time : Type) where
  window : Window Time
  /-- The sound timer at the end of the last clock call that was completed up to then. -/
  timer : Option Timer

namespace Window

section Definitions

variable [ClockNumber Time]

/-- The clock call that a window makes, unless the emulator is paused. -/
def clockCall (window : Window Time) (readings : Readings Time) : Option (Emulated Time Firing) :=
  if window.paused then none
  else some (window.emulator.clock window.host (readings.next (ClockNumber.ofNat 0)).1)

/-- The sound timer at the end of the last clock call that was completed, if it was `before` until now. -/
def lastTimer (window : Window Time) (readings : Readings Time) (before : Option Timer) :
    Option Timer :=
  ((window.clockCall readings).bind Emulated.timer?).or before

/-- The frames that are completed for batches of events while the window is open. -/
def shownFrom (window : Window Time) (readings : Readings Time) (timer : Option Timer) :
    List (List Event) → List (Shown Time)
  | [] => []
  | events :: rest =>
    match window.frame events readings with
    | (_, _, .error _) => []
    | (next, later, .ok ()) =>
      let timer := (handleAll events window).1.lastTimer readings timer
      ⟨next, timer⟩ :: if next.isOpen then shownFrom next later timer rest else []

/-- The frames that a run completes. When the batches run out, the window is asked to close. -/
def shown (window : Window Time) (readings : Readings Time) (batches : List (List Event)) :
    List (Shown Time) :=
  shownFrom { window with isOpen := true } readings none (batches ++ [[.quit]])

end Definitions

/-! ### What the sound device was told -/

/-- The device was told in turn to play and to stop, and the sound is on if the window takes it to be. -/
structure Told (window : Window Time) : Prop where
  hasSound : window.hasSound = true
  inTurn : switches window.calls = inTurn (switches window.calls).length
  isPlaying : window.isPlaying = decide ((switches window.calls).length % 2 = 1)
  sounds : soundsAfter window.calls = window.isPlaying

/-- What concerns the sound is the same for two windows. -/
structure SameSound (window next : Window Time) : Prop where
  hasSound : next.hasSound = window.hasSound
  isPlaying : next.isPlaying = window.isPlaying
  calls : next.calls = window.calls
  buzzer : next.host.buzzer = window.host.buzzer

variable {window next : Window Time} {timer : Option Timer} {events : List Event}

theorem SameSound.refl (window : Window Time) : window.SameSound window := ⟨rfl, rfl, rfl, rfl⟩

theorem SameSound.trans {middle : Window Time} (first : window.SameSound middle)
    (second : middle.SameSound next) : window.SameSound next where
  hasSound := second.hasSound.trans first.hasSound
  isPlaying := second.isPlaying.trans first.isPlaying
  calls := second.calls.trans first.calls
  buzzer := second.buzzer.trans first.buzzer

theorem sameSound_togglePauseBy (resync : Emulator Time → Emulator Time) (window : Window Time) :
    window.SameSound (window.togglePauseBy resync) := by
  unfold togglePauseBy
  split <;> exact ⟨rfl, rfl, rfl, rfl⟩

theorem sameSound_setKey {key : Nibble} {down : Bool} (marked : window.setKey key down = .ok next) :
    window.SameSound next := by
  unfold setKey at marked
  split at marked <;> cases marked
  exact ⟨rfl, rfl, rfl, rfl⟩

theorem sameSound_handle {event : Event} (handled : window.handle event = .ok next) :
    window.SameSound next := by
  cases event with
  | quit | other =>
      cases handled
      exact ⟨rfl, rfl, rfl, rfl⟩
  | keyDown key =>
      cases key with
      | pad key => exact sameSound_setKey handled
      | pause =>
          cases handled
          exact sameSound_togglePauseBy _ window
      | escape | other =>
          cases handled
          exact ⟨rfl, rfl, rfl, rfl⟩
  | keyUp key =>
      cases key with
      | pad key => exact sameSound_setKey handled
      | escape | pause | other =>
          cases handled
          exact .refl _

theorem sameSound_handleAll {outcome : Except Fault Unit}
    (handled : handleAll events window = (next, outcome)) : window.SameSound next := by
  induction events generalizing window with
  | nil =>
      cases handled
      exact .refl _
  | cons event rest ih =>
      unfold handleAll at handled
      split at handled
      next =>
        cases handled
        exact .refl _
      next between through => exact (sameSound_handle through).trans (ih handled)

theorem sameSound_draw (drawn : window.draw = .ok next) : window.SameSound next := by
  simp only [draw, bind_eq_ok_iff, Except.ok.injEq] at drawn
  rcases drawn with ⟨picture, -, rfl⟩
  exact ⟨rfl, rfl, rfl, rfl⟩

theorem Told.congr (told : window.Told) (same : window.SameSound next) : next.Told where
  hasSound := same.hasSound.trans told.hasSound
  inTurn := by rw [same.calls, ← told.inTurn]
  isPlaying := by rw [same.isPlaying, same.calls, told.isPlaying]
  sounds := by rw [same.isPlaying, same.calls, told.sounds]

theorem host_updateAudio (window : Window Time) : window.updateAudio.host = window.host := by
  unfold Window.updateAudio
  split <;> rfl

/-- Telling the device what has changed leaves the sound on if the buzzer is to sound. -/
theorem Told.updateAudio (told : window.Told) :
    window.updateAudio.Told ∧ window.updateAudio.isPlaying = window.host.buzzer := by
  by_cases same : window.host.buzzer = window.isPlaying
  · have unchanged : window.updateAudio = window := by
      simp [Window.updateAudio, same]
    rw [unchanged]
    exact ⟨told, same.symm⟩
  · have changed : window.updateAudio =
        { window with
          isPlaying := window.host.buzzer
          calls := window.calls.push (.switch window.host.buzzer) } := by
      simp [Window.updateAudio, told.hasSound, same, SoundCall.switch]
    -- The buzzer is to sound just if the device was told to stop as often as to play.
    have turn : window.host.buzzer = decide ((switches window.calls).length % 2 = 0) := by
      rw [told.isPlaying] at same
      rcases Nat.mod_two_eq_zero_or_one (switches window.calls).length with even | odd
      · simpa [even] using same
      · simpa [odd] using same
    rw [changed]
    refine ⟨⟨told.hasSound, ?_, ?_, ?_⟩, rfl⟩
    · rw [SoundCall.switches_push_switch, List.length_append, List.length_singleton,
        SoundCall.inTurn_succ, ← told.inTurn, ← turn]
    · rw [SoundCall.switches_push_switch, List.length_append, List.length_singleton, turn]
      simp only [decide_eq_decide]
      omega
    · exact SoundCall.soundsAfter_push_switch _ _

variable [ClockNumber Time] {readings later : Readings Time}

/-- A clock call may change the buzzer, but it tells the device nothing. -/
theorem Told.clock {outcome : Except (PollFault Fault) Unit} (told : window.Told)
    (ran : window.clock readings = (next, later, outcome)) : next.Told := by
  unfold Window.clock at ran
  split at ran
  next =>
    cases ran
    exact told
  next =>
    cases ran
    exact ⟨told.hasSound, told.inTurn, told.isPlaying, told.sounds⟩

/-! ### How a frame ends -/

/-- How a frame ends: an event or the clock call fails, the screen cannot be drawn, or all is done. -/
inductive FrameEnds (window : Window Time) (events : List Event) (readings : Readings Time) :
    Window Time × Readings Time × Except FrameFault Unit → Prop where
  | unhandled {handled : Window Time} {fault : Fault}
    (refused : handleAll events window = (handled, .error fault)) :
    FrameEnds window events readings (handled, readings, .error (.poll (.action fault)))
  | unclocked {handled clocked : Window Time} {later : Readings Time} {fault : PollFault Fault}
    (through : handleAll events window = (handled, .ok ()))
    (failed : handled.clock readings = (clocked, later, .error fault)) :
    FrameEnds window events readings (clocked, later, .error (.poll fault))
  | undrawn {handled clocked : Window Time} {later : Readings Time} {fault : PictureFault}
    (through : handleAll events window = (handled, .ok ()))
    (ran : handled.clock readings = (clocked, later, .ok ()))
    (failed : clocked.updateAudio.draw = .error fault) :
    FrameEnds window events readings (clocked.updateAudio, later, .error (.picture fault))
  | completed {handled clocked next : Window Time} {later : Readings Time}
    (through : handleAll events window = (handled, .ok ()))
    (ran : handled.clock readings = (clocked, later, .ok ()))
    (drawn : clocked.updateAudio.draw = .ok next) :
    FrameEnds window events readings (next, later, .ok ())

theorem frame_ends (window : Window Time) (events : List Event) (readings : Readings Time) :
    FrameEnds window events readings (window.frame events readings) := by
  unfold frame
  split
  next refused => exact .unhandled refused
  next through =>
    split
    next failed => exact .unclocked through failed
    next ran =>
      dsimp only
      split
      next failed => exact .undrawn through ran failed
      next drawn => exact .completed through ran drawn

/-- However a frame ends, the device was told in turn. -/
theorem Told.frame {outcome : Except FrameFault Unit} (told : window.Told)
    (framed : window.frame events readings = (next, later, outcome)) : next.Told := by
  have ends := window.frame_ends events readings
  rw [framed] at ends
  cases ends with
  | unhandled refused => exact told.congr (sameSound_handleAll refused)
  | unclocked through failed => exact (told.congr (sameSound_handleAll through)).clock failed
  | undrawn through ran failed =>
      have clockedTold := (told.congr (sameSound_handleAll through)).clock ran
      exact clockedTold.updateAudio.1
  | completed through ran drawn =>
      have clockedTold := (told.congr (sameSound_handleAll through)).clock ran
      exact clockedTold.updateAudio.1.congr (sameSound_draw drawn)

/-! ### The buzzer and the sound timer -/

/-- The buzzer is to sound if the sound timer was running at the end of the last clock call that was
completed. -/
structure InTune (window : Window Time) (timer : Option Timer) : Prop extends Told window where
  buzzer : window.host.buzzer = timer.any Timer.isRunning

theorem buzzer_clock {emulator : Emulator Time} {host : Host} {now : Time} {firing : Firing}
    (done : (emulator.clock host now).outcome = .ok firing) :
    (emulator.clock host now).host.buzzer =
      (emulator.clock host now).emulator.machine.soundTimer.isRunning := by
  have ends := emulator.clock_ends host now
  generalize emulator.clock host now = called at ends done
  cases ends with
  | done => rfl
  | _ => cases done

/-- A clock call that is completed sets the buzzer, and during a pause the buzzer stays as it is. -/
theorem buzzer_of_clock (follows : window.host.buzzer = timer.any Timer.isRunning)
    (ran : window.clock readings = (next, later, .ok ())) :
    next.host.buzzer = (window.lastTimer readings timer).any Timer.isRunning := by
  unfold Window.clock at ran
  split at ran
  next paused =>
    cases ran
    simpa [lastTimer, clockCall, paused] using follows
  next runs =>
    simp only [Prod.mk.injEq] at ran
    rcases ran with ⟨rfl, -, completed⟩
    generalize called : window.emulator.clock window.host
      (readings.next (ClockNumber.ofNat 0)).1 = after at completed ⊢
    rcases outcome : after.outcome with fault | firing
    · simp [outcome, Except.map] at completed
    · have buzzer := buzzer_clock (by rw [called]; exact outcome)
      rw [called] at buzzer
      simpa [lastTimer, clockCall, runs, called, Emulated.timer?, outcome] using buzzer

/-- One step: a frame that is completed keeps window and device in tune, and after it the sound is on just if
the buzzer is to sound. -/
theorem InTune.frame (inTune : window.InTune timer)
    (completed : window.frame events readings = (next, later, .ok ())) :
    next.InTune ((handleAll events window).1.lastTimer readings timer) ∧
      next.isPlaying = next.host.buzzer := by
  have told := inTune.toTold.frame completed
  have ends := window.frame_ends events readings
  rw [completed] at ends
  cases ends with
  | @completed handled clocked _ _ through ran drawn =>
      have handledSame := sameSound_handleAll through
      have drawnSame := sameSound_draw drawn
      have clockedTold := (inTune.toTold.congr handledSame).clock ran
      have buzzer := buzzer_of_clock (handledSame.buzzer.trans inTune.buzzer) ran
      have heard : next.host.buzzer = clocked.host.buzzer := by
        rw [drawnSame.buzzer, host_updateAudio]
      rw [through]
      refine ⟨⟨told, heard.trans buzzer⟩, ?_⟩
      rw [drawnSame.isPlaying, heard]
      exact clockedTold.updateAudio.2

/-! ### Runs -/

theorem Told.frames (told : window.Told) (readings : Readings Time) (finished : Nat)
    (batches : List (List Event)) : (window.frames readings finished batches).window.Told := by
  induction batches generalizing window readings finished with
  | nil =>
      unfold Window.frames
      split
      next failed => exact told.frame failed
      next completed => exact told.frame completed
  | cons events rest ih =>
      unfold Window.frames
      split
      next failed => exact told.frame failed
      next completed =>
        split
        next => exact ih (told.frame completed) _ _
        next => exact told.frame completed

/-- After every frame that is completed window and device are in tune. -/
theorem InTune.shownFrom (inTune : window.InTune timer) (readings : Readings Time)
    (batches : List (List Event)) :
    ∀ shot ∈ window.shownFrom readings timer batches,
      shot.window.InTune shot.timer ∧ shot.window.isPlaying = shot.window.host.buzzer := by
  induction batches generalizing window readings timer with
  | nil => simp [Window.shownFrom]
  | cons events rest ih =>
      intro shot mem
      unfold Window.shownFrom at mem
      split at mem
      next => cases mem
      next completed =>
        have kept := inTune.frame completed
        rcases List.mem_cons.mp mem with rfl | later
        · exact kept
        · split at later
          next => exact ih kept.1 _ shot later
          next => cases later

/-- The frames that a run counts as finished are those that are completed, and a run that ends well leaves the
window as the last of them has. -/
theorem frames_eq_shownFrom (window : Window Time) (readings : Readings Time) (finished : Nat)
    (timer : Option Timer) (batches : List (List Event)) :
    let run := window.frames readings finished batches
    let shown := window.shownFrom readings timer (batches ++ [[.quit]])
    run.finished = finished + shown.length ∧
      (run.outcome = .ok () → ∃ last, shown.getLast? = some last ∧ last.window = run.window) := by
  induction batches generalizing window readings finished timer with
  | nil =>
      -- One more frame, in which the window is asked to close.
      simp only [frames, List.nil_append, shownFrom]
      generalize window.frame [.quit] readings = framed
      rcases framed with ⟨next, later, fault | _⟩
      · simp
      · simp
  | cons events rest ih =>
      simp only [frames, List.cons_append, shownFrom]
      generalize window.frame events readings = framed
      rcases framed with ⟨next, later, fault | _⟩
      · simp
      · by_cases stays : next.isOpen = true
        · simp only [stays, if_true]
          rcases ih next later (finished + 1) ((handleAll events window).1.lastTimer readings timer) with
            ⟨counted, ends⟩
          refine ⟨?_, ?_⟩
          · rw [counted, List.length_cons]
            omega
          · intro well
            rcases ends well with ⟨last, newest, same⟩
            exact ⟨last, by rw [List.getLast?_cons, newest, Option.getD_some], same⟩
        · simp [stays]

omit [ClockNumber Time] in
/-- A window that is made with a sound device has a sound, and it is off. -/
theorem inTune_of_create {room : Nat} {desktop : Desktop} {emulator : Emulator Time} {scale frameRate : Int}
    {palette : Palette} (audible : desktop.silence = none)
    (made : create room desktop emulator scale frameRate palette = .ok window) : window.InTune none := by
  rcases bind_eq_ok_iff.mp made with ⟨surface, -, sounds⟩
  rw [audible] at sounds
  rcases bind_eq_ok_iff.mp sounds with ⟨tone, -, same⟩
  cases same
  exact ⟨⟨rfl, rfl, rfl, rfl⟩, rfl⟩

/-- The buzzer sounds just while the sound timer runs. The calls on the sound of a window are made in turn, to
play at first, to stop and to play again, whether a run ends well or not. After every frame that is completed
the sound is on just if there was a clock call that was completed and the last of them left the sound timer
above zero. -/
theorem buzzer_sounds_while_timer_runs {room : Nat} {desktop : Desktop} {emulator : Emulator Time}
    {scale frameRate : Int} {palette : Palette} (audible : desktop.silence = none)
    (made : create room desktop emulator scale frameRate palette = .ok window)
    (readings : Readings Time) (batches : List (List Event)) :
    let run := window.run readings batches
    let shown := window.shown readings batches
    switches run.window.calls = inTurn (switches run.window.calls).length ∧
      run.finished = shown.length ∧
      (run.outcome = .ok () → ∃ last, shown.getLast? = some last ∧ last.window = run.window) ∧
      ∀ shot ∈ shown,
        switches shot.window.calls = inTurn (switches shot.window.calls).length ∧
          (soundsAfter shot.window.calls = true ↔
            ∃ timer, shot.timer = some timer ∧ 0 < timer.value) := by
  intro run shown
  have created := inTune_of_create audible made
  have opened : ({ window with isOpen := true } : Window Time).InTune none :=
    ⟨⟨created.hasSound, created.inTurn, created.isPlaying, created.sounds⟩, created.buzzer⟩
  rcases frames_eq_shownFrom { window with isOpen := true } readings 0 none batches with
    ⟨counted, ends⟩
  refine ⟨(opened.toTold.frames readings 0 batches).inTurn, ?_, ends, ?_⟩
  · rw [Nat.zero_add] at counted
    exact counted
  · intro shot mem
    rcases opened.shownFrom readings _ shot mem with ⟨inTune, playing⟩
    refine ⟨inTune.inTurn, ?_⟩
    rw [inTune.sounds, playing, inTune.buzzer]
    simp [Option.any_eq_true, Timer.isRunning]

/-- A program starts the sound timer. The sound stays on during a pause, when the timer stands still, and is
turned off when the timer has run out. -/
theorem buzzer_sounds_while_timer_runs_of_pause :
    let emulator : Emulator Rat :=
      { Emulator.fresh 500 (some 34) {} with
        machine := { memory := ⟨#[0x60, 0x02, 0xF0, 0x18, 0x10, 0x04]⟩, counter := 0 } }
    let readings : Readings Rat := ⟨[0, 1 / 100, 1, 21 / 20]⟩
    let batches : List (List Event) := [[], [], [.keyDown .pause], [.keyDown .pause]]
    ∃ window, create 6144 (.usual true) emulator 1 30 (Scheme.palette .default) = .ok window ∧
      (window.shown readings batches).map (fun shot => soundsAfter shot.window.calls) =
        [false, true, true, true, false] := by
  intro emulator readings batches
  obtain ⟨window, made, timers⟩ : ∃ window,
      create 6144 (.usual true) emulator 1 30 (Scheme.palette .default) = .ok window ∧
        (window.shown readings batches).map (fun shot => shot.timer.map Timer.value) =
          [some 0, some 2, some 2, some 1, some 0] :=
    ⟨_, rfl, by decide +kernel⟩
  refine ⟨window, made, ?_⟩
  rcases buzzer_sounds_while_timer_runs rfl made readings batches with ⟨-, -, -, sounds⟩
  have heard : ∀ shot ∈ window.shown readings batches,
      soundsAfter shot.window.calls = (shot.timer.map Timer.value).any (0 < ·) := by
    intro shot mem
    rw [Bool.eq_iff_iff, (sounds shot mem).2]
    simp [Option.any_eq_true]
  calc
    (window.shown readings batches).map (fun shot => soundsAfter shot.window.calls)
    _ = ((window.shown readings batches).map fun shot => shot.timer.map Timer.value).map
        (Option.any (0 < ·)) := by
      rw [List.map_map]
      exact List.map_congr_left heard
    _ = [false, true, true, true, false] := by
      rw [timers]
      rfl

end Window

end Chip8
