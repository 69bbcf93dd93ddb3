import Chip8.Proofs.Emulator.Polled
import Chip8.Tool.Desktop
import Chip8.Window
import Mathlib.Algebra.Ring.Parity
import Mathlib.Data.List.Basic

/-!
# The controls of a window

The system reports keys by their codes, and quitting. Which keys of the pad are down, whether the emulator
is paused and whether the window is open is told by these signals alone: by the last signal of each key, by
how often the pause key went down and by the first signal that closes the window. What an event does is said
once, for each kind of event, and carried along everything that happens to a window.

The key for the pause is the only one that touches the emulator. How often it resynchronizes is seen by
handling events with any function in the place of the resynchronization.
-/

namespace Chip8

def Keypad.label (key : Nibble) : String := labels.get (key.cast rfl)

/-- What the system reports, with keys by their codes. -/
inductive Signal (Code : Type) where
  | keyDown (code : Code)
  | keyUp (code : Code)
  | quit
  | other
  deriving DecidableEq

/-- The codes of the keys by name. No two of the keys that a window knows share a code. -/
structure Keyboard (Code : Type) where
  codeOf : String → Code
  escape : Code
  pause : Code
  distinct : ∀ key other, codeOf (Keypad.label key) = codeOf (Keypad.label other) → key = other
  ne_escape : ∀ key, codeOf (Keypad.label key) ≠ escape
  ne_pause : ∀ key, codeOf (Keypad.label key) ≠ pause
  escape_ne_pause : escape ≠ pause

namespace Keyboard

variable {Code : Type}

def code (keyboard : Keyboard Code) (key : Nibble) : Code := keyboard.codeOf (Keypad.label key)

theorem code_ne_escape {keyboard : Keyboard Code} (key : Nibble) : keyboard.code key ≠ keyboard.escape :=
  keyboard.ne_escape key

theorem code_ne_pause {keyboard : Keyboard Code} (key : Nibble) : keyboard.code key ≠ keyboard.pause :=
  keyboard.ne_pause key

variable [DecidableEq Code] (keyboard : Keyboard Code)

/-- The key of the pad that a code is bound to. -/
def padKey (code : Code) : Key :=
  match (List.finRange 16).find? (keyboard.code · = code) with
  | some key => .pad key
  | none => .other

def key (code : Code) : Key :=
  if code = keyboard.escape then .escape else if code = keyboard.pause then .pause else keyboard.padKey code

/-- What a signal is for the window. Only keys of the pad matter when they go up. -/
def event : Signal Code → Event
  | .keyDown code => .keyDown (keyboard.key code)
  | .keyUp code => .keyUp (keyboard.padKey code)
  | .quit => .quit
  | .other => .other

variable {keyboard}

theorem padKey_eq_pad_iff {code : Code} {key : Nibble} :
    keyboard.padKey code = .pad key ↔ code = keyboard.code key := by
  unfold padKey
  split
  next found same =>
    have bound : keyboard.code found = code := by simpa using List.find?_some same
    rw [Key.pad.injEq, ← bound]
    exact ⟨congrArg _, keyboard.distinct found key⟩
  next none =>
    simp only [List.find?_eq_none, List.mem_finRange, decide_eq_true_eq, true_implies] at none
    simp [Ne.symm (none key)]

theorem padKey_ne_escape (code : Code) : keyboard.padKey code ≠ .escape := by
  unfold padKey
  split <;> simp

theorem padKey_ne_pause (code : Code) : keyboard.padKey code ≠ .pause := by
  unfold padKey
  split <;> simp

theorem key_eq_pad_iff {code : Code} {key : Nibble} :
    keyboard.key code = .pad key ↔ code = keyboard.code key := by
  unfold Keyboard.key
  split
  next closes => simp [closes, (code_ne_escape key).symm]
  next =>
    split
    next pauses => simp [pauses, (code_ne_pause key).symm]
    next => exact padKey_eq_pad_iff

theorem key_eq_escape_iff {code : Code} : keyboard.key code = .escape ↔ code = keyboard.escape := by
  unfold Keyboard.key
  split
  next closes => simp [closes]
  next stays => split <;> simp [stays, padKey_ne_escape]

theorem key_eq_pause_iff {code : Code} : keyboard.key code = .pause ↔ code = keyboard.pause := by
  unfold Keyboard.key
  split
  next closes => simp [closes, keyboard.escape_ne_pause]
  next =>
    split
    next pauses => simp [pauses]
    next runs => simp [runs, padKey_ne_pause]

variable {signal : Signal Code}

theorem event_eq_press_iff {key : Nibble} :
    keyboard.event signal = .keyDown (.pad key) ↔ signal = .keyDown (keyboard.code key) := by
  cases signal <;> simp [event, key_eq_pad_iff]

theorem event_eq_release_iff {key : Nibble} :
    keyboard.event signal = .keyUp (.pad key) ↔ signal = .keyUp (keyboard.code key) := by
  cases signal <;> simp [event, padKey_eq_pad_iff]

theorem event_eq_pause_iff : keyboard.event signal = .keyDown .pause ↔ signal = .keyDown keyboard.pause := by
  cases signal <;> simp [event, key_eq_pause_iff]

/-- The signals that close the window. -/
def Closes (keyboard : Keyboard Code) (signal : Signal Code) : Prop :=
  signal = .quit ∨ signal = .keyDown keyboard.escape

theorem closes_iff : keyboard.Closes signal ↔
    keyboard.event signal = .quit ∨ keyboard.event signal = .keyDown .escape := by
  cases signal <;> simp [Closes, event, key_eq_escape_iff]

/-- The keyboard on which each key goes by its name. -/
def named : Keyboard String where
  codeOf := id
  escape := "escape"
  pause := "f1"
  distinct := by decide
  ne_escape := by decide
  ne_pause := by decide
  escape_ne_pause := by decide

/-- The keyboard on which the code of a label is that of its character. -/
def ofCharacters : Keyboard Nat where
  codeOf label := (label.toList.headD ' ').toNat
  escape := 27
  pause := 0x4000003A
  distinct := by decide
  ne_escape := by decide
  ne_pause := by decide
  escape_ne_pause := by decide

/-- By its name a key is what it is to the window. -/
theorem key_named (name : String) : named.key name = Key.ofName name := by
  by_cases labelled : ∃ key, name = named.code key
  · rcases labelled with ⟨key, rfl⟩
    rw [key_eq_pad_iff.mpr rfl]
    revert key
    decide
  · have absent : name ∉ Keypad.labels := by
      intro mem
      rcases List.mem_iff_get.mp mem with ⟨key, rfl⟩
      exact labelled ⟨key.cast rfl, rfl⟩
    have unbound : named.padKey name = .other := by
      unfold padKey
      split
      next key found =>
        have same : named.code key = name := by simpa using List.find?_some found
        exact absurd ⟨key, same.symm⟩ labelled
      next => rfl
    unfold Keyboard.key Key.ofName
    rw [unbound, List.idxOf?_eq_none_iff.mpr absent]
    rfl

end Keyboard

/-! ### The last signal of a key -/

/-- The last signal of the key with a code is that it goes down. -/
def LastDown {Code : Type} (code : Code) (signals : List (Signal Code)) : Prop :=
  ∃ before after, signals = before ++ .keyDown code :: after ∧ .keyDown code ∉ after ∧ .keyUp code ∉ after

section LastDown

variable {Code : Type} {code : Code} {signals : List (Signal Code)}

@[simp]
theorem not_lastDown_nil : ¬LastDown code [] := by
  rintro ⟨before, after, split, -⟩
  simp at split

theorem lastDown_append_singleton {signal : Signal Code} :
    LastDown code (signals ++ [signal]) ↔
      signal = .keyDown code ∨ signal ≠ .keyUp code ∧ LastDown code signals := by
  constructor
  · rintro ⟨before, after, split, notDown, notUp⟩
    rcases List.eq_nil_or_concat' after with rfl | ⟨earlier, last, rfl⟩
    · exact .inl (List.singleton_inj.mp (List.append_inj' split rfl).2)
    · right
      rw [← List.cons_append, ← List.append_assoc] at split
      rcases List.append_inj' split rfl with ⟨rfl, lasts⟩
      cases List.singleton_inj.mp lasts
      simp only [List.mem_append, List.mem_singleton, not_or] at notDown notUp
      exact ⟨Ne.symm notUp.2, before, earlier, rfl, notDown.1, notUp.1⟩
  · intro lasts
    by_cases down : signal = .keyDown code
    · subst down
      exact ⟨signals, [], rfl, by simp, by simp⟩
    · rcases lasts.resolve_left down with ⟨notUp, before, after, rfl, stays, held⟩
      refine ⟨before, after ++ [signal], by simp, ?_, ?_⟩
      · simp [stays, Ne.symm down]
      · simp [held, Ne.symm notUp]

end LastDown

namespace Window

variable {Time : Type}

/-! ### What an event does -/

/-- An event changes the key that it is about, the pause or whether the window is open. -/
structure Handles (resync : Emulator Time → Emulator Time) (window : Window Time) (event : Event)
    (next : Window Time) : Prop where
  length_keys : next.host.keys.length = window.host.keys.length
  keys (key : Nibble) : next.host.keys[key.val]? =
    if event = .keyDown (.pad key) then some true
    else if event = .keyUp (.pad key) then some false
    else window.host.keys[key.val]?
  paused : next.paused = if event = .keyDown .pause then !window.paused else window.paused
  isOpen : next.isOpen = if event = .quit ∨ event = .keyDown .escape then false else window.isOpen
  emulator : next.emulator =
    if event ≠ .keyDown .pause then window.emulator
    else if window.paused then (resync window.emulator).noted .resumed
    else window.emulator.noted .paused

variable {window : Window Time}

theorem getElem?_set_key {keys : List Bool} (length : keys.length = 16) (key other : Nibble) (down : Bool) :
    (keys.set key down)[other.val]? = if key = other then some down else keys[other.val]? := by
  rw [List.getElem?_set, if_pos (by omega : key.val < keys.length)]
  simp only [Fin.val_inj]

theorem setKey_eq_ok (length : window.host.keys.length = 16) (key : Nibble) (down : Bool) :
    window.setKey key down =
      .ok { window with host := { window.host with keys := window.host.keys.set key down } } := by
  simp [setKey, length]

theorem exists_handles (length : window.host.keys.length = 16) (resync : Emulator Time → Emulator Time)
    (event : Event) :
    ∃ next, window.handleBy resync event = .ok next ∧ Handles resync window event next := by
  cases event with
  | quit => exact ⟨_, rfl, by constructor <;> simp⟩
  | other => exact ⟨_, rfl, by constructor <;> simp⟩
  | keyUp key =>
      cases key with
      | pad key =>
          refine ⟨_, setKey_eq_ok length key false, ?_⟩
          constructor <;> simp [getElem?_set_key length]
      | _ => exact ⟨_, rfl, by constructor <;> simp⟩
  | keyDown key =>
      cases key with
      | pad key =>
          refine ⟨_, setKey_eq_ok length key true, ?_⟩
          constructor <;> simp [getElem?_set_key length]
      | pause =>
          refine ⟨_, rfl, ?_⟩
          unfold togglePauseBy
          split <;> constructor <;> simp [*]
      | _ => exact ⟨_, rfl, by constructor <;> simp⟩

/-- The keys, the pause and whether the window is open are the same for two windows. -/
structure SameControls (window next : Window Time) : Prop where
  keys : next.host.keys = window.host.keys
  paused : next.paused = window.paused
  isOpen : next.isOpen = window.isOpen

theorem openSound_controls {next : Window Time} {silence : Option String}
    (sounds : window.openSound silence = .ok next) : window.SameControls next := by
  unfold openSound at sounds
  split at sounds
  next =>
    cases sounds
    exact ⟨rfl, rfl, rfl⟩
  next =>
    rcases bind_eq_ok_iff.mp sounds with ⟨tone, -, made⟩
    cases made
    exact ⟨rfl, rfl, rfl⟩

theorem updateAudio_controls (window : Window Time) : window.SameControls window.updateAudio := by
  unfold updateAudio
  split <;> exact ⟨rfl, rfl, rfl⟩

theorem draw_controls {next : Window Time} (drawn : window.draw = .ok next) : window.SameControls next := by
  simp only [draw, bind_eq_ok_iff, Except.ok.injEq] at drawn
  rcases drawn with ⟨picture, -, rfl⟩
  exact ⟨rfl, rfl, rfl⟩

/-! ### What the signals tell -/

variable {Code : Type} [DecidableEq Code] {keyboard : Keyboard Code} {signals : List (Signal Code)}
  {since : Option (List (Signal Code))}

/-- The controls of a window are as the signals since it was made and those since it was opened tell. -/
structure Follows (keyboard : Keyboard Code) (signals : List (Signal Code))
    (since : Option (List (Signal Code))) (window : Window Time) : Prop where
  length_keys : window.host.keys.length = 16
  keys (key : Nibble) : window.host.keys[key.val]? = some true ↔ LastDown (keyboard.code key) signals
  paused : window.paused = true ↔ Odd (signals.count (.keyDown keyboard.pause))
  /-- The window is open from its opening until a signal closes it. -/
  isOpen : window.isOpen = true ↔ ∃ later, since = some later ∧ ∀ signal ∈ later, ¬keyboard.Closes signal

namespace Follows

/-- One step: what an event does is what its signal tells. -/
theorem handles {signal : Signal Code} {next : Window Time} {resync : Emulator Time → Emulator Time}
    (follows : Follows keyboard signals since window)
    (handles : Handles resync window (keyboard.event signal) next) :
    Follows keyboard (signals ++ [signal]) (since.map (· ++ [signal])) next where
  length_keys := handles.length_keys.trans follows.length_keys
  keys key := by
    rw [handles.keys, lastDown_append_singleton, ← follows.keys]
    simp only [Keyboard.event_eq_press_iff, Keyboard.event_eq_release_iff]
    split
    next down => simp [down]
    next notDown =>
      split
      next up => simp [up]
      next notUp => simp [notDown, notUp]
  paused := by
    rw [handles.paused]
    simp only [Keyboard.event_eq_pause_iff, List.count_append, List.count_singleton, beq_iff_eq]
    split
    next => simp [Nat.odd_add_one, ← follows.paused]
    next => simp [follows.paused]
  isOpen := by
    rw [handles.isOpen]
    by_cases closes : keyboard.Closes signal
    · rw [if_pos (Keyboard.closes_iff.mp closes)]
      cases since <;> simp [closes]
    · rw [if_neg (mt Keyboard.closes_iff.mpr closes), follows.isOpen]
      cases since with
      | none => simp
      | some later => simp [or_imp, forall_and, closes]

/-- A batch of events goes through, and what it does is what its signals tell. -/
theorem handleAll (follows : Follows keyboard signals since window) (batch : List (Signal Code)) :
    ∃ next, Window.handleAll (batch.map keyboard.event) window = (next, .ok ()) ∧
      Follows keyboard (signals ++ batch) (since.map (· ++ batch)) next := by
  induction batch generalizing window signals since with
  | nil => exact ⟨window, rfl, by simpa using follows⟩
  | cons signal batch ih =>
      rcases exists_handles follows.length_keys Emulator.resync (keyboard.event signal) with
        ⟨next, handled, handles⟩
      rcases ih (follows.handles handles) with ⟨last, rest, followed⟩
      refine ⟨last, ?_, ?_⟩
      · rw [List.map_cons, Window.handleAll, handle, handled]
        exact rest
      · simpa [Function.comp_def] using followed

/-- What leaves the controls alone may happen at any time. -/
theorem congr {next : Window Time} (follows : Follows keyboard signals since window)
    (same : window.SameControls next) : Follows keyboard signals since next where
  length_keys := by rw [same.keys, follows.length_keys]
  keys key := by rw [same.keys, follows.keys]
  paused := by rw [same.paused, follows.paused]
  isOpen := by rw [same.isOpen, follows.isOpen]

/-- No signal, no key down, no pause and nothing open. -/
theorem of_create {room : Nat} {desktop : Desktop} {emulator : Emulator Time} {scale frameRate : Int}
    {palette : Palette} (made : create room desktop emulator scale frameRate palette = .ok window) :
    Follows keyboard [] none window := by
  rcases bind_eq_ok_iff.mp made with ⟨surface, -, sounds⟩
  have silent : Follows keyboard [] none { emulator, room, scale, frameRate, palette, surface } :=
    { length_keys := rfl
      keys key := by simp [Keypad.released, List.getElem?_replicate]
      paused := by simp
      isOpen := by simp }
  exact silent.congr (openSound_controls sounds)

end Follows

/-! ### What happens to a window -/

/-- Everything that happens to a window from its making, with the signals since then and those since it was
opened last. -/
inductive Reached (keyboard : Keyboard Code) :
    Window Time → List (Signal Code) → Option (List (Signal Code)) → Prop where
  | made {room : Nat} {desktop : Desktop} {emulator : Emulator Time} {scale frameRate : Int}
    {palette : Palette} {window : Window Time}
    (made : create room desktop emulator scale frameRate palette = .ok window) :
    Reached keyboard window [] none
  | handled {window : Window Time} {signals : List (Signal Code)} {since : Option (List (Signal Code))}
    (reached : Reached keyboard window signals since) (batch : List (Signal Code)) :
    Reached keyboard (handleAll (batch.map keyboard.event) window).1 (signals ++ batch)
      (since.map (· ++ batch))
  | opened {window : Window Time} {signals : List (Signal Code)} {since : Option (List (Signal Code))}
    (reached : Reached keyboard window signals since) :
    Reached keyboard { window with isOpen := true } signals (some [])
  /-- The emulator is used with the host, whose keys it leaves alone. -/
  | emulated {window : Window Time} {signals : List (Signal Code)} {since : Option (List (Signal Code))}
    (reached : Reached keyboard window signals since) (emulator : Emulator Time) (host : Host)
    (keys : host.keys = window.host.keys) :
    Reached keyboard { window with emulator, host } signals since
  | sounded {window : Window Time} {signals : List (Signal Code)} {since : Option (List (Signal Code))}
    (reached : Reached keyboard window signals since) : Reached keyboard window.updateAudio signals since
  | drawn {window next : Window Time} {signals : List (Signal Code)} {since : Option (List (Signal Code))}
    (reached : Reached keyboard window signals since) (drawn : window.draw = .ok next) :
    Reached keyboard next signals since

namespace Reached

/-- Whatever happens, the controls are as the signals tell. -/
theorem follows (reached : Reached keyboard window signals since) :
    Follows keyboard signals since window := by
  induction reached with
  | made made => exact .of_create made
  | handled reached batch ih =>
      rcases ih.handleAll batch with ⟨next, handled, followed⟩
      rw [handled]
      exact followed
  | opened reached ih => exact { ih with isOpen := by simp }
  | emulated reached emulator host keys ih => exact ih.congr ⟨keys, rfl, rfl⟩
  | sounded reached ih => exact ih.congr (updateAudio_controls _)
  | drawn reached drawn ih => exact ih.congr (draw_controls drawn)

variable [ClockNumber Time]

theorem clock (reached : Reached keyboard window signals since) (readings : Readings Time) :
    Reached keyboard (window.clock readings).1 signals since := by
  unfold Window.clock
  split
  next => exact reached
  next => exact reached.emulated _ _ (Emulator.keys_clock _ _ _)

/-- A frame is shown, as far as it goes. -/
theorem frame (reached : Reached keyboard window signals since) (batch : List (Signal Code))
    (readings : Readings Time) :
    Reached keyboard (window.frame (batch.map keyboard.event) readings).1 (signals ++ batch)
      (since.map (· ++ batch)) := by
  have handled := reached.handled batch
  unfold Window.frame
  split
  next failed =>
    rwa [failed] at handled
  next through =>
    rw [through] at handled
    have clocked := handled.clock readings
    split
    next failed =>
      rwa [failed] at clocked
    next run =>
      rw [run] at clocked
      have sounded := clocked.sounded
      dsimp only
      split
      next => exact sounded
      next drawn => exact sounded.drawn drawn

/-- The frames of a window handle the first of the batches, up to all of them and a last one that closes the
window. -/
theorem frames {later : List (Signal Code)} (reached : Reached keyboard window signals (some later))
    (readings : Readings Time) (finished : Nat) (batches : List (List (Signal Code))) :
    ∃ handled, handled <+: batches.flatten ++ [.quit] ∧
      Reached keyboard
        (window.frames readings finished (batches.map (List.map keyboard.event))).window
        (signals ++ handled) (some (later ++ handled)) := by
  induction batches generalizing window signals later readings finished with
  | nil =>
      have shown := reached.frame [.quit] readings
      refine ⟨[.quit], List.prefix_rfl, ?_⟩
      simp only [List.map_nil, Window.frames]
      change Reached keyboard (window.frame [.quit] readings).1 _ _ at shown
      generalize window.frame [.quit] readings = framed at shown ⊢
      rcases framed with ⟨next, rest, _ | _⟩ <;> exact shown
  | cons batch batches ih =>
      have shown := reached.frame batch readings
      have first : batch <+: (batch :: batches).flatten ++ [.quit] := by simp
      simp only [List.map_cons, Window.frames]
      generalize window.frame (batch.map keyboard.event) readings = framed at shown ⊢
      rcases framed with ⟨next, rest, _ | _⟩
      · exact ⟨batch, first, shown⟩
      · dsimp only
        split
        next =>
          rcases ih shown rest (finished + 1) with ⟨handled, within, run⟩
          refine ⟨batch ++ handled, ?_, ?_⟩
          · simpa using within
          · simpa using run
        next => exact ⟨batch, first, shown⟩

/-- A run of the window handles the first of the batches, up to all of them and a last one that closes the
window. -/
theorem run (reached : Reached keyboard window signals since) (readings : Readings Time)
    (batches : List (List (Signal Code))) :
    ∃ handled, handled <+: batches.flatten ++ [.quit] ∧
      Reached keyboard (window.run readings (batches.map (List.map keyboard.event))).window
        (signals ++ handled) (some handled) :=
  reached.opened.frames readings 0 batches

end Reached

variable [ClockNumber Time]

/-- The signals tell the controls of a window: every batch of events goes through, a key is down if the last
signal of it was that it went down, the emulator is paused if the key for this went down an odd number of
times, and the window is open until the first signal that closes it. The emulator is resynchronized once by
every second going down of the key for the pause, and by nothing else. A run of the window is one way in which
this comes about. -/
theorem controls_follow_signals (reached : Reached keyboard window signals since) :
    Follows keyboard signals since window ∧
    (∀ batch : List (Signal Code), ∃ next,
      handleAll (batch.map keyboard.event) window = (next, .ok ())) ∧
    (∀ event, window.handle event = window.handleBy Emulator.resync event) ∧
    (∀ (resync : Emulator Time → Emulator Time) (signal : Signal Code), ∃ next,
      window.handleBy resync (keyboard.event signal) = .ok next ∧
      next.emulator =
        if signal ≠ .keyDown keyboard.pause then window.emulator
        else if Even ((signals ++ [signal]).count (.keyDown keyboard.pause)) then
          (resync window.emulator).noted .resumed
        else window.emulator.noted .paused) ∧
    ∀ (readings : Readings Time) (batches : List (List (Signal Code))), ∃ handled,
      handled <+: batches.flatten ++ [.quit] ∧
      Reached keyboard (window.run readings (batches.map (List.map keyboard.event))).window
        (signals ++ handled) (some handled) := by
  have follows := reached.follows
  refine ⟨follows, ?_, fun _ => rfl, ?_, reached.run⟩
  · intro batch
    rcases follows.handleAll batch with ⟨next, handled, -⟩
    exact ⟨next, handled⟩
  · intro resync signal
    rcases exists_handles follows.length_keys resync (keyboard.event signal) with ⟨next, handled, handles⟩
    refine ⟨next, handled, ?_⟩
    rw [handles.emulator]
    by_cases pauses : signal = .keyDown keyboard.pause
    · -- The emulator goes on if it was paused, and it was after going down an odd number of times.
      have again : Even ((signals ++ [signal]).count (.keyDown keyboard.pause)) ↔ window.paused = true := by
        rw [follows.paused, pauses, List.count_append, List.count_singleton_self, Nat.even_add_one,
          Nat.not_even_iff_odd]
      simp only [ne_eq, Keyboard.event_eq_pause_iff, pauses, not_true_eq_false, if_false] at again ⊢
      simp only [again]
    · rw [if_pos (mt Keyboard.event_eq_pause_iff.mp pauses), if_pos pauses]

/-- Two keys of the pad go down, and during a pause one of them goes up. The end of the pause resynchronizes. -/
theorem controls_follow_signals_of_pause :
    ∃ window : Window Rat,
      create 0 (.usual false) (Emulator.fresh 500 (some 34) {}) 8 30 (Scheme.palette .default) =
        .ok window ∧
      let batch : List (Signal Nat) := [.keyDown 0x31, .keyDown 0x71, .keyDown 0x4000003A, .keyUp 0x31]
      let next := (handleAll (batch.map Keyboard.ofCharacters.event) { window with isOpen := true }).1
      next.host.keys[1]? ≠ some true ∧ next.host.keys[4]? = some true ∧ next.paused = true ∧
        next.isOpen = true ∧
        ∃ last, next.handle (.keyDown .pause) = .ok last ∧
          last.emulator = next.emulator.resync.noted .resumed := by
  obtain ⟨window, made⟩ : ∃ window : Window Rat,
      create 0 (.usual false) (Emulator.fresh 500 (some 34) {}) 8 30 (Scheme.palette .default) =
        .ok window := ⟨_, rfl⟩
  have opened : Reached Keyboard.ofCharacters { window with isOpen := true } [] (some []) :=
    (Reached.made made).opened
  have handled := opened.handled [.keyDown 0x31, .keyDown 0x71, .keyDown 0x4000003A, .keyUp 0x31]
  rcases controls_follow_signals handled with ⟨follows, -, -, resyncs, -⟩
  refine ⟨window, made, ?_, ?_, ?_, ?_, resyncs Emulator.resync (.keyDown 0x4000003A)⟩
  · intro pressed
    have down : LastDown 0x31 ([.keyDown 0x31, .keyDown 0x71, .keyDown 0x4000003A] ++ [.keyUp 0x31]) :=
      (follows.keys 1).mp pressed
    rw [lastDown_append_singleton] at down
    simp at down
  · have down : LastDown 0x71 ([.keyDown 0x31, .keyDown 0x71, .keyDown 0x4000003A, .keyUp 0x31]) :=
      ⟨[.keyDown 0x31], _, rfl, by simp, by simp⟩
    exact (follows.keys 4).mpr down
  · apply follows.paused.mpr
    decide
  · apply follows.isOpen.mpr
    exact ⟨_, rfl, by simp [Keyboard.Closes, Keyboard.ofCharacters]⟩

end Window

end Chip8
