import FireEvacuation.Audio.Player

/-!
# The output devices of an audio object

`open` asks for an output device in the format of the file and keeps it in `dev`; the one
that was there before is not closed.  `play()` hands every buffer to `dev`, and only the
destructor closes a device.  Here the devices which are open are part of the state, together
with a record of where each buffer went.

What a file turns out to be and whether the output can be opened comes with the call: a
device may be refused, in particular while another one is open.
-/

namespace FireEvacuation
namespace Audio

open FireEvacuation.Core

/-- `ao_sample_format`; byte order and matrix are fixed. -/
structure SampleFormat where
  bits : Nat
  rate : Nat
  channels : Nat
  deriving DecidableEq, Repr

/-- An output device which is open. -/
structure OutputDevice where
  handle : Nat
  format : SampleFormat
  deriving DecidableEq, Repr

/-- What a call of `open` meets. -/
structure OpenAnswer where
  /-- What `mpg123_getformat` reports, unless the file cannot be opened or decoded. -/
  format : Option SampleFormat
  /-- What is in the local variables when it reports nothing. -/
  unset : SampleFormat
  /-- Whether `ao_open_live` gives a device. -/
  device : Bool
  deriving DecidableEq, Repr

/-- A buffer which was passed to `ao_play`: the format of the file it was decoded from, and
the device in `dev`. -/
structure PlayedBuffer where
  decodedFrom : Option SampleFormat
  device : Option OutputDevice
  deriving DecidableEq, Repr

/-- An `Audio` object with the devices it has opened.  `playing` says where `play()` stands
while it runs, `decoding` is the format of the file `mpg_handle` reads. -/
structure AudioObject where
  playing : Option PlayPc
  shouldKickStop : Bool
  decoding : Option SampleFormat
  dev : Option Nat
  devices : List OutputDevice
  handles : Nat
  buffers : List PlayedBuffer
  deriving DecidableEq, Repr

/-- `Audio()`. -/
def AudioObject.construct : AudioObject := ⟨none, false, none, none, [], 0, []⟩

/-- `Audio::open`. -/
def AudioObject.openFile (s : AudioObject) (answer : OpenAnswer) : AudioObject :=
  if answer.device then
    { s with
      decoding := answer.format
      dev := some s.handles
      devices := s.devices ++ [⟨s.handles, answer.format.getD answer.unset⟩]
      handles := s.handles + 1 }
  else { s with decoding := answer.format, dev := none }

/-- The device in `dev`. -/
def AudioObject.device (s : AudioObject) : Option OutputDevice :=
  s.dev.bind fun handle => s.devices.find? (·.handle = handle)

/-- `~Audio()`: `ao_close(dev)`, which does nothing with `NULL`. -/
def AudioObject.destroy (s : AudioObject) : AudioObject :=
  { s with devices := s.devices.filter fun device => s.dev ≠ some device.handle }

/-- What happens to an object: calls of `open` and `play`, the steps of a running `play()`,
and `stop()` at any time. -/
inductive AudioEvent where
  | openFile (answer : OpenAnswer)
  | play
  | player (readOk : Bool)
  | stop
  deriving DecidableEq, Repr

/-- One step.  Without a file `mpg123_read` never answers `MPG123_OK`. -/
def audioStep (s : AudioObject) : AudioEvent → Option AudioObject
  | .openFile answer => if s.playing = none then some (s.openFile answer) else none
  | .play => if s.playing = none then some { s with playing := some .read } else none
  | .player readOk =>
      match s.playing with
      | none => none
      | some pc =>
          if readOk = true ∧ s.decoding = none then none
          else
            some { s with
              playing := (Audio.play s.shouldKickStop readOk pc).2
              shouldKickStop := (Audio.play s.shouldKickStop readOk pc).1
              buffers :=
                if pc = .output then s.buffers ++ [⟨s.decoding, s.device⟩] else s.buffers }
  | .stop => some { s with shouldKickStop := true }

/-- At most one device is open, every buffer went to a device with the format of its file,
and the destructor leaves no device open. -/
structure DevicesOwned (s : AudioObject) : Prop where
  single : s.devices.length ≤ 1
  buffers : ∀ buffer ∈ s.buffers, ∃ device,
    buffer.device = some device ∧ buffer.decodedFrom = some device.format
  destroyed : s.destroy.devices = []

/-- The condition on a step: no second `open` once a device was given, and no buffer before. -/
def DeviceOnce (s : AudioObject) : AudioEvent → Prop
  | .openFile _ => s.dev = none
  | .player _ => s.playing = some .output → s.dev ≠ none
  | .play | .stop => True

instance (s : AudioObject) : (event : AudioEvent) → Decidable (DeviceOnce s event)
  | .openFile _ => inferInstanceAs (Decidable (s.dev = none))
  | .player _ => inferInstanceAs (Decidable (s.playing = some .output → s.dev ≠ none))
  | .play | .stop => isTrue trivial

/-! ## The invariant -/

/-- The device in `dev` is the only one, and it has the format of the file. -/
structure DeviceInv (s : AudioObject) : Prop where
  closed : s.dev = none → s.devices = []
  held : ∀ handle, s.dev = some handle → ∃ device, s.devices = [device] ∧
    device.handle = handle ∧ ∀ format, s.decoding = some format → device.format = format
  /-- Between a successful read and the next one there is a file. -/
  decoding : s.playing ≠ none → s.playing ≠ some .read → s.decoding ≠ none
  buffers : ∀ buffer ∈ s.buffers, ∃ device,
    buffer.device = some device ∧ buffer.decodedFrom = some device.format

theorem DeviceInv.owned {s : AudioObject} (h : DeviceInv s) : DevicesOwned s := by
  cases hdev : s.dev with
  | none =>
      have hclosed := h.closed hdev
      exact ⟨by simp [hclosed], h.buffers, by simp [AudioObject.destroy, hclosed]⟩
  | some handle =>
      obtain ⟨device, hdevices, hhandle, -⟩ := h.held handle hdev
      refine ⟨by simp [hdevices], h.buffers, ?_⟩
      simp [AudioObject.destroy, hdevices, hdev, hhandle]

theorem deviceInv_construct : DeviceInv .construct :=
  ⟨fun _ => rfl, by simp [AudioObject.construct], by simp [AudioObject.construct],
    by simp [AudioObject.construct]⟩

/-- The first device. -/
theorem DeviceInv.openFile {s : AudioObject} (h : DeviceInv s) (hplaying : s.playing = none)
    (hdev : s.dev = none) (answer : OpenAnswer) : DeviceInv (s.openFile answer) := by
  have hdevices := h.closed hdev
  unfold AudioObject.openFile
  split
  · refine ⟨by simp, fun handle hhandle => ?_, by simp [hplaying], h.buffers⟩
    cases hhandle
    refine ⟨⟨s.handles, answer.format.getD answer.unset⟩, by simp [hdevices], rfl, ?_⟩
    intro format hformat
    rw [show answer.format = _ from hformat]
    rfl
  · exact ⟨fun _ => hdevices, by simp, by simp [hplaying], h.buffers⟩

/-- A second `open` loses the device there was. -/
theorem DeviceInv.not_owned_openFile {s : AudioObject} (h : DeviceInv s) {handle : Nat}
    (hdev : s.dev = some handle) (answer : OpenAnswer) : ¬DevicesOwned (s.openFile answer) := by
  intro howned
  obtain ⟨device, hdevices, -, -⟩ := h.held handle hdev
  -- with a new device there are two, and without one the old device is not closed
  cases hanswer : answer.device with
  | true =>
      have hlength := howned.single
      simp [AudioObject.openFile, hanswer, hdevices] at hlength
  | false =>
      have hleft := howned.destroyed
      simp [AudioObject.openFile, hanswer, AudioObject.destroy, hdevices] at hleft

/-- A buffer for the device there is. -/
theorem DeviceInv.device {s : AudioObject} (h : DeviceInv s) {handle : Nat}
    (hdev : s.dev = some handle) {format : SampleFormat} (hformat : s.decoding = some format) :
    ∃ device, s.device = some device ∧ s.decoding = some device.format := by
  obtain ⟨device, hdevices, hhandle, hsame⟩ := h.held handle hdev
  refine ⟨device, by simp [AudioObject.device, hdev, hdevices, hhandle], ?_⟩
  rw [hsame format hformat, hformat]

theorem DeviceInv.player {s t : AudioObject} (h : DeviceInv s) {readOk : Bool}
    (hcondition : DeviceOnce s (.player readOk))
    (hstep : audioStep s (.player readOk) = some t) : DeviceInv t := by
  unfold audioStep at hstep
  dsimp only at hstep
  cases hpc : s.playing with
  | none =>
      rw [hpc] at hstep
      cases hstep
  | some pc =>
      rw [hpc] at hstep
      dsimp only at hstep
      split at hstep
      · cases hstep
      · rename_i hread
        cases hstep
        have hfile : readOk = true → s.decoding ≠ none := fun hok hnone => hread ⟨hok, hnone⟩
        refine ⟨h.closed, h.held, fun hne hnread => ?_, ?_⟩
        · -- who is past the read has decoded a buffer
          cases pc with
          | read =>
              cases readOk with
              | true => exact hfile rfl
              | false => exact absurd rfl hne
          | testStop => exact h.decoding (by simp [hpc]) (by simp [hpc])
          | clearStop => exact absurd rfl hne
          | output => exact absurd rfl hnread
        · dsimp only
          split
          · rename_i houtput
            subst houtput
            intro buffer hmem
            rcases List.mem_append.mp hmem with hold | hnew
            · exact h.buffers buffer hold
            · rw [List.mem_singleton.mp hnew]
              obtain ⟨handle, hdev⟩ := Option.ne_none_iff_exists'.mp (hcondition hpc)
              obtain ⟨format, hformat⟩ := Option.ne_none_iff_exists'.mp
                (h.decoding (by simp [hpc]) (by simp [hpc]))
              exact h.device hdev hformat
          · exact h.buffers

/-- A buffer without a device. -/
theorem not_owned_player {s t : AudioObject} {readOk : Bool} (hpc : s.playing = some .output)
    (hdev : s.dev = none) (hstep : audioStep s (.player readOk) = some t) : ¬DevicesOwned t := by
  unfold audioStep at hstep
  simp only [hpc, if_true] at hstep
  split at hstep
  · cases hstep
  · cases hstep
    intro howned
    obtain ⟨device, hdevice, -⟩ := howned.buffers ⟨s.decoding, s.device⟩ (by simp)
    simp [AudioObject.device, hdev] at hdevice

/-- A step which meets its condition keeps the invariant, any other ends the ownership. -/
theorem DeviceInv.step {s t : AudioObject} {event : AudioEvent} (h : DeviceInv s)
    (hstep : audioStep s event = some t) :
    (DeviceOnce s event → DeviceInv t) ∧ (¬DeviceOnce s event → ¬DevicesOwned t) := by
  cases event with
  | openFile answer =>
      unfold audioStep at hstep
      dsimp only at hstep
      split at hstep
      · rename_i hplaying
        cases hstep
        refine ⟨fun hdev => h.openFile hplaying hdev answer, fun hnot => ?_⟩
        obtain ⟨handle, hdev⟩ := Option.ne_none_iff_exists'.mp hnot
        exact h.not_owned_openFile hdev answer
      · cases hstep
  | play =>
      unfold audioStep at hstep
      dsimp only at hstep
      split at hstep
      · cases hstep
        exact ⟨fun _ => ⟨h.closed, h.held, fun _ hnread => absurd rfl hnread, h.buffers⟩,
          fun hnot => absurd trivial hnot⟩
      · cases hstep
  | player readOk =>
      refine ⟨fun hcondition => h.player hcondition hstep, fun hnot => ?_⟩
      simp only [DeviceOnce, Classical.not_imp, not_not] at hnot
      exact not_owned_player hnot.1 hnot.2 hstep
  | stop =>
      cases hstep
      exact ⟨fun _ => ⟨h.closed, h.held, h.decoding, h.buffers⟩, fun hnot => absurd trivial hnot⟩

theorem DeviceInv.owned_iff {s t : AudioObject} {event : AudioEvent} (h : DeviceInv s)
    (hstep : audioStep s event = some t) : DevicesOwned t ↔ DeviceOnce s event := by
  obtain ⟨hkept, hlost⟩ := h.step hstep
  constructor
  · intro howned
    by_contra hnot
    exact hlost hnot howned
  · intro hcondition
    exact (hkept hcondition).owned

/-- **Ownership of the devices.**  In every run of calls on one object, the devices are
owned all the time if and only if `open` is not called again once there is a device, and no
buffer is played while there is none. -/
theorem deviceOnce_iff_devicesOwned {es : List AudioEvent} {s : AudioObject}
    (hrun : run audioStep .construct es = some s) :
    Guarded audioStep DeviceOnce .construct es ↔
      Throughout audioStep DevicesOwned .construct es :=
  guarded_iff_throughout (fun _ _ _ h hguard hstep => (h.step hstep).1 hguard)
    (fun _ _ _ h hstep => h.owned_iff hstep) hrun deviceInv_construct deviceInv_construct.owned

/-- 16 bits, 44100 samples a second, two channels. -/
def stereo : OpenAnswer := ⟨some ⟨16, 44100, 2⟩, ⟨0, 0, 0⟩, true⟩

/-- One song of two buffers. -/
def oneSong : List AudioEvent :=
  [.openFile stereo, .play, .player true, .player true, .player true, .player true,
    .player true, .player true, .player false]

theorem deviceOnce_iff_devicesOwned_oneSong :
    Guarded audioStep DeviceOnce .construct oneSong ↔
      Throughout audioStep DevicesOwned .construct oneSong :=
  deviceOnce_iff_devicesOwned (s := ⟨none, false, some ⟨16, 44100, 2⟩, some 0,
    [⟨0, ⟨16, 44100, 2⟩⟩], 1,
    [⟨some ⟨16, 44100, 2⟩, some ⟨0, ⟨16, 44100, 2⟩⟩⟩,
      ⟨some ⟨16, 44100, 2⟩, some ⟨0, ⟨16, 44100, 2⟩⟩⟩]⟩) (by decide)

/-- A song which ends, and the next one. -/
theorem second_open_leaks :
    ¬∀ es s, run audioStep .construct es = some s →
      Throughout audioStep DevicesOwned .construct es := by
  intro h
  have hrun : run audioStep .construct
      [.openFile stereo, .play, .player false, .openFile stereo] =
        some ⟨none, false, some ⟨16, 44100, 2⟩, some 1,
          [⟨0, ⟨16, 44100, 2⟩⟩, ⟨1, ⟨16, 44100, 2⟩⟩], 2, []⟩ := by decide
  have howned := h _ _ hrun _ (List.prefix_refl _) _ hrun
  exact absurd howned.single (by decide)

end Audio
end FireEvacuation
