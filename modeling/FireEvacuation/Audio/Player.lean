import FireEvacuation.Core.Transition

/-!
# The audio player and its stop flag

`play()` is a loop which decodes a buffer, looks at `should_kick_stop` and hands the buffer
to the output; when the flag is set it clears the flag and leaves.  `stop()` sets the flag.
The two clients have this in common.

In SmartLED `open` begins with a loop which waits until the flag is clear.  The player
thread calls `open` and `play` in turn, and no other thread ever clears the flag.  So the
wait is over only when there is nothing to wait for, and the question is which timings let
the player come to it with the flag set.
-/

namespace FireEvacuation
namespace Audio

open FireEvacuation.Core

/-! ## `play()` -/

/-- Where the loop of `play()` stands: before the step of this name. -/
inductive PlayPc where
  | read
  | testStop
  | clearStop
  | output
  deriving DecidableEq, Repr

/-- One step of `play()`: the flag afterwards and where the loop goes on, or `none` when
`play()` returns.  `readOk` says whether `mpg123_read` answers `MPG123_OK`. -/
def play (shouldKickStop readOk : Bool) : PlayPc → Bool × Option PlayPc
  | .read => (shouldKickStop, if readOk then some .testStop else none)
  | .testStop => (shouldKickStop, some (if shouldKickStop then .clearStop else .output))
  | .clearStop => (false, none)
  | .output => (shouldKickStop, some .read)

/-! ## The player thread of SmartLED -/

/-- Where the player thread stands. -/
inductive LedPlayerPc where
  /-- At the loop at the beginning of `open`. -/
  | waitStop (fileName : String)
  /-- From `mpg123_open` to `ao_open_live`. -/
  | openFile (fileName : String)
  | play (fileName : String) (pc : PlayPc)
  deriving DecidableEq, Repr

structure LedPlayer where
  pc : LedPlayerPc
  shouldKickStop : Bool
  deriving DecidableEq, Repr

/-- The thread calls `open` for the first time. -/
def LedPlayer.initial (fileName : String) : LedPlayer := ⟨.waitStop fileName, false⟩

/-- A step of the player thread, which opens `next` when `play()` returns, or a call of
`stop()` by another thread. -/
inductive LedPlayerEvent where
  | player (readOk : Bool) (next : String)
  | stop
  deriving DecidableEq, Repr

/-- One step. -/
def ledPlayerStep (s : LedPlayer) : LedPlayerEvent → Option LedPlayer
  | .stop => some { s with shouldKickStop := true }
  | .player readOk next =>
      match s.pc with
      | .waitStop fileName =>
          -- `while (should_kick_stop)` prints a line and looks again
          some (if s.shouldKickStop then s else { s with pc := .openFile fileName })
      | .openFile fileName => some { s with pc := .play fileName .read }
      | .play fileName pc =>
          some {
            pc :=
              match (Audio.play s.shouldKickStop readOk pc).2 with
              | some pc' => .play fileName pc'
              | none => .waitStop next
            shouldKickStop := (Audio.play s.shouldKickStop readOk pc).1 }

/-- The player is inside the waiting loop. -/
def LedPlayerPc.waits : LedPlayerPc → Bool
  | .waitStop _ => true
  | .openFile _ | .play _ _ => false

/-- The player waits for a flag which is set.  Only `play()` clears it, and the only thread
which calls `play()` is the one that waits. -/
def Blocked (s : LedPlayer) : Prop := s.pc.waits = true ∧ s.shouldKickStop = true

instance (s : LedPlayer) : Decidable (Blocked s) :=
  inferInstanceAs (Decidable (s.pc.waits = true ∧ s.shouldKickStop = true))

/-- The condition on a step: no `stop()` while the player waits, and no end of a song while
a stop is still asked for. -/
def StopIsTaken (s : LedPlayer) : LedPlayerEvent → Prop
  | .stop => s.pc.waits = false
  | .player readOk _ =>
      match s.pc with
      | .play _ .read => readOk = true ∨ s.shouldKickStop = false
      | .waitStop _ | .openFile _ | .play _ _ => True

/-- A step leads to a blocked player exactly when it does not meet the condition. -/
theorem not_blocked_iff {s t : LedPlayer} {event : LedPlayerEvent} (hs : ¬Blocked s)
    (hstep : ledPlayerStep s event = some t) : ¬Blocked t ↔ StopIsTaken s event := by
  cases event with
  | stop =>
      cases hstep
      simp [Blocked, StopIsTaken]
  | player readOk next =>
      unfold ledPlayerStep at hstep
      cases hpc : s.pc with
      | waitStop fileName =>
          -- the flag is clear here, so the player goes on
          have hclear : s.shouldKickStop = false := by
            simpa [Blocked, hpc, LedPlayerPc.waits] using hs
          simp only [hpc, hclear, Bool.false_eq_true, if_false] at hstep
          cases hstep
          simp [Blocked, StopIsTaken, hpc, LedPlayerPc.waits]
      | openFile fileName =>
          simp only [hpc] at hstep
          cases hstep
          simp [Blocked, StopIsTaken, hpc, LedPlayerPc.waits]
      | play fileName pc =>
          simp only [hpc] at hstep
          cases hstep
          cases pc with
          | read =>
              cases readOk <;>
                simp [Blocked, StopIsTaken, hpc, LedPlayerPc.waits, Audio.play]
          | testStop | clearStop | output =>
              simp [Blocked, StopIsTaken, hpc, LedPlayerPc.waits, Audio.play]

/-- A blocked player stays where it is, whatever the other threads do. -/
theorem Blocked.step {s t : LedPlayer} {event : LedPlayerEvent} (hs : Blocked s)
    (hstep : ledPlayerStep s event = some t) : t = s := by
  obtain ⟨hwaits, hset⟩ := hs
  cases event with
  | stop =>
      cases hstep
      rw [← hset]
  | player readOk next =>
      unfold ledPlayerStep at hstep
      cases hpc : s.pc with
      | waitStop fileName =>
          simp only [hpc, hset, if_true] at hstep
          exact (Option.some.inj hstep).symm
      | openFile fileName =>
          rw [hpc] at hwaits
          cases hwaits
      | play fileName pc =>
          rw [hpc] at hwaits
          cases hwaits

/-- **Once blocked, for ever.** -/
theorem Blocked.forever {s t : LedPlayer} (hs : Blocked s) (h : Reaches ledPlayerStep s t) :
    t = s := by
  have hpres : ∀ u event v, u = s → ledPlayerStep u event = some v → v = s := by
    intro u event v hu hstep
    rw [hu] at hstep
    exact hs.step hstep
  exact h.invariant hpres rfl

/-- **When the player blocks itself.**  In every run, the player is never blocked if and
only if all steps meet the condition. -/
theorem stopIsTaken_iff_never_blocked (fileName : String) {es : List LedPlayerEvent}
    {s : LedPlayer} (hrun : run ledPlayerStep (.initial fileName) es = some s) :
    Guarded ledPlayerStep StopIsTaken (.initial fileName) es ↔
      Throughout ledPlayerStep (fun t => ¬Blocked t) (.initial fileName) es := by
  have hpres : ∀ u event v, ¬Blocked u → StopIsTaken u event →
      ledPlayerStep u event = some v → ¬Blocked v :=
    fun _ _ _ hu hguard hstep => (not_blocked_iff hu hstep).mpr hguard
  have hinitial : ¬Blocked (.initial fileName) := fun hblocked => nomatch hblocked.2
  exact guarded_iff_throughout hpres (fun _ _ _ hu hstep => not_blocked_iff hu hstep) hrun
    hinitial hinitial

/-- A stop in the middle of the first song, and the second song begins. -/
def stoppedInTime : List LedPlayerEvent :=
  [.player true "", .player true "", .stop, .player true "", .player true "",
    .player true "emergency.mp3", .player true ""]

theorem stopIsTaken_iff_never_blocked_in_time :
    Guarded ledPlayerStep StopIsTaken (.initial "normal.mp3") stoppedInTime ↔
      Throughout ledPlayerStep (fun t => ¬Blocked t) (.initial "normal.mp3") stoppedInTime :=
  stopIsTaken_iff_never_blocked "normal.mp3"
    (s := ⟨.openFile "emergency.mp3", false⟩) (by decide)

/-- The song ends before the stop, as when `normal.mp3` is shorter than the five seconds
after which `counter` stops it. -/
theorem short_song_blocks :
    ¬∀ fileName s, Reaches ledPlayerStep (.initial fileName) s → ¬Blocked s := by
  intro h
  have hreaches : Reaches ledPlayerStep (.initial "normal.mp3")
      ⟨.waitStop "emergency.mp3", true⟩ :=
    ⟨[.player true "", .player true "", .player false "emergency.mp3", .stop], by decide⟩
  exact h _ _ hreaches (by decide)

end Audio
end FireEvacuation
