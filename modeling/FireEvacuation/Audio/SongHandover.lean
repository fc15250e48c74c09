import FireEvacuation.Audio.Player
import FireEvacuation.Core.Threads
import FireEvacuation.Speaker.Client
import Mathlib.Data.List.TakeWhile

/-!
# The hand-over to the emergency song

The player thread of the speaker opens whatever `current_song` names and plays it, again and
again.  A callback which finds an alarm first writes the new name and then calls `stop()`.
Here the player and any number of callbacks take turns, one read or write of a shared
variable at a time; opening a file takes two steps, the name is read and then the file is
opened.

What was done is recorded in a log.  The property is about the part of the log from the
first `stop()` on.
-/

namespace FireEvacuation
namespace Audio

open FireEvacuation.Core Speaker

/-- What the player and the callbacks do that can be observed. -/
inductive AudioAction where
  /-- `mpg123_open` is called with this name. -/
  | nameRead (song : String)
  /-- `mpg123_open` has opened this file. -/
  | opened (song : String)
  /-- A buffer of this file is passed to `ao_play`. -/
  | played (song : String)
  /-- `audio->stop()`. -/
  | stopped
  deriving DecidableEq, Repr

/-- Where `normal_state_run` stands. -/
inductive SpeakerPlayerPc where
  | readName
  | openFile (name : String)
  | play (file : String) (pc : PlayPc)
  deriving DecidableEq, Repr

/-- `current_song`, `should_kick_stop`, the player thread, and the log. -/
structure HandoverState where
  currentSong : String
  shouldKickStop : Bool
  player : SpeakerPlayerPc
  log : List AudioAction
  deriving DecidableEq, Repr

/-- Where a callback stands in the alarm branch of `getAlertStatus`. -/
inductive AlarmPc where
  | testSong
  | writeSong
  | stop
  | setAlert
  | done
  deriving DecidableEq, Repr

/-- One step of a callback, which has measured the temperature and read the key `alert`. -/
def alarmStep (s : HandoverState) (pc : AlarmPc) (temperature : Int) (alertValue : String) :
    Option (HandoverState × AlarmPc) :=
  match pc with
  | .testSong =>
      some (s, if switchesSong s.currentSong temperature alertValue then .writeSong else .done)
  | .writeSong => some ({ s with currentSong := emergencySong }, .stop)
  | .stop => some ({ s with shouldKickStop := true, log := s.log ++ [.stopped] }, .setAlert)
  | .setAlert => some (s, .done)
  | .done => none

/-- One step of the player thread.  Files open, and `readOk` says whether `mpg123_read`
answers `MPG123_OK`. -/
def playerStep (s : HandoverState) (readOk : Bool) : HandoverState :=
  match s.player with
  | .readName =>
      { s with player := .openFile s.currentSong, log := s.log ++ [.nameRead s.currentSong] }
  | .openFile name => { s with player := .play name .read, log := s.log ++ [.opened name] }
  | .play file pc =>
      { s with
        shouldKickStop := (play s.shouldKickStop readOk pc).1
        player :=
          match (play s.shouldKickStop readOk pc).2 with
          | some pc' => .play file pc'
          | none => .readName
        log := if pc = .output then s.log ++ [.played file] else s.log }

/-- The speaker: callbacks begin at any time, the player is the environment they share. -/
def handover : ThreadSystem HandoverState AlarmPc Unit (Int × String) Bool where
  start := fun s _ => some (s, .testSong)
  advance := fun _ s pc input => alarmStep s pc input.1 input.2
  environment := fun s readOk => some (playerStep s readOk)

/-- `normal.mp3` is about to be opened for the first time. -/
def HandoverState.initial : HandoverState := ⟨normalSong, false, .readName, []⟩

/-! ## The property -/

/-- The log up to the first `stop()`. -/
def beforeStop (log : List AudioAction) : List AudioAction :=
  log.takeWhile (· ≠ .stopped)

/-- The log from the first `stop()` on. -/
def sinceStop (log : List AudioAction) : List AudioAction :=
  log.dropWhile (· ≠ .stopped)

/-- A buffer of another song than the emergency announcement. -/
def AudioAction.playsOther : AudioAction → Bool
  | .played song => song ≠ emergencySong
  | .nameRead _ | .opened _ | .stopped => false

/-- Another file than the emergency announcement is opened, or a buffer of one is played. -/
def AudioAction.usesOther : AudioAction → Bool
  | .opened song | .played song => song ≠ emergencySong
  | .nameRead _ | .stopped => false

/-- After the first `stop()` only the announcement is opened, and at most one more buffer of
another song is played. -/
structure HandedOverAtOnce (log : List AudioAction) : Prop where
  opened : ∀ song, .opened song ∈ sinceStop log → song = emergencySong
  played : (sinceStop log).countP AudioAction.playsOther ≤ 1

/-- After the first `stop()` the player reads no other name than that of the announcement.
It opens no other file, except one whose name it read right before that `stop()`; and either
this happens once and no buffer of another song is played, or at most one more buffer is. -/
structure HandedOver (log : List AudioAction) : Prop where
  named : ∀ song, .nameRead song ∈ sinceStop log → song = emergencySong
  opened : ∀ song, .opened song ∈ sinceStop log →
    song = emergencySong ∨ (beforeStop log).getLast? = some (.nameRead song)
  once : (sinceStop log).countP AudioAction.usesOther ≤ 1

/-! ## The log -/

section Log

variable {log : List AudioAction}

theorem ne_stopped_of_mem (h : .stopped ∉ log) :
    ∀ action ∈ log, decide (action ≠ .stopped) = true := by
  intro action hmem
  have hne : action ≠ .stopped := fun heq => h (heq ▸ hmem)
  simpa using hne

theorem sinceStop_eq_nil (h : .stopped ∉ log) : sinceStop log = [] :=
  List.dropWhile_eq_nil_iff.mpr (ne_stopped_of_mem h)

/-- The first `stop()` is where the log is divided. -/
theorem sinceStop_of_first {before : List AudioAction} (h : .stopped ∉ before)
    (after : List AudioAction) : sinceStop (before ++ .stopped :: after) = .stopped :: after := by
  rw [sinceStop, List.dropWhile_append_of_pos (ne_stopped_of_mem h)]
  rfl

theorem beforeStop_of_first {before : List AudioAction} (h : .stopped ∉ before)
    (after : List AudioAction) : beforeStop (before ++ .stopped :: after) = before := by
  rw [beforeStop, List.takeWhile_append_of_pos (ne_stopped_of_mem h)]
  simp

/-- What happens after the first `stop()` comes at the end of the part from there on. -/
theorem sinceStop_append (h : .stopped ∈ log) (action : AudioAction) :
    sinceStop (log ++ [action]) = sinceStop log ++ [action] := by
  obtain ⟨before, after, rfl, hbefore⟩ := List.eq_append_cons_of_mem h
  rw [List.append_assoc, List.cons_append, sinceStop_of_first hbefore,
    sinceStop_of_first hbefore]
  rfl

theorem beforeStop_append (h : .stopped ∈ log) (action : AudioAction) :
    beforeStop (log ++ [action]) = beforeStop log := by
  obtain ⟨before, after, rfl, hbefore⟩ := List.eq_append_cons_of_mem h
  rw [List.append_assoc, List.cons_append, beforeStop_of_first hbefore,
    beforeStop_of_first hbefore]

end Log

/-- Before a `stop()` there is nothing to show. -/
theorem handedOver_of_not_stopped {log : List AudioAction} (h : .stopped ∉ log) :
    HandedOver log := by
  have hnil := sinceStop_eq_nil h
  exact ⟨by simp [hnil], by simp [hnil], by simp [hnil]⟩

/-- With the first `stop()` there is nothing to show yet. -/
theorem handedOver_first_stop {log : List AudioAction} (h : .stopped ∉ log) :
    HandedOver (log ++ [.stopped]) := by
  have hone := sinceStop_of_first h []
  exact ⟨by simp [hone], by simp [hone], by simp [hone, AudioAction.usesOther]⟩

/-- One more action after a `stop()`. -/
theorem HandedOver.append {log : List AudioAction} (h : HandedOver log) (hstop : .stopped ∈ log)
    (action : AudioAction) (hnamed : ∀ song, .nameRead song = action → song = emergencySong)
    (hopened : ∀ song, .opened song = action →
      song = emergencySong ∨ (beforeStop log).getLast? = some (.nameRead song))
    (honce : ((sinceStop log).countP AudioAction.usesOther) + [action].countP AudioAction.usesOther
      ≤ 1) : HandedOver (log ++ [action]) where
  named := fun song hmem => by
    rw [sinceStop_append hstop, List.mem_append, List.mem_singleton] at hmem
    exact hmem.elim (h.named song) (hnamed song)
  opened := fun song hmem => by
    rw [sinceStop_append hstop, List.mem_append, List.mem_singleton] at hmem
    rw [beforeStop_append hstop]
    exact hmem.elim (h.opened song) (hopened song)
  once := by
    rw [sinceStop_append hstop, List.countP_append]
    exact honce

/-! ## The invariant -/

/-- The file the player has in its hands is not the announcement. -/
def SpeakerPlayerPc.holdsOther : SpeakerPlayerPc → Bool
  | .readName => false
  | .openFile file | .play file _ => file ≠ emergencySong

/-- The uses of another file the player can still make before it looks at the flag. -/
def SpeakerPlayerPc.owes : SpeakerPlayerPc → Nat
  | .openFile file | .play file .output => if file = emergencySong then 0 else 1
  | .readName | .play _ _ => 0

/-- No `stop()` so far: the flag is clear, and nobody is about to clear it. -/
structure Playing (s : HandoverState) : Prop where
  quiet : .stopped ∉ s.log
  flag : s.shouldKickStop = false
  position : ∀ file, s.player ≠ .play file .clearStop
  named : ∀ file, s.player = .openFile file → s.log.getLast? = some (.nameRead file)

/-- There was a `stop()`.  While the player has another file in its hands the flag is still
set, so it uses this file at most once more. -/
structure Stopped (s : HandoverState) : Prop where
  stopped : .stopped ∈ s.log
  song : s.currentSong = emergencySong
  kicked : s.player.holdsOther = true → s.shouldKickStop = true
  named : ∀ file, s.player = .openFile file →
    file = emergencySong ∨ (beforeStop s.log).getLast? = some (.nameRead file)
  once : (sinceStop s.log).countP AudioAction.usesOther + s.player.owes ≤ 1
  handedOver : HandedOver s.log

/-- Of the number of callbacks nothing is needed. -/
def HandoverShared (_ : Nat) (s : HandoverState) : Prop := Playing s ∨ Stopped s

/-- A callback comes to its `stop()` after it has written the name. -/
def HandoverThread (_ : Nat) (s : HandoverState) (pc : AlarmPc) : Prop :=
  pc = .stop → s.currentSong = emergencySong

/-- What a step of the player can do. -/
inductive PlayerMove (s t : HandoverState) : Prop where
  | name (hpc : s.player = .readName)
      (ht : t = { s with
        player := .openFile s.currentSong
        log := s.log ++ [.nameRead s.currentSong] })
  | opened (file : String) (hpc : s.player = .openFile file)
      (ht : t = { s with player := .play file .read, log := s.log ++ [.opened file] })
  | decoded (file : String) (hpc : s.player = .play file .read)
      (ht : t = { s with player := .play file .testStop })
  | ended (file : String) (hpc : s.player = .play file .read)
      (ht : t = { s with player := .readName })
  | kicked (file : String) (hpc : s.player = .play file .testStop)
      (hflag : s.shouldKickStop = true) (ht : t = { s with player := .play file .clearStop })
  | passed (file : String) (hpc : s.player = .play file .testStop)
      (hflag : s.shouldKickStop = false) (ht : t = { s with player := .play file .output })
  | cleared (file : String) (hpc : s.player = .play file .clearStop)
      (ht : t = { s with shouldKickStop := false, player := .readName })
  | played (file : String) (hpc : s.player = .play file .output)
      (ht : t = { s with player := .play file .read, log := s.log ++ [.played file] })

theorem playerStep_cases (s : HandoverState) (readOk : Bool) :
    PlayerMove s (playerStep s readOk) := by
  unfold playerStep
  cases hpc : s.player with
  | readName => exact .name hpc rfl
  | openFile file => exact .opened file hpc rfl
  | play file pc =>
      cases pc with
      | read =>
          cases readOk with
          | true => exact .decoded file hpc rfl
          | false => exact .ended file hpc rfl
      | testStop =>
          cases hflag : s.shouldKickStop with
          | true => exact .kicked file hpc hflag (by simp [play, hflag])
          | false => exact .passed file hpc hflag (by simp [play, hflag])
      | clearStop => exact .cleared file hpc rfl
      | output => exact .played file hpc rfl

theorem Playing.move {s t : HandoverState} (h : Playing s) (hmove : PlayerMove s t) :
    Playing t := by
  have hquiet := h.quiet
  cases hmove with
  | name hpc ht =>
      subst ht
      exact ⟨by simp [hquiet], h.flag, by simp, by simp⟩
  | opened file hpc ht | played file hpc ht =>
      subst ht
      exact ⟨by simp [hquiet], h.flag, by simp, by simp⟩
  | decoded file hpc ht | ended file hpc ht | passed file hpc _ ht =>
      subst ht
      exact ⟨hquiet, h.flag, by simp, by simp⟩
  -- without a `stop()` the flag is clear
  | kicked file hpc hflag ht =>
      rw [h.flag] at hflag
      cases hflag
  | cleared file hpc ht => exact absurd hpc (h.position file)

/-- The uses of the song at hand. -/
theorem Stopped.bound {s : HandoverState} (h : Stopped s) :
    (sinceStop s.log).countP AudioAction.usesOther ≤ 1 :=
  Nat.le_of_add_right_le h.once

theorem Stopped.move {s t : HandoverState} (h : Stopped s) (hmove : PlayerMove s t) :
    Stopped t := by
  have hstop := h.stopped
  cases hmove with
  | name hpc ht =>
      subst ht
      -- the name read now is that of the announcement
      have hlog := h.handedOver.append hstop (.nameRead s.currentSong)
        (fun song heq => by cases heq; exact h.song) (fun song heq => nomatch heq)
        (by simpa [AudioAction.usesOther] using h.bound)
      refine ⟨by simp [hstop], h.song, ?_, ?_, ?_, hlog⟩
      · simp [SpeakerPlayerPc.holdsOther, h.song]
      · intro file hfile
        cases hfile
        exact Or.inl h.song
      · simpa [SpeakerPlayerPc.owes, h.song] using hlog.once
  | opened file hpc ht =>
      subst ht
      have honce := h.once
      have hlog := h.handedOver.append hstop (.opened file)
        (fun song heq => nomatch heq) (fun song heq => by cases heq; exact h.named file hpc)
        (by simpa [hpc, SpeakerPlayerPc.owes, AudioAction.usesOther] using honce)
      refine ⟨by simp [hstop], h.song, fun hother => h.kicked ?_, by simp, ?_, hlog⟩
      · rw [hpc]
        exact hother
      · simpa [SpeakerPlayerPc.owes] using hlog.once
  | decoded file hpc ht | kicked file hpc _ ht =>
      subst ht
      refine ⟨hstop, h.song, fun hother => h.kicked ?_, by simp, ?_, h.handedOver⟩
      · rw [hpc]
        exact hother
      · simpa [SpeakerPlayerPc.owes] using h.bound
  | ended file hpc ht | cleared file hpc ht =>
      subst ht
      refine ⟨hstop, h.song, by simp [SpeakerPlayerPc.holdsOther], by simp, ?_, h.handedOver⟩
      simpa [SpeakerPlayerPc.owes] using h.bound
  | passed file hpc hflag ht =>
      subst ht
      -- with another file the flag would be set
      have hfile : file = emergencySong := by
        by_contra hother
        have hset := h.kicked (by simp [hpc, SpeakerPlayerPc.holdsOther, hother])
        rw [hflag] at hset
        cases hset
      refine ⟨hstop, h.song, by simp [SpeakerPlayerPc.holdsOther, hfile], by simp, ?_,
        h.handedOver⟩
      simpa [SpeakerPlayerPc.owes, hfile] using h.bound
  | played file hpc ht =>
      subst ht
      -- the use which was owed
      have honce := h.once
      have hlog := h.handedOver.append hstop (.played file)
        (fun song heq => nomatch heq) (fun song heq => nomatch heq)
        (by simpa [hpc, SpeakerPlayerPc.owes, AudioAction.usesOther] using honce)
      refine ⟨by simp [hstop], h.song, fun hother => h.kicked ?_, by simp, ?_, hlog⟩
      · rw [hpc]
        exact hother
      · simpa [SpeakerPlayerPc.owes] using hlog.once

/-! ## The callbacks -/

/-- The name is written before the flag is set. -/
theorem Playing.stop {s : HandoverState} (h : Playing s) (hsong : s.currentSong = emergencySong) :
    Stopped { s with shouldKickStop := true, log := s.log ++ [.stopped] } where
  stopped := by simp
  song := hsong
  kicked := fun _ => rfl
  named := fun file hfile => by
    rw [beforeStop_of_first h.quiet]
    exact Or.inr (h.named file hfile)
  once := by
    rw [sinceStop_of_first h.quiet]
    have howes : s.player.owes ≤ 1 := by
      unfold SpeakerPlayerPc.owes
      split
      · split <;> omega
      · split <;> omega
      · omega
      · omega
    simpa [AudioAction.usesOther] using howes
  handedOver := handedOver_first_stop h.quiet

/-- Another `stop()`. -/
theorem Stopped.stop {s : HandoverState} (h : Stopped s) :
    Stopped { s with shouldKickStop := true, log := s.log ++ [.stopped] } where
  stopped := by simp
  song := h.song
  kicked := fun _ => rfl
  named := by
    rw [beforeStop_append h.stopped]
    exact h.named
  once := by
    rw [sinceStop_append h.stopped, List.countP_append]
    simpa [AudioAction.usesOther] using h.once
  handedOver := h.handedOver.append h.stopped .stopped (fun _ heq => nomatch heq)
    (fun _ heq => nomatch heq) (by simpa [AudioAction.usesOther] using h.bound)

theorem handoverShared_writeSong {count : Nat} {s : HandoverState} (h : HandoverShared count s) :
    HandoverShared count { s with currentSong := emergencySong } := by
  rcases h with h | h
  · exact Or.inl ⟨h.quiet, h.flag, h.position, h.named⟩
  · exact Or.inr ⟨h.stopped, rfl, h.kicked, h.named, h.once, h.handedOver⟩

/-- What a step of a callback keeps: its own part, the shared part, and the name. -/
theorem alarmStep_keeps {count self : Nat} {s t : HandoverState} {pc next : AlarmPc}
    {temperature : Int} {alertValue : String} (h : HandoverShared count s)
    (hself : HandoverThread self s pc)
    (hstep : alarmStep s pc temperature alertValue = some (t, next)) :
    HandoverShared count t ∧ HandoverThread self t next ∧
      (s.currentSong = emergencySong → t.currentSong = emergencySong) := by
  cases pc with
  | testSong =>
      cases hstep
      refine ⟨h, fun hnext => ?_, fun hsong => hsong⟩
      split at hnext <;> cases hnext
  | writeSong =>
      cases hstep
      exact ⟨handoverShared_writeSong h, fun _ => rfl, fun _ => rfl⟩
  | stop =>
      cases hstep
      have hsong : s.currentSong = emergencySong := hself rfl
      refine ⟨?_, (fun hnext => nomatch hnext), fun _ => hsong⟩
      exact Or.inr (h.elim (fun hplaying => hplaying.stop hsong) Stopped.stop)
  | setAlert =>
      cases hstep
      exact ⟨h, (fun hnext => nomatch hnext), fun hsong => hsong⟩
  | done => cases hstep

theorem playerStep_currentSong (s : HandoverState) (readOk : Bool) :
    (playerStep s readOk).currentSong = s.currentSong := by
  unfold playerStep
  split <;> rfl

/-- Every step of the speaker keeps the invariant. -/
theorem handoverInv_step {p q : Pool HandoverState AlarmPc}
    {event : PoolEvent Unit (Int × String) Bool} (h : PoolInv HandoverShared HandoverThread p)
    (hstep : handover.step p event = some q) : PoolInv HandoverShared HandoverThread q := by
  cases event with
  | start arg =>
      rcases ThreadSystem.step_start hstep with ⟨s, pc, hstart, rfl⟩
      cases hstart
      exact h.start h.shared (fun hpc => nomatch hpc) fun _ _ _ hother => hother
  | advance index input =>
      rcases ThreadSystem.step_advance hstep with ⟨pc, s, next, hpc, hadvance, rfl⟩
      obtain ⟨hshared, hnext, hsong⟩ :=
        alarmStep_keeps h.shared (h.threads index pc hpc) hadvance
      exact h.advance hshared hnext fun _ _ _ _ hother hstop => hsong (hother hstop)
  | environment readOk =>
      rcases ThreadSystem.step_environment hstep with ⟨s, henv, rfl⟩
      cases henv
      have hmove := playerStep_cases p.shared readOk
      refine h.environment ?_ fun _ _ _ hother hstop => ?_
      · exact h.shared.imp (fun hplaying => hplaying.move hmove) fun hstopped =>
          hstopped.move hmove
      · rw [playerStep_currentSong]
        exact hother hstop

theorem playing_initial : Playing .initial :=
  ⟨by simp [HandoverState.initial], rfl, by simp [HandoverState.initial],
    by simp [HandoverState.initial]⟩

/-- **The hand-over.**  Whatever the callbacks and the player do in turn, after the first
`stop()` the player reads only the name of the announcement, and uses another file at most
once more. -/
theorem handedOver_of_reaches {p : Pool HandoverState AlarmPc}
    (h : Reaches handover.step ⟨.initial, []⟩ p) : HandedOver p.shared.log := by
  have hpres : ∀ u event v, PoolInv HandoverShared HandoverThread u →
      handover.step u event = some v → PoolInv HandoverShared HandoverThread v :=
    fun _ _ _ hu hstep => handoverInv_step hu hstep
  have hinv := h.invariant hpres (PoolInv.of_empty (Or.inl playing_initial))
  rcases hinv.shared with hplaying | hstopped
  · exact handedOver_of_not_stopped hplaying.quiet
  · exact hstopped.handedOver

/-! ## One callback -/

/-- The player has read the name of the song when a callback finds it too warm. -/
def lateOpening : List (PoolEvent Unit (Int × String) Bool) :=
  [.environment true, .start (), .advance 0 (30000, "0"), .advance 0 (30000, "0"),
    .advance 0 (30000, "0"), .environment true]

/-- The file is opened after the stop. -/
def lateState : Pool HandoverState AlarmPc where
  shared := {
    currentSong := emergencySong
    shouldKickStop := true
    player := .play normalSong .read
    log := [.nameRead normalSong, .stopped, .opened normalSong] }
  threads := [.setAlert]

theorem lateState_reached : Reaches handover.step ⟨.initial, []⟩ lateState :=
  ⟨lateOpening, by decide⟩

theorem handedOver_of_reaches_late : HandedOver lateState.shared.log :=
  handedOver_of_reaches lateState_reached

theorem not_handedOverAtOnce :
    ¬∀ p, Reaches handover.step ⟨.initial, []⟩ p → HandedOverAtOnce p.shared.log := by
  intro h
  have hopened := (h lateState lateState_reached).opened normalSong (by decide)
  exact absurd hopened (by decide)

end Audio
end FireEvacuation
