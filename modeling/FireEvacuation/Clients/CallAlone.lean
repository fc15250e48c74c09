import FireEvacuation.Clients.RedisConnection
import FireEvacuation.Core.StepByStep

/-!
# One call of a client alone

A call of `getPostValue` is given as a whole where calls come one after the other, and step by
step where they take turns.  Here one thread runs alone, with the same answers from outside,
and does what the whole call does.

A thread stops in three ways.  It has thrown, it waits for a lock which nobody gives back, or
there is nothing a further step could mean: the text of a reply without one, and a command
without a live context.
-/

namespace FireEvacuation
namespace Clients

open FireEvacuation.Core FireEvacuation.Core.Effect Platform Speaker
open Redis hiding redisCommand

/-! ## A thread alone -/

/-- A client with its only thread, and what the outside keeps. -/
structure Alone (σ τ κ : Type) where
  client : Watched σ
  thread : τ
  kept : κ

/-- What the outside does for one call: its answer to a step, and what it keeps after it. -/
structure Answers (τ κ : Type) where
  answer : κ → τ → Answer
  after : κ → τ → κ

/-- What a client does, and which of its steps need a live context or the lock. -/
structure ClientCode (σ τ : Type) where
  advance : Nat → Watched σ → τ → Answer → Option (Watched σ × τ)
  context : σ → Context
  sends : τ → Bool
  waits : τ → Bool
  thrown : τ
  crashed : τ
  locks : ∀ s thread answer, waits thread = true → s.holder ≠ none →
    advance 0 s thread answer = none
  ends : ∀ s answer, advance 0 s thrown answer = none ∧ advance 0 s crashed answer = none

namespace ClientCode

variable {σ τ κ ρ : Type}

/-- One step of the thread. -/
def aloneStep (code : ClientCode σ τ) (answers : Answers τ κ) (n : Alone σ τ κ) (_ : Unit) :
    Option (Alone σ τ κ) :=
  if code.sends n.thread = true ∧ code.context n.client.vars ≠ .live then none
  else
    (code.advance 0 n.client n.thread (answers.answer n.kept n.thread)).map fun next =>
      ⟨next.1, next.2, answers.after n.kept n.thread⟩

/-- Where the thread is when the call has stopped with a fault. -/
def AloneFaulted (code : ClientCode σ τ) : Fault CppException → Alone σ τ κ → Prop
  | .exception _, n => n.thread = code.thrown
  | .undefined, n => n.thread = code.crashed ∨
      code.sends n.thread = true ∧ code.context n.client.vars ≠ .live
  | .blocked, n => code.waits n.thread = true ∧ n.client.holder ≠ none

/-- The thread as a machine for calls over `ρ`. -/
def alone (code : ClientCode σ τ) (answers : Answers τ κ) (Shows : Alone σ τ κ → ρ → Prop) :
    Machine (Alone σ τ κ) ρ CppException where
  step := code.aloneStep answers
  Shows := Shows
  Faulted := code.AloneFaulted
  stops := by
    intro e n h
    rw [aloneStep]
    split
    · rfl
    · rename_i hlive
      cases e with
      | exception e =>
          rw [show n.thread = code.thrown from h, (code.ends _ _).1]
          rfl
      | undefined =>
          rcases h with hcrashed | hsends
          · rw [hcrashed, (code.ends _ _).2]
            rfl
          · exact absurd hsends hlive
      | blocked =>
          rw [code.locks _ _ _ h.1 h.2]
          rfl

/-- A step which is not a command, or has a context. -/
theorem aloneStep_eq {code : ClientCode σ τ} {answers : Answers τ κ} {n : Alone σ τ κ}
    (h : code.sends n.thread = true → code.context n.client.vars = .live) :
    code.aloneStep answers n () =
      (code.advance 0 n.client n.thread (answers.answer n.kept n.thread)).map fun next =>
        ⟨next.1, next.2, answers.after n.kept n.thread⟩ :=
  if_neg fun hnot => hnot.2 (h hnot.1)

end ClientCode

/-- The thread stands here. -/
def At {σ τ κ : Type} (thread : τ) (n : Alone σ τ κ) : Prop := n.thread = thread

/-- A thread that sends no command needs no live context. -/
theorem sendsNothing {sends : Bool} {live : Prop} (h : sends = false) : sends = true → live :=
  fun hsends => absurd (h.symm.trans hsends) Bool.false_ne_true

/-! ## The speaker -/

def SpeakerThread.sends : SpeakerThread → Bool
  | .getAlert _ | .setAlert => true
  | _ => false

def SpeakerThread.waits : SpeakerThread → Bool
  | .lock | .lockValue => true
  | _ => false

/-- The steps of the speaker. -/
def speakerCode : ClientCode SpeakerVars SpeakerThread where
  advance := speakerAdvance
  context := SpeakerVars.context
  sends := SpeakerThread.sends
  waits := SpeakerThread.waits
  thrown := .thrown
  crashed := .crashed
  locks := by
    intro s thread answer hwaits hheld
    have hlock : s.lock 0 = none := if_neg hheld
    cases thread with
    | lock | lockValue =>
        rw [speakerAdvance, hlock]
        rfl
    | testLatch host | testContext host | connect host | readTemper | getAlert temperature
    | readText temperature reply | unlock temperature alertValue
    | testSong temperature alertValue | writeSong | setAlert | writeLatch ret | readValue
    | unlockValue value | readLatch value | done post | thrown | crashed => cases hwaits
  ends := fun s answer => ⟨rfl, rfl⟩

/-- What the outside does for a call of `getPostValue`.  It keeps the key. -/
def speakerAnswers (call : SpeakerCall) : Answers SpeakerThread (Option String) where
  answer alert
    | .readTemper => ⟨.null, call.temperature, none⟩
    | .readValue => ⟨.null, call.sensorValue, none⟩
    | .getAlert _ => ⟨.null, .ok 0, call.getReply alert⟩
    | .setAlert => ⟨.null, .ok 0, call.setLink.answer (.status "OK")⟩
    | _ => ⟨(hostAddress call.host).elim .null call.connect, .ok 0, none⟩
  after alert
    | .setAlert => call.alertAfterSet alert
    | _ => alert

/-- The process the thread runs in. -/
def aloneProcess (n : Alone SpeakerVars SpeakerThread (Option String)) : SpeakerProcess :=
  ⟨n.client.vars.context, n.client.holder.isSome, n.client.vars.currentSong,
    n.client.vars.deviceAlertState, n.kept⟩

/-- The thread of a call of `getPostValue`. -/
def speakerAlone (call : SpeakerCall) :
    Machine (Alone SpeakerVars SpeakerThread (Option String)) SpeakerProcess CppException :=
  speakerCode.alone (speakerAnswers call) fun n s => aloneProcess n = s

section SpeakerAlone

variable {call : SpeakerCall}

/-- A step of the thread. -/
theorem speakerAlone_step {client next : Watched SpeakerVars} {thread thread' : SpeakerThread}
    {alert : Option String} (hsends : thread.sends = true → client.vars.context = .live)
    (h : speakerAdvance 0 client thread ((speakerAnswers call).answer alert thread) =
      some (next, thread')) :
    (speakerAlone call).step ⟨client, thread, alert⟩ () =
      some ⟨next, thread', (speakerAnswers call).after alert thread⟩ := by
  show speakerCode.aloneStep (speakerAnswers call) _ () = _
  rw [ClientCode.aloneStep_eq hsends]
  show (speakerAdvance 0 client thread _).map _ = _
  rw [h]
  rfl

/-- A lock. -/
theorem carriesOut_lockTemper {thread next : SpeakerThread} (hwaits : thread.waits = true)
    (hsends : thread.sends = false)
    (hafter : ∀ alert, (speakerAnswers call).after alert thread = alert)
    (hadvance : ∀ s answer, speakerAdvance 0 s thread answer =
      (s.lock 0).map fun t => (t, next)) :
    (speakerAlone call).CarriesOut (At thread) lockTemper fun _ => At next := by
  refine .single_or_here fun n s hn hs => ?_
  obtain ⟨client, start, alert⟩ := n
  cases hn
  cases hs
  by_cases hfree : client.holder = none
  · have hnext : ∀ answer, speakerAdvance 0 client start answer =
        some ({ client with holder := some 0 }, next) := by
      intro answer
      rw [hadvance, Watched.lock, if_pos hfree]
      rfl
    have hunlocked : (aloneProcess ⟨client, start, alert⟩).temperLocked = false := by
      rw [aloneProcess, hfree]
      rfl
    right
    refine ⟨_, speakerAlone_step (sendsNothing hsends) (hnext _), ?_⟩
    rw [lockTemper_of_free hunlocked, hafter]
    exact ⟨rfl, rfl⟩
  · have hheld : (aloneProcess ⟨client, start, alert⟩).temperLocked = true :=
      Option.isSome_iff_ne_none.mpr hfree
    left
    rw [lockTemper_of_held hheld]
    exact ⟨⟨hwaits, hfree⟩, rfl⟩

/-- An unlock. -/
theorem carriesOut_unlockTemper {thread next : SpeakerThread} (hsends : thread.sends = false)
    (hafter : ∀ alert, (speakerAnswers call).after alert thread = alert)
    (hadvance : ∀ s answer, speakerAdvance 0 s thread answer = some (s.unlock, next)) :
    (speakerAlone call).CarriesOut (At thread) unlockTemper fun _ => At next := by
  refine .single fun n s hn hs => ?_
  obtain ⟨client, start, alert⟩ := n
  cases hn
  cases hs
  refine ⟨_, speakerAlone_step (sendsNothing hsends) (hadvance _ _), ?_⟩
  rw [hafter]
  exact ⟨rfl, rfl⟩

/-- A reading of the probe. -/
theorem carriesOut_getValue {thread : SpeakerThread} {next : Int → SpeakerThread}
    {reading : Except String Int} (hsends : thread.sends = false)
    (hafter : ∀ alert, (speakerAnswers call).after alert thread = alert)
    (hadvance : ∀ s alert, speakerAdvance 0 s thread ((speakerAnswers call).answer alert thread) =
      match reading with
      | .ok value => some (s, next value)
      | .error _ => some (s, .thrown)) :
    (speakerAlone call).CarriesOut (At thread) (getValue reading) fun value => At (next value) := by
  refine .single fun n s hn hs => ?_
  obtain ⟨client, start, alert⟩ := n
  cases hn
  cases hs
  have hnext := hadvance client alert
  cases reading with
  | ok value =>
      refine ⟨_, speakerAlone_step (sendsNothing hsends) hnext, ?_⟩
      rw [hafter]
      exact ⟨rfl, rfl⟩
  | error what =>
      refine ⟨_, speakerAlone_step (sendsNothing hsends) hnext, ?_⟩
      rw [hafter]
      exact ⟨rfl, rfl⟩

/-- The probe is read for the post. -/
theorem carriesOut_getDeviceValue :
    (speakerAlone call).CarriesOut (At .lockValue) (getDeviceValue call)
      fun value => At (.readLatch value) := by
  refine (carriesOut_lockTemper rfl rfl (fun _ => rfl) fun _ _ => rfl).bind fun _ => ?_
  refine (carriesOut_getValue rfl (fun _ => rfl) fun _ _ => rfl).bind fun value => ?_
  exact (carriesOut_unlockTemper rfl (fun _ => rfl) fun _ _ => rfl).bind fun _ =>
    .ret fun n hn => hn

/-- A command is sent over a live context only. -/
theorem carriesOut_getAlert (temperature : Int) :
    (speakerAlone call).CarriesOut (At (.getAlert temperature)) (getAlert call)
      fun answer => At (answer.elim .thrown (.readText temperature)) := by
  refine .single_or_here fun n s hn hs => ?_
  obtain ⟨client, start, alert⟩ := n
  cases hn
  cases hs
  by_cases hlive : client.vars.context = .live
  · right
    have hget : getAlert call (aloneProcess ⟨client, .getAlert temperature, alert⟩) =
        .ok (call.getReply alert) (aloneProcess ⟨client, .getAlert temperature, alert⟩) := by
      rw [getAlert, bind_of_ok (requireContext_of_live hlive)]
      rfl
    have hnext : speakerAdvance 0 client (.getAlert temperature)
        ⟨.null, .ok 0, call.getReply alert⟩ =
          some (client.send 0, (call.getReply alert).elim .thrown (.readText temperature)) := by
      rw [speakerAdvance]
      cases call.getReply alert <;> rfl
    rw [hget]
    exact ⟨_, speakerAlone_step (fun _ => hlive) hnext, rfl, rfl⟩
  · left
    rw [getAlert, bind_of_error (requireContext_of_not_live hlive)]
    exact ⟨Or.inr ⟨rfl, hlive⟩, rfl⟩

theorem carriesOut_setAlert :
    (speakerAlone call).CarriesOut (At .setAlert) (setAlert call)
      fun answer => At (answer.elim .thrown fun _ => .writeLatch true) := by
  refine .single_or_here fun n s hn hs => ?_
  obtain ⟨client, start, alert⟩ := n
  cases hn
  cases hs
  by_cases hlive : client.vars.context = .live
  · right
    have hset : setAlert call (aloneProcess ⟨client, .setAlert, alert⟩) =
        .ok (call.setLink.answer (.status "OK"))
          (aloneProcess ⟨client.send 0, .setAlert, call.alertAfterSet alert⟩) := by
      rw [setAlert, bind_of_ok (requireContext_of_live hlive)]
      rfl
    have hnext : speakerAdvance 0 client .setAlert
        ⟨.null, .ok 0, call.setLink.answer (.status "OK")⟩ =
          some (client.send 0,
            (call.setLink.answer (.status "OK")).elim .thrown fun _ => .writeLatch true) := by
      rw [speakerAdvance]
      cases call.setLink.answer (.status "OK") <;> rfl
    rw [hset]
    exact ⟨_, speakerAlone_step (fun _ => hlive) hnext, rfl, rfl⟩
  · left
    rw [setAlert, bind_of_error (requireContext_of_not_live hlive)]
    exact ⟨Or.inr ⟨rfl, hlive⟩, rfl⟩

theorem carriesOut_alertText (temperature : Int) (reply : Reply) :
    (speakerAlone call).CarriesOut (At (.readText temperature reply)) (alertText reply)
      fun alertValue => At (.unlock temperature alertValue) := by
  refine .single fun n s hn hs => ?_
  obtain ⟨client, start, alert⟩ := n
  cases hn
  cases hs
  cases htext : reply.str with
  | some alertValue =>
      have hnext : ∀ answer, speakerAdvance 0 client (.readText temperature reply) answer =
          some (client.readText reply, .unlock temperature alertValue) := by
        intro answer
        rw [speakerAdvance, htext]
      rw [alertText, htext]
      exact ⟨_, speakerAlone_step (sendsNothing rfl) (hnext _), rfl, rfl⟩
  | none =>
      have hnext : ∀ answer, speakerAdvance 0 client (.readText temperature reply) answer =
          some (client.readText reply, .crashed) := by
        intro answer
        rw [speakerAdvance, htext]
      rw [alertText, htext]
      exact ⟨_, speakerAlone_step (sendsNothing rfl) (hnext _), Or.inl rfl, rfl⟩

theorem carriesOut_raiseAlarm :
    (speakerAlone call).CarriesOut (At .writeSong) (raiseAlarm call)
      fun ret => At (.writeLatch ret) := by
  have hsong : (speakerAlone call).CarriesOut (At .writeSong)
      (modify fun s => { s with currentSong := emergencySong }) fun _ => At .setAlert := by
    refine .single fun n s hn hs => ?_
    obtain ⟨client, start, alert⟩ := n
    cases hn
    cases hs
    exact ⟨_, speakerAlone_step (sendsNothing rfl) rfl, rfl, rfl⟩
  refine hsong.bind fun _ => carriesOut_setAlert.bind fun answer => ?_
  cases answer with
  | none => exact .here fun n s hn hs => ⟨hn, hs⟩
  | some reply => exact .ret fun n hn => hn

theorem carriesOut_checkAlert :
    (speakerAlone call).CarriesOut (At .lock) (checkAlert call)
      fun ret => At (.writeLatch ret) := by
  refine (carriesOut_lockTemper rfl rfl (fun _ => rfl) fun _ _ => rfl).bind fun _ => ?_
  refine (carriesOut_getValue rfl (fun _ => rfl) fun _ _ => rfl).bind fun temperature => ?_
  refine (carriesOut_getAlert temperature).bind fun answer => ?_
  cases answer with
  | none => exact .here fun n s hn hs => ⟨hn, hs⟩
  | some reply =>
      refine (carriesOut_alertText temperature reply).bind fun alertValue => ?_
      refine (carriesOut_unlockTemper rfl (fun _ => rfl) fun _ _ => rfl).bind fun _ => ?_
      refine .get_ite (fun n s hn hs => ?_) carriesOut_raiseAlarm (.ret fun n hn => hn)
      obtain ⟨client, start, alert⟩ := n
      cases hn
      cases hs
      exact ⟨_, speakerAlone_step (sendsNothing rfl) rfl, rfl, fun hswitches => if_pos hswitches,
        fun hswitches => if_neg hswitches⟩

/-- The branches on the context and on what becomes of the connection. -/
theorem carriesOut_getAlertStatus :
    (speakerAlone call).CarriesOut (At (.testContext call.host)) (Speaker.getAlertStatus call)
      fun ret => At (.writeLatch ret) := by
  have htest : ∀ n s, At (.testContext call.host) n → aloneProcess n = s →
      ∃ t, (speakerAlone call).step n () = some t ∧ aloneProcess t = s ∧
        (s.context = .null → At (.connect call.host) t ∧ t.client.vars.context = .null) ∧
        (¬s.context = .null → At .lock t) := by
    rintro ⟨client, start, alert⟩ s hat rfl
    cases hat
    exact ⟨_, speakerAlone_step (sendsNothing rfl) rfl, rfl, fun hnull => ⟨if_pos hnull, hnull⟩,
      fun hset => if_neg hset⟩
  refine .get_ite htest ?_ carriesOut_checkAlert
  cases hhost : hostAddress call.host with
  | none =>
      refine .single fun n t hn ht => ?_
      obtain ⟨client, start, alert⟩ := n
      cases hn.1
      have hnext : ∀ answer, speakerAdvance 0 client (.connect call.host) answer =
          some (client, .writeLatch false) := by
        intro answer
        rw [speakerAdvance, hhost]
      exact ⟨_, speakerAlone_step (sendsNothing rfl) (hnext _), rfl, ht⟩
  | some hostname =>
      have hnext : ∀ n, At (.connect call.host) n ∧ n.client.vars.context = .null →
          (speakerAlone call).step n () = some ⟨n.client.setVars { n.client.vars with
              context := connectedContext (call.connect hostname) },
            if call.connect hostname = .null then .lock else .writeLatch false,
            n.kept⟩ := by
        rintro ⟨client, start, alert⟩ ⟨hat, -⟩
        cases hat
        refine speakerAlone_step (sendsNothing rfl) ?_
        show speakerAdvance 0 client (.connect call.host)
          ⟨(hostAddress call.host).elim .null call.connect, _, _⟩ = _
        rw [speakerAdvance, hhost]
        rfl
      dsimp only
      cases hresult : call.connect hostname with
      | null =>
          rw [hresult] at hnext
          refine carriesOut_checkAlert.silent fun n t hn ht => ⟨_, hnext n hn, rfl, ?_⟩
          -- the context was null before, too
          obtain ⟨⟨holder, commands, texts, ⟨context, song, latch⟩⟩, start, alert⟩ := n
          cases hn.2
          exact ht
      | err | connected =>
          rw [hresult] at hnext
          refine .single fun n t hn ht => ⟨_, hnext n hn, rfl, ?_⟩
          cases ht
          rfl

theorem carriesOut_updateAlertState :
    (speakerAlone call).CarriesOut (At (.testLatch call.host)) (updateAlertState call)
      fun _ => At .lockValue := by
  have hwrite : ∀ ret, (speakerAlone call).CarriesOut (At (.writeLatch ret))
      (modify fun s => { s with deviceAlertState := ret }) fun _ => At .lockValue := by
    intro ret
    refine .single fun n t hn ht => ?_
    obtain ⟨client, start, alert⟩ := n
    cases hn
    cases ht
    exact ⟨_, speakerAlone_step (sendsNothing rfl) rfl, rfl, rfl⟩
  refine .get_ite (fun n s hn hs => ?_) (.ret fun n hn => hn)
    (carriesOut_getAlertStatus.bind hwrite)
  obtain ⟨client, start, alert⟩ := n
  cases hn
  cases hs
  exact ⟨_, speakerAlone_step (sendsNothing rfl) rfl, rfl, fun hlatch => if_pos hlatch,
    fun hlatch => if_neg hlatch⟩

/-- **The speaker.**  The thread of a call does, step by step, what the call does. -/
theorem carriesOut_getPostValue :
    (speakerAlone call).CarriesOut (At (.testLatch call.host)) (Speaker.getPostValue call)
      fun post => At (.done post) := by
  refine carriesOut_updateAlertState.bind fun _ => ?_
  refine carriesOut_getDeviceValue.bind fun value => .get_bind fun s => ?_
  refine .single fun n t hn ht => ?_
  obtain ⟨client, start, alert⟩ := n
  obtain ⟨hat, rfl⟩ := hn
  cases hat
  exact ⟨_, speakerAlone_step (sendsNothing rfl) rfl, rfl, ht⟩

end SpeakerAlone

/-- Wherever the thread stops, it has returned the post of the call, or has stopped with the
same fault, in the state the call leaves. -/
theorem speakerAlone_ends (call : SpeakerCall)
    {n t : Alone SpeakerVars SpeakerThread (Option String)}
    (hn : n.thread = .testLatch call.host) (hreach : Reaches (speakerAlone call).step n t)
    (hstop : (speakerAlone call).step t () = none) :
    (speakerAlone call).Ends (fun post => At (.done post))
      (Speaker.getPostValue call (aloneProcess n)) t := by
  refine carriesOut_getPostValue.ends_of_stop (fun post u hu => ?_) hn rfl hreach hstop
  obtain ⟨client, start, alert⟩ := u
  cases hu
  rfl

end Clients
end FireEvacuation
