import FireEvacuation.Core.Transition
import FireEvacuation.Redis.Store
import FireEvacuation.Speaker.Client

/-!
# Raising the alarm while Redis fails

`getPostValue` is called once for each notification.  Until the static
`device_alert_state` is set it asks `getAlertStatus`, which connects to Redis, reads the
probe and the key `alert`, changes the song and sets the key.  Here the calls come one
after the other; how the connection and the two commands end and what the probe reads comes with
the call, and so does the host of the resource, which is where the address of Redis is
looked for.  The key itself is part of the state: `GET` is answered with it, and between
two calls others may set it to anything or delete it.

A call ends by returning or by an exception, which `onObserve` catches.  A call may also
wait for ever, since the exceptions leave `_temper_lock` locked, or use a context which is
null or freed.
-/

namespace FireEvacuation
namespace Speaker

open FireEvacuation.Core FireEvacuation.Core.Effect Platform Redis

/-- `m_context`.  A connection which failed is freed, but the pointer is kept. -/
inductive Context where
  | null
  | live
  | freed
  deriving DecidableEq, Repr

/-- What `redisConnectWithTimeout` returns: a null pointer, a context with `err` set, or a
connection. -/
inductive Connection where
  | null
  | err
  | connected
  deriving DecidableEq, Repr

/-- The variables of the process, and the key `alert` in Redis. -/
structure SpeakerProcess where
  context : Context
  temperLocked : Bool
  currentSong : String
  deviceAlertState : Bool
  alert : Option String
  deriving DecidableEq, Repr

/-- The process starts with any value of the key, or none. -/
def SpeakerProcess.initial (alert : Option String) : SpeakerProcess :=
  ⟨.null, false, normalSong, false, alert⟩

/-- What one call of `getPostValue` meets.  A reading of the probe is a temperature or the
text of the exception. -/
structure SpeakerCall where
  host : String
  connect : String → Connection
  temperature : Except String Int
  getLink : Link
  setLink : Link
  sensorValue : Except String Int

/-- The reply to `GET` of a key. -/
def keyReply : Option String → Reply
  | none => .nil
  | some value => .string value

/-- What `redisCommand` returns for the `GET alert` of a call. -/
def SpeakerCall.getReply (call : SpeakerCall) (alert : Option String) : Option Reply :=
  call.getLink.answer (keyReply alert)

/-! ## The functions of the source -/

/-- `_temper_lock.lock()`. -/
def lockTemper : Cpp SpeakerProcess Unit := fun s =>
  if s.temperLocked then waitForever s else .ok () { s with temperLocked := true }

/-- `_temper_lock.unlock()`. -/
def unlockTemper : Cpp SpeakerProcess Unit :=
  modify fun s => { s with temperLocked := false }

/-- `temper->GetValue()`. -/
def getValue : Except String Int → Cpp SpeakerProcess Int
  | .ok temperature => pure temperature
  | .error what => throwException (.runtimeError what)

/-- `redisCommand` needs a context. -/
def requireContext : Cpp SpeakerProcess Unit := fun s =>
  if s.context = .live then .ok () s else undefinedBehaviour s

/-- `GET alert`. -/
def getAlert (call : SpeakerCall) : Cpp SpeakerProcess (Option Reply) := do
  requireContext
  let s ← get
  pure (call.getReply s.alert)

/-- The key after the `SET alert 1` of a call. -/
def SpeakerCall.alertAfterSet (call : SpeakerCall) (alert : Option String) : Option String :=
  if call.setLink.executes then some "1" else alert

/-- `SET alert 1`. -/
def setAlert (call : SpeakerCall) : Cpp SpeakerProcess (Option Reply) := do
  requireContext
  modify fun s => { s with alert := call.alertAfterSet s.alert }
  pure (call.setLink.answer (.status "OK"))

/-- The exception for a null reply. -/
def noAlertReply : CppException := .runtimeError "cannot retrieve the value"

/-- `alert_value = reply->str`, which is undefined for a null pointer. -/
def alertText (reply : Reply) : Cpp SpeakerProcess String :=
  match reply.str with
  | none => undefinedBehaviour
  | some text => pure text

/-- `getAlertStatus` from the change of the song on. -/
def raiseAlarm (call : SpeakerCall) : Cpp SpeakerProcess Bool := do
  modify fun s => { s with currentSong := emergencySong }
  match ← setAlert call with
  | none => throwException noAlertReply
  | some _ => pure true

/-- `getAlertStatus` from the lock on. -/
def checkAlert (call : SpeakerCall) : Cpp SpeakerProcess Bool := do
  lockTemper
  let temperature ← getValue call.temperature
  match ← getAlert call with
  -- the exception leaves the lock held
  | none => throwException noAlertReply
  | some reply =>
      let alertValue ← alertText reply
      unlockTemper
      let s ← get
      if switchesSong s.currentSong temperature alertValue then raiseAlarm call
      else pure false

/-- `getAlertStatus`.  The call which connects returns false right after it. -/
def getAlertStatus (call : SpeakerCall) : Cpp SpeakerProcess Bool := do
  let s ← get
  if s.context = .null then
    match hostAddress call.host with
    | none => pure false
    | some hostname =>
        match call.connect hostname with
        | .null => checkAlert call
        | .err => do
            modify fun s => { s with context := .freed }
            pure false
        | .connected => do
            modify fun s => { s with context := .live }
            pure false
  else checkAlert call

/-- `getDeviceValue`. -/
def getDeviceValue (call : SpeakerCall) : Cpp SpeakerProcess Int := do
  lockTemper
  let value ← getValue call.sensorValue
  unlockTemper
  pure value

/-- The test and the assignment of `device_alert_state`. -/
def updateAlertState (call : SpeakerCall) : Cpp SpeakerProcess Unit := do
  let s ← get
  if s.deviceAlertState then pure ()
  else do
    let ret ← getAlertStatus call
    modify fun s => { s with deviceAlertState := ret }

/-- `getPostValue`. -/
def getPostValue (call : SpeakerCall) : Cpp SpeakerProcess SpeakerPost := do
  updateAlertState call
  let value ← getDeviceValue call
  let s ← get
  pure ⟨value, s.deviceAlertState⟩

/-- The state a call leaves when it returns or is left by an exception. -/
def ended {α : Type} : EStateM.Result (Fault CppException) SpeakerProcess α →
    Option SpeakerProcess
  | .ok _ s => some s
  | .error (.exception _) s => some s
  | .error .undefined _ => none
  | .error .blocked _ => none

/-- One callback. -/
def callbackStep (s : SpeakerProcess) (call : SpeakerCall) : Option SpeakerProcess :=
  ended (getPostValue call s)

/-- A callback, or a write of others to the key. -/
inductive ProcessEvent where
  | call (call : SpeakerCall)
  | others (alert : Option String)

/-- One event. -/
def processStep (s : SpeakerProcess) : ProcessEvent → Option SpeakerProcess
  | .call call => callbackStep s call
  | .others alert => some { s with alert := alert }

/-! ## What raising the alarm should mean -/

/-- The probe reads above `TEMPER_WARNING`. -/
def SpeakerCall.Warm (call : SpeakerCall) : Prop :=
  ∃ temperature, call.temperature = .ok temperature ∧ temperWarning < temperature

/-- The commands of a call succeed. -/
structure SpeakerCall.RedisSucceeds (call : SpeakerCall) : Prop where
  connected : ∀ hostname, hostAddress call.host = some hostname →
    call.connect hostname = .connected
  get : call.getLink = .up
  set : call.setLink = .up

/-- The three effects. -/
structure Raised (s : SpeakerProcess) : Prop where
  song : s.currentSong = emergencySong
  stored : s.alert = some "1"
  latched : s.deviceAlertState = true

/-- Every later device reports an alert. -/
def AlertFromNowOn (s : SpeakerProcess) : Prop :=
  ∀ t, Reaches processStep s t → ∀ call post u, getPostValue call t = .ok post u →
    post.alertState = true

/-- A warm call is fail-safe: when it ends the song is the emergency announcement, and when
Redis did not fail it does end and all three effects are there. -/
structure FailSafe (s : SpeakerProcess) (call : SpeakerCall) : Prop where
  defined : call.Warm → ∀ t, getPostValue call s ≠ .error .undefined t
  switched : call.Warm → ∀ t, callbackStep s call = some t → t.currentSong = emergencySong
  complete : call.Warm → call.RedisSucceeds → ∃ t, callbackStep s call = some t ∧ Raised t

/-- Every call should be fail-safe. -/
def EventFailSafe (s : SpeakerProcess) : ProcessEvent → Prop
  | .call call => FailSafe s call
  | .others _ => True

/-- The condition for the song. -/
def SwitchCondition (s : SpeakerProcess) (call : SpeakerCall) : Prop :=
  s.temperLocked = true ∨ s.deviceAlertState = true ∨
    s.context = .live ∧
      match call.getReply s.alert with
      | none => s.currentSong = emergencySong
      | some reply => reply.str ≠ none

/-- The condition for all three effects. -/
def CompleteCondition (s : SpeakerProcess) : Prop :=
  s.temperLocked = false ∧
    if s.deviceAlertState then s.alert = some "1"
    else s.currentSong ≠ emergencySong

/-- The condition on a call. -/
def FailSafeCondition (s : SpeakerProcess) (call : SpeakerCall) : Prop :=
  call.Warm → SwitchCondition s call ∧ (call.RedisSucceeds → CompleteCondition s)

/-- The condition on an event. -/
def EventCondition (s : SpeakerProcess) : ProcessEvent → Prop
  | .call call => FailSafeCondition s call
  | .others _ => True

/-! ## The lock and the probe -/

section LockAndProbe

variable {P : SpeakerProcess → Prop}
  (hlock : ∀ s locked, P s → P { s with temperLocked := locked })

include hlock in
theorem triple_lockTemper : Triple P lockTemper (fun _ => P) P := by
  intro s hs
  rw [lockTemper]
  split
  · refine ⟨fun _ _ hok => (nomatch hok), fun _ _ herror => ?_⟩
    cases herror
    exact hs
  · refine ⟨fun _ _ hok => ?_, fun _ _ herror => nomatch herror⟩
    cases hok
    exact hlock s true hs

include hlock in
theorem triple_unlockTemper : Triple P unlockTemper (fun _ => P) P :=
  Triple.modify fun s hs => hlock s false hs

theorem triple_getValue (reading : Except String Int) :
    Triple P (getValue reading) (fun _ => P) P := by
  cases reading with
  | ok temperature => exact Triple.ret fun _ hs => hs
  | error what => exact Triple.throwException fun _ hs => hs

include hlock in
/-- `getDeviceValue` touches the lock only. -/
theorem triple_getDeviceValue (call : SpeakerCall) :
    Triple P (getDeviceValue call) (fun _ => P) P :=
  (triple_lockTemper hlock).bind fun _ => (triple_getValue _).bind fun _ =>
    (triple_unlockTemper hlock).bind fun _ => Triple.ret fun _ hs => hs

end LockAndProbe

/-! ## What holds in every run -/

section Invariant

/-- The latch is set after the song was changed only, and the song is changed over a
connection only. -/
structure ProcessInv (s : SpeakerProcess) : Prop where
  latched : s.deviceAlertState = true → s.currentSong = emergencySong
  connected : s.currentSong = emergencySong → s.context = .live

theorem ProcessInv.lock (s : SpeakerProcess) (locked : Bool) (h : ProcessInv s) :
    ProcessInv { s with temperLocked := locked } :=
  ⟨h.latched, h.connected⟩

/-- A call which stops leaves the invariant, and one which returns its postcondition. -/
abbrev KeepsInv {α : Type} (pre : SpeakerProcess → Prop) (x : Cpp SpeakerProcess α)
    (post : α → SpeakerProcess → Prop) : Prop :=
  Triple pre x post ProcessInv

/-- Whoever gets past it has a connection. -/
theorem keepsInv_requireContext {pre : SpeakerProcess → Prop} (h : ∀ s, pre s → ProcessInv s) :
    KeepsInv pre requireContext (fun _ t => pre t ∧ t.context = .live) := by
  intro s hs
  rw [requireContext]
  split
  · rename_i hlive
    refine ⟨fun _ _ hok => ?_, fun _ _ herror => nomatch herror⟩
    cases hok
    exact ⟨hs, hlive⟩
  · refine ⟨fun _ _ hok => (nomatch hok), fun _ _ herror => ?_⟩
    cases herror
    exact h _ hs

theorem keepsInv_getAlert (call : SpeakerCall) :
    KeepsInv ProcessInv (getAlert call) (fun _ t => ProcessInv t ∧ t.context = .live) :=
  (keepsInv_requireContext fun _ hs => hs).bind fun _ => Triple.get_bind fun _ =>
    Triple.ret fun _ hs => hs.2

theorem keepsInv_alertText {pre : SpeakerProcess → Prop} (h : ∀ s, pre s → ProcessInv s)
    (reply : Reply) : KeepsInv pre (alertText reply) (fun _ => pre) := by
  rw [alertText]
  cases reply.str with
  | none => exact Triple.undefinedBehaviour h
  | some text => exact Triple.ret fun _ hs => hs

/-- The song is changed over a connection. -/
theorem keepsInv_raiseAlarm (call : SpeakerCall) :
    KeepsInv (fun s => ProcessInv s ∧ s.context = .live) (raiseAlarm call)
      (fun _ t => ProcessInv t ∧ t.currentSong = emergencySong) := by
  have hset : KeepsInv (fun s => ProcessInv s ∧ s.currentSong = emergencySong) (setAlert call)
      (fun _ t => ProcessInv t ∧ t.currentSong = emergencySong) := by
    refine (keepsInv_requireContext fun _ hs => hs.1).bind fun _ => ?_
    refine Triple.bind (Triple.modify fun s hs => ?_) fun _ => Triple.ret fun _ ht => ht
    exact ⟨⟨hs.1.1.latched, hs.1.1.connected⟩, hs.1.2⟩
  refine Triple.bind (Triple.modify fun s hs => ?_) fun _ => hset.bind fun answer => ?_
  · exact ⟨⟨fun _ => rfl, fun _ => hs.2⟩, rfl⟩
  · cases answer with
    | none => exact Triple.throwException fun _ hs => hs.1
    | some reply => exact Triple.ret fun _ hs => hs

theorem keepsInv_checkAlert (call : SpeakerCall) :
    KeepsInv ProcessInv (checkAlert call)
      (fun ret t => ProcessInv t ∧ (ret = true → t.currentSong = emergencySong)) := by
  refine (triple_lockTemper ProcessInv.lock).bind fun _ => ?_
  refine (triple_getValue call.temperature).bind fun temperature => ?_
  refine (keepsInv_getAlert call).bind fun answer => ?_
  cases answer with
  | none => exact Triple.throwException fun _ hs => hs.1
  | some reply =>
      refine (keepsInv_alertText (fun _ hs => hs.1) reply).bind fun alertValue => ?_
      have hunlock : KeepsInv (fun s => ProcessInv s ∧ s.context = .live) unlockTemper
          (fun _ t => ProcessInv t ∧ t.context = .live) :=
        Triple.modify fun s hs => ⟨hs.1.lock s false, hs.2⟩
      refine hunlock.bind fun _ => Triple.get_bind fun s => ?_
      split
      · exact (keepsInv_raiseAlarm call).consequence (fun _ ht => ht.2)
          fun _ _ ht => ⟨ht.1, fun _ => ht.2⟩
      · exact Triple.ret fun _ ht => ⟨ht.2.1, fun hret => nomatch hret⟩

theorem keepsInv_getAlertStatus (call : SpeakerCall) :
    KeepsInv ProcessInv (getAlertStatus call)
      (fun ret t => ProcessInv t ∧ (ret = true → t.currentSong = emergencySong)) := by
  refine Triple.get_bind fun s => ?_
  split
  · rename_i hnull
    -- the song cannot have been changed before there was a connection
    have hsong : ∀ t, t = s ∧ ProcessInv t → t.currentSong ≠ emergencySong := by
      rintro t ⟨rfl, ht⟩ hsong
      rw [ht.connected hsong] at hnull
      cases hnull
    cases hostAddress call.host with
    | none => exact Triple.ret fun _ ht => ⟨ht.2, fun hret => nomatch hret⟩
    | some hostname =>
        dsimp only
        cases call.connect hostname with
        | null =>
            exact (keepsInv_checkAlert call).consequence (fun _ ht => ht.2) fun _ _ ht => ht
        | err =>
            refine Triple.bind (Triple.modify fun t ht => ?_) fun _ =>
              Triple.ret fun _ ht => ⟨ht, fun hret => nomatch hret⟩
            exact ⟨ht.2.latched, fun h => absurd h (hsong t ht)⟩
        | connected =>
            refine Triple.bind (Triple.modify fun t ht => ?_) fun _ =>
              Triple.ret fun _ ht => ⟨ht, fun hret => nomatch hret⟩
            exact ⟨ht.2.latched, fun _ => rfl⟩
  · exact (keepsInv_checkAlert call).consequence (fun _ ht => ht.2) fun _ _ ht => ht

theorem keepsInv_updateAlertState (call : SpeakerCall) :
    KeepsInv ProcessInv (updateAlertState call) (fun _ => ProcessInv) := by
  refine Triple.get_bind fun s => ?_
  split
  · exact Triple.ret fun _ ht => ht.2
  · refine ((keepsInv_getAlertStatus call).consequence (fun _ ht => ht.2)
      fun _ _ ht => ht).bind fun ret => ?_
    exact Triple.modify fun t ht => ⟨fun hret => ht.2 hret, ht.1.connected⟩

theorem keepsInv_getPostValue (call : SpeakerCall) :
    KeepsInv ProcessInv (getPostValue call) (fun _ => ProcessInv) := by
  refine (keepsInv_updateAlertState call).bind fun _ => ?_
  refine (triple_getDeviceValue ProcessInv.lock call).bind fun value =>
    Triple.get_bind fun s => ?_
  exact Triple.ret fun _ ht => ht.2

/-- A call which ended returned or threw. -/
theorem ended_eq_some {α : Type} {result : EStateM.Result (Fault CppException) SpeakerProcess α}
    {t : SpeakerProcess} (h : ended result = some t) :
    (∃ a, result = .ok a t) ∨ ∃ e, result = .error (.exception e) t := by
  cases result with
  | ok a s =>
      cases h
      exact Or.inl ⟨a, rfl⟩
  | error e s =>
      cases e with
      | exception e =>
          cases h
          exact Or.inr ⟨e, rfl⟩
      | undefined => cases h
      | blocked => cases h

/-- A callback preserves the invariant, and so does who else writes the key. -/
theorem ProcessInv.step {s t : SpeakerProcess} {event : ProcessEvent} (h : ProcessInv s)
    (hstep : processStep s event = some t) : ProcessInv t := by
  cases event with
  | call call =>
      obtain ⟨post, hrun⟩ | ⟨e, hrun⟩ := ended_eq_some hstep
      · exact (keepsInv_getPostValue call s h).1 post t hrun
      · exact (keepsInv_getPostValue call s h).2 _ t hrun
  | others alert =>
      cases hstep
      exact ⟨h.latched, h.connected⟩

theorem processInv_initial (alert : Option String) : ProcessInv (.initial alert) := by
  refine ⟨fun hlatch => (nomatch hlatch), fun hsong => ?_⟩
  have hnormal : normalSong = emergencySong := hsong
  exact absurd hnormal (by decide)

end Invariant

/-! ## How a call goes on -/

section Evaluation

variable {s u : SpeakerProcess} {call : SpeakerCall}

theorem lockTemper_of_held (h : s.temperLocked = true) : lockTemper s = .error .blocked s := by
  rw [lockTemper, if_pos h, waitForever_apply]

theorem lockTemper_of_free (h : s.temperLocked = false) :
    lockTemper s = .ok () { s with temperLocked := true } := by
  rw [lockTemper, if_neg (by rw [h]; exact Bool.false_ne_true)]

theorem unlockTemper_locked (h : s.temperLocked = false) :
    unlockTemper { s with temperLocked := true } = .ok () s := by
  obtain ⟨context, temperLocked, currentSong, deviceAlertState, alert⟩ := s
  cases h
  rfl

theorem requireContext_of_live (h : s.context = .live) : requireContext s = .ok () s := by
  rw [requireContext, if_pos h]

theorem requireContext_of_not_live (h : s.context ≠ .live) :
    requireContext s = .error .undefined s := by
  rw [requireContext, if_neg h, undefinedBehaviour_apply]

/-- A call whose latch is up to date ends with the reading of the probe. -/
theorem callbackStep_of_updated (h : updateAlertState call s = .ok () u)
    (hfree : u.temperLocked = false) :
    ∃ locked, callbackStep s call = some { u with temperLocked := locked } := by
  rw [callbackStep, getPostValue, bind_of_ok h]
  cases hread : call.sensorValue with
  | ok value =>
      have hvalue : getDeviceValue call u = .ok value u := by
        rw [getDeviceValue, bind_of_ok (lockTemper_of_free hfree), hread]
        exact (bind_of_ok rfl).trans (bind_of_ok (unlockTemper_locked hfree))
      rw [bind_of_ok hvalue]
      exact ⟨u.temperLocked, rfl⟩
  | error what =>
      have hvalue : getDeviceValue call u =
          .error (.exception (.runtimeError what)) { u with temperLocked := true } := by
        rw [getDeviceValue, bind_of_ok (lockTemper_of_free hfree), hread]
        rfl
      rw [bind_of_error hvalue]
      exact ⟨true, rfl⟩

theorem getPostValue_of_updated_held (h : updateAlertState call s = .ok () u)
    (hheld : u.temperLocked = true) : getPostValue call s = .error .blocked u := by
  rw [getPostValue, bind_of_ok h]
  exact bind_of_error (bind_of_error (lockTemper_of_held hheld))

theorem updateAlertState_of_set (call : SpeakerCall) (h : s.deviceAlertState = true) :
    updateAlertState call s = .ok () s := by
  rw [updateAlertState, bind_of_ok (get_apply s), if_pos h]
  rfl

theorem updateAlertState_of_status {ret : Bool} (h : s.deviceAlertState = false)
    (hstatus : getAlertStatus call s = .ok ret u) :
    updateAlertState call s = .ok () { u with deviceAlertState := ret } := by
  rw [updateAlertState, bind_of_ok (get_apply s),
    if_neg (by rw [h]; exact Bool.false_ne_true), bind_of_ok hstatus]
  rfl

theorem getPostValue_of_status_fault {e : Fault CppException}
    (h : s.deviceAlertState = false) (hstatus : getAlertStatus call s = .error e u) :
    getPostValue call s = .error e u := by
  have hupdate : updateAlertState call s = .error e u := by
    rw [updateAlertState, bind_of_ok (get_apply s),
      if_neg (by rw [h]; exact Bool.false_ne_true)]
    exact bind_of_error hstatus
  exact bind_of_error hupdate

theorem getAlertStatus_of_not_null (h : s.context ≠ .null) :
    getAlertStatus call s = checkAlert call s := by
  rw [getAlertStatus, bind_of_ok (get_apply s), if_neg h]

theorem checkAlert_of_held (h : s.temperLocked = true) :
    checkAlert call s = .error .blocked s :=
  bind_of_error (lockTemper_of_held h)

section Warm

variable {temperature : Int} (hread : call.temperature = .ok temperature)
  (hfree : s.temperLocked = false)
include hread hfree

theorem checkAlert_of_no_context (h : s.context ≠ .live) :
    checkAlert call s = .error .undefined { s with temperLocked := true } := by
  rw [checkAlert, bind_of_ok (lockTemper_of_free hfree), hread]
  refine (bind_of_ok rfl).trans (bind_of_error (bind_of_error ?_))
  exact requireContext_of_not_live h

theorem checkAlert_of_connected (h : s.context = .live) :
    checkAlert call s =
      match call.getReply s.alert with
      | none => .error (.exception noAlertReply) { s with temperLocked := true }
      | some reply =>
          match reply.str with
          | none => .error .undefined { s with temperLocked := true }
          | some alertValue =>
              if switchesSong s.currentSong temperature alertValue then raiseAlarm call s
              else .ok false s := by
  have hget : getAlert call { s with temperLocked := true } =
      .ok (call.getReply s.alert) { s with temperLocked := true } := by
    have hlive : ({ s with temperLocked := true } : SpeakerProcess).context = .live := h
    rw [getAlert, bind_of_ok (requireContext_of_live hlive), bind_of_ok (get_apply _)]
    rfl
  rw [checkAlert, bind_of_ok (lockTemper_of_free hfree), hread]
  refine (bind_of_ok rfl).trans ((bind_of_ok hget).trans ?_)
  cases call.getReply s.alert with
  | none => rfl
  | some reply =>
      dsimp only
      cases htext : reply.str with
      | none =>
          refine bind_of_error ?_
          rw [alertText, htext]
          rfl
      | some alertValue =>
          have halert : alertText reply { s with temperLocked := true } =
              .ok alertValue { s with temperLocked := true } := by
            rw [alertText, htext]
            rfl
          rw [bind_of_ok halert, bind_of_ok (unlockTemper_locked hfree),
            bind_of_ok (get_apply s)]
          dsimp only
          split
          · rfl
          · rfl

end Warm

/-- The song and the key are changed in any case, and the call goes on when `SET` was
answered. -/
theorem raiseAlarm_of_connected (h : s.context = .live) :
    raiseAlarm call s =
      match call.setLink.answer (.status "OK") with
      | none => .error (.exception noAlertReply)
          { s with
            currentSong := emergencySong
            alert := call.alertAfterSet s.alert }
      | some _ => .ok true
          { s with
            currentSong := emergencySong
            alert := call.alertAfterSet s.alert } := by
  have hset : setAlert call { s with currentSong := emergencySong } =
      .ok (call.setLink.answer (.status "OK"))
        { s with
          currentSong := emergencySong
          alert := call.alertAfterSet s.alert } := by
    have hlive : ({ s with currentSong := emergencySong } : SpeakerProcess).context = .live := h
    exact bind_of_ok (requireContext_of_live hlive)
  refine (bind_of_ok (modify_apply _ _)).trans ((bind_of_ok hset).trans ?_)
  cases call.setLink.answer (.status "OK") with
  | none => rfl
  | some reply => rfl

end Evaluation

/-! ## One call -/

section OneCall

variable {s t : SpeakerProcess} {call : SpeakerCall}

/-- Without a context the call connects and returns, or goes on without one. -/
theorem getAlertStatus_cases (s : SpeakerProcess) (call : SpeakerCall) :
    getAlertStatus call s = checkAlert call s ∨
      s.context = .null ∧
        ∃ context, getAlertStatus call s = .ok false { s with context := context } := by
  by_cases hnull : s.context = .null
  · rw [getAlertStatus, bind_of_ok (get_apply s), if_pos hnull]
    cases hostAddress call.host with
    | none => exact Or.inr ⟨hnull, s.context, rfl⟩
    | some hostname =>
        dsimp only
        cases call.connect hostname with
        | null => exact Or.inl rfl
        | err => exact Or.inr ⟨hnull, .freed, rfl⟩
        | connected => exact Or.inr ⟨hnull, .live, rfl⟩
  · exact Or.inl (getAlertStatus_of_not_null hnull)

/-- After an exception which left the lock held, no call ends any more. -/
theorem getPostValue_of_held (call : SpeakerCall) (h : s.temperLocked = true) :
    ∃ u, getPostValue call s = .error .blocked u := by
  cases hlatch : s.deviceAlertState with
  | true => exact ⟨s, getPostValue_of_updated_held (updateAlertState_of_set call hlatch) h⟩
  | false =>
      obtain hstatus | ⟨-, context, hstatus⟩ := getAlertStatus_cases s call
      · rw [checkAlert_of_held h] at hstatus
        exact ⟨s, getPostValue_of_status_fault hlatch hstatus⟩
      · exact ⟨_, getPostValue_of_updated_held (updateAlertState_of_status hlatch hstatus) h⟩

theorem failSafe_of_blocked {u : SpeakerProcess} (h : getPostValue call s = .error .blocked u) :
    FailSafe s call ↔ (call.Warm → ¬call.RedisSucceeds) := by
  have hnone : callbackStep s call = none := by rw [callbackStep, h, ended]
  constructor
  · intro hsafe hwarm hredis
    obtain ⟨t, hstep, -⟩ := hsafe.complete hwarm hredis
    rw [hnone] at hstep
    cases hstep
  · intro hfails
    refine ⟨fun _ t hrun => ?_, fun _ t hstep => ?_, fun hwarm hredis => ?_⟩
    · rw [h] at hrun
      cases hrun
    · rw [hnone] at hstep
      cases hstep
    · exact absurd hredis (hfails hwarm)

theorem not_failSafe_of_undefined (hwarm : call.Warm)
    (h : getPostValue call s = .error .undefined t) : ¬FailSafe s call :=
  fun hsafe => hsafe.defined hwarm t h

theorem failSafe_of_ended (h : callbackStep s call = some t) :
    FailSafe s call ↔
      (call.Warm → t.currentSong = emergencySong ∧ (call.RedisSucceeds → Raised t)) := by
  constructor
  · intro hsafe hwarm
    refine ⟨hsafe.switched hwarm t h, fun hredis => ?_⟩
    obtain ⟨u, hstep, hraised⟩ := hsafe.complete hwarm hredis
    rw [h] at hstep
    cases hstep
    exact hraised
  · intro hends
    refine ⟨fun _ u hrun => ?_, fun hwarm u hstep => ?_, fun hwarm hredis => ?_⟩
    · rw [callbackStep, hrun, ended] at h
      cases h
    · rw [h] at hstep
      cases hstep
      exact (hends hwarm).1
    · exact ⟨t, h, (hends hwarm).2 hredis⟩

theorem not_raised_of_unlatched (h : t.deviceAlertState = false) : ¬Raised t := by
  intro hraised
  rw [hraised.latched] at h
  cases h

/-- The lock is held. -/
theorem failSafe_iff_of_held (h : s.temperLocked = true) :
    FailSafe s call ↔ FailSafeCondition s call := by
  obtain ⟨u, hrun⟩ := getPostValue_of_held call h
  rw [failSafe_of_blocked hrun, FailSafeCondition]
  refine forall_congr' fun hwarm => ⟨fun hfails => ⟨Or.inl h, fun hredis => ?_⟩, ?_⟩
  · exact absurd hredis hfails
  · rintro ⟨-, hcomplete⟩ hredis
    have hfree := (hcomplete hredis).1
    rw [h] at hfree
    cases hfree

/-- The latch is set. -/
theorem failSafe_iff_of_latched (hinv : ProcessInv s) (hfree : s.temperLocked = false)
    (hlatch : s.deviceAlertState = true) : FailSafe s call ↔ FailSafeCondition s call := by
  obtain ⟨locked, hstep⟩ :=
    callbackStep_of_updated (updateAlertState_of_set call hlatch) hfree
  rw [failSafe_of_ended hstep, FailSafeCondition]
  refine forall_congr' fun hwarm => ⟨?_, ?_⟩
  · rintro ⟨-, hraised⟩
    refine ⟨Or.inr (Or.inl hlatch), fun hredis => ⟨hfree, ?_⟩⟩
    rw [if_pos hlatch]
    exact (hraised hredis).stored
  · rintro ⟨-, hcomplete⟩
    refine ⟨hinv.latched hlatch, fun hredis => ⟨hinv.latched hlatch, ?_, hlatch⟩⟩
    have hstored := (hcomplete hredis).2
    rw [if_pos hlatch] at hstored
    exact hstored

/-- There is no connection: the call is undefined or ends with the song unchanged. -/
theorem failSafe_iff_of_not_live {temperature : Int} (hwarm : call.Warm)
    (hread : call.temperature = .ok temperature) (hinv : ProcessInv s)
    (hfree : s.temperLocked = false) (hlatch : s.deviceAlertState = false)
    (hlive : s.context ≠ .live) : FailSafe s call ↔ FailSafeCondition s call := by
  refine iff_of_false ?_ ?_
  · obtain hstatus | ⟨-, context, hstatus⟩ := getAlertStatus_cases s call
    · rw [checkAlert_of_no_context hread hfree hlive] at hstatus
      exact not_failSafe_of_undefined hwarm (getPostValue_of_status_fault hlatch hstatus)
    · obtain ⟨locked, hstep⟩ :=
        callbackStep_of_updated (updateAlertState_of_status hlatch hstatus) hfree
      rw [failSafe_of_ended hstep]
      exact fun hends => hlive (hinv.connected (hends hwarm).1)
  · intro hcondition
    obtain hheld | hset | ⟨hcontext, -⟩ := (hcondition hwarm).1
    · rw [hfree] at hheld
      cases hheld
    · rw [hlatch] at hset
      cases hset
    · exact hlive hcontext

/-- Nothing is asked of a call which is not warm. -/
theorem failSafe_iff_of_not_warm (h : ¬call.Warm) :
    FailSafe s call ↔ FailSafeCondition s call :=
  iff_of_true ⟨fun hwarm => absurd hwarm h, fun hwarm => absurd hwarm h,
    fun hwarm => absurd hwarm h⟩ fun hwarm => absurd hwarm h

section Connected

variable {temperature : Int} (hwarm : call.Warm) (hread : call.temperature = .ok temperature)
  (habove : temperWarning < temperature) (hfree : s.temperLocked = false)
  (hlatch : s.deviceAlertState = false) (hlive : s.context = .live)

include hwarm hfree hlatch hlive in
/-- What is left of the condition. -/
theorem failSafeCondition_of_live :
    FailSafeCondition s call ↔
      (match call.getReply s.alert with
        | none => s.currentSong = emergencySong
        | some reply => reply.str ≠ none) ∧
      (call.RedisSucceeds → s.currentSong ≠ emergencySong) := by
  rw [FailSafeCondition, imp_iff_right hwarm, SwitchCondition, CompleteCondition, hfree, hlatch]
  simp only [Bool.false_eq_true, false_or, true_and, hlive, if_false]

include hread hfree hlive in
theorem getAlertStatus_of_live :
    getAlertStatus call s =
      match call.getReply s.alert with
      | none => .error (.exception noAlertReply) { s with temperLocked := true }
      | some reply =>
          match reply.str with
          | none => .error .undefined { s with temperLocked := true }
          | some alertValue =>
              if switchesSong s.currentSong temperature alertValue then raiseAlarm call s
              else .ok false s := by
  have hnotNull : s.context ≠ .null := by
    rw [hlive]
    exact Context.noConfusion
  rw [getAlertStatus_of_not_null hnotNull, checkAlert_of_connected hread hfree hlive]

include hwarm hread hfree hlatch hlive in
/-- `GET` is not answered: the call throws and leaves the lock held. -/
theorem failSafe_iff_of_get_lost (hget : call.getReply s.alert = none) :
    FailSafe s call ↔ FailSafeCondition s call := by
  have hstatus := getAlertStatus_of_live hread hfree hlive
  rw [hget] at hstatus
  have hstep : callbackStep s call = some { s with temperLocked := true } := by
    rw [callbackStep, getPostValue_of_status_fault hlatch hstatus, ended]
  have hfails : ¬call.RedisSucceeds := by
    intro hredis
    rw [SpeakerCall.getReply, hredis.get] at hget
    cases hget
  rw [failSafe_of_ended hstep, imp_iff_right hwarm,
    failSafeCondition_of_live hwarm hfree hlatch hlive, hget]
  exact and_congr_right fun _ =>
    iff_of_true (fun hredis => absurd hredis hfails) fun hredis => absurd hredis hfails

include hwarm hread hfree hlatch hlive in
/-- The reply to `GET` has no text. -/
theorem failSafe_iff_of_no_text {reply : Reply} (hget : call.getReply s.alert = some reply)
    (htext : reply.str = none) : FailSafe s call ↔ FailSafeCondition s call := by
  have hstatus := getAlertStatus_of_live hread hfree hlive
  simp only [hget, htext] at hstatus
  refine iff_of_false
    (not_failSafe_of_undefined hwarm (getPostValue_of_status_fault hlatch hstatus)) ?_
  rw [failSafeCondition_of_live hwarm hfree hlatch hlive, hget]
  exact fun hcondition => hcondition.1 htext

include hwarm hread habove hfree hlatch hlive in
/-- The reply to `GET` has a text: a half finished alarm is not taken up again, and any
other one is raised. -/
theorem failSafe_iff_of_text {reply : Reply} {alertValue : String}
    (hget : call.getReply s.alert = some reply) (htext : reply.str = some alertValue) :
    FailSafe s call ↔ FailSafeCondition s call := by
  have hstatus := getAlertStatus_of_live hread hfree hlive
  simp only [hget, htext] at hstatus
  have hsome : reply.str ≠ none := by
    rw [htext]
    exact Option.some_ne_none alertValue
  rw [failSafeCondition_of_live hwarm hfree hlatch hlive, hget]
  by_cases hsong : s.currentSong = emergencySong
  · -- the song is the announcement already, so the alarm is not raised again
    have hquiet : switchesSong s.currentSong temperature alertValue = false := by
      rw [hsong, switchesSong_emergency]
    rw [hquiet, if_neg Bool.false_ne_true] at hstatus
    obtain ⟨locked, hstep⟩ :=
      callbackStep_of_updated (updateAlertState_of_status hlatch hstatus) hfree
    rw [failSafe_of_ended hstep, imp_iff_right hwarm]
    refine ⟨fun hends => ⟨hsome, fun hredis => ?_⟩, fun hcondition => ⟨hsong, fun hredis => ?_⟩⟩
    · exact absurd (hends.2 hredis) (not_raised_of_unlatched rfl)
    · exact absurd hsong (hcondition.2 hredis)
  · rw [switchesSong_of_warm hsong habove, if_pos rfl, raiseAlarm_of_connected hlive] at hstatus
    refine iff_of_true ?_ ⟨hsome, fun _ => hsong⟩
    cases hset : call.setLink.answer (.status "OK") with
    | none =>
        -- the exception for the missing reply ends the call after the song was switched
        rw [hset] at hstatus
        have hstep : callbackStep s call = some
            { s with
              currentSong := emergencySong
              alert := call.alertAfterSet s.alert } := by
          rw [callbackStep, getPostValue_of_status_fault hlatch hstatus, ended]
        rw [failSafe_of_ended hstep]
        refine fun _ => ⟨rfl, fun hredis => ?_⟩
        rw [hredis.set] at hset
        cases hset
    | some answer =>
        rw [hset] at hstatus
        obtain ⟨locked, hstep⟩ :=
          callbackStep_of_updated (updateAlertState_of_status hlatch hstatus) hfree
        rw [failSafe_of_ended hstep]
        refine fun _ => ⟨rfl, fun hredis => ⟨rfl, ?_, rfl⟩⟩
        dsimp only
        rw [SpeakerCall.alertAfterSet, hredis.set]
        rfl

end Connected

/-- A call is fail-safe exactly under its condition. -/
theorem failSafe_iff (hinv : ProcessInv s) : FailSafe s call ↔ FailSafeCondition s call := by
  by_cases hwarm : call.Warm
  · obtain ⟨temperature, hread, habove⟩ := id hwarm
    cases hheld : s.temperLocked with
    | true => exact failSafe_iff_of_held hheld
    | false =>
        cases hlatch : s.deviceAlertState with
        | true => exact failSafe_iff_of_latched hinv hheld hlatch
        | false =>
            by_cases hlive : s.context = .live
            · cases hget : call.getReply s.alert with
              | none => exact failSafe_iff_of_get_lost hwarm hread hheld hlatch hlive hget
              | some reply =>
                  cases htext : reply.str with
                  | none =>
                      exact failSafe_iff_of_no_text hwarm hread hheld hlatch hlive hget htext
                  | some alertValue =>
                      exact failSafe_iff_of_text hwarm hread habove hheld hlatch hlive hget htext
            · exact failSafe_iff_of_not_live hwarm hread hinv hheld hlatch hlive
  · exact failSafe_iff_of_not_warm hwarm

end OneCall

/-! ## Runs -/

section Runs

variable {s t : SpeakerProcess}

/-- Once the latch is set it stays set, and the device built has alert state 1. -/
theorem triple_getPostValue_latched (call : SpeakerCall) :
    Triple (fun u => u.deviceAlertState = true) (getPostValue call)
      (fun post u => u.deviceAlertState = true ∧ post.alertState = true)
      fun u => u.deviceAlertState = true := by
  have hupdate : Triple (fun u => u.deviceAlertState = true) (updateAlertState call)
      (fun _ u => u.deviceAlertState = true) fun u => u.deviceAlertState = true := by
    intro u hu
    rw [updateAlertState_of_set call hu]
    refine ⟨fun _ _ hok => ?_, fun _ _ herror => nomatch herror⟩
    cases hok
    exact hu
  refine hupdate.bind fun _ => ?_
  refine (triple_getDeviceValue (fun _ _ hu => hu) call).bind fun value =>
    Triple.get_bind fun u => ?_
  refine Triple.ret fun v hv => ⟨hv.2, ?_⟩
  rw [← hv.1]
  exact hv.2

theorem latched_step {event : ProcessEvent} (h : s.deviceAlertState = true)
    (hstep : processStep s event = some t) : t.deviceAlertState = true := by
  cases event with
  | call call =>
      obtain ⟨post, hrun⟩ | ⟨e, hrun⟩ := ended_eq_some hstep
      · exact ((triple_getPostValue_latched call s h).1 post t hrun).1
      · exact (triple_getPostValue_latched call s h).2 _ t hrun
  | others alert =>
      cases hstep
      exact h

/-- The latch is what makes every later device report an alert. -/
theorem alertFromNowOn_of_latched (h : s.deviceAlertState = true) : AlertFromNowOn s := by
  intro t hreaches call post u hrun
  have ht : t.deviceAlertState = true :=
    hreaches.invariant (fun _ _ _ hs hstep => latched_step hs hstep) h
  exact ((triple_getPostValue_latched call t ht).1 post u hrun).2

/-- A step is as it should be exactly under its condition. -/
theorem eventFailSafe_iff (hinv : ProcessInv s) (event : ProcessEvent) :
    EventFailSafe s event ↔ EventCondition s event := by
  cases event with
  | call call => exact failSafe_iff hinv
  | others alert => exact Iff.rfl

/-- **Raising the alarm.**  In every run, all calls are fail-safe if and only if all calls
meet the condition; and in each state with the three effects, every later device reports
an alert. -/
theorem failSafe_run_iff (alert : Option String) (events : List ProcessEvent) :
    (Guarded processStep EventFailSafe (.initial alert) events ↔
      Guarded processStep EventCondition (.initial alert) events) ∧
    ∀ s, Raised s → AlertFromNowOn s :=
  ⟨Guarded.congr (fun _ _ _ hs _ hstep => ProcessInv.step hs hstep)
      (fun _ event hs => eventFailSafe_iff hs event) (processInv_initial alert) events,
    fun _ hraised => alertFromNowOn_of_latched hraised.latched⟩

end Runs

/-! ## Two failures -/

/-- A call while it is warm, with all of Redis at its service. -/
def warmCall : SpeakerCall where
  host := "coap://192.168.0.10:5683"
  connect := fun _ => .connected
  temperature := .ok 30000
  getLink := .up
  setLink := .up
  sensorValue := .ok 30000

/-- The same call while it is cold. -/
def coldCall : SpeakerCall := { warmCall with temperature := .ok 20000 }

/-- The same call when `SET` gets no reply. -/
def unansweredCall : SpeakerCall := { warmCall with setLink := .lost false }

/-- The same call when `SET` is answered with an error. -/
def refusedCall : SpeakerCall := { warmCall with setLink := .refused "OOM" }

theorem warmCall_warm : warmCall.Warm := ⟨30000, rfl, by decide⟩

theorem warmCall_succeeds : warmCall.RedisSucceeds := ⟨fun _ _ => rfl, rfl, rfl⟩

/-- Another speaker has set the key before: the error reply to `SET` does no harm. -/
example : run processStep (.initial (some "0"))
    [.call coldCall, .others (some "1"), .call refusedCall, .call warmCall] =
      some ⟨.live, false, emergencySong, true, some "1"⟩ := by decide

/-- The first call connects and leaves the song as it is, however warm it is; and when
`SET` was not answered once, no later call raises the alarm. -/
theorem alarm_not_failSafe :
    (¬∀ alert s, Reaches processStep (.initial alert) s → ∀ call, SpeakerCall.Warm call →
      ∀ t, callbackStep s call = some t → t.currentSong = emergencySong) ∧
    ¬∀ alert s, Reaches processStep (.initial alert) s → ∀ call, SpeakerCall.Warm call →
      call.RedisSucceeds → ∀ t, callbackStep s call = some t → Raised t := by
  constructor
  · intro h
    have hstep : callbackStep (.initial (some "0")) warmCall =
        some ⟨.live, false, normalSong, false, some "0"⟩ := by decide
    exact absurd (h _ _ (Reaches.refl _) warmCall warmCall_warm _ hstep) (by decide)
  · intro h
    have hreaches : Reaches processStep (.initial (some "0"))
        ⟨.live, false, emergencySong, false, some "0"⟩ :=
      ⟨[.call coldCall, .call unansweredCall], by decide⟩
    have hstep : callbackStep ⟨.live, false, emergencySong, false, some "0"⟩ warmCall =
        some ⟨.live, false, emergencySong, false, some "0"⟩ := by decide
    have hraised := h _ _ hreaches warmCall warmCall_warm warmCall_succeeds _ hstep
    exact absurd hraised.latched (by decide)

end Speaker
end FireEvacuation
