import FireEvacuation.Clients.CallbackThreads

/-!
# The Redis context of the clients

`getAlertStatus` of both clients opens the context when `m_context` is null.  Its branches
on the result are crossed: a null pointer goes on to the commands, a context with `err` set
is freed and kept, a connection returns false.  `main` frees what is in `m_context` when an
exception ends it, and once more when the threads it started are joined; these threads run
for ever, so the second call waits for a join which is an event of its own here.

Contexts are numbered by the attempt which returned them, and the state records every
attempt, every `redisFree` and whether each `redisCommand` had a live context.
-/

namespace FireEvacuation
namespace Clients

open FireEvacuation.Core FireEvacuation.Core.Effect Platform Speaker
open Redis hiding redisCommand

/-- How far `main` is: in the `try` block, past its handler, or at its end. -/
inductive MainPhase where
  | running
  | caught
  | ended
  deriving DecidableEq

/-- A client with the variables `vars` of its own: the song, or the value of the LED. -/
structure RedisClient (σ : Type) where
  /-- `m_context`, a context given by the attempt which returned it. -/
  context : Option Nat
  attempts : List Connection
  freed : List Nat
  commands : List Bool
  locked : Bool
  main : MainPhase
  vars : σ
  deriving DecidableEq

/-- What one call of `getAlertStatus` meets. -/
structure ClientCall where
  host : String
  connect : String → Connection
  temperature : Except String Int
  getReply : Option Reply
  setReply : Option Reply

namespace RedisClient

variable {σ : Type}

def initial (vars : σ) : RedisClient σ := ⟨none, [], [], [], false, .running, vars⟩

/-- `m_context` is a connection which was not freed. -/
def ContextLive (s : RedisClient σ) : Prop :=
  ∃ n ∈ s.context, s.attempts[n]? = some .connected ∧ n ∉ s.freed

instance (s : RedisClient σ) : Decidable s.ContextLive :=
  match hcontext : s.context with
  | none => isFalse fun ⟨_, hn, _⟩ => by rw [hcontext] at hn; cases hn
  | some n => decidable_of_iff (s.attempts[n]? = some .connected ∧ n ∉ s.freed)
      ⟨fun h => ⟨n, hcontext, h⟩, fun ⟨m, hm, h⟩ => by rw [hcontext] at hm; cases hm; exact h⟩

/-- An attempt was made and answered. -/
def attempted (s : RedisClient σ) (answer : Connection) : RedisClient σ :=
  { s with
    attempts := s.attempts ++ [answer]
    context := if answer = .null then none else some s.attempts.length }

/-- `m_context = redisConnectWithTimeout(hostname.c_str(), port, timeout)`. -/
def redisConnect (answer : Connection) : Cpp (RedisClient σ) Unit :=
  modify fun s => s.attempted answer

/-- `redisFree(m_context)`, which does nothing for a null pointer. -/
def redisFree : Cpp (RedisClient σ) Unit := fun s =>
  match s.context with
  | none => .ok () s
  | some n =>
      if n ∈ s.freed then undefinedBehaviour { s with freed := s.freed ++ [n] }
      else .ok () { s with freed := s.freed ++ [n] }

/-- `redisCommand`. -/
def redisCommand (reply : Option Reply) : Cpp (RedisClient σ) (Option Reply) := fun s =>
  if s.ContextLive then .ok reply { s with commands := s.commands ++ [true] }
  else undefinedBehaviour { s with commands := s.commands ++ [false] }

/-- `_temper_lock.lock()` and `_led_lock.lock()`. -/
def lock : Cpp (RedisClient σ) Unit := fun s =>
  if s.locked then waitForever s else .ok () { s with locked := true }

def unlock : Cpp (RedisClient σ) Unit := modify fun s => { s with locked := false }

def setVars (vars : σ) : Cpp (RedisClient σ) Unit := modify fun s => { s with vars := vars }

end RedisClient

open RedisClient

/-! ## The functions of the source -/

section Functions

variable {σ : Type}

/-- The text of `GET alert`. -/
def readAlert (call : ClientCall) : Cpp (RedisClient σ) String := do
  match ← redisCommand call.getReply with
  -- nobody unlocks on the way to the handler
  | none => throwException noAlertReply
  | some reply =>
      match reply.str with
      | none => undefinedBehaviour
      | some alertValue => pure alertValue

/-- `getAlertStatus` of the speaker from the lock on. -/
def speakerCommands (call : ClientCall) : Cpp (RedisClient String) Bool := do
  lock
  match call.temperature with
  | .error what => throwException (.runtimeError what)
  | .ok temperature =>
      let alertValue ← readAlert call
      unlock
      let s ← get
      if switchesSong s.vars temperature alertValue then do
        setVars emergencySong
        -- outside the lock
        match ← redisCommand call.setReply with
        | none => throwException noAlertReply
        | some _ => pure true
      else pure false

/-- `getAlertStatus` of the LED from the lock on. -/
def ledCommands (call : ClientCall) : Cpp (RedisClient Int) Bool := do
  lock
  let alertValue ← readAlert call
  unlock
  setVars (ledValue alertValue)
  pure (alertValue = "1")

/-- `getAlertStatus`, in which the clients differ from the lock on only. -/
def getAlertStatus (commands : ClientCall → Cpp (RedisClient σ) Bool) (call : ClientCall) :
    Cpp (RedisClient σ) Bool := do
  let s ← get
  if s.context = none then
    match hostAddress call.host with
    | none => pure false
    | some hostname => do
        redisConnect (call.connect hostname)
        match call.connect hostname with
        -- the branch for a null pointer does not return
        | .null => commands call
        -- `m_context` keeps the pointer
        | .err => do
            redisFree
            pure false
        -- the commands are left to the next call
        | .connected => pure false
  else commands call

/-- The call returned or threw. -/
def isOver {α : Type} : EStateM.Result (Fault CppException) (RedisClient σ) α → Bool
  | .ok _ _ => true
  | .error (.exception _) _ => true
  | .error .undefined _ => false
  | .error .blocked _ => false

/-- After undefined behaviour there is no process.  A call which waits for ever does not
keep other threads from calling. -/
def afterwards {α : Type} (result : EStateM.Result (Fault CppException) (RedisClient σ) α) :
    RedisClient σ :=
  match result with
  | .error .undefined s => { s with main := .ended }
  | result => leftIn result

/-- A call of `getAlertStatus`, an exception in `main`, or the end of `main`. -/
inductive ClientEvent where
  | call (call : ClientCall)
  | mainThrows
  | mainJoins

/-- One event. -/
def clientStep (commands : ClientCall → Cpp (RedisClient σ) Bool) (s : RedisClient σ) :
    ClientEvent → Option (RedisClient σ)
  | .call call =>
      if s.main = .ended then none else some (afterwards (getAlertStatus commands call s))
  | .mainThrows =>
      if s.main = .running then some (afterwards (redisFree { s with main := .caught }))
      else none
  | .mainJoins =>
      if s.main = .ended then none
      else some (afterwards (redisFree { s with main := .ended }))

end Functions

/-! ## What should hold -/

section Soundness

variable {σ : Type}

/-- Every command had a live context, and no context was freed twice. -/
structure NoMisuse (s : RedisClient σ) : Prop where
  commands : ∀ live ∈ s.commands, live = true
  freed : s.freed.Nodup

/-- The last attempt gave no connection. -/
def RedisClient.AttemptFailed (s : RedisClient σ) : Prop :=
  ∃ connection ∈ s.attempts.getLast?, connection ≠ .connected

/-- What should hold of a call which begins in `s`. -/
structure CallSound (s : RedisClient σ) (call : ClientCall)
    (result : EStateM.Result (Fault CppException) (RedisClient σ) Bool) : Prop where
  noMisuse : NoMisuse (leftIn result)
  context : isOver result = true →
    (leftIn result).context = none ∨ (leftIn result).ContextLive
  /-- A failed attempt is followed by another one, when there is an address. -/
  retried : s.AttemptFailed → (hostAddress call.host).isSome →
    s.attempts.length < (leftIn result).attempts.length

/-- What should hold of every event. -/
def StepSound (commands : ClientCall → Cpp (RedisClient σ) Bool) (s : RedisClient σ) :
    ClientEvent → Prop
  | .call call => CallSound s call (getAlertStatus commands call s)
  | .mainThrows | .mainJoins => NoMisuse (leftIn (redisFree s))

/-- The condition.  A call which finds no context is answered with a connection, or with a
null pointer when it does not get as far as its first command; and nobody uses a context
which is freed. -/
def ConnectionCondition (reaches : ClientCall → Bool) (s : RedisClient σ) :
    ClientEvent → Prop
  | .call call =>
      match s.context with
      | some n => n ∈ s.freed → s.locked = true
      | none => ∀ hostname ∈ hostAddress call.host,
          call.connect hostname = .connected ∨
            call.connect hostname = .null ∧ (s.locked = true ∨ reaches call = false)
  | .mainThrows | .mainJoins => ∀ n ∈ s.context, n ∉ s.freed

/-- The speaker reads the probe before its first command. -/
def speakerReaches (call : ClientCall) : Bool := call.temperature.toOption.isSome

/-- The first command of the LED comes right after the lock. -/
def ledReaches (_ : ClientCall) : Bool := true

end Soundness

/-! ## The invariant -/

section Invariant

variable {σ : Type} {s t : RedisClient σ}

/-- The connection is untouched, and the new commands had a live context. -/
structure SameConnection (s t : RedisClient σ) : Prop where
  context : t.context = s.context
  attempts : t.attempts = s.attempts
  freed : t.freed = s.freed
  commands : ∀ live ∈ t.commands, live ∈ s.commands ∨ live = true

theorem SameConnection.refl (s : RedisClient σ) : SameConnection s s :=
  ⟨rfl, rfl, rfl, fun _ hmem => .inl hmem⟩

theorem SameConnection.contextLive (h : SameConnection s t) :
    t.ContextLive ↔ s.ContextLive := by
  unfold ContextLive
  rw [h.context, h.attempts, h.freed]

theorem SameConnection.noMisuse (h : SameConnection s t) (hs : NoMisuse s) : NoMisuse t := by
  refine ⟨fun live hmem => ?_, ?_⟩
  · rcases h.commands live hmem with hold | hlive
    · exact hs.commands live hold
    · exact hlive
  · rw [h.freed]
    exact hs.freed

/-- What holds as long as the condition is met. -/
structure ClientInv (s : RedisClient σ) : Prop where
  noMisuse : NoMisuse s
  /-- What is in `m_context` came from the last attempt, which connected. -/
  last : ∀ n, s.context = some n → s.attempts[n]? = some .connected ∧ n + 1 = s.attempts.length
  freed : ∀ n ∈ s.freed, n < s.attempts.length

theorem clientInv_initial (vars : σ) : ClientInv (.initial vars : RedisClient σ) :=
  ⟨⟨by simp [RedisClient.initial], by simp [RedisClient.initial]⟩,
    by simp [RedisClient.initial], by simp [RedisClient.initial]⟩

theorem ClientInv.same (hs : ClientInv s) (h : SameConnection s t) : ClientInv t := by
  refine ⟨h.noMisuse hs.noMisuse, fun n hn => ?_, fun n hn => ?_⟩
  · rw [h.context] at hn
    rw [h.attempts]
    exact hs.last n hn
  · rw [h.freed] at hn
    rw [h.attempts]
    exact hs.freed n hn

/-- A context which is kept ends the retries. -/
theorem ClientInv.not_failed (hs : ClientInv s) {n : Nat} (hn : s.context = some n) :
    ¬s.AttemptFailed := by
  rintro ⟨connection, hlast, hfailed⟩
  rcases hs.last n hn with ⟨hconnected, hlength⟩
  have hindex : s.attempts.length - 1 = n := by omega
  rw [List.getLast?_eq_getElem?, hindex, hconnected] at hlast
  cases hlast
  exact hfailed rfl

/-- The attempt which was answered with a null pointer. -/
theorem ClientInv.attempted_null (hs : ClientInv s) : ClientInv (s.attempted .null) := by
  refine ⟨⟨hs.noMisuse.commands, hs.noMisuse.freed⟩, fun n hn => (nomatch hn), fun n hn => ?_⟩
  have hlt := hs.freed n hn
  simp [attempted]
  omega

theorem ClientInv.attempted_connected (hs : ClientInv s) :
    ClientInv (s.attempted .connected) := by
  refine ⟨⟨hs.noMisuse.commands, hs.noMisuse.freed⟩, fun n hn => ?_, fun n hn => ?_⟩
  · cases hn
    simp [attempted]
  · have hlt := hs.freed n hn
    simp [attempted]
    omega

theorem ClientInv.redisFree (hs : ClientInv s) (hcontext : ∀ n ∈ s.context, n ∉ s.freed) :
    ClientInv (leftIn (redisFree s)) := by
  unfold RedisClient.redisFree
  cases hn : s.context with
  | none => exact hs
  | some n =>
      have hnot : n ∉ s.freed := hcontext n (by simp [hn])
      simp only [if_neg hnot, leftIn]
      refine ⟨⟨hs.noMisuse.commands, ?_⟩, fun m hm => hs.last m (hn.trans hm), ?_⟩
      · exact List.nodup_append.mpr ⟨hs.noMisuse.freed, by simp, by
          intro a ha b hb hab
          rw [List.mem_singleton] at hb
          subst hab hb
          exact hnot ha⟩
      · intro m hm
        rcases List.mem_append.mp hm with hold | hnew
        · exact hs.freed m hold
        · rw [List.mem_singleton.mp hnew]
          have hlength := (hs.last n hn).2
          show n < s.attempts.length
          omega

end Invariant

/-! ## From the lock on -/

section Commands

variable {σ : Type}

/-- What the calls need to know about the commands of a client. -/
structure CommandPart (commands : ClientCall → Cpp (RedisClient σ) Bool)
    (reaches : ClientCall → Bool) : Prop where
  blocked : ∀ call s, s.locked = true → commands call s = .error .blocked s
  live : ∀ call s, s.ContextLive → SameConnection s (leftIn (commands call s))
  dead : ∀ call s, s.locked = false → ¬s.ContextLive → reaches call = true →
    false ∈ (leftIn (commands call s)).commands
  stopped : ∀ call s, s.locked = false → reaches call = false →
    ∃ e, commands call s = .error (.exception e) { s with locked := true }

theorem lock_of_held {s : RedisClient σ} (h : s.locked = true) :
    lock s = .error .blocked s := by
  unfold lock
  rw [if_pos h]
  rfl

theorem lock_of_free {s : RedisClient σ} (h : s.locked = false) :
    lock s = .ok () { s with locked := true } := by
  unfold lock
  rw [if_neg (by simp [h])]

section Live

variable {s : RedisClient σ}

/-- A call over the live context of `s` stays on it, whatever it ends in. -/
abbrev StaysOn {α : Type} (s : RedisClient σ) (x : Cpp (RedisClient σ) α) : Prop :=
  Triple (SameConnection s) x (fun _ => SameConnection s) (SameConnection s)

theorem StaysOn.leftIn {x : Cpp (RedisClient σ) Bool} (h : StaysOn s x) :
    SameConnection s (leftIn (x s)) := by
  cases hx : x s with
  | ok a t => exact (h s (.refl s)).1 a t hx
  | error e t => exact (h s (.refl s)).2 e t hx

theorem staysOn_lock : StaysOn s lock := by
  intro t ht
  cases hlocked : t.locked with
  | true =>
      rw [lock_of_held hlocked]
      refine ⟨fun _ _ hok => (nomatch hok), fun _ _ herror => ?_⟩
      cases herror
      exact ht
  | false =>
      rw [lock_of_free hlocked]
      refine ⟨fun _ _ hok => ?_, fun _ _ herror => nomatch herror⟩
      cases hok
      exact ⟨ht.context, ht.attempts, ht.freed, ht.commands⟩

theorem staysOn_unlock : StaysOn s unlock :=
  Triple.modify fun _ ht => ⟨ht.context, ht.attempts, ht.freed, ht.commands⟩

theorem staysOn_setVars (vars : σ) : StaysOn s (setVars vars) :=
  Triple.modify fun _ ht => ⟨ht.context, ht.attempts, ht.freed, ht.commands⟩

variable (hlive : s.ContextLive)
include hlive

theorem staysOn_redisCommand (reply : Option Reply) : StaysOn s (redisCommand reply) := by
  intro t ht
  unfold redisCommand
  rw [if_pos (ht.contextLive.mpr hlive)]
  refine ⟨fun _ _ hok => ?_, fun _ _ herror => nomatch herror⟩
  cases hok
  refine ⟨ht.context, ht.attempts, ht.freed, fun live hmem => ?_⟩
  rcases List.mem_append.mp hmem with hold | hnew
  · exact ht.commands live hold
  · exact .inr (List.mem_singleton.mp hnew)

theorem staysOn_readAlert (call : ClientCall) : StaysOn s (readAlert call) := by
  refine (staysOn_redisCommand hlive call.getReply).bind fun reply => ?_
  cases reply with
  | none => exact Triple.throwException fun _ ht => ht
  | some reply =>
      dsimp only
      cases reply.str with
      | none => exact Triple.undefinedBehaviour fun _ ht => ht
      | some alertValue => exact Triple.ret fun _ ht => ht

end Live

theorem staysOn_ledCommands {s : RedisClient Int} (hlive : s.ContextLive) (call : ClientCall) :
    StaysOn s (ledCommands call) := by
  refine staysOn_lock.bind fun _ => (staysOn_readAlert hlive call).bind fun alertValue => ?_
  exact staysOn_unlock.bind fun _ => (staysOn_setVars _).bind fun _ =>
    Triple.ret fun _ ht => ht

theorem staysOn_speakerCommands {s : RedisClient String} (hlive : s.ContextLive)
    (call : ClientCall) : StaysOn s (speakerCommands call) := by
  refine staysOn_lock.bind fun _ => ?_
  cases call.temperature with
  | error what => exact Triple.throwException fun _ ht => ht
  | ok temperature =>
      refine (staysOn_readAlert hlive call).bind fun alertValue => ?_
      refine staysOn_unlock.bind fun _ => Triple.get_bind fun u => ?_
      split
      · refine ((staysOn_setVars emergencySong).consequence (fun _ ht => ht.2)
          fun _ _ ht => ht).bind fun _ => ?_
        refine (staysOn_redisCommand hlive call.setReply).bind fun reply => ?_
        cases reply with
        | none => exact Triple.throwException fun _ ht => ht
        | some reply => exact Triple.ret fun _ ht => ht
      · exact Triple.ret fun _ ht => ht.2

/-- The first command without a live context. -/
theorem readAlert_of_dead {s : RedisClient σ} (h : ¬s.ContextLive) (call : ClientCall) :
    readAlert call s = .error .undefined { s with commands := s.commands ++ [false] } := by
  refine bind_of_error ?_
  unfold redisCommand
  rw [if_neg h]
  rfl

theorem ledCommands_part : CommandPart ledCommands ledReaches where
  blocked := fun call s hlocked => bind_of_error (lock_of_held hlocked)
  live := fun call s hlive => (staysOn_ledCommands hlive call).leftIn
  dead := fun call s hfree hdead _ => by
    have hrun : ledCommands call s =
        .error .undefined { s with locked := true, commands := s.commands ++ [false] } :=
      (bind_of_ok (lock_of_free hfree)).trans (bind_of_error
        (readAlert_of_dead (s := { s with locked := true }) hdead call))
    rw [hrun]
    show false ∈ s.commands ++ [false]
    simp
  stopped := fun call s _ hreaches => nomatch hreaches

theorem speakerCommands_part : CommandPart speakerCommands speakerReaches where
  blocked := fun call s hlocked => bind_of_error (lock_of_held hlocked)
  live := fun call s hlive => (staysOn_speakerCommands hlive call).leftIn
  dead := fun call s hfree hdead hreaches => by
    unfold speakerReaches at hreaches
    cases hread : call.temperature with
    | error what => simp [hread, Except.toOption] at hreaches
    | ok temperature =>
        have hrun : speakerCommands call s =
            .error .undefined { s with locked := true, commands := s.commands ++ [false] } := by
          unfold speakerCommands
          rw [bind_of_ok (lock_of_free hfree), hread]
          exact bind_of_error (readAlert_of_dead (s := { s with locked := true }) hdead call)
        rw [hrun]
        show false ∈ s.commands ++ [false]
        simp
  stopped := fun call s hfree hreaches => by
    unfold speakerReaches at hreaches
    cases hread : call.temperature with
    | ok temperature => simp [hread, Except.toOption] at hreaches
    | error what =>
        refine ⟨.runtimeError what, ?_⟩
        unfold speakerCommands
        rw [bind_of_ok (lock_of_free hfree), hread]
        rfl

end Commands

/-! ## One call -/

section OneCall

variable {σ : Type} {s : RedisClient σ} {call : ClientCall}
  {commands : ClientCall → Cpp (RedisClient σ) Bool} {reaches : ClientCall → Bool}

theorem getAlertStatus_of_context {n : Nat} (h : s.context = some n) :
    getAlertStatus commands call s = commands call s := by
  unfold getAlertStatus
  rw [bind_of_ok (get_apply s), if_neg (by simp [h])]

theorem getAlertStatus_of_no_address (h : s.context = none)
    (hhost : hostAddress call.host = none) :
    getAlertStatus commands call s = .ok false s := by
  unfold getAlertStatus
  rw [bind_of_ok (get_apply s), if_pos h, hhost]
  rfl

/-- The branches on the result of the attempt. -/
theorem getAlertStatus_of_attempt (h : s.context = none) {hostname : String}
    (hhost : hostAddress call.host = some hostname) :
    getAlertStatus commands call s =
      match call.connect hostname with
      | .null => commands call (s.attempted .null)
      | .err => (redisFree >>= fun _ => pure false) (s.attempted .err)
      | .connected => .ok false (s.attempted .connected) := by
  unfold getAlertStatus
  rw [bind_of_ok (get_apply s), if_pos h, hhost]
  refine (bind_of_ok (modify_apply _ _)).trans ?_
  cases call.connect hostname with
  | null => rfl
  | err => rfl
  | connected => rfl

/-- A call on a context which is kept. -/
theorem callSound_of_same (hs : ClientInv s) {n : Nat} (hn : s.context = some n)
    (hlive : s.ContextLive)
    {result : EStateM.Result (Fault CppException) (RedisClient σ) Bool}
    (h : SameConnection s (leftIn result)) :
    CallSound s call result ∧ ClientInv (leftIn result) :=
  ⟨⟨h.noMisuse hs.noMisuse, fun _ => .inr (h.contextLive.mpr hlive),
    fun hfailed => absurd hfailed (hs.not_failed hn)⟩, hs.same h⟩

/-- Under the condition a call is sound and keeps the invariant. -/
theorem callSound_of_condition (hpart : CommandPart commands reaches) (hs : ClientInv s)
    (hcondition : ConnectionCondition reaches s (.call call)) :
    CallSound s call (getAlertStatus commands call s) ∧
      ClientInv (leftIn (getAlertStatus commands call s)) := by
  unfold ConnectionCondition at hcondition
  dsimp only at hcondition
  cases hn : s.context with
  | some n =>
      rw [hn] at hcondition
      rw [getAlertStatus_of_context hn]
      by_cases hfreed : n ∈ s.freed
      · -- the call waits for the lock
        rw [hpart.blocked call s (hcondition hfreed)]
        exact ⟨⟨hs.noMisuse, fun hover => (nomatch hover),
          fun hfailed => absurd hfailed (hs.not_failed hn)⟩, hs⟩
      · have hlive : s.ContextLive := ⟨n, hn, (hs.last n hn).1, hfreed⟩
        exact callSound_of_same hs hn hlive (hpart.live call s hlive)
  | none =>
      rw [hn] at hcondition
      cases hhost : hostAddress call.host with
      | none =>
          rw [getAlertStatus_of_no_address hn hhost]
          refine ⟨⟨hs.noMisuse, fun _ => .inl hn, fun _ hsome => ?_⟩, hs⟩
          rw [hhost] at hsome
          cases hsome
      | some hostname =>
          rw [getAlertStatus_of_attempt hn hhost]
          rcases hcondition hostname (by simp [hhost]) with hconnected | ⟨hnull, hstops⟩
          · rw [hconnected]
            have hinv := hs.attempted_connected
            have hlive : (s.attempted .connected).ContextLive :=
              ⟨s.attempts.length, rfl, by simp [attempted],
                fun hmem => absurd (hs.freed _ hmem) (Nat.lt_irrefl _)⟩
            exact ⟨⟨hinv.noMisuse, fun _ => .inr hlive, fun _ _ => by
              simp [leftIn, attempted]⟩, hinv⟩
          · rw [hnull]
            dsimp only
            have hinv := hs.attempted_null
            have hretried : s.attempts.length < (s.attempted .null).attempts.length := by
              simp [attempted]
            by_cases hlocked : s.locked = true
            · rw [hpart.blocked call (s.attempted .null) hlocked]
              exact ⟨⟨hinv.noMisuse, fun hover => (nomatch hover), fun _ _ => hretried⟩, hinv⟩
            · have hfree : (s.attempted .null).locked = false := by
                show s.locked = false
                simpa using hlocked
              rcases hpart.stopped call (s.attempted .null) hfree
                (hstops.resolve_left hlocked) with ⟨e, hrun⟩
              have hleft : ClientInv { s.attempted .null with locked := true } :=
                hinv.same ⟨rfl, rfl, rfl, fun _ hmem => .inl hmem⟩
              rw [hrun]
              exact ⟨⟨hleft.noMisuse, fun _ => .inl rfl, fun _ _ => hretried⟩, hleft⟩

/-- A sound call met the condition. -/
theorem condition_of_callSound (hpart : CommandPart commands reaches) (hs : ClientInv s)
    (h : CallSound s call (getAlertStatus commands call s)) :
    ConnectionCondition reaches s (.call call) := by
  unfold ConnectionCondition
  dsimp only
  cases hn : s.context with
  | some n =>
      intro hfreed
      rw [getAlertStatus_of_context hn] at h
      by_contra hnot
      have hfree : s.locked = false := by simpa using hnot
      have hdead : ¬s.ContextLive := by
        rintro ⟨m, hm, -, hkept⟩
        rw [hn] at hm
        cases hm
        exact hkept hfreed
      cases hreaches : reaches call with
      | true =>
          have hsent := h.noMisuse.commands false (hpart.dead call s hfree hdead hreaches)
          cases hsent
      | false =>
          -- the exception leaves the context which was freed before
          rcases hpart.stopped call s hfree hreaches with ⟨e, hrun⟩
          rw [hrun] at h
          rcases h.context rfl with hnone | hlive
          · have hsame : s.context = none := hnone
            rw [hn] at hsame
            cases hsame
          · exact hdead hlive
  | none =>
      intro hostname hhost
      rw [getAlertStatus_of_attempt hn hhost] at h
      cases hconnect : call.connect hostname with
      | connected => exact .inl rfl
      | null =>
          refine .inr ⟨rfl, ?_⟩
          rw [hconnect] at h
          dsimp only at h
          by_contra hnot
          rw [not_or, Bool.not_eq_true, Bool.not_eq_false] at hnot
          have hdead : ¬(s.attempted .null).ContextLive := by
            rintro ⟨m, hm, -⟩
            cases hm
          have hsent := h.noMisuse.commands false
            (hpart.dead call (s.attempted .null) hnot.1 hdead hnot.2)
          cases hsent
      | err =>
          rw [hconnect] at h
          have hnew : s.attempts.length ∉ s.freed :=
            fun hmem => absurd (hs.freed _ hmem) (Nat.lt_irrefl _)
          have hrun : (redisFree >>= fun _ => (pure false : Cpp (RedisClient σ) Bool))
              (s.attempted .err) = .ok false { s.attempted .err with
                freed := s.freed ++ [s.attempts.length] } := by
            refine bind_of_ok (a := ()) ?_
            show (if s.attempts.length ∈ s.freed then _ else _) = _
            rw [if_neg hnew]
            rfl
          rw [hrun] at h
          -- the pointer to the context which was freed is kept
          rcases h.context rfl with hnone | ⟨m, hm, -, hkept⟩
          · cases hnone
          · cases hm
            simp [leftIn] at hkept

/-- Every event is sound exactly under the condition. -/
theorem stepSound_iff (hpart : CommandPart commands reaches) (hs : ClientInv s)
    (event : ClientEvent) :
    StepSound commands s event ↔ ConnectionCondition reaches s event := by
  have hfree : NoMisuse (leftIn (redisFree s)) ↔ ∀ n ∈ s.context, n ∉ s.freed := by
    refine ⟨fun hsound n hn hfreed => ?_, fun hcontext => (hs.redisFree hcontext).noMisuse⟩
    have hagain : leftIn (redisFree s) = { s with freed := s.freed ++ [n] } := by
      unfold redisFree
      rw [show s.context = some n from hn]
      dsimp only
      rw [if_pos hfreed]
      rfl
    rw [hagain] at hsound
    exact (List.nodup_append.mp hsound.freed).2.2 n hfreed n (by simp) rfl
  cases event with
  | call call =>
      exact ⟨condition_of_callSound hpart hs, fun h => (callSound_of_condition hpart hs h).1⟩
  | mainThrows => exact hfree
  | mainJoins => exact hfree

end OneCall

/-! ## Runs -/

section Runs

variable {σ : Type} {commands : ClientCall → Cpp (RedisClient σ) Bool}
  {reaches : ClientCall → Bool}

/-- The end of the process does not matter to the invariant. -/
theorem ClientInv.afterwards {α : Type}
    {result : EStateM.Result (Fault CppException) (RedisClient σ) α}
    (h : ClientInv (leftIn result)) : ClientInv (afterwards result) := by
  cases result with
  | ok a s => exact h
  | error e s =>
      cases e with
      | exception e => exact h
      | undefined => exact h.same ⟨rfl, rfl, rfl, fun _ hmem => .inl hmem⟩
      | blocked => exact h

theorem ClientInv.step (hpart : CommandPart commands reaches) {s t : RedisClient σ}
    {event : ClientEvent} (hs : ClientInv s) (hcondition : ConnectionCondition reaches s event)
    (hstep : clientStep commands s event = some t) : ClientInv t := by
  have hmain : ∀ main, ClientInv { s with main := main } :=
    fun _ => hs.same ⟨rfl, rfl, rfl, fun _ hmem => .inl hmem⟩
  cases event with
  | call call =>
      simp only [clientStep] at hstep
      split at hstep
      · cases hstep
      · cases hstep
        exact (callSound_of_condition hpart hs hcondition).2.afterwards
  | mainThrows =>
      simp only [clientStep] at hstep
      split at hstep
      · cases hstep
        exact ((hmain .caught).redisFree hcondition).afterwards
      · cases hstep
  | mainJoins =>
      simp only [clientStep] at hstep
      split at hstep
      · cases hstep
      · cases hstep
        exact ((hmain .ended).redisFree hcondition).afterwards

/-- A run of a client is sound throughout if and only if it meets the condition
throughout. -/
theorem guarded_stepSound_iff (hpart : CommandPart commands reaches) (vars : σ)
    (events : List ClientEvent) :
    Guarded (clientStep commands) (StepSound commands) (.initial vars) events ↔
      Guarded (clientStep commands) (ConnectionCondition reaches) (.initial vars) events := by
  have hiff : ∀ (s : RedisClient σ) event, ClientInv s →
      (StepSound commands s event ↔ ConnectionCondition reaches s event) :=
    fun _ event hs => stepSound_iff hpart hs event
  refine Guarded.congr (fun s event t hs hsound hstep => ?_) hiff (clientInv_initial vars) events
  exact hs.step hpart ((hiff s event hs).mp hsound) hstep

end Runs

/-- **The Redis connection.**  For both clients, with any song and any value of the LED to
begin with, all events of a run are sound exactly when all of them meet the condition. -/
theorem connection_sound_iff (song : String) (value : Int) (events : List ClientEvent) :
    (Guarded (clientStep speakerCommands) (StepSound speakerCommands) (.initial song) events ↔
      Guarded (clientStep speakerCommands) (ConnectionCondition speakerReaches)
        (.initial song) events) ∧
    (Guarded (clientStep ledCommands) (StepSound ledCommands) (.initial value) events ↔
      Guarded (clientStep ledCommands) (ConnectionCondition ledReaches)
        (.initial value) events) :=
  ⟨guarded_stepSound_iff speakerCommands_part song events,
    guarded_stepSound_iff ledCommands_part value events⟩

/-- Redis refuses the connection. -/
def refusedCall : ClientCall where
  host := "coap://192.168.0.10:5683"
  connect := fun _ => .err
  temperature := .ok 20000
  getReply := none
  setReply := none

/-- The context with the error is freed and stays in `m_context`. -/
theorem refused_context_kept :
    ¬∀ events, Guarded (clientStep ledCommands) (StepSound ledCommands) (.initial 0) events := by
  intro h
  have hcall : CallSound (.initial 0) refusedCall
      (getAlertStatus ledCommands refusedCall (.initial 0)) := (h [.call refusedCall]).1
  have hrun : getAlertStatus ledCommands refusedCall (.initial 0) =
      .ok false { RedisClient.initial 0 with
        attempts := [.err], context := some 0, freed := [0] } := rfl
  rw [hrun] at hcall
  rcases hcall.context rfl with hnone | ⟨n, hn, -, hkept⟩
  · cases hnone
  · cases hn
    simp [leftIn] at hkept

end Clients
end FireEvacuation
