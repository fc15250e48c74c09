import FireEvacuation.Clients.CallAlone

/-!
# `getAlertStatus` of both clients alone

The connection of a client is given twice: by the attempts which were made and freed, for
whole calls, and by what `m_context` is, for the steps of the threads.  The thread of one call
alone does what the call does.
-/

namespace FireEvacuation
namespace Clients

open FireEvacuation.Core FireEvacuation.Core.Effect Platform Speaker
open Redis hiding redisCommand

/-! ## The context of both clients -/

/-- What `m_context` is, when the attempts are not numbered. -/
def contextOf {ρ : Type} (s : RedisClient ρ) : Context :=
  match s.context with
  | none => .null
  | some n => if s.attempts[n]? = some .connected ∧ n ∉ s.freed then .live else .freed

section Contexts

variable {ρ : Type} {s : RedisClient ρ}

theorem contextOf_eq_live_iff : contextOf s = .live ↔ s.ContextLive := by
  rw [contextOf, RedisClient.ContextLive]
  cases s.context with
  | none => simp
  | some n => simp

theorem contextOf_eq_null_iff : contextOf s = .null ↔ s.context = none := by
  rw [contextOf]
  cases s.context with
  | none => simp
  | some n =>
      dsimp only
      split
      · simp
      · simp

/-- The attempts which were freed were made. -/
def FreedMade (s : RedisClient ρ) : Prop := ∀ k ∈ s.freed, k < s.attempts.length

theorem FreedMade.attempted (h : FreedMade s) (answer : Connection) :
    FreedMade (s.attempted answer) := by
  intro k hk
  have hlt := h k hk
  rw [RedisClient.attempted, List.length_append]
  omega

/-- A new attempt has not been freed. -/
theorem contextOf_attempted (h : FreedMade s) (answer : Connection) :
    contextOf (s.attempted answer) = connectedContext answer := by
  have hnew : s.attempts.length ∉ s.freed := fun hmem => Nat.lt_irrefl _ (h _ hmem)
  cases answer with
  | null => rfl
  | err => simp [contextOf, RedisClient.attempted, connectedContext]
  | connected => simp [contextOf, RedisClient.attempted, connectedContext, hnew]

/-- A context with `err` set is as dead before `redisFree` as after it. -/
theorem redisFree_attempted_err (h : FreedMade s) :
    ∃ t, RedisClient.redisFree (s.attempted .err) = .ok () t ∧ contextOf t = .freed ∧ FreedMade t ∧
      t.locked = s.locked ∧ t.vars = s.vars := by
  have hnew : s.attempts.length ∉ s.freed := fun hmem => Nat.lt_irrefl _ (h _ hmem)
  refine ⟨{ s.attempted .err with freed := s.freed ++ [s.attempts.length] }, ?_, ?_, ?_, rfl, rfl⟩
  · exact if_neg hnew
  · simp [contextOf, RedisClient.attempted]
  · intro k hk
    show k < (s.attempts ++ [Connection.err]).length
    rw [List.length_append, List.length_singleton]
    rcases List.mem_append.mp hk with hold | hlast
    · have hlt := h k hold
      omega
    · rw [List.mem_singleton.mp hlast]
      omega

end Contexts

/-- The thread runs in this client. -/
structure ShowsClient {σ τ ρ : Type} (code : ClientCode σ τ) (view : σ → ρ)
    (n : Alone σ τ Unit) (s : RedisClient ρ) : Prop where
  context : code.context n.client.vars = contextOf s
  locked : n.client.holder.isSome = s.locked
  vars : view n.client.vars = s.vars
  freed : FreedMade s

/-- It runs in the same client wherever it stands. -/
theorem ShowsClient.moved {σ τ ρ : Type} {code : ClientCode σ τ} {view : σ → ρ}
    {n : Alone σ τ Unit} {s : RedisClient ρ} (h : ShowsClient code view n s) (thread : τ) :
    ShowsClient code view ⟨n.client, thread, ()⟩ s :=
  ⟨h.context, h.locked, h.vars, h.freed⟩

/-- The thread of a call of `getAlertStatus`. -/
def clientAlone {σ τ ρ : Type} (code : ClientCode σ τ) (answers : Answers τ Unit) (view : σ → ρ) :
    Machine (Alone σ τ Unit) (RedisClient ρ) CppException :=
  code.alone answers (ShowsClient code view)

section ClientAlone

variable {σ τ ρ : Type} {code : ClientCode σ τ} {answers : Answers τ Unit} {view : σ → ρ}
  {call : ClientCall}

theorem clientAlone_step {client next : Watched σ} {thread thread' : τ}
    (hsends : code.sends thread = true → code.context client.vars = .live)
    (h : code.advance 0 client thread (answers.answer () thread) = some (next, thread')) :
    (clientAlone code answers view).step ⟨client, thread, ()⟩ () = some ⟨next, thread', ()⟩ := by
  show code.aloneStep answers _ () = _
  rw [ClientCode.aloneStep_eq hsends]
  show (code.advance 0 client thread _).map _ = _
  rw [h]
  rfl

theorem carriesOut_lock {thread next : τ} (hwaits : code.waits thread = true)
    (hsends : code.sends thread = false)
    (hadvance : ∀ s answer, code.advance 0 s thread answer =
      (s.lock 0).map fun t => (t, next)) :
    (clientAlone code answers view).CarriesOut (At thread) RedisClient.lock fun _ => At next := by
  refine .single_or_here fun n s hn hs => ?_
  obtain ⟨client, start, kept⟩ := n
  cases hn
  by_cases hfree : client.holder = none
  · have hnext : ∀ answer, code.advance 0 client start answer =
        some ({ client with holder := some 0 }, next) := by
      intro answer
      rw [hadvance, Watched.lock, if_pos hfree]
      rfl
    have hunlocked : s.locked = false := by
      rw [← hs.locked, show client.holder = none from hfree]
      rfl
    right
    refine ⟨_, clientAlone_step (sendsNothing hsends) (hnext _), ?_⟩
    rw [RedisClient.lock, if_neg (by rw [hunlocked]; exact Bool.false_ne_true)]
    exact ⟨rfl, hs.context, rfl, hs.vars, hs.freed⟩
  · have hheld : s.locked = true := hs.locked ▸ Option.isSome_iff_ne_none.mpr hfree
    left
    rw [RedisClient.lock, if_pos hheld]
    exact ⟨⟨hwaits, hfree⟩, hs⟩

theorem carriesOut_unlock {thread next : τ} (hsends : code.sends thread = false)
    (hadvance : ∀ s answer, code.advance 0 s thread answer = some (s.unlock, next)) :
    (clientAlone code answers view).CarriesOut (At thread) RedisClient.unlock fun _ => At next := by
  refine .single fun n s hn hs => ?_
  obtain ⟨client, start, kept⟩ := n
  cases hn
  exact ⟨_, clientAlone_step (sendsNothing hsends) (hadvance _ _),
    rfl, hs.context, rfl, hs.vars, hs.freed⟩

/-- A command is sent over a live context only. -/
theorem carriesOut_redisCommand {thread : τ} {reply : Option Reply} {next : Reply → τ}
    (hsends : code.sends thread = true)
    (hadvance : ∀ s, code.advance 0 s thread (answers.answer () thread) =
      some (s.send 0, reply.elim code.thrown next)) :
    (clientAlone code answers view).CarriesOut (At thread) (RedisClient.redisCommand reply)
      fun answer => At (answer.elim code.thrown next) := by
  refine .single_or_here fun n s hn hs => ?_
  obtain ⟨client, start, kept⟩ := n
  cases hn
  by_cases hlive : s.ContextLive
  · right
    have hcontext : code.context client.vars = .live :=
      hs.context.trans (contextOf_eq_live_iff.mpr hlive)
    rw [RedisClient.redisCommand, if_pos hlive]
    exact ⟨_, clientAlone_step (fun _ => hcontext) (hadvance _),
      rfl, hs.context, hs.locked, hs.vars, hs.freed⟩
  · left
    have hcontext : code.context client.vars ≠ .live := fun heq =>
      hlive (contextOf_eq_live_iff.mp (hs.context.symm.trans heq))
    rw [RedisClient.redisCommand, if_neg hlive]
    exact ⟨Or.inr ⟨hsends, hcontext⟩, hs.context, hs.locked, hs.vars, hs.freed⟩

/-- `GET alert` and its text. -/
theorem carriesOut_readAlert {thread : τ} {text : Reply → τ} {next : String → τ}
    (hsends : code.sends thread = true) (htext : ∀ reply, code.sends (text reply) = false)
    (hcommand : ∀ s, code.advance 0 s thread (answers.answer () thread) =
      some (s.send 0, call.getReply.elim code.thrown text))
    (hread : ∀ s reply answer, code.advance 0 s (text reply) answer =
      some (s.readText reply, reply.str.elim code.crashed next)) :
    (clientAlone code answers view).CarriesOut (At thread) (readAlert call)
      fun alertValue => At (next alertValue) := by
  refine (carriesOut_redisCommand hsends hcommand).bind fun answer => ?_
  cases answer with
  | none => exact .here fun n s hn hs => ⟨hn, hs⟩
  | some reply =>
      refine .single fun n s hn hs => ?_
      obtain ⟨client, start, kept⟩ := n
      cases hn
      cases htextOf : reply.str with
      | none =>
          have hnext : ∀ answer, code.advance 0 client (text reply) answer =
              some (client.readText reply, code.crashed) := by
            intro answer
            rw [hread, htextOf]
            rfl
          dsimp only
          rw [htextOf]
          exact ⟨_, clientAlone_step (sendsNothing (htext reply)) (hnext _),
            Or.inl rfl, hs.context, hs.locked, hs.vars, hs.freed⟩
      | some alertValue =>
          have hnext : ∀ answer, code.advance 0 client (text reply) answer =
              some (client.readText reply, next alertValue) := by
            intro answer
            rw [hread, htextOf]
            rfl
          dsimp only
          rw [htextOf]
          exact ⟨_, clientAlone_step (sendsNothing (htext reply)) (hnext _),
            rfl, hs.context, hs.locked, hs.vars, hs.freed⟩

/-- The steps of `getAlertStatus` up to the lock, which are the same for both clients. -/
structure StatusSteps (code : ClientCode σ τ) (answers : Answers τ Unit) (view : σ → ρ)
    (call : ClientCall) where
  testContext : τ
  connect : τ
  lock : τ
  answered : Bool → τ
  setContext : σ → Context → σ
  context_set : ∀ vars context, code.context (setContext vars context) = context
  view_set : ∀ vars context, view (setContext vars context) = view vars
  noCommand : code.sends testContext = false ∧ code.sends connect = false
  test : ∀ s answer, code.advance 0 s testContext answer =
    some (s, if code.context s.vars = .null then connect else lock)
  noHost : hostAddress call.host = none → ∀ s answer,
    code.advance 0 s connect answer = some (s, answered false)
  host : ∀ hostname, hostAddress call.host = some hostname → ∀ s,
    code.advance 0 s connect (answers.answer () connect) =
      some (s.setVars (setContext s.vars (connectedContext (call.connect hostname))),
        if call.connect hostname = .null then lock else answered false)

namespace StatusSteps

variable (steps : StatusSteps code answers view call)

/-- The test of `m_context`. -/
theorem step_testContext {n : Alone σ τ Unit} {s : RedisClient ρ} (hn : At steps.testContext n)
    (hs : ShowsClient code view n s) :
    ∃ t, (clientAlone code answers view).step n () = some t ∧ ShowsClient code view t s ∧
      (s.context = none → At steps.connect t) ∧ (¬s.context = none → At steps.lock t) := by
  obtain ⟨client, start, kept⟩ := n
  cases hn
  have hiff : code.context client.vars = .null ↔ s.context = none := by
    rw [show code.context client.vars = contextOf s from hs.context, contextOf_eq_null_iff]
  exact ⟨_, clientAlone_step (sendsNothing steps.noCommand.1) (steps.test client _), hs.moved _,
    fun hnone => if_pos (hiff.mpr hnone), fun hset => if_neg (mt hiff.mp hset)⟩

/-- What the thread shows when its variables have the new context. -/
theorem shows_setContext {n : Alone σ τ Unit} {t u : RedisClient ρ} {context : Context}
    (ht : ShowsClient code view n t) (hcontext : contextOf u = context) (hfreed : FreedMade u)
    (hlocked : u.locked = t.locked) (hvars : u.vars = t.vars) (thread : τ) :
    ShowsClient code view
      ⟨n.client.setVars (steps.setContext n.client.vars context), thread, ()⟩ u where
  context := (steps.context_set _ _).trans hcontext.symm
  locked := ht.locked.trans hlocked.symm
  vars := ((steps.view_set _ _).trans ht.vars).trans hvars.symm
  freed := hfreed

/-- A host without address. -/
theorem carriesOut_noHost (hhost : hostAddress call.host = none) :
    (clientAlone code answers view).CarriesOut (At steps.connect)
      (pure false) fun ret => At (steps.answered ret) := by
  refine .single fun n t hn ht => ?_
  obtain ⟨client, start, kept⟩ := n
  cases hn
  exact ⟨_, clientAlone_step (sendsNothing steps.noCommand.2) (steps.noHost hhost client _), rfl,
    ht.moved _⟩

/-- The step of the connection. -/
theorem step_connect {hostname : String} (hhost : hostAddress call.host = some hostname)
    {n : Alone σ τ Unit} (hn : At steps.connect n) :
    (clientAlone code answers view).step n () = some ⟨n.client.setVars
        (steps.setContext n.client.vars (connectedContext (call.connect hostname))),
      if call.connect hostname = .null then steps.lock else steps.answered false, ()⟩ := by
  obtain ⟨client, start, kept⟩ := n
  cases hn
  exact clientAlone_step (sendsNothing steps.noCommand.2) (steps.host hostname hhost client)

/-- The attempt. -/
theorem carriesOut_redisConnect {hostname : String}
    (hhost : hostAddress call.host = some hostname) :
    (clientAlone code answers view).CarriesOut (At steps.connect)
      (RedisClient.redisConnect (call.connect hostname)) fun _ =>
        At (if call.connect hostname = .null then steps.lock else steps.answered false) := by
  refine .single fun n t hn ht => ⟨_, steps.step_connect hhost hn, rfl, ?_⟩
  exact steps.shows_setContext ht (contextOf_attempted ht.freed _) (ht.freed.attempted _)
    rfl rfl _

/-- The attempt whose context is freed at once. -/
theorem carriesOut_redisFree {hostname : String}
    (hhost : hostAddress call.host = some hostname) (herr : call.connect hostname = .err) :
    (clientAlone code answers view).CarriesOut (At steps.connect)
      (RedisClient.redisConnect .err >>= fun _ =>
        RedisClient.redisFree >>= fun _ => pure false) fun ret => At (steps.answered ret) := by
  have hnext := fun n hn => steps.step_connect hhost (n := n) hn
  rw [herr] at hnext
  refine .single fun n t hn ht => ⟨_, hnext n hn, ?_⟩
  obtain ⟨u, hfree, hcontext, hfreed, hlocked, hvars⟩ := redisFree_attempted_err ht.freed
  have hconnect : RedisClient.redisConnect .err t = .ok () (t.attempted .err) := modify_apply _ t
  rw [bind_of_ok hconnect, bind_of_ok hfree]
  exact ⟨rfl, steps.shows_setContext ht hcontext hfreed hlocked hvars _⟩

end StatusSteps

/-- **`getAlertStatus`.**  When the part behind the lock is carried out, the whole call is. -/
theorem carriesOut_clientStatus (steps : StatusSteps code answers view call)
    {commands : ClientCall → Cpp (RedisClient ρ) Bool}
    (hcommands : (clientAlone code answers view).CarriesOut (At steps.lock) (commands call)
      fun ret => At (steps.answered ret)) :
    (clientAlone code answers view).CarriesOut (At steps.testContext)
      (getAlertStatus commands call) fun ret => At (steps.answered ret) := by
  refine .get_ite (fun n s hn hs => steps.step_testContext hn hs) ?_ hcommands
  cases hhost : hostAddress call.host with
  | none => exact steps.carriesOut_noHost hhost
  | some hostname =>
      dsimp only
      have hconnect := steps.carriesOut_redisConnect hhost
      have hfree := steps.carriesOut_redisFree hhost
      cases hresult : call.connect hostname with
      | null =>
          rw [hresult] at hconnect
          exact hconnect.bind fun _ => hcommands
      | connected =>
          rw [hresult] at hconnect
          exact hconnect.bind fun _ => .ret fun n hn => hn
      | err => exact hfree hresult

end ClientAlone

/-! ## The two clients -/

/-- What the outside does for a call of `getAlertStatus` of the speaker. -/
def speakerStatusAnswers (call : ClientCall) : Answers SpeakerThread Unit where
  answer _
    | .readTemper => ⟨.null, call.temperature, none⟩
    | .getAlert _ => ⟨.null, .ok 0, call.getReply⟩
    | .setAlert => ⟨.null, .ok 0, call.setReply⟩
    | _ => ⟨(hostAddress call.host).elim .null call.connect, .ok 0, none⟩
  after _ _ := ()

/-- What it does for one of the LED. -/
def ledStatusAnswers (call : ClientCall) : Answers LedThread Unit where
  answer _
    | .getAlert => ⟨.null, .ok 0, call.getReply⟩
    | _ => ⟨(hostAddress call.host).elim .null call.connect, .ok 0, none⟩
  after _ _ := ()

def LedThread.sends : LedThread → Bool
  | .getAlert => true
  | _ => false

def LedThread.waits : LedThread → Bool
  | .lock => true
  | _ => false

/-- The steps of the LED. -/
def ledCode : ClientCode LedVars LedThread where
  advance := ledAdvance
  context := LedVars.context
  sends := LedThread.sends
  waits := LedThread.waits
  thrown := .thrown
  crashed := .crashed
  locks := by
    intro s thread answer hwaits hheld
    have hlock : s.lock 0 = none := if_neg hheld
    cases thread with
    | lock =>
        rw [ledAdvance, hlock]
        rfl
    | testContext host | connect host | getAlert | readText reply | unlock alertValue
    | setValue alertValue | build ret | done alertState | thrown | crashed => cases hwaits
  ends := fun s answer => ⟨rfl, rfl⟩

section Clients

variable (call : ClientCall)

def speakerStatusSteps :
    StatusSteps speakerCode (speakerStatusAnswers call) SpeakerVars.currentSong call where
  testContext := .testContext call.host
  connect := .connect call.host
  lock := .lock
  answered := .writeLatch
  setContext vars context := { vars with context := context }
  context_set := fun _ _ => rfl
  view_set := fun _ _ => rfl
  noCommand := ⟨rfl, rfl⟩
  test := fun _ _ => rfl
  noHost := by
    intro hhost s answer
    show speakerAdvance 0 s (.connect call.host) answer = _
    rw [speakerAdvance, hhost]
  host := by
    intro hostname hhost s
    show speakerAdvance 0 s (.connect call.host)
      ⟨(hostAddress call.host).elim .null call.connect, _, _⟩ = _
    rw [speakerAdvance, hhost]
    rfl

def ledStatusSteps : StatusSteps ledCode (ledStatusAnswers call) LedVars.value call where
  testContext := .testContext call.host
  connect := .connect call.host
  lock := .lock
  answered := .build
  setContext vars context := { vars with context := context }
  context_set := fun _ _ => rfl
  view_set := fun _ _ => rfl
  noCommand := ⟨rfl, rfl⟩
  test := fun _ _ => rfl
  noHost := by
    intro hhost s answer
    show ledAdvance 0 s (.connect call.host) answer = _
    rw [ledAdvance, hhost]
  host := by
    intro hostname hhost s
    show ledAdvance 0 s (.connect call.host)
      ⟨(hostAddress call.host).elim .null call.connect, _, _⟩ = _
    rw [ledAdvance, hhost]
    rfl

/-- The thread of a call of the speaker, and of one of the LED. -/
abbrev speakerStatus : Machine (Alone SpeakerVars SpeakerThread Unit) (RedisClient String)
    CppException :=
  clientAlone speakerCode (speakerStatusAnswers call) SpeakerVars.currentSong

abbrev ledStatus : Machine (Alone LedVars LedThread Unit) (RedisClient Int) CppException :=
  clientAlone ledCode (ledStatusAnswers call) LedVars.value

/-- The alarm: the song, and then the key. -/
theorem carriesOut_raise :
    (speakerStatus call).CarriesOut (At .writeSong)
      (RedisClient.setVars emergencySong >>= fun _ =>
        RedisClient.redisCommand call.setReply >>= fun answer =>
          match answer with
          | none => throwException noAlertReply
          | some _ => pure true) fun ret => At (.writeLatch ret) := by
  have hsong : (speakerStatus call).CarriesOut (At .writeSong)
      (RedisClient.setVars emergencySong) fun _ => At .setAlert := by
    refine .single fun n t hn ht => ?_
    obtain ⟨client, start, kept⟩ := n
    cases hn
    exact ⟨_, clientAlone_step (sendsNothing rfl) rfl, rfl, ht.context, ht.locked, rfl, ht.freed⟩
  have hset : ∀ t, speakerAdvance 0 t .setAlert ⟨.null, .ok 0, call.setReply⟩ =
      some (t.send 0, call.setReply.elim .thrown fun _ => .writeLatch true) := by
    intro t
    rw [speakerAdvance]
    cases call.setReply <;> rfl
  refine hsong.bind fun _ => (carriesOut_redisCommand rfl hset).bind fun answer => ?_
  cases answer with
  | none => exact .here fun n t hn ht => ⟨hn, ht⟩
  | some reply => exact .ret fun n hn => hn

/-- The key is read. -/
theorem carriesOut_speakerRead (temperature : Int) :
    (speakerStatus call).CarriesOut (At (.getAlert temperature)) (readAlert call)
      fun alertValue => At (.unlock temperature alertValue) := by
  have htext : ∀ reply, speakerCode.sends (.readText temperature reply) = false := fun _ => rfl
  refine carriesOut_readAlert rfl htext (fun s => ?_) fun s reply answer => ?_
  · show speakerAdvance 0 s (.getAlert temperature) ⟨_, _, call.getReply⟩ = _
    rw [speakerAdvance]
    cases call.getReply <;> rfl
  · show speakerAdvance 0 s (.readText temperature reply) answer = _
    rw [speakerAdvance]
    cases reply.str <;> rfl

/-- The look at the song. -/
theorem step_testSong {temperature : Int} {alertValue : String}
    {n : Alone SpeakerVars SpeakerThread Unit} {s : RedisClient String}
    (hn : At (.testSong temperature alertValue) n)
    (hs : ShowsClient speakerCode SpeakerVars.currentSong n s) :
    ∃ t, (speakerStatus call).step n () = some t ∧
      ShowsClient speakerCode SpeakerVars.currentSong t s ∧
      (switchesSong s.vars temperature alertValue = true → At .writeSong t) ∧
      (¬switchesSong s.vars temperature alertValue = true → At (.writeLatch false) t) := by
  obtain ⟨client, start, kept⟩ := n
  cases hn
  have hsong : client.vars.currentSong = s.vars := hs.vars
  rw [← hsong]
  exact ⟨_, clientAlone_step (sendsNothing rfl) rfl, hs.moved _,
    fun hswitches => if_pos hswitches, fun hswitches => if_neg hswitches⟩

/-- **The speaker.** -/
theorem carriesOut_speakerStatus :
    (speakerStatus call).CarriesOut (At (.testContext call.host))
      (getAlertStatus speakerCommands call) fun ret => At (.writeLatch ret) := by
  refine carriesOut_clientStatus (speakerStatusSteps call) ?_
  refine (carriesOut_lock rfl rfl fun _ _ => rfl).bind fun _ => ?_
  cases hread : call.temperature with
  | error what =>
      refine .single fun n s hn hs => ?_
      obtain ⟨client, start, kept⟩ := n
      cases hn
      refine ⟨⟨client, .thrown, ()⟩, clientAlone_step (sendsNothing rfl) ?_, rfl, hs.moved _⟩
      show speakerAdvance 0 client .readTemper ⟨_, call.temperature, _⟩ = _
      rw [hread]
      rfl
  | ok temperature =>
      refine ((carriesOut_speakerRead call temperature).bind fun alertValue => ?_).silent
        fun n s hn hs => ?_
      · refine (carriesOut_unlock rfl fun _ _ => rfl).bind fun _ => ?_
        exact .get_ite (fun n s hn hs => step_testSong call hn hs) (carriesOut_raise call)
          (.ret fun n hn => hn)
      · obtain ⟨client, start, kept⟩ := n
        cases hn
        refine ⟨⟨client, .getAlert temperature, ()⟩, clientAlone_step (sendsNothing rfl) ?_,
          rfl, hs.moved _⟩
        show speakerAdvance 0 client .readTemper ⟨_, call.temperature, _⟩ = _
        rw [hread]
        rfl

/-- **The LED.** -/
theorem carriesOut_ledStatus :
    (ledStatus call).CarriesOut (At (.testContext call.host)) (getAlertStatus ledCommands call)
      fun ret => At (.build ret) := by
  refine carriesOut_clientStatus (ledStatusSteps call) ?_
  refine (carriesOut_lock rfl rfl fun _ _ => rfl).bind fun _ => ?_
  have htext : ∀ reply, ledCode.sends (.readText reply) = false := fun _ => rfl
  have hread : (ledStatus call).CarriesOut (At .getAlert) (readAlert call)
      fun alertValue => At (.unlock alertValue) := by
    refine carriesOut_readAlert rfl htext (fun s => ?_) fun s reply answer => ?_
    · show ledAdvance 0 s .getAlert ⟨_, _, call.getReply⟩ = _
      rw [ledAdvance]
      cases call.getReply <;> rfl
    · show ledAdvance 0 s (.readText reply) answer = _
      rw [ledAdvance]
      cases reply.str <;> rfl
  refine hread.bind fun alertValue => ?_
  refine (carriesOut_unlock rfl fun _ _ => rfl).bind fun _ => ?_
  refine .single fun n s hn hs => ?_
  obtain ⟨client, start, kept⟩ := n
  cases hn
  exact ⟨_, clientAlone_step (sendsNothing rfl) rfl, rfl, hs.context, hs.locked, rfl, hs.freed⟩

end Clients

end Clients
end FireEvacuation
