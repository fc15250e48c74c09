import FireEvacuation.Server.RequestHandling
import FireEvacuation.Stack.ListNotification

/-!
# One round of the notifier thread

`ChangeGenericRepresentation` wakes up once a second and, while `m_isStartedThread` is
set, has the stack notify the ids in `m_interestedObservers`.  The result passes
`result_guard` on its way back, and the loop has no handler.
-/

namespace FireEvacuation
namespace Server

open FireEvacuation.Core FireEvacuation.Core.Effect Platform Redis Stack

/-- What a round depends on outside the server: what becomes of each notification, the clock
and the times to live, and the following. -/
structure RoundEnv extends Delivery where
  /-- The stack's list, and the server's resource in it. -/
  observers : List ResourceObserver
  own : ResourceHandle
  /-- `findResource` finds the resource. -/
  known : Bool
  /-- The vector of ids has a buffer, even when it is empty. -/
  buffer : Bool

/-- The server, and the ids of all observers a notification was attempted for. -/
structure NotifierState where
  server : ServerState
  attempts : List UInt8

abbrev NotifierM (α : Type) := Cpp NotifierState α

section Round

variable (env : RoundEnv)

/-- `&observationIds[0]` and the length. -/
def obsIdPointer (observationIds : List UInt8) : Option (List UInt8) :=
  if observationIds = [] ∧ env.buffer = false then none else some observationIds

/-- `OCPlatform::notifyListOfObservers`; its state are the attempts. -/
def notifyListOfObservers (observationIds : List UInt8) : Cpp (List UInt8) OCStackResult :=
  if 255 < observationIds.length then runExcept (resultGuard .error)
  else do
    let answer := OCNotifyListOfObservers env.observers env.own env.toDelivery env.known
      (obsIdPointer env observationIds)
    modify fun attempts => attempts ++ answer.2
    runExcept (resultGuard answer.1)

/-- A call into the stack. -/
def onAttempts {α : Type} (body : Cpp (List UInt8) α) : NotifierM α :=
  onPart NotifierState.attempts (fun s attempts => { s with attempts := attempts }) body

/-- `m_isStartedThread = false;` when nobody was notified. -/
def clearOnNoObservers (result : OCStackResult) (s : NotifierState) : NotifierState :=
  if result = .noObservers then
    { s with server := { s.server with isStartedThread := false } }
  else s

/-- The body of the loop of `ChangeGenericRepresentation` after `sleep`: whether the loop
goes on. -/
def notifierRound : NotifierM Bool := do
  let s ← get
  if s.server.isStartedThread then do
    let _ ← onPart NotifierState.server (fun s server => { s with server := server }) Get
    let result ← onAttempts (notifyListOfObservers env s.server.interestedObservers)
    modify (clearOnNoObservers result)
    pure true
  else pure false

/-- Some observer of the resource is there. -/
def LiveObserver (observer : ResourceObserver) : Prop :=
  observer ∈ env.observers ∧ observer.resource = env.own

/-- What a round promises: no exception, one attempt for every observer, and a notifier
which goes on as long as there is one. -/
def RoundKept (s : NotifierState) : Prop :=
  ∃ t attempts, notifierRound env s = .ok true t ∧ t.attempts = s.attempts ++ attempts ∧
    (∀ observer, LiveObserver env observer → attempts.count observer.observeId = 1) ∧
    ((∃ observer, LiveObserver env observer) → t.server.isStartedThread = true)

/-- The ids fit into eight bits, an empty vector has a buffer, and when there are
observers every id belongs to one of its own, all are sent their notification, and the time
to live of none of them has run out when a search comes past it before its own turn. -/
structure RoundCondition (ids : List UInt8) : Prop where
  fits : ids.length ≤ 255
  buffer : ids = [] → env.buffer = true
  served : (∀ observer, ¬LiveObserver env observer) ∨
    env.known = true ∧ ids.Nodup ∧
      (∀ id ∈ ids, ∃ observer, LiveObserver env observer ∧ observer.observeId = id ∧
        (env.send observer).sent = true) ∧
      ∀ observer, LiveObserver env observer →
        InTime env.observers env.toDelivery ids observer

variable {env}

/-- The answer of the stack, for a list it can be given. -/
def roundAnswer (env : RoundEnv) (ids : List UInt8) : OCStackResult × List UInt8 :=
  if env.known then SendListObserverNotification env.observers env.own env.toDelivery ids
  else (.noResource, [])

theorem notifierRound_of_started {s : NotifierState} (h : s.server.isStartedThread = true) :
    notifierRound env s = (do
      let result ← onAttempts (notifyListOfObservers env s.server.interestedObservers)
      modify (clearOnNoObservers result)
      pure true : NotifierM Bool) { s with server := afterGet s.server } := by
  rw [notifierRound, bind_of_ok (get_apply s), if_pos h,
    bind_of_ok (onPart_of_ok (Get_apply s.server))]

theorem notifyListOfObservers_fits {ids : List UInt8} (hfits : ids.length ≤ 255)
    (hbuffer : ids = [] → env.buffer = true) (attempts : List UInt8) :
    notifyListOfObservers env ids attempts =
      runExcept (resultGuard (roundAnswer env ids).1)
        (attempts ++ (roundAnswer env ids).2) := by
  have hpointer : obsIdPointer env ids = some ids := by
    rw [obsIdPointer, if_neg]
    rintro ⟨hempty, hnone⟩
    rw [hbuffer hempty] at hnone
    cases hnone
  rw [notifyListOfObservers, if_neg (Nat.not_lt.mpr hfits), hpointer,
    bind_of_ok (modify_apply _ attempts)]
  rfl

/-- Too many ids and a null pointer both end in an exception. -/
theorem notifyListOfObservers_throws {ids : List UInt8}
    (h : ¬(ids.length ≤ 255 ∧ (ids = [] → env.buffer = true))) (attempts : List UInt8) :
    ∃ e t, notifyListOfObservers env ids attempts = .error e t := by
  by_cases hfits : ids.length ≤ 255
  · have hpointer : obsIdPointer env ids = none := by
      rw [obsIdPointer, if_pos]
      rw [not_and, Classical.not_imp, Bool.not_eq_true] at h
      exact h hfits
    refine ⟨.exception (.ocException .error), attempts ++ [], ?_⟩
    rw [notifyListOfObservers, if_neg (Nat.not_lt.mpr hfits), hpointer,
      bind_of_ok (modify_apply _ attempts)]
    rfl
  · refine ⟨.exception (.ocException .error), attempts, ?_⟩
    rw [notifyListOfObservers, if_pos (Nat.not_le.mp hfits)]
    rfl

/-- A round returns exactly when the result passes the guard. -/
theorem notifierRound_eq_ok_iff {s t : NotifierState} {goesOn : Bool}
    (h : s.server.isStartedThread = true) :
    notifierRound env s = .ok goesOn t ↔
      (s.server.interestedObservers.length ≤ 255 ∧
        (s.server.interestedObservers = [] → env.buffer = true)) ∧
      (roundAnswer env s.server.interestedObservers).1.passesGuard = true ∧ goesOn = true ∧
      t = clearOnNoObservers (roundAnswer env s.server.interestedObservers).1
        { server := afterGet s.server
          attempts := s.attempts ++ (roundAnswer env s.server.interestedObservers).2 } := by
  rw [notifierRound_of_started h]
  by_cases hgiven : s.server.interestedObservers.length ≤ 255 ∧
      (s.server.interestedObservers = [] → env.buffer = true)
  · have hcall := notifyListOfObservers_fits hgiven.1 hgiven.2 s.attempts
    cases hpasses : (roundAnswer env s.server.interestedObservers).1.passesGuard with
    | true =>
        rw [resultGuard_of_passes hpasses, runExcept_ok] at hcall
        have hround : onAttempts (notifyListOfObservers env s.server.interestedObservers)
            { s with server := afterGet s.server } = .ok _ _ := onPart_of_ok hcall
        rw [bind_of_ok hround, bind_of_ok (modify_apply _ _), pure_apply]
        constructor
        · intro heq
          cases heq
          exact ⟨hgiven, rfl, rfl, rfl⟩
        · rintro ⟨-, -, rfl, rfl⟩
          rfl
    | false =>
        rw [resultGuard_of_not_passes hpasses, runExcept_error] at hcall
        have hround : onAttempts (notifyListOfObservers env s.server.interestedObservers)
            { s with server := afterGet s.server } = .error _ _ := onPart_of_error hcall
        rw [bind_of_error hround]
        constructor
        · intro heq
          cases heq
        · rintro ⟨-, hfalse, -⟩
          cases hfalse
  · obtain ⟨e, u, hthrow⟩ := notifyListOfObservers_throws hgiven s.attempts
    have hround : onAttempts (notifyListOfObservers env s.server.interestedObservers)
        { s with server := afterGet s.server } = .error _ _ := onPart_of_error hthrow
    rw [bind_of_error hround]
    constructor
    · intro heq
      cases heq
    · rintro ⟨hyes, -⟩
      exact absurd hyes hgiven

/-- A started notifier goes on unless nobody was notified. -/
theorem isStartedThread_clearOnNoObservers {result : OCStackResult} {s : NotifierState}
    (h : s.server.isStartedThread = true) :
    (clearOnNoObservers result s).server.isStartedThread = true ↔ result ≠ .noObservers := by
  rw [clearOnNoObservers]
  split
  · rename_i hnone
    simp [hnone]
  · rename_i hsome
    simp [hsome, h]

theorem attempts_clearOnNoObservers (result : OCStackResult) (s : NotifierState) :
    (clearOnNoObservers result s).attempts = s.attempts := by
  rw [clearOnNoObservers]
  split <;> rfl

/-- Every id is served exactly when it is the id of an observer which was sent its
notification. -/
theorem roundAnswer_ok_iff (hdistinct : DistinctIds env.observers) {ids : List UInt8}
    (hknown : env.known = true) :
    (roundAnswer env ids).1 = .ok ↔
      ∀ id ∈ ids, ∃ observer, LiveObserver env observer ∧ observer.observeId = id ∧
        (env.send observer).sent = true := by
  rw [roundAnswer, if_pos hknown, SendListObserverNotification_ok_iff]
  constructor
  · intro h id hid
    obtain ⟨observer, hfound, hsent⟩ := h id hid
    obtain ⟨hmem, hresource, heq⟩ := observerOfResource_eq_some hfound
    exact ⟨observer, ⟨hmem, hresource⟩, heq, hsent⟩
  · intro h id hid
    obtain ⟨observer, ⟨hmem, hresource⟩, rfl, hsent⟩ := h id hid
    exact ⟨observer, observerOfResource_self hdistinct hmem hresource, hsent⟩

/-- The attempts for one observer are at least as many as there are ids of it, and more if
its time to live has run out. -/
theorem count_roundAnswer_le (hdistinct : DistinctIds env.observers)
    {observer : ResourceObserver} (hlive : LiveObserver env observer)
    (hknown : env.known = true) (ids : List UInt8) :
    ids.count observer.observeId ≤ (roundAnswer env ids).2.count observer.observeId := by
  have hle := foldl_notifyObserver_count_le hdistinct hlive.1 hlive.2 env.toDelivery ids
    ⟨0, false, [], 0, env.ttl⟩
  rw [roundAnswer, if_pos hknown, attempts_SendListObserverNotification]
  simpa [sendLoop] using hle

theorem inTime_of_count_le (hdistinct : DistinctIds env.observers)
    {observer : ResourceObserver} (hlive : LiveObserver env observer)
    (hknown : env.known = true) {ids : List UInt8}
    (h : (roundAnswer env ids).2.count observer.observeId ≤ ids.count observer.observeId) :
    InTime env.observers env.toDelivery ids observer := by
  by_contra hlate
  have hlt := foldl_notifyObserver_count_lt hdistinct hlive.1 hlive.2 ids
    ⟨0, false, [], 0, env.ttl⟩ hlate
  rw [roundAnswer, if_pos hknown, attempts_SendListObserverNotification] at h
  simp only [List.count_nil, Nat.zero_add] at hlt
  exact Nat.not_lt.mpr h hlt

theorem count_roundAnswer (hdistinct : DistinctIds env.observers)
    {observer : ResourceObserver} (hlive : LiveObserver env observer)
    (hknown : env.known = true) {ids : List UInt8} (hsent : (env.send observer).sent = true)
    (hin : InTime env.observers env.toDelivery ids observer) :
    (roundAnswer env ids).2.count observer.observeId = ids.count observer.observeId := by
  have heq := foldl_notifyObserver_count_eq hdistinct hlive.1 hlive.2 hsent ids
    ⟨0, false, [], 0, env.ttl⟩ hin
  rw [roundAnswer, if_pos hknown, attempts_SendListObserverNotification]
  simpa [sendLoop] using heq

/-- The stack gives no time to live which runs out. -/
theorem inTime_of_givenTtl {observer : ResourceObserver} (h : GivenTtl (env.ttl observer))
    (ids : List UInt8) : InTime env.observers env.toDelivery ids observer :=
  inTimeFrom_of_givenTtl h ids

theorem roundAnswer_of_none (h : ∀ observer, ¬LiveObserver env observer) (ids : List UInt8) :
    (roundAnswer env ids).1.passesGuard = true := by
  rw [roundAnswer]
  split
  · by_cases hids : ids = []
    · rw [hids]
      rfl
    · rw [SendListObserverNotification_of_none hids]
      · rfl
      · intro id _
        cases hfound : observerOfResource env.observers env.own id with
        | none => rfl
        | some observer =>
            obtain ⟨hmem, hresource, -⟩ := observerOfResource_eq_some hfound
            exact absurd ⟨hmem, hresource⟩ (h observer)
  · rfl

/-- A round in which an observer was notified, and which neither throws nor stops the
notifier, had its answer from a known resource and that answer was OK. -/
theorem roundAnswer_ok_of_notified {observer : ResourceObserver} {ids : List UInt8}
    (hone : (roundAnswer env ids).2.count observer.observeId = 1)
    (hpasses : (roundAnswer env ids).1.passesGuard = true)
    (hnot : (roundAnswer env ids).1 ≠ .noObservers) :
    env.known = true ∧ (roundAnswer env ids).1 = .ok := by
  -- for a resource which is not known nobody is notified
  have hknown : env.known = true := by
    by_contra hunknown
    rw [roundAnswer, if_neg hunknown] at hone
    cases hone
  refine ⟨hknown, ?_⟩
  rw [roundAnswer, if_pos hknown] at hpasses hnot ⊢
  obtain h | h | h := SendListObserverNotification_cases env.observers env.own env.toDelivery ids
  · exact h
  · exact absurd h hnot
  · rw [h] at hpasses
    cases hpasses

end Round

/-- **One round.**  A started notifier whose list has the ids of all observers of the
resource keeps its promise exactly under the condition. -/
theorem roundKept_iff {env : RoundEnv} (hdistinct : DistinctIds env.observers)
    {s : NotifierState} (hstarted : s.server.isStartedThread = true)
    (hlisted : ∀ observer, LiveObserver env observer →
      observer.observeId ∈ s.server.interestedObservers) :
    RoundKept env s ↔ RoundCondition env s.server.interestedObservers := by
  have hget : ∀ attempts, (NotifierState.mk (afterGet s.server) attempts).server.isStartedThread =
      true := fun _ => hstarted
  constructor
  · rintro ⟨t, attempts, hround, hattempts, hcount, hgoes⟩
    obtain ⟨⟨hfits, hbuffer⟩, hpasses, -, rfl⟩ := (notifierRound_eq_ok_iff hstarted).mp hround
    rw [attempts_clearOnNoObservers] at hattempts
    have hanswer := List.append_cancel_left hattempts
    refine ⟨hfits, hbuffer, ?_⟩
    by_cases hsome : ∃ observer, LiveObserver env observer
    · obtain ⟨observer, hlive⟩ := hsome
      have hnot : (roundAnswer env s.server.interestedObservers).1 ≠ .noObservers :=
        (isStartedThread_clearOnNoObservers (hget _)).mp (hgoes ⟨observer, hlive⟩)
      have hone : ∀ other, LiveObserver env other →
          (roundAnswer env s.server.interestedObservers).2.count other.observeId = 1 := by
        intro other hother
        rw [hanswer]
        exact hcount other hother
      obtain ⟨hknown, hok⟩ := roundAnswer_ok_of_notified (hone observer hlive) hpasses hnot
      have hserved := (roundAnswer_ok_iff hdistinct hknown).mp hok
      refine Or.inr ⟨hknown, List.nodup_iff_count_le_one.mpr fun id => ?_, hserved,
        fun other hother => ?_⟩
      · -- an id which is in the list twice is notified twice
        by_cases hid : id ∈ s.server.interestedObservers
        · obtain ⟨other, hother, rfl, -⟩ := hserved id hid
          exact (count_roundAnswer_le hdistinct hother hknown _).trans (hone other hother).le
        · rw [List.count_eq_zero_of_not_mem hid]
          exact Nat.zero_le 1
      · refine inTime_of_count_le hdistinct hother hknown ?_
        rw [hone other hother]
        exact List.count_pos_iff.mpr (hlisted other hother)
    · exact Or.inl (not_exists.mp hsome)
  · rintro ⟨hfits, hbuffer, hserved⟩
    have hreturns : (roundAnswer env s.server.interestedObservers).1.passesGuard = true →
        notifierRound env s = .ok true
          (clearOnNoObservers (roundAnswer env s.server.interestedObservers).1
            { server := afterGet s.server
              attempts := s.attempts ++
                (roundAnswer env s.server.interestedObservers).2 }) := fun hpasses =>
      (notifierRound_eq_ok_iff hstarted).mpr ⟨⟨hfits, hbuffer⟩, hpasses, rfl, rfl⟩
    obtain hnone | ⟨hknown, hnodup, hall, hin⟩ := hserved
    · refine ⟨_, _, hreturns (roundAnswer_of_none hnone _), attempts_clearOnNoObservers _ _,
        fun observer hlive => absurd hlive (hnone observer), ?_⟩
      rintro ⟨observer, hlive⟩
      exact absurd hlive (hnone observer)
    · have hok := (roundAnswer_ok_iff hdistinct hknown).mpr hall
      refine ⟨_, _, hreturns (by rw [hok]; rfl), attempts_clearOnNoObservers _ _, ?_, ?_⟩
      · intro observer hlive
        obtain ⟨other, hother, hid, hsent⟩ := hall _ (hlisted observer hlive)
        have heq : other = observer := hdistinct.eq hother.1 hlive.1 hid
        rw [count_roundAnswer hdistinct hlive hknown (heq ▸ hsent) (hin observer hlive)]
        exact List.count_eq_one_of_mem hnodup (hlisted observer hlive)
      · intro _
        rw [isStartedThread_clearOnNoObservers (hget _), hok]
        decide

/-! ## Two observers, one of which cannot be reached -/

/-- The observers with the ids `1` and `2`; sending to the second fails if `broken`. -/
def pairEnv (broken : Bool) : RoundEnv where
  observers := [⟨1, [1], 0, 0⟩, ⟨2, [2], 0, 0⟩]
  own := 0
  known := true
  buffer := true
  send := fun observer =>
    if broken = true ∧ observer.observeId = 2 then .answered .commError else .answered .ok
  retries := fun _ => 0
  clock := fun _ _ _ => 0
  resends := fun _ _ => true
  ttl := fun _ => observerTtl 0

/-- The server which was told of both. -/
def pairState : NotifierState where
  server :=
    { ServerState.initial RedisDb.emptyStore with
      interestedObservers := [1, 2]
      isStartedThread := true }
  attempts := []

theorem pair_distinct (broken : Bool) : DistinctIds (pairEnv broken).observers :=
  show [(1 : UInt8), 2].Nodup by decide

theorem pair_listed (broken : Bool) (observer : ResourceObserver)
    (h : LiveObserver (pairEnv broken) observer) :
    observer.observeId ∈ pairState.server.interestedObservers := by
  have hmem : observer ∈ [(⟨1, [1], 0, 0⟩ : ResourceObserver), ⟨2, [2], 0, 0⟩] := h.1
  simp only [List.mem_cons, List.not_mem_nil, or_false] at hmem
  obtain rfl | rfl := hmem <;> decide

theorem roundKept_iff_pair :
    RoundKept (pairEnv false) pairState ↔
      RoundCondition (pairEnv false) pairState.server.interestedObservers :=
  roundKept_iff (pair_distinct false) rfl (pair_listed false)

/-- One observer which cannot be reached ends the notifier, and the process with it. -/
theorem broken_observer_ends_round :
    (∀ observer, LiveObserver (pairEnv true) observer →
      observer.observeId ∈ pairState.server.interestedObservers) ∧
      ¬RoundKept (pairEnv true) pairState := by
  refine ⟨pair_listed true, ?_⟩
  rintro ⟨t, attempts, hround, -⟩
  obtain ⟨-, hpasses, -⟩ := (notifierRound_eq_ok_iff rfl).mp hround
  exact absurd hpasses (by decide)

end Server
end FireEvacuation
