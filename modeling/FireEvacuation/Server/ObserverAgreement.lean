import FireEvacuation.Core.Transition
import FireEvacuation.Server.RequestHandling
import FireEvacuation.Stack.Observe

/-!
# The observers of the server and those of the stack

The stack keeps a list of observers and tells the entity handler of their resource when
one comes or goes; the server keeps the ids it was told of in `m_interestedObservers`.
This file is the stack's side of a request and of its feedback about observers, and the
question is whether the two lists stay the same.

A fault which leaves the handler ends the process, so a step is only one which returns.
-/

namespace FireEvacuation
namespace Server

open FireEvacuation.Core FireEvacuation.Core.Effect Platform Redis Stack

/-! ## The list of the server -/

section Frame

variable {externals : Externals} {outcomes : Outcomes}

theorem respond_interestedObservers {request : OCResourceRequest}
    {response : OCResourceResponse} {s t : ServerState}
    (h : respond externals outcomes request s = .ok response t) :
    t.interestedObservers = s.interestedObservers := by
  by_cases hget : request.requestType = "GET"
  · rw [respond_get hget] at h
    cases h
    rfl
  · by_cases hpost : request.requestType = "POST"
    · cases hvalue : request.representation.getValue resourceKey with
      | none =>
          rw [respond_post_none hpost hvalue] at h
          cases h
          rfl
      | some value =>
          cases hread : readDevice externals value with
          | error e =>
              rw [respond_post_error hpost hvalue hread] at h
              cases h
          | ok read =>
              obtain ⟨json, device⟩ := read
              by_cases hsadd : SaddAnswered outcomes s.redis
              · by_cases hsent : sentCommand externals device = .undefined
                · obtain ⟨u, herror⟩ := respond_post_undefined hpost hvalue hread hsadd hsent
                  rw [herror] at h
                  cases h
                · rw [respond_post_ok hpost hvalue hread hsadd hsent] at h
                  cases h
                  rfl
              · obtain ⟨e, herror⟩ := respond_post_sadd_failed hpost hvalue hread hsadd
                rw [herror] at h
                cases h
    · rw [respond_other hget hpost] at h
      cases h
      rfl

/-- Handling the request part leaves the list alone. -/
theorem handleRequest_interestedObservers {request : OCResourceRequest}
    {result : OCEntityHandlerResult} {s t : ServerState}
    (h : handleRequest externals outcomes request s = .ok result t) :
    t.interestedObservers = s.interestedObservers := by
  cases hrespond : respond externals outcomes request s with
  | error e u =>
      rw [handleRequest_error hrespond] at h
      cases h
  | ok response u =>
      rw [← respond_interestedObservers hrespond]
      cases hpasses : outcomes.sendResponse.passesGuard with
      | true =>
          rw [handleRequest_passes hrespond hpasses] at h
          cases h
          rfl
      | false =>
          rw [handleRequest_throws hrespond hpasses] at h
          cases h

/-- The list after `Observe`. -/
def observedList (observationInfo : ObservationInfo) (ids : List UInt8) : List UInt8 :=
  match observationInfo.action with
  | .observeRegister => ids ++ [observationInfo.obsId]
  | .observeUnregister => ids.filter (· ≠ observationInfo.obsId)

theorem Observe_interestedObservers {observationInfo : ObservationInfo} {s t : ServerState}
    (h : Observe externals outcomes observationInfo s = .ok () t) :
    t.interestedObservers = observedList observationInfo s.interestedObservers := by
  cases haction : observationInfo.action with
  | observeRegister =>
      rw [Observe_register haction] at h
      cases h
      simp only [observedList, haction, withThread_interestedObservers]
      rfl
  | observeUnregister =>
      simp only [observedList, haction]
      by_cases hserved : CancelServed externals outcomes
          (tableUuid s.resourceTable observationInfo.obsId)
      · rw [Observe_unregister_ok haction hserved] at h
        cases h
        rw [withThread_interestedObservers]
        rfl
      · obtain ⟨e, u, herror⟩ := Observe_unregister_error haction hserved
        rw [herror] at h
        cases h

/-- A request about an observation is handled, and then observed. -/
theorem EntityHandlerCB_interestedObservers {request : OCEntityHandlerRequest}
    {result : OCEntityHandlerResult} {s t : ServerState}
    (h : EntityHandlerCB externals outcomes
      (some (formResourceRequest (requestFlag ||| observerFlag) request)) s = .ok result t) :
    t.interestedObservers = observedList request.obsInfo s.interestedObservers := by
  rw [EntityHandlerCB_observe (show (requestFlag ||| observerFlag) &&& requestFlag ≠ 0 by decide)
    (show (requestFlag ||| observerFlag) &&& observerFlag ≠ 0 by decide)] at h
  obtain ⟨_, u, hhandle, h⟩ := bind_eq_ok_iff.mp h
  obtain ⟨_, v, hobserve, h⟩ := bind_eq_ok_iff.mp h
  cases h
  rw [Observe_interestedObservers hobserve, handleRequest_interestedObservers hhandle]
  rfl

theorem EntityHandlerCB_interestedObservers_plain {request : OCEntityHandlerRequest}
    {result : OCEntityHandlerResult} {s t : ServerState}
    (h : EntityHandlerCB externals outcomes
      (some (formResourceRequest requestFlag request)) s = .ok result t) :
    t.interestedObservers = s.interestedObservers := by
  rw [EntityHandlerCB_plain (show requestFlag &&& requestFlag ≠ 0 by decide)
    (show requestFlag &&& observerFlag = 0 by decide)] at h
  exact handleRequest_interestedObservers h

end Frame

/-! ## The stack's side -/

/-- The server and the stack's list of observers. -/
structure StackState where
  server : ServerState
  observers : List ResourceObserver

abbrev StackM (α : Type) := Cpp StackState α

/-- What the surroundings decide while the stack handles a message. -/
structure Surroundings where
  outcomes : Outcomes
  /-- The id the loop of `GenerateObserverId` ends with, if random bytes are there. -/
  drawnId : Option UInt8
  /-- Whether there is memory for a new observer. -/
  memory : Bool
  /-- What the entity handler of another resource returns. -/
  foreign : OCEntityHandlerResult

/-- `OCObserveAction`. -/
inductive OCObserveAction where
  | register
  | deregister
  | noOption
  deriving DecidableEq, Repr

/-- `OCServerRequest`, with the payload as `OCParsePayload` reads it. -/
structure OCServerRequest where
  resource : ResourceHandle
  method : OCMethod
  payload : Option OCRepresentation
  token : Token
  observeAction : OCObserveAction

/-- The status `OCStackFeedBack` is told of an observer. -/
inductive ObserverStatus where
  | notInterested
  | stillInterested
  | failedComm
  deriving DecidableEq, Repr

/-- `MAX_OBSERVER_FAILED_COMM`. -/
def maxObserverFailedComm : UInt8 := 2

/-- `EntityHandlerCodeToOCStackCode`, for the results this server has. -/
def EntityHandlerCodeToOCStackCode : OCEntityHandlerResult → OCStackResult
  | .ok => .ok
  | .error => .error

section Handlers

variable (externals : Externals) (own : ResourceHandle) (env : Surroundings)

/-- `EntityHandlerWrapper`: a resource which is not in `resourceUriMap` is an error. -/
def EntityHandlerWrapper (flag : Nat) (resource : Option ResourceHandle)
    (request : OCEntityHandlerRequest) : ServerM OCEntityHandlerResult :=
  if resource = some own then
    EntityHandlerCB externals env.outcomes (some (formResourceRequest flag request))
  else pure .error

/-- `target->entityHandler(flag, &ehRequest, …)`, where the request names its own
resource. -/
def entityHandler (target : ResourceHandle) (flag : Nat) (resource : Option ResourceHandle)
    (request : OCEntityHandlerRequest) : StackM OCEntityHandlerResult :=
  if target = own then
    onPart StackState.server (fun s server => { s with server := server })
      (EntityHandlerWrapper externals own env flag resource request)
  else pure env.foreign

/-- The end of `HandleResourceWithEntityHandler`. -/
def callEntityHandler (request : OCServerRequest) (payload : OCRepresentation) (flag : Nat)
    (obsInfo : ObservationInfo) : StackM OCStackResult := do
  let ehResult ← entityHandler externals own env request.resource flag (some request.resource)
    { method := request.method, payload := payload, obsInfo := obsInfo }
  pure (EntityHandlerCodeToOCStackCode ehResult)

/-- The branch for `OC_OBSERVE_REGISTER`. -/
def registerObserver (request : OCServerRequest) (payload : OCRepresentation) :
    StackM OCStackResult := do
  let s ← get
  match GetObserverUsingToken s.observers request.token, env.drawnId with
  | some _, _ => pure .ok
  | none, none => pure .error
  | none, some obsId =>
      match AddObserver env.memory s.observers obsId request.token request.resource with
      | (.ok, observers) => do
          modify fun s => { s with observers := observers }
          callEntityHandler externals own env request payload (requestFlag ||| observerFlag)
            ⟨.observeRegister, obsId⟩
      | (result, _) => pure result

/-- The branch for `OC_OBSERVE_DEREGISTER`. -/
def deregisterObserver (request : OCServerRequest) (payload : OCRepresentation) :
    StackM OCStackResult := do
  let s ← get
  match GetObserverUsingToken s.observers request.token with
  | none => pure .error
  | some observer =>
      match DeleteObserverUsingToken s.observers request.token with
      | (.ok, observers) => do
          modify fun s => { s with observers := observers }
          callEntityHandler externals own env request payload (requestFlag ||| observerFlag)
            ⟨.observeUnregister, observer.observeId⟩
      | (result, _) => pure result

/-- `HandleResourceWithEntityHandler`. -/
def HandleResourceWithEntityHandler (request : OCServerRequest) : StackM OCStackResult :=
  match request.payload with
  | none => pure .error
  | some payload =>
      match request.observeAction with
      | .noOption =>
          callEntityHandler externals own env request payload requestFlag ⟨.observeRegister, 0⟩
      | .register => registerObserver externals own env request payload
      | .deregister => deregisterObserver externals own env request payload

/-- The handler is told of a lost observer, with a null resource in the request. -/
def tellLost (observer : ResourceObserver) : StackM Unit := do
  let _ ← entityHandler externals own env observer.resource observerFlag none
    { method := .other, payload := fun _ => none,
      obsInfo := ⟨.observeUnregister, observer.observeId⟩ }
  pure ()

/-- `DeleteObserverUsingToken` on the stack's list. -/
def deleteObserver (token : Token) : StackM Unit := modify fun s =>
  { s with observers := (DeleteObserverUsingToken s.observers token).2 }

/-- `observer->failedCommCount = count`. -/
def setFailedCommCount (observer : ResourceObserver) (count : UInt8) : StackM Unit :=
  modify fun s => { s with
    observers := s.observers.map fun o =>
      if o = observer then { o with failedCommCount := count } else o }

/-- `OCStackFeedBack`. -/
def OCStackFeedBack (token : Token) (status : ObserverStatus) : StackM OCStackResult := do
  let s ← get
  match status, GetObserverUsingToken s.observers token with
  | .notInterested, none => do
      deleteObserver token
      pure .ok
  | .notInterested, some observer => do
      tellLost externals own env observer
      deleteObserver token
      pure .ok
  | .stillInterested, none => pure .observerNotFound
  | .stillInterested, some observer => do
      setFailedCommCount observer 0
      pure .ok
  | .failedComm, none => pure .error
  | .failedComm, some observer =>
      if maxObserverFailedComm ≤ observer.failedCommCount then do
        tellLost externals own env observer
        deleteObserver token
        pure .ok
      else do
        setFailedCommCount observer (observer.failedCommCount + 1)
        pure .continue_

end Handlers

/-! ## Steps -/

/-- The messages the stack handles one after the other. -/
inductive StackEvent where
  | request (env : Surroundings) (request : OCServerRequest)
  | feedback (env : Surroundings) (token : Token) (status : ObserverStatus)

/-- One step: a call which returned.  A drawn id is one which no observer has. -/
def stackStep (externals : Externals) (own : ResourceHandle) (s : StackState) :
    StackEvent → Option StackState
  | .request env request =>
      if env.drawnId.all fun id => (GetObserverUsingId s.observers id).isNone then
        match HandleResourceWithEntityHandler externals own env request s with
        | .ok _ t => some t
        | .error _ _ => none
      else none
  | .feedback env token status =>
      match OCStackFeedBack externals own env token status s with
      | .ok _ t => some t
      | .error _ _ => none

/-- The observers of the server are those the stack holds for its resource. -/
structure Agreement (own : ResourceHandle) (s : StackState) : Prop where
  nodup : s.server.interestedObservers.Nodup
  same : ∀ id, id ∈ s.server.interestedObservers ↔ Observes s.observers own id

/-- The observer a step removes without telling the server: all but those which are
cancelled by a request to the resource itself. -/
def droppedObserver (own : ResourceHandle) (s : StackState) :
    StackEvent → Option ResourceObserver
  | .request _ request =>
      if request.payload ≠ none ∧ request.observeAction = .deregister ∧
          request.resource ≠ own then
        GetObserverUsingToken s.observers request.token
      else none
  | .feedback _ _ .stillInterested => none
  | .feedback _ token .notInterested => GetObserverUsingToken s.observers token
  | .feedback _ token .failedComm =>
      (GetObserverUsingToken s.observers token).filter
        fun observer => maxObserverFailedComm ≤ observer.failedCommCount

/-- The step drops no observer of the resource. -/
def KeepsObservers (own : ResourceHandle) (s : StackState) (event : StackEvent) : Prop :=
  ∀ observer, droppedObserver own s event = some observer → observer.resource ≠ own

/-- What a step can do to the two lists. -/
inductive Change (own : ResourceHandle) (s : StackState) (event : StackEvent)
    (t : StackState) : Prop where
  /-- No observation comes or goes. -/
  | keep (hnone : droppedObserver own s event = none)
      (hobservers : t.observers.map ResourceObserver.key =
        s.observers.map ResourceObserver.key)
      (hids : t.server.interestedObservers = s.server.interestedObservers)
  /-- A new observer, of which the server is told when it is its resource. -/
  | add {observer : ResourceObserver} (hnone : droppedObserver own s event = none)
      (hfresh : GetObserverUsingId s.observers observer.observeId = none)
      (hobservers : t.observers = s.observers ++ [observer])
      (hids : t.server.interestedObservers =
        if observer.resource = own then s.server.interestedObservers ++ [observer.observeId]
        else s.server.interestedObservers)
  /-- A cancellation by a request to the resource. -/
  | cancel {token : Token} {found : ResourceObserver}
      (hnone : droppedObserver own s event = none)
      (hfound : GetObserverUsingToken s.observers token = some found)
      (hobservers : t.observers = (DeleteObserverUsingToken s.observers token).2)
      (hids : t.server.interestedObservers =
        s.server.interestedObservers.filter (· ≠ found.observeId))
  /-- An observer is removed and the server is not told. -/
  | drop {token : Token} {found : ResourceObserver}
      (hdropped : droppedObserver own s event = some found)
      (hfound : GetObserverUsingToken s.observers token = some found)
      (hobservers : t.observers = (DeleteObserverUsingToken s.observers token).2)
      (hids : t.server.interestedObservers = s.server.interestedObservers)

section Steps

variable {externals : Externals} {own : ResourceHandle} {env : Surroundings}

theorem entityHandler_foreign {target : ResourceHandle} (h : target ≠ own) (flag : Nat)
    (resource : Option ResourceHandle) (request : OCEntityHandlerRequest) (s : StackState) :
    entityHandler externals own env target flag resource request s = .ok env.foreign s := by
  rw [entityHandler, if_neg h, pure_apply]

/-- The wrapper passes only requests on which name the resource. -/
theorem entityHandler_own {flag : Nat} {request : OCEntityHandlerRequest}
    {result : OCEntityHandlerResult} {s t : StackState}
    (h : entityHandler externals own env own flag (some own) request s = .ok result t) :
    EntityHandlerCB externals env.outcomes (some (formResourceRequest flag request)) s.server =
        .ok result t.server ∧ t.observers = s.observers := by
  rw [entityHandler, if_pos rfl] at h
  obtain ⟨server, hcall, rfl⟩ := onPart_eq_ok h
  rw [EntityHandlerWrapper, if_pos rfl] at hcall
  exact ⟨hcall, rfl⟩

theorem tellLost_apply (observer : ResourceObserver) (s : StackState) :
    tellLost externals own env observer s = .ok () s := by
  rw [tellLost]
  by_cases htarget : observer.resource = own
  · -- the request names no resource, so the wrapper answers with an error
    have hwrapper : ∀ request : OCEntityHandlerRequest,
        entityHandler externals own env observer.resource observerFlag none request s =
          .ok .error s := by
      intro request
      rw [entityHandler, if_pos htarget, EntityHandlerWrapper, if_neg (by simp)]
      rfl
    rw [bind_of_ok (hwrapper _), pure_apply]
  · rw [bind_of_ok (entityHandler_foreign htarget _ _ _ s), pure_apply]

theorem callEntityHandler_eq_ok {request : OCServerRequest} {payload : OCRepresentation}
    {flag : Nat} {obsInfo : ObservationInfo} {result : OCStackResult} {s t : StackState}
    (h : callEntityHandler externals own env request payload flag obsInfo s = .ok result t) :
    t.observers = s.observers ∧
      (request.resource ≠ own → t.server = s.server) ∧
      (request.resource = own → ∃ ehResult,
        EntityHandlerCB externals env.outcomes (some (formResourceRequest flag
          { method := request.method, payload := payload, obsInfo := obsInfo })) s.server =
            .ok ehResult t.server) := by
  rw [callEntityHandler] at h
  obtain ⟨ehResult, u, hcall, h⟩ := bind_eq_ok_iff.mp h
  cases h
  by_cases htarget : request.resource = own
  · rw [htarget] at hcall
    obtain ⟨hserver, hobservers⟩ := entityHandler_own hcall
    exact ⟨hobservers, fun hne => absurd htarget hne, fun _ => ⟨ehResult, hserver⟩⟩
  · rw [entityHandler_foreign htarget] at hcall
    cases hcall
    exact ⟨rfl, fun _ => rfl, fun heq => absurd heq htarget⟩

/-- The lists after the handler was told of an observation. -/
theorem callEntityHandler_observe {request : OCServerRequest} {payload : OCRepresentation}
    {obsInfo : ObservationInfo} {result : OCStackResult} {s t : StackState}
    (h : callEntityHandler externals own env request payload (requestFlag ||| observerFlag)
      obsInfo s = .ok result t) :
    t.observers = s.observers ∧
      t.server.interestedObservers =
        if request.resource = own then observedList obsInfo s.server.interestedObservers
        else s.server.interestedObservers := by
  obtain ⟨hobservers, hforeign, hown⟩ := callEntityHandler_eq_ok h
  refine ⟨hobservers, ?_⟩
  by_cases htarget : request.resource = own
  · obtain ⟨ehResult, hcall⟩ := hown htarget
    rw [if_pos htarget, EntityHandlerCB_interestedObservers hcall]
  · rw [if_neg htarget, hforeign htarget]

theorem callEntityHandler_plain {request : OCServerRequest} {payload : OCRepresentation}
    {obsInfo : ObservationInfo} {result : OCStackResult} {s t : StackState}
    (h : callEntityHandler externals own env request payload requestFlag obsInfo s =
      .ok result t) :
    t.observers = s.observers ∧
      t.server.interestedObservers = s.server.interestedObservers := by
  obtain ⟨hobservers, hforeign, hown⟩ := callEntityHandler_eq_ok h
  refine ⟨hobservers, ?_⟩
  by_cases htarget : request.resource = own
  · obtain ⟨ehResult, hcall⟩ := hown htarget
    exact EntityHandlerCB_interestedObservers_plain hcall
  · rw [hforeign htarget]

/-- A registration adds an observer, unless its token is known or it fails. -/
theorem registerObserver_cases {request : OCServerRequest} {payload : OCRepresentation}
    {result : OCStackResult} {s t : StackState}
    (h : registerObserver externals own env request payload s = .ok result t) :
    t = s ∨ ∃ obsId ∈ env.drawnId, ∃ observer : ResourceObserver,
      observer.observeId = obsId ∧ observer.resource = request.resource ∧
        t.observers = s.observers ++ [observer] ∧
        t.server.interestedObservers =
          if request.resource = own then s.server.interestedObservers ++ [obsId]
          else s.server.interestedObservers := by
  rw [registerObserver, bind_of_ok (get_apply s)] at h
  cases hfound : GetObserverUsingToken s.observers request.token with
  | some observer =>
      simp only [hfound, pure_apply] at h
      cases h
      exact Or.inl rfl
  | none =>
      cases hdrawn : env.drawnId with
      | none =>
          simp only [hfound, hdrawn, pure_apply] at h
          cases h
          exact Or.inl rfl
      | some obsId =>
          -- `AddObserver` fails without a token or without memory
          simp only [hfound, hdrawn, AddObserver] at h
          by_cases htoken : request.token = []
          · simp only [htoken, if_true, pure_apply] at h
            cases h
            exact Or.inl rfl
          · by_cases hmemory : env.memory = true
            · simp only [htoken, hmemory, if_true, if_false] at h
              rw [bind_of_ok (modify_apply _ s)] at h
              obtain ⟨hobservers, hids⟩ := callEntityHandler_observe h
              exact Or.inr ⟨obsId, rfl, _, rfl, rfl, hobservers, hids⟩
            · simp only [htoken, hmemory, if_false] at h
              cases h
              exact Or.inl rfl

/-- A cancellation removes the observer found by its token. -/
theorem deregisterObserver_cases {request : OCServerRequest} {payload : OCRepresentation}
    {result : OCStackResult} {s t : StackState}
    (h : deregisterObserver externals own env request payload s = .ok result t) :
    (GetObserverUsingToken s.observers request.token = none ∧ t = s) ∨
      ∃ found, GetObserverUsingToken s.observers request.token = some found ∧
        t.observers = (DeleteObserverUsingToken s.observers request.token).2 ∧
        t.server.interestedObservers =
          if request.resource = own then
            s.server.interestedObservers.filter (· ≠ found.observeId)
          else s.server.interestedObservers := by
  rw [deregisterObserver, bind_of_ok (get_apply s)] at h
  cases hfound : GetObserverUsingToken s.observers request.token with
  | none =>
      simp only [hfound, pure_apply] at h
      cases h
      exact Or.inl ⟨rfl, rfl⟩
  | some found =>
      have htoken : request.token ≠ [] := by
        intro htoken
        rw [GetObserverUsingToken, if_pos htoken] at hfound
        cases hfound
      simp only [hfound, DeleteObserverUsingToken, htoken, if_false] at h
      rw [bind_of_ok (modify_apply _ s)] at h
      obtain ⟨hobservers, hids⟩ := callEntityHandler_observe h
      rw [DeleteObserverUsingToken, if_neg htoken]
      exact Or.inr ⟨found, rfl, hobservers, hids⟩

theorem setFailedCommCount_key (observers : List ResourceObserver)
    (observer : ResourceObserver) (count : UInt8) :
    (observers.map fun o =>
        if o = observer then { o with failedCommCount := count } else o).map
      ResourceObserver.key = observers.map ResourceObserver.key := by
  rw [List.map_map]
  apply List.map_congr_left
  intro o _
  change ResourceObserver.key (if o = observer then _ else o) = _
  split <;> rfl

theorem OCStackFeedBack_change {token : Token} {status : ObserverStatus}
    {result : OCStackResult} {s t : StackState}
    (h : OCStackFeedBack externals own env token status s = .ok result t) :
    Change own s (.feedback env token status) t := by
  rw [OCStackFeedBack, bind_of_ok (get_apply s)] at h
  -- two of the branches end with the deletion
  have hdelete : ∀ result' : OCStackResult,
      (do
        deleteObserver token
        pure result' : StackM OCStackResult) s =
      .ok result' { s with observers := (DeleteObserverUsingToken s.observers token).2 } := by
    intro result'
    rw [deleteObserver, bind_of_ok (modify_apply _ s), pure_apply]
  cases status with
  | notInterested =>
      cases hfound : GetObserverUsingToken s.observers token with
      | none =>
          simp only [hfound, hdelete] at h
          cases h
          refine .keep hfound ?_ rfl
          rw [DeleteObserverUsingToken_of_none hfound]
      | some found =>
          simp only [hfound] at h
          rw [bind_of_ok (tellLost_apply found s), hdelete] at h
          cases h
          exact .drop hfound hfound rfl rfl
  | stillInterested =>
      cases hfound : GetObserverUsingToken s.observers token with
      | none =>
          simp only [hfound, pure_apply] at h
          cases h
          exact .keep rfl rfl rfl
      | some found =>
          simp only [hfound, setFailedCommCount] at h
          rw [bind_of_ok (modify_apply _ s), pure_apply] at h
          cases h
          exact .keep rfl (setFailedCommCount_key _ _ _) rfl
  | failedComm =>
      cases hfound : GetObserverUsingToken s.observers token with
      | none =>
          simp only [hfound, pure_apply] at h
          cases h
          exact .keep (by simp only [droppedObserver, hfound, Option.filter_none]) rfl rfl
      | some found =>
          simp only [hfound] at h
          by_cases hlimit : maxObserverFailedComm ≤ found.failedCommCount
          · rw [if_pos hlimit, bind_of_ok (tellLost_apply found s), hdelete] at h
            cases h
            refine .drop ?_ hfound rfl rfl
            simp only [droppedObserver, hfound, Option.filter_some, hlimit, decide_true, if_true]
          · rw [if_neg hlimit, setFailedCommCount, bind_of_ok (modify_apply _ s),
              pure_apply] at h
            cases h
            refine .keep ?_ (setFailedCommCount_key _ _ _) rfl
            simp only [droppedObserver, hfound, Option.filter_some, hlimit, decide_false,
              Bool.false_eq_true, if_false]

theorem HandleResourceWithEntityHandler_change {request : OCServerRequest}
    {result : OCStackResult} {s t : StackState}
    (hfresh : ∀ id ∈ env.drawnId, GetObserverUsingId s.observers id = none)
    (h : HandleResourceWithEntityHandler externals own env request s = .ok result t) :
    Change own s (.request env request) t := by
  rw [HandleResourceWithEntityHandler] at h
  cases hpayload : request.payload with
  | none =>
      simp only [hpayload, pure_apply] at h
      cases h
      exact .keep (by simp [droppedObserver, hpayload]) rfl rfl
  | some payload =>
      simp only [hpayload] at h
      cases haction : request.observeAction with
      | noOption =>
          simp only [haction] at h
          obtain ⟨hobservers, hids⟩ := callEntityHandler_plain h
          exact .keep (by simp [droppedObserver, haction]) (by rw [hobservers]) hids
      | register =>
          simp only [haction] at h
          have hnone : droppedObserver own s (.request env request) = none := by
            simp [droppedObserver, haction]
          obtain rfl | ⟨obsId, hdrawn, observer, rfl, hresource, hobservers, hids⟩ :=
            registerObserver_cases h
          · exact .keep hnone rfl rfl
          · rw [← hresource] at hids
            exact .add hnone (hfresh _ hdrawn) hobservers hids
      | deregister =>
          simp only [haction] at h
          obtain ⟨hnone, rfl⟩ | ⟨found, hfound, hobservers, hids⟩ := deregisterObserver_cases h
          · refine .keep ?_ rfl rfl
            rw [droppedObserver]
            split
            · exact hnone
            · rfl
          · -- the handler of the resource named in the request is told, not that of the observer
            by_cases hown : request.resource = own
            · rw [if_pos hown] at hids
              exact .cancel (by simp [droppedObserver, hown]) hfound hobservers hids
            · rw [if_neg hown] at hids
              refine .drop ?_ hfound hobservers hids
              rw [droppedObserver, if_pos ⟨by simp [hpayload], haction, hown⟩, hfound]

/-- Every step changes the lists in one of the four ways. -/
theorem stackStep_change {s t : StackState} {event : StackEvent}
    (h : stackStep externals own s event = some t) : Change own s event t := by
  cases event with
  | request env request =>
      rw [stackStep] at h
      split at h
      · rename_i hdrawn
        have hfresh : ∀ id ∈ env.drawnId, GetObserverUsingId s.observers id = none := by
          intro id hid
          rw [Option.mem_def.mp hid, Option.all_some] at hdrawn
          exact Option.isNone_iff_eq_none.mp hdrawn
        cases hcall : HandleResourceWithEntityHandler externals own env request s with
        | error e u =>
            rw [hcall] at h
            cases h
        | ok result u =>
            rw [hcall] at h
            cases h
            exact HandleResourceWithEntityHandler_change hfresh hcall
      · cases h
  | feedback env token status =>
      rw [stackStep] at h
      cases hcall : OCStackFeedBack externals own env token status s with
      | error e u =>
          rw [hcall] at h
          cases h
      | ok result u =>
          rw [hcall] at h
          cases h
          exact OCStackFeedBack_change hcall

/-! ## The invariant -/

/-- Ids are distinct among all observers, and the two lists agree. -/
structure ObserverInv (own : ResourceHandle) (s : StackState) : Prop where
  distinct : DistinctIds s.observers
  agreement : Agreement own s

theorem DistinctIds.change {s t : StackState} {event : StackEvent}
    (h : Stack.DistinctIds s.observers) (hchange : Change own s event t) :
    Stack.DistinctIds t.observers := by
  cases hchange with
  | keep hnone hobservers hids =>
      rw [distinctIds_iff_key] at h ⊢
      rw [hobservers]
      exact h
  | add hnone hfresh hobservers hids => exact hobservers ▸ h.append hfresh
  | cancel hnone hfound hobservers hids => exact hobservers ▸ h.delete _
  | drop hdropped hfound hobservers hids => exact hobservers ▸ h.delete _

theorem keepsObservers_of_none {s : StackState} {event : StackEvent}
    (h : droppedObserver own s event = none) : KeepsObservers own s event := by
  intro observer hsome
  rw [h] at hsome
  cases hsome

/-- A new observer is in both lists, or in neither. -/
theorem ObserverInv.agreement_add {s t : StackState} {observer : ResourceObserver}
    (h : ObserverInv own s)
    (hfresh : GetObserverUsingId s.observers observer.observeId = none)
    (hobservers : t.observers = s.observers ++ [observer])
    (hids : t.server.interestedObservers =
      if observer.resource = own then s.server.interestedObservers ++ [observer.observeId]
      else s.server.interestedObservers) : Agreement own t := by
  obtain ⟨-, hnodup, hsame⟩ := h
  -- nobody else has the id, so the server does not have it either
  have hnew : observer.observeId ∉ s.server.interestedObservers := by
    rw [hsame]
    rintro ⟨other, hother, -, hid⟩
    exact GetObserverUsingId_eq_none.mp hfresh other hother hid
  have hobserves : ∀ id, Observes t.observers own id ↔
      Observes s.observers own id ∨ observer.resource = own ∧ observer.observeId = id := by
    intro id
    simp [Observes, hobservers, or_and_right, exists_or]
  by_cases hown : observer.resource = own
  · rw [if_pos hown] at hids
    refine ⟨?_, fun id => ?_⟩
    · rw [hids, List.nodup_append]
      refine ⟨hnodup, List.nodup_singleton _, fun x hx y hy heq => hnew ?_⟩
      rw [List.mem_singleton] at hy
      exact hy ▸ heq ▸ hx
    · rw [hids, hobserves, List.mem_append, List.mem_singleton, hsame]
      simp [hown, eq_comm]
  · rw [if_neg hown] at hids
    refine ⟨hids ▸ hnodup, fun id => ?_⟩
    rw [hids, hobserves, hsame]
    simp [hown]

/-- A cancelled observer leaves both lists.  When it observes another resource the
server's list does not have its id, since ids are distinct. -/
theorem ObserverInv.agreement_cancel {s t : StackState} {token : Token}
    {found : ResourceObserver} (h : ObserverInv own s)
    (hfound : GetObserverUsingToken s.observers token = some found)
    (hobservers : t.observers = (DeleteObserverUsingToken s.observers token).2)
    (hids : t.server.interestedObservers =
      s.server.interestedObservers.filter (· ≠ found.observeId)) : Agreement own t := by
  obtain ⟨hdistinct, hnodup, hsame⟩ := h
  refine ⟨?_, fun id => ?_⟩
  · rw [hids]
    exact hnodup.filter _
  · rw [hids, List.mem_filter, hsame, decide_eq_true_eq, hobservers]
    constructor
    · rintro ⟨⟨observer, hmem, hresource, rfl⟩, hne⟩
      exact ⟨observer, (mem_DeleteObserverUsingToken hdistinct hfound observer).mpr
        ⟨hmem, hne⟩, hresource, rfl⟩
    · rintro ⟨observer, hmem, hresource, rfl⟩
      obtain ⟨hold, hne⟩ := (mem_DeleteObserverUsingToken hdistinct hfound observer).mp hmem
      exact ⟨⟨observer, hold, hresource, rfl⟩, hne⟩

/-- The id of a dropped observer stays in the server's list, which is wrong exactly when
it observed this resource. -/
theorem ObserverInv.agreement_drop_iff {s t : StackState} {token : Token}
    {found : ResourceObserver} (h : ObserverInv own s)
    (hfound : GetObserverUsingToken s.observers token = some found)
    (hobservers : t.observers = (DeleteObserverUsingToken s.observers token).2)
    (hids : t.server.interestedObservers = s.server.interestedObservers) :
    Agreement own t ↔ found.resource ≠ own := by
  obtain ⟨hdistinct, hnodup, hsame⟩ := h
  have hmem := GetObserverUsingToken_mem hfound
  constructor
  · rintro ⟨-, hsame'⟩ hresource
    have hid : found.observeId ∈ t.server.interestedObservers := by
      rw [hids, hsame]
      exact ⟨found, hmem, hresource, rfl⟩
    rw [hsame', hobservers] at hid
    obtain ⟨other, hother, -, heq⟩ := hid
    exact ((mem_DeleteObserverUsingToken hdistinct hfound other).mp hother).2 heq
  · intro hforeign
    refine ⟨hids ▸ hnodup, fun id => ?_⟩
    rw [hids, hsame, hobservers]
    constructor
    · rintro ⟨observer, hold, hresource, rfl⟩
      refine ⟨observer, (mem_DeleteObserverUsingToken hdistinct hfound observer).mpr
        ⟨hold, fun heq => ?_⟩, hresource, rfl⟩
      exact hforeign (hdistinct.eq hold hmem heq ▸ hresource)
    · rintro ⟨observer, hold, hresource, rfl⟩
      exact ⟨observer, ((mem_DeleteObserverUsingToken hdistinct hfound observer).mp hold).1,
        hresource, rfl⟩

/-- A step keeps the agreement exactly when it drops no observer of the resource. -/
theorem ObserverInv.agreement_iff {s t : StackState} {event : StackEvent}
    (h : ObserverInv own s) (hchange : Change own s event t) :
    Agreement own t ↔ KeepsObservers own s event := by
  cases hchange with
  | keep hnone hobservers hids =>
      refine iff_of_true ⟨hids ▸ h.agreement.nodup, fun id => ?_⟩ (keepsObservers_of_none hnone)
      rw [hids, h.agreement.same, observes_iff_key, observes_iff_key, hobservers]
  | add hnone hfresh hobservers hids =>
      exact iff_of_true (h.agreement_add hfresh hobservers hids) (keepsObservers_of_none hnone)
  | cancel hnone hfound hobservers hids =>
      exact iff_of_true (h.agreement_cancel hfound hobservers hids) (keepsObservers_of_none hnone)
  | drop hdropped hfound hobservers hids =>
      rw [h.agreement_drop_iff hfound hobservers hids]
      constructor
      · intro hforeign observer hsome
        rw [hdropped] at hsome
        cases hsome
        exact hforeign
      · intro hkeeps
        exact hkeeps _ hdropped

end Steps

/-- Nobody observes the server yet. -/
def StackState.initial (redis : Store) : StackState where
  server := .initial redis
  observers := []

theorem observerInv_initial (own : ResourceHandle) (redis : Store) :
    ObserverInv own (.initial redis) where
  distinct := List.nodup_nil
  agreement := ⟨List.nodup_nil, fun id => by simp [StackState.initial, ServerState.initial,
    Observes]⟩

/-- **Agreement of the observer lists.**  In every run whose steps drop no observer of the
resource, the server's list is free of duplicates and has the ids of the stack's
observers of the resource; a next step keeps this exactly when it drops none either. -/
theorem agreement_of_guardedReaches (externals : Externals) (own : ResourceHandle)
    {redis : Store} {s : StackState}
    (h : GuardedReaches (stackStep externals own) (KeepsObservers own) (.initial redis) s) :
    Agreement own s ∧ ∀ event t, stackStep externals own s event = some t →
      (Agreement own t ↔ KeepsObservers own s event) := by
  have hinv : ObserverInv own s := by
    refine h.invariant ?_ (observerInv_initial own redis)
    intro s event t hs hkeeps hstep
    have hchange := stackStep_change hstep
    exact ⟨DistinctIds.change hs.distinct hchange, (hs.agreement_iff hchange).mpr hkeeps⟩
  exact ⟨hinv.agreement, fun event t hstep => hinv.agreement_iff (stackStep_change hstep)⟩

/-! ## An observer which resets -/

/-- Everything works, and `7` is drawn. -/
def calmSurroundings : Surroundings := ⟨.good, some 7, true, .ok⟩

/-- A client registers with the token `[1]`, and its answer to a notification is a reset. -/
def tokenRequest (action : OCObserveAction) : StackEvent :=
  .request calmSurroundings
    { resource := 0, method := .get, payload := some fun _ => none, token := [1],
      observeAction := action }

def tokenReset : StackEvent := .feedback calmSurroundings [1] .notInterested

/-- The state after the registration. -/
def observedState : StackState where
  server := withThread (afterRegister 7 (afterResponse (.initial RedisDb.emptyStore)))
  observers := [⟨7, [1], 0, 0⟩]

theorem observedState_step :
    stackStep smokeExternals 0 (.initial RedisDb.emptyStore) (tokenRequest .register) =
      some observedState := rfl

theorem observedState_reached :
    GuardedReaches (stackStep smokeExternals 0) (KeepsObservers 0)
      (.initial RedisDb.emptyStore) observedState := by
  refine (GuardedReaches.refl _).tail ?_ observedState_step
  intro observer hsome
  cases hsome

theorem agreement_of_guardedReaches_observed :
    Agreement 0 observedState ∧
      ∀ event t, stackStep smokeExternals 0 observedState event = some t →
        (Agreement 0 t ↔ KeepsObservers 0 observedState event) :=
  agreement_of_guardedReaches smokeExternals 0 observedState_reached

/-- The stack forgets an observer which resets, but the server is not told. -/
theorem reset_not_agreed :
    ¬∀ s, Reaches (stackStep smokeExternals 0) (.initial RedisDb.emptyStore) s →
      Agreement 0 s := by
  intro h
  have hreset : stackStep smokeExternals 0 observedState tokenReset =
      some { observedState with observers := [] } := rfl
  have hreaches := observedState_reached.reaches.trans (Reaches.of_step hreset)
  have hid := ((h _ hreaches).same 7).mp (by decide)
  obtain ⟨observer, hmem, -⟩ := hid
  cases hmem

end Server
end FireEvacuation
