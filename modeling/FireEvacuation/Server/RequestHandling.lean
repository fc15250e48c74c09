import FireEvacuation.Server.PostedEntries

/-!
# What handling a request does

One lemma for every function of `GenericResource`, so that no later proof unfolds
one.  The handling of a `POST` is decided by three things: whether the text is read
as a device (`readDevice`), whether `SADD` is answered (`SaddAnswered`), and what
hiredis makes of the command for the hash (`sentCommand`).
-/

namespace FireEvacuation
namespace Server

open FireEvacuation.Core FireEvacuation.Core.Effect Platform Redis DevMgmt

/-- Reading a text as a device.  A null device counts as undefined behaviour: the
pointer is used without a test. -/
def readDevice (externals : Externals) (value : String) : JsonM (Json × Device) :=
  match externals.jsonParse value with
  | .error e => .error (.exception e)
  | .ok json =>
      match Device.parse json with
      | .error e => .error e
      | .ok none => .error .undefined
      | .ok (some device) => .ok (json, device)

/-- `SADD` is executed and its reply is no error. -/
def SaddAnswered (outcomes : Outcomes) (store : Store) : Prop :=
  outcomes.sadd = .up ∧ HoldsSet store "devices"

/-- The store after `SADD devices uuid` was executed. -/
def afterSadd (device : Device) (store : Store) : Store :=
  (sadd "devices" [(cStr device.uuid).text] store).2

/-- What hiredis makes of the command for the hash of a device. -/
def sentCommand (externals : Externals) (device : Device) : FormatResult :=
  redisvFormatCommand externals.rejects
    (cStr (RedisDb.entriesCommand (cStr device.uuid) (postedEntries device))) []

/-- The store after this command, unless it fetches a missing argument. -/
def afterHmset (externals : Externals) (link : Link) (device : Device) (store : Store) :
    Store :=
  match sentCommand externals device with
  | .args argv => if link.executes then (execCommand argv store).2 else store
  | _ => store

/-- The table after `resource_table.insert`. -/
def insertEntry (obsId : UInt8) (device : Device)
    (table : Std.ExtTreeMap Int String) : Std.ExtTreeMap Int String :=
  table.insertIfNew obsId.toNat device.uuid

section Steps

variable {externals : Externals} {outcomes : Outcomes}

theorem deviceListKey_text : deviceListKey.text = "devices" :=
  cStr_text_of_noNul (by decide)

theorem readDevice_eq_ok {value : String} {json : Json} {device : Device}
    (h : readDevice externals value = .ok (json, device)) :
    externals.jsonParse value = .ok json ∧ Device.parse json = .ok (some device) := by
  rw [readDevice] at h
  cases hjson : externals.jsonParse value with
  | error e =>
      rw [hjson] at h
      cases h
  | ok json' =>
      rw [hjson] at h
      dsimp only at h
      cases hdevice : Device.parse json' with
      | error e =>
          rw [hdevice] at h
          cases h
      | ok device' =>
          rw [hdevice] at h
          cases device' with
          | none => cases h
          | some device' =>
              cases h
              exact ⟨rfl, hdevice⟩

/-- The two calls which turn the text into a device pointer, followed by a use. -/
theorem read_then {α : Type} {value : String} (use : Json → Device → ServerM α)
    (s : ServerState) :
    (do
      let json ← parseText externals value
      let device ← deref (← runExcept (Device.parse json))
      use json device : ServerM α) s =
    match readDevice externals value with
    | .error e => .error e s
    | .ok (json, device) => use json device s := by
  rw [readDevice, parseText]
  cases hjson : externals.jsonParse value with
  | error e => rfl
  | ok json =>
      dsimp only
      rw [bind_of_ok (pure_apply json s)]
      cases hdevice : Device.parse json with
      | error e => rw [bind_of_error (runExcept_error e s)]
      | ok device =>
          rw [bind_of_ok (runExcept_ok device s)]
          cases device with
          | none => rw [deref, bind_of_error (undefinedBehaviour_apply s)]
          | some device => rw [deref, bind_of_ok (pure_apply device s)]

theorem addResourceTable_none {rep : OCRepresentation} (h : rep.getValue resourceKey = none)
    (observationInfo : ObservationInfo) (s : ServerState) :
    addResourceTable externals outcomes rep observationInfo s = .ok () s := by
  simp only [addResourceTable, h, pure_apply]

theorem addResourceTable_error {rep : OCRepresentation} {value : String}
    {e : Fault CppException} (hvalue : rep.getValue resourceKey = some value)
    (hread : readDevice externals value = .error e)
    (observationInfo : ObservationInfo) (s : ServerState) :
    addResourceTable externals outcomes rep observationInfo s = .error e s := by
  simp only [addResourceTable, hvalue]
  rw [read_then, hread]

/-- The device is in the set `devices`, and in the table unless the id was there. -/
theorem addResourceTable_ok {rep : OCRepresentation} {value : String} {json : Json}
    {device : Device} {observationInfo : ObservationInfo} {s : ServerState}
    (hvalue : rep.getValue resourceKey = some value)
    (hread : readDevice externals value = .ok (json, device))
    (hsadd : SaddAnswered outcomes s.redis) :
    addResourceTable externals outcomes rep observationInfo s =
      .ok () { s with
        redis := afterSadd device s.redis
        resourceTable := insertEntry observationInfo.obsId device s.resourceTable } := by
  simp only [addResourceTable, hvalue]
  rw [read_then, hread]
  dsimp only
  obtain ⟨hlink, hset⟩ := hsadd
  rw [← deviceListKey_text] at hset
  have hexec := RedisDb.executeValues_sadd externals.rejects hset (cStr device.uuid)
  obtain ⟨added, hadd⟩ := sadd_of_holdsSet hset (cStr device.uuid).text
  rw [hlink, onRedis, bind_of_ok (onPart_of_ok hexec), modify_apply, afterSadd,
    ← deviceListKey_text, hadd]
  rfl

/-- A `SADD` which is not answered as it should is an exception. -/
theorem addResourceTable_sadd_failed {rep : OCRepresentation} {value : String} {json : Json}
    {device : Device} {s : ServerState}
    (hvalue : rep.getValue resourceKey = some value)
    (hread : readDevice externals value = .ok (json, device))
    (hsadd : ¬SaddAnswered outcomes s.redis) (observationInfo : ObservationInfo) :
    ∃ e, addResourceTable externals outcomes rep observationInfo s =
      .error (.exception e) { s with
        redis := if outcomes.sadd.executes then afterSadd device s.redis else s.redis } := by
  simp only [addResourceTable, hvalue]
  rw [read_then, hread]
  dsimp only
  rw [afterSadd, ← deviceListKey_text]
  cases hlink : outcomes.sadd with
  | up =>
      have hset : ¬HoldsSet s.redis deviceListKey.text := by
        rw [deviceListKey_text]
        exact fun hset => hsadd ⟨hlink, hset⟩
      refine ⟨RedisDb.errorReply, ?_⟩
      rw [onRedis, bind_of_error (onPart_of_error
        (RedisDb.executeValues_sadd_wrongType hset (cStr device.uuid))),
        sadd_of_not_holdsSet hset]
      rfl
  | refused message =>
      refine ⟨RedisDb.errorReply, ?_⟩
      rw [onRedis, bind_of_error (onPart_of_error (RedisDb.executeValues_refused _ _ _ _ _))]
      rfl
  | lost executed =>
      refine ⟨RedisDb.noReply, ?_⟩
      rw [onRedis, bind_of_error (onPart_of_error (RedisDb.executeValues_lost _ _ _ _ _)),
        cStr_text_of_noNul (by decide : nul ∉ "SADD".toList), execCommand_sadd]
      rfl

theorem Post_none {rep : OCRepresentation} (h : rep.getValue resourceKey = none)
    (s : ServerState) : Post externals outcomes rep s = .ok () s := by
  rw [Post]
  apply catch_of_ok
  simp only [postBody, h, pure_apply]

/-- The body of the `try` block for a device which was read. -/
theorem postBody_of_read (outcomes : Outcomes) {rep : OCRepresentation} {value : String}
    {json : Json} {device : Device} (hvalue : rep.getValue resourceKey = some value)
    (hread : readDevice externals value = .ok (json, device)) (s : ServerState) :
    postBody externals outcomes rep s =
      onRedis (RedisDb.setEntries externals.rejects outcomes.hmset (cStr device.uuid)
        (postedEntries device)) { s with genericControl := value } := by
  simp only [postBody, hvalue]
  rw [bind_of_ok (modify_apply _ s), read_then, hread]
  dsimp only
  rw [entriesInfo_of_parse (readDevice_eq_ok hread).2, bind_of_ok (runExcept_ok _ _)]

/-- `Post` keeps the text and sends the command; whether it is executed, refused or
lost cannot be seen from outside. -/
theorem Post_of_read {rep : OCRepresentation} {value : String} {json : Json}
    {device : Device} (hvalue : rep.getValue resourceKey = some value)
    (hread : readDevice externals value = .ok (json, device))
    (hsent : sentCommand externals device ≠ .undefined) (s : ServerState) :
    Post externals outcomes rep s =
      .ok () { s with
        genericControl := value
        redis := afterHmset externals outcomes.hmset device s.redis } := by
  have hbody := postBody_of_read outcomes hvalue hread s
  rw [Post, afterHmset]
  cases hformat : sentCommand externals device with
  | undefined => exact absurd hformat hsent
  | formatError =>
      rw [onRedis, onPart_of_error (RedisDb.setEntries_of_formatError hformat _ _)] at hbody
      rw [catch_of_exception hbody, pure_apply]
  | args argv =>
      cases hlink : outcomes.hmset with
      | up =>
          rw [onRedis, hlink, onPart_of_ok (RedisDb.setEntries_up hformat _)] at hbody
          rw [catch_of_ok hbody]
          rfl
      | refused message =>
          rw [onRedis, hlink, onPart_of_ok (RedisDb.setEntries_refused hformat _ _)] at hbody
          rw [catch_of_ok hbody]
          rfl
      | lost executed =>
          rw [onRedis, hlink, onPart_of_error (RedisDb.setEntries_lost hformat _ _)] at hbody
          rw [catch_of_exception hbody, pure_apply]
          rfl

/-- The handler of `Post` does not catch a missing argument. -/
theorem Post_undefined {rep : OCRepresentation} {value : String} {json : Json}
    {device : Device} (hvalue : rep.getValue resourceKey = some value)
    (hread : readDevice externals value = .ok (json, device))
    (hsent : sentCommand externals device = .undefined) (s : ServerState) :
    Post externals outcomes rep s = .error .undefined { s with genericControl := value } := by
  have hbody := postBody_of_read outcomes hvalue hread s
  rw [onRedis, onPart_of_error (RedisDb.setEntries_of_undefined hsent _ _)] at hbody
  rw [Post, catch_of_undefined hbody]

/-- The state after `Get`. -/
def afterGet (s : ServerState) : ServerState :=
  { s with representation := s.representation.setValue resourceKey s.genericControl }

theorem Get_apply (s : ServerState) : Get s = .ok s.genericControl (afterGet s) := rfl

theorem respond_get {request : OCResourceRequest} (h : request.requestType = "GET")
    (s : ServerState) :
    respond externals outcomes request s = .ok ⟨.ok, some s.genericControl⟩ (afterGet s) := by
  simp only [respond, h, if_true]
  rw [bind_of_ok (Get_apply s), pure_apply]

theorem respond_other {request : OCResourceRequest} (hget : request.requestType ≠ "GET")
    (hpost : request.requestType ≠ "POST") (s : ServerState) :
    respond externals outcomes request s = .ok ⟨.error, none⟩ s := by
  simp only [respond, hget, hpost, if_false, pure_apply]

/-- The calls of a `POST` one after the other. -/
theorem respond_post {request : OCResourceRequest} (h : request.requestType = "POST") :
    respond externals outcomes request = (do
      addResourceTable externals outcomes request.representation request.observationInfo
      Post externals outcomes request.representation
      let value ← Get
      pure ⟨.ok, some value⟩) := by
  simp only [respond, h, String.reduceEq, if_true, if_false]

/-- A `POST` without a text is answered with the text of the last one. -/
theorem respond_post_none {request : OCResourceRequest}
    (hpost : request.requestType = "POST")
    (hvalue : request.representation.getValue resourceKey = none) (s : ServerState) :
    respond externals outcomes request s = .ok ⟨.ok, some s.genericControl⟩ (afterGet s) := by
  rw [respond_post hpost, bind_of_ok (addResourceTable_none hvalue _ s),
    bind_of_ok (Post_none hvalue s), bind_of_ok (Get_apply s), pure_apply]

/-- A text which is not read as a device ends the handling at once. -/
theorem respond_post_error {request : OCResourceRequest} {value : String}
    {e : Fault CppException} (hpost : request.requestType = "POST")
    (hvalue : request.representation.getValue resourceKey = some value)
    (hread : readDevice externals value = .error e) (s : ServerState) :
    respond externals outcomes request s = .error e s := by
  rw [respond_post hpost, bind_of_error (addResourceTable_error hvalue hread _ s)]

theorem respond_post_sadd_failed {request : OCResourceRequest} {value : String} {json : Json}
    {device : Device} {s : ServerState} (hpost : request.requestType = "POST")
    (hvalue : request.representation.getValue resourceKey = some value)
    (hread : readDevice externals value = .ok (json, device))
    (hsadd : ¬SaddAnswered outcomes s.redis) :
    ∃ e, respond externals outcomes request s =
      .error (.exception e) { s with
        redis := if outcomes.sadd.executes then afterSadd device s.redis else s.redis } := by
  obtain ⟨e, hfail⟩ :=
    addResourceTable_sadd_failed hvalue hread hsadd request.observationInfo
  exact ⟨e, by rw [respond_post hpost, bind_of_error hfail]⟩

/-- The state after a `POST` whose `SADD` was answered. -/
def afterPost (externals : Externals) (link : Link) (obsId : UInt8) (value : String)
    (device : Device) (s : ServerState) : ServerState :=
  afterGet { s with
    genericControl := value
    redis := afterHmset externals link device (afterSadd device s.redis)
    resourceTable := insertEntry obsId device s.resourceTable }

theorem respond_post_ok {request : OCResourceRequest} {value : String} {json : Json}
    {device : Device} {s : ServerState} (hpost : request.requestType = "POST")
    (hvalue : request.representation.getValue resourceKey = some value)
    (hread : readDevice externals value = .ok (json, device))
    (hsadd : SaddAnswered outcomes s.redis)
    (hsent : sentCommand externals device ≠ .undefined) :
    respond externals outcomes request s =
      .ok ⟨.ok, some value⟩ (afterPost externals outcomes.hmset
        request.observationInfo.obsId value device s) := by
  rw [respond_post hpost, bind_of_ok (addResourceTable_ok hvalue hread hsadd),
    bind_of_ok (Post_of_read hvalue hread hsent _), bind_of_ok (Get_apply _), pure_apply]
  rfl

theorem respond_post_undefined {request : OCResourceRequest} {value : String} {json : Json}
    {device : Device} {s : ServerState} (hpost : request.requestType = "POST")
    (hvalue : request.representation.getValue resourceKey = some value)
    (hread : readDevice externals value = .ok (json, device))
    (hsadd : SaddAnswered outcomes s.redis)
    (hsent : sentCommand externals device = .undefined) :
    ∃ t, respond externals outcomes request s = .error .undefined t :=
  ⟨_, by rw [respond_post hpost, bind_of_ok (addResourceTable_ok hvalue hread hsadd),
    bind_of_error (Post_undefined hvalue hread hsent _)]⟩

/-! ## Sending the response, and the observation -/

/-- The state after a response was handed to the stack. -/
def withResponse (response : OCResourceResponse) (s : ServerState) : ServerState :=
  { s with responses := s.responses ++ [response] }

theorem sendResponse_passes (h : outcomes.sendResponse.passesGuard = true)
    (response : OCResourceResponse) (s : ServerState) :
    sendResponse outcomes response s =
      .ok outcomes.sendResponse (withResponse response s) := by
  rw [sendResponse, bind_of_ok (modify_apply _ s), resultGuard_of_passes h, runExcept_ok]
  rfl

theorem sendResponse_throws (h : outcomes.sendResponse.passesGuard = false)
    (response : OCResourceResponse) (s : ServerState) :
    sendResponse outcomes response s =
      .error (.exception (.ocException outcomes.sendResponse)) (withResponse response s) := by
  rw [sendResponse, bind_of_ok (modify_apply _ s), resultGuard_of_not_passes h,
    runExcept_error]
  rfl

theorem handleRequest_passes {request : OCResourceRequest} {response : OCResourceResponse}
    {s t : ServerState} (hrespond : respond externals outcomes request s = .ok response t)
    (h : outcomes.sendResponse.passesGuard = true) :
    handleRequest externals outcomes request s =
      .ok (if outcomes.sendResponse = .ok then .ok else .error) (withResponse response t) := by
  rw [handleRequest, bind_of_ok hrespond, bind_of_ok (sendResponse_passes h response t),
    pure_apply]

theorem handleRequest_throws {request : OCResourceRequest} {response : OCResourceResponse}
    {s t : ServerState} (hrespond : respond externals outcomes request s = .ok response t)
    (h : outcomes.sendResponse.passesGuard = false) :
    handleRequest externals outcomes request s =
      .error (.exception (.ocException outcomes.sendResponse)) (withResponse response t) := by
  rw [handleRequest, bind_of_ok hrespond, bind_of_error (sendResponse_throws h response t)]

theorem handleRequest_error {request : OCResourceRequest} {e : Fault CppException}
    {s t : ServerState} (hrespond : respond externals outcomes request s = .error e t) :
    handleRequest externals outcomes request s = .error e t := by
  rw [handleRequest, bind_of_error hrespond]

end Steps

/-! ## The observation -/

/-- What hiredis makes of the command which marks a uuid as not alive. -/
def aliveCommand (externals : Externals) (uuid : String) : FormatResult :=
  redisvFormatCommand externals.rejects (cStr (RedisDb.entriesCommand (cStr uuid) notAlive)) []

/-- The uuid a cancelled observation is looked up as: empty when there is none. -/
def tableUuid (table : Std.ExtTreeMap Int String) (obsId : UInt8) : String :=
  (table[(obsId.toNat : Int)]?).getD ""

/-- The command for a cancelled observation is well formed and gets a reply. -/
def CancelServed (externals : Externals) (outcomes : Outcomes) (uuid : String) : Prop :=
  (∃ argv, aliveCommand externals uuid = .args argv) ∧
    ∀ executed, outcomes.alive ≠ .lost executed

/-- The store after the command for a cancelled observation. -/
def afterAlive (externals : Externals) (link : Link) (uuid : String) (store : Store) : Store :=
  match aliveCommand externals uuid with
  | .args argv => if link.executes then (execCommand argv store).2 else store
  | _ => store

/-- The state after a cancelled observation, before the thread is looked at. -/
def afterCancel (externals : Externals) (link : Link) (obsId : UInt8) (s : ServerState) :
    ServerState :=
  { s with
    redis := afterAlive externals link (tableUuid s.resourceTable obsId) s.redis
    resourceTable := s.resourceTable.erase (obsId.toNat : Int)
    interestedObservers := s.interestedObservers.filter (· ≠ obsId) }

/-- The state after a new observation, before the thread is looked at. -/
def afterRegister (obsId : UInt8) (s : ServerState) : ServerState :=
  { s with interestedObservers := s.interestedObservers ++ [obsId] }

/-- The state after the end of `Observe`. -/
def withThread (s : ServerState) : ServerState :=
  if s.isStartedThread then s
  else { s with isStartedThread := true, startedThreads := s.startedThreads + 1 }

section Observation

variable {externals : Externals} {outcomes : Outcomes}

/-- The table after `resource_table[id]`. -/
def lookedUp (table : Std.ExtTreeMap Int String) (id : Int) : Std.ExtTreeMap Int String :=
  match table[id]? with
  | some _ => table
  | none => table.insert id ""

theorem tableEntry_apply (obsId : UInt8) (s : ServerState) :
    tableEntry obsId.toNat s = .ok (tableUuid s.resourceTable obsId)
      { s with resourceTable := lookedUp s.resourceTable obsId.toNat } := by
  rw [tableEntry, tableUuid, lookedUp]
  cases s.resourceTable[(obsId.toNat : Int)]? <;> rfl

/-- The empty entry is gone again once the id is erased. -/
theorem erase_lookedUp (table : Std.ExtTreeMap Int String) (id : Int) :
    (lookedUp table id).erase id = table.erase id := by
  rw [lookedUp]
  cases htable : table[id]? with
  | some uuid => rfl
  | none =>
      apply Std.ExtTreeMap.ext_getElem?
      intro k
      simp only [Std.ExtTreeMap.getElem?_erase, Std.ExtTreeMap.getElem?_insert]
      split <;> rfl

theorem unregister_ok {obsId : UInt8} {s : ServerState}
    (h : CancelServed externals outcomes (tableUuid s.resourceTable obsId)) :
    unregister externals outcomes obsId s =
      .ok () (afterCancel externals outcomes.alive obsId s) := by
  obtain ⟨⟨argv, hsent⟩, hlink⟩ := h
  rw [unregister, bind_of_ok (tableEntry_apply obsId s), afterCancel, afterAlive, hsent]
  cases halive : outcomes.alive with
  | up =>
      rw [onRedis, bind_of_ok (onPart_of_ok (RedisDb.setEntries_up hsent _)), modify_apply]
      simp only [erase_lookedUp]
      rfl
  | refused message =>
      rw [onRedis, bind_of_ok (onPart_of_ok (RedisDb.setEntries_refused hsent _ _)),
        modify_apply]
      simp only [erase_lookedUp]
      rfl
  | lost executed => exact absurd halive (hlink executed)

/-- Without a well-formed command and a reply, a fault leaves `Observe`. -/
theorem unregister_error {obsId : UInt8} {s : ServerState}
    (h : ¬CancelServed externals outcomes (tableUuid s.resourceTable obsId)) :
    ∃ e t, unregister externals outcomes obsId s = .error e t := by
  rw [unregister, bind_of_ok (tableEntry_apply obsId s), onRedis]
  cases hsent : aliveCommand externals (tableUuid s.resourceTable obsId) with
  | formatError =>
      exact ⟨_, _, bind_of_error (onPart_of_error (RedisDb.setEntries_of_formatError hsent _ _))⟩
  | undefined =>
      exact ⟨_, _, bind_of_error (onPart_of_error (RedisDb.setEntries_of_undefined hsent _ _))⟩
  | args argv =>
      cases halive : outcomes.alive with
      | up => exact absurd ⟨⟨argv, hsent⟩, fun executed => by rw [halive]; simp⟩ h
      | refused message => exact absurd ⟨⟨argv, hsent⟩, fun executed => by rw [halive]; simp⟩ h
      | lost executed =>
          exact ⟨_, _, bind_of_error (onPart_of_error (RedisDb.setEntries_lost hsent _ _))⟩

theorem Observe_register {observationInfo : ObservationInfo}
    (h : observationInfo.action = .observeRegister) (s : ServerState) :
    Observe externals outcomes observationInfo s =
      .ok () (withThread (afterRegister observationInfo.obsId s)) := by
  simp only [Observe, h]
  rw [bind_of_ok (modify_apply _ s)]
  rfl

theorem Observe_unregister_ok {observationInfo : ObservationInfo} {s : ServerState}
    (h : observationInfo.action = .observeUnregister)
    (hserved : CancelServed externals outcomes
      (tableUuid s.resourceTable observationInfo.obsId)) :
    Observe externals outcomes observationInfo s =
      .ok () (withThread (afterCancel externals outcomes.alive observationInfo.obsId s)) := by
  simp only [Observe, h]
  rw [bind_of_ok (unregister_ok hserved)]
  rfl

theorem Observe_unregister_error {observationInfo : ObservationInfo} {s : ServerState}
    (h : observationInfo.action = .observeUnregister)
    (hserved : ¬CancelServed externals outcomes
      (tableUuid s.resourceTable observationInfo.obsId)) :
    ∃ e t, Observe externals outcomes observationInfo s = .error e t := by
  obtain ⟨e, t, herror⟩ := unregister_error hserved
  refine ⟨e, t, ?_⟩
  simp only [Observe, h]
  rw [bind_of_error herror]

/-! ## The handler as a whole -/

theorem EntityHandlerCB_none (s : ServerState) :
    EntityHandlerCB externals outcomes none s = .ok .error s := rfl

/-- A request without the observer flag is handled by its response alone. -/
theorem EntityHandlerCB_plain {request : OCResourceRequest}
    (hrequest : request.requestHandlerFlag &&& requestFlag ≠ 0)
    (hobserver : request.requestHandlerFlag &&& observerFlag = 0) :
    EntityHandlerCB externals outcomes (some request) =
      handleRequest externals outcomes request := by
  simp only [EntityHandlerCB, hrequest, hobserver, ne_eq, not_true_eq_false, not_false_eq_true,
    if_true, if_false, bind_pure]

/-- A request with both flags is answered first and observed afterwards. -/
theorem EntityHandlerCB_observe {request : OCResourceRequest}
    (hrequest : request.requestHandlerFlag &&& requestFlag ≠ 0)
    (hobserver : request.requestHandlerFlag &&& observerFlag ≠ 0) :
    EntityHandlerCB externals outcomes (some request) = (do
      let _ ← handleRequest externals outcomes request
      Observe externals outcomes request.observationInfo
      pure .ok) := by
  simp only [EntityHandlerCB, hrequest, hobserver, ne_eq, not_false_eq_true, if_true]

theorem EntityHandlerCB_no_request {request : OCResourceRequest}
    (hrequest : request.requestHandlerFlag &&& requestFlag = 0) :
    EntityHandlerCB externals outcomes (some request) =
      (if request.requestHandlerFlag &&& observerFlag ≠ 0 then do
        Observe externals outcomes request.observationInfo
        pure .ok
      else pure .error) := by
  simp only [EntityHandlerCB, hrequest, ne_eq, not_true_eq_false, if_false, pure_bind]

/-- The request the stack makes of a `GET` with the observe option. -/
def observeRequest (observationInfo : ObservationInfo) : OCResourceRequest :=
  formResourceRequest (requestFlag ||| observerFlag)
    { method := .get, payload := fun _ => none, obsInfo := observationInfo }

/-- The state in which `Observe` is called for such a request. -/
def afterResponse (s : ServerState) : ServerState :=
  withResponse ⟨.ok, some s.genericControl⟩ (afterGet s)

theorem EntityHandlerCB_observe_passes (h : outcomes.sendResponse.passesGuard = true)
    (observationInfo : ObservationInfo) (s : ServerState) :
    EntityHandlerCB externals outcomes (some (observeRequest observationInfo)) s =
      (do
        Observe externals outcomes observationInfo
        pure OCEntityHandlerResult.ok : ServerM OCEntityHandlerResult) (afterResponse s) := by
  rw [EntityHandlerCB_observe (show (requestFlag ||| observerFlag) &&& requestFlag ≠ 0 by decide)
    (show (requestFlag ||| observerFlag) &&& observerFlag ≠ 0 by decide),
    bind_of_ok (handleRequest_passes (respond_get rfl s) h)]
  rfl

/-- A new observation is entered into the list. -/
theorem EntityHandlerCB_register (h : outcomes.sendResponse.passesGuard = true)
    (obsId : UInt8) (s : ServerState) :
    EntityHandlerCB externals outcomes (some (observeRequest ⟨.observeRegister, obsId⟩)) s =
      .ok .ok (withThread (afterRegister obsId (afterResponse s))) := by
  rw [EntityHandlerCB_observe_passes h, bind_of_ok (Observe_register rfl _), pure_apply]

/-- A cancelled observation is taken out of the list, and the uuid its id is looked up as
is marked as not alive. -/
theorem EntityHandlerCB_cancel (h : outcomes.sendResponse.passesGuard = true)
    {obsId : UInt8} {s : ServerState}
    (hserved : CancelServed externals outcomes (tableUuid s.resourceTable obsId)) :
    EntityHandlerCB externals outcomes (some (observeRequest ⟨.observeUnregister, obsId⟩)) s =
      .ok .ok (withThread (afterCancel externals outcomes.alive obsId (afterResponse s))) := by
  have hobserve : Observe externals outcomes ⟨.observeUnregister, obsId⟩ (afterResponse s) =
      .ok () (withThread (afterCancel externals outcomes.alive obsId (afterResponse s))) :=
    Observe_unregister_ok rfl hserved
  rw [EntityHandlerCB_observe_passes h, bind_of_ok hobserve, pure_apply]

@[simp] theorem withThread_redis (s : ServerState) : (withThread s).redis = s.redis := by
  rw [withThread]
  split <;> rfl

@[simp] theorem withThread_resourceTable (s : ServerState) :
    (withThread s).resourceTable = s.resourceTable := by
  rw [withThread]
  split <;> rfl

@[simp] theorem withThread_interestedObservers (s : ServerState) :
    (withThread s).interestedObservers = s.interestedObservers := by
  rw [withThread]
  split <;> rfl

end Observation

/-! ## A request to try the definitions on -/

/-- The text a smoke detector with the address `m` posts. -/
def smokeText : String :=
  "\x7b\"bm\":\"m\",\"cl\":\x7b\"al\":1,\"ar\":0,\"ci\":3\x7d,\"dt\":\"s\",\"id\":\"u\",\"rm\":0\x7d"

/-- Its value. -/
def smokeJson : Json :=
  .object [("bm", .string "m"),
    ("cl", .object [("al", .unsigned 1), ("ar", .unsigned 0), ("ci", .unsigned 3)]),
    ("dt", .string "s"), ("id", .string "u"), ("rm", .unsigned 0)]

/-- Libraries which know this text, and reject every directive. -/
def smokeExternals : Externals where
  jsonParse text :=
    if text = smokeText then .ok smokeJson
    else .error (.jsonException 101 "[json.exception.parse_error.101] parse error")
  rejects := fun _ => true

/-- The request of the smoke detector, as a plain `POST`. -/
def smokeRequest : OCResourceRequest :=
  formResourceRequest requestFlag
    { method := .post
      payload := OCRepresentation.setValue (fun _ => none) resourceKey smokeText
      obsInfo := ⟨.observeRegister, 0⟩ }

theorem smokeRequest_value :
    smokeRequest.representation.getValue resourceKey = some smokeText := by
  rfl

theorem smokeRequest_read :
    readDevice smokeExternals smokeText = .ok (smokeJson, smokeDetector "m") := by
  have hjson : smokeExternals.jsonParse smokeText = .ok smokeJson := by
    simp only [smokeExternals, if_true]
  have hdevice : Device.parse smokeJson = .ok (some (smokeDetector "m")) := rfl
  rw [readDevice, hjson]
  dsimp only
  rw [hdevice]

/-- Its command for the hash. -/
theorem sentCommand_smoke :
    sentCommand smokeExternals (smokeDetector "m") =
      .args ["HMSET", "u", "al", "1", "ar", "0", "bm", "m", "ci", "3", "dt", "s", "id", "u"]
    := by
  have hcommand : RedisDb.entriesCommand (cStr (smokeDetector "m").uuid)
      (postedEntries (smokeDetector "m")) = "HMSET u al 1 ar 0 bm m ci 3 dt s id u" := rfl
  rw [sentCommand, hcommand, redisvFormatCommand, cStr_text_of_noNul (by decide)]
  simp [formatLoop]

end Server
end FireEvacuation
