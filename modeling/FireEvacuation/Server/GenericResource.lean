import FireEvacuation.DevMgmt.Device
import FireEvacuation.Platform.ResourceRequest
import FireEvacuation.Redis.RedisDb

/-!
# The emergency server's resource

`GenericResource` keeps the last posted text (`m_genericControl`), the ids of the
observers, a table from observation ids to uuids, and writes the posted devices to
Redis: the uuid into the set `devices`, the fields into the hash named by the uuid.

A call is modelled with the outcome of everything it cannot decide itself: what
becomes of its Redis commands and which result the stack gives to `sendResponse`.
The JSON text parser and the directives hiredis rejects are parameters as well.
Writing to the console and the LEDs is left out.
-/

namespace FireEvacuation
namespace Server

open FireEvacuation.Core FireEvacuation.Core.Effect Platform Redis DevMgmt

/-- The libraries the server is linked with. -/
structure Externals where
  /-- `nlohmann::json::parse`: a value or the exception it throws. -/
  jsonParse : String → Except CppException Json
  /-- The directives hiredis rejects as an invalid format. -/
  rejects : List Char → Bool

/-- What becomes of the commands and of the response of one request. -/
structure Outcomes where
  /-- `SADD` in `addResourceTable`. -/
  sadd : Link
  /-- `HMSET` in `Post`. -/
  hmset : Link
  /-- `HMSET` in `Observe`. -/
  alive : Link
  /-- The stack's answer to `OCPlatform::sendResponse`. -/
  sendResponse : OCStackResult
  deriving DecidableEq

/-- Everything works. -/
def Outcomes.good : Outcomes := ⟨.up, .up, .up, .ok⟩

inductive OCEntityHandlerResult where
  | ok
  | error
  deriving DecidableEq, Repr

/-- `OCResourceResponse`: the result and the value of the representation. -/
structure OCResourceResponse where
  responseResult : OCEntityHandlerResult
  representation : Option String
  deriving DecidableEq, Repr

/-- The object, the file's `resource_table` and Redis.  `responses` are the ones
handed to `sendResponse`, and `startedThreads` counts the calls of
`pthread_create`. -/
structure ServerState where
  representation : OCRepresentation
  genericControl : String
  interestedObservers : List UInt8
  isStartedThread : Bool
  startedThreads : Nat
  resourceTable : Std.ExtTreeMap Int String
  redis : Store
  responses : List OCResourceResponse

/-- `RESOURCE_KEY`. -/
def resourceKey : String := "utterance"

/-- `DEVICE_LIST_KEY`. -/
def deviceListKey : CString := cStr "devices"

/-- The constructor, over a database with the given content. -/
def ServerState.initial (redis : Store) : ServerState where
  representation := OCRepresentation.setValue (fun _ => none) resourceKey ""
  genericControl := ""
  interestedObservers := []
  isStartedThread := false
  startedThreads := 0
  resourceTable := ∅
  redis := redis
  responses := []

abbrev ServerM (α : Type) := Cpp ServerState α

variable (externals : Externals) (outcomes : Outcomes)

/-- A call of `RedisDb`. -/
def onRedis {α : Type} (body : Cpp Store α) : ServerM α :=
  onPart ServerState.redis (fun s redis => { s with redis := redis }) body

/-- `nlohmann::json::parse`. -/
def parseText (value : String) : ServerM Json :=
  match externals.jsonParse value with
  | .ok json => pure json
  | .error e => throwException e

/-- `device->…` for a pointer which may be null. -/
def deref {α : Type} : Option α → ServerM α
  | some a => pure a
  | none => undefinedBehaviour

/-- `Get`. -/
def Get : ServerM String := fun s =>
  .ok s.genericControl
    { s with representation := s.representation.setValue resourceKey s.genericControl }

/-- `addResourceTable`. -/
def addResourceTable (rep : OCRepresentation) (observationInfo : ObservationInfo) :
    ServerM Unit := do
  match rep.getValue resourceKey with
  | none => pure ()
  | some value => do
      let json ← parseText externals value
      let device ← deref (← runExcept (Device.parse json))
      let _ ← onRedis (RedisDb.executeValues externals.rejects outcomes.sadd (cStr "SADD")
        deviceListKey (cStr device.uuid))
      modify fun s => { s with
        resourceTable :=
          s.resourceTable.insertIfNew observationInfo.obsId.toNat device.uuid }

/-- A truth value written to a stream. -/
def streamBool (value : Bool) : String := if value then "1" else "0"

/-- The fields of a class 2 device, read from the JSON text once more. -/
def sensorEntries (json : Json) (entriesInfo : StringMap) : JsonM StringMap := do
  let sensorType ← (← (← json.index "cl").index "st").getString
  let sensorValue ← (← (← json.index "cl").index "sv").getString
  pure ((entriesInfo.insertIfNew "st" sensorType).insertIfNew "sv" sensorValue)

/-- The fields `Post` writes for every device. -/
def baseEntries (device : Device) : StringMap :=
  ((((((∅ : StringMap).insertIfNew "id" device.uuid).insertIfNew "bm"
    device.bluetoothMac).insertIfNew "dt" device.getDeviceType).insertIfNew "ci"
    (toString device.deviceClass.getClassId)).insertIfNew "ar"
    (streamBool device.deviceClass.getAlertState)).insertIfNew "al"
    (streamBool device.deviceClass.getAliveState)

/-- The map `Post` fills. -/
def entriesInfo (json : Json) (device : Device) : JsonM StringMap :=
  if device.deviceClass.getClassId = 2 then sensorEntries json (baseEntries device)
  else pure (baseEntries device)

/-- The body of the `try` block of `Post`. -/
def postBody (rep : OCRepresentation) : ServerM Unit := do
  match rep.getValue resourceKey with
  | none => pure ()
  | some value => do
      -- the text is kept even when it cannot be parsed
      modify fun s => { s with genericControl := value }
      let json ← parseText externals value
      let device ← deref (← runExcept (Device.parse json))
      let entries ← runExcept (entriesInfo json device)
      onRedis (RedisDb.setEntries externals.rejects outcomes.hmset (cStr device.uuid) entries)

/-- `Post`: every exception the code throws is a `std::exception`. -/
def Post (rep : OCRepresentation) : ServerM Unit :=
  catchException (postBody externals outcomes rep) fun _ => pure ()

/-- The field `Observe` writes when an observation is cancelled. -/
def notAlive : StringMap := (∅ : StringMap).insertIfNew "al" "0"

/-- `resource_table[id]`, which makes an empty entry when there is none. -/
def tableEntry (id : Int) : ServerM String := fun s =>
  match s.resourceTable[id]? with
  | some uuid => .ok uuid s
  | none => .ok "" { s with resourceTable := s.resourceTable.insert id "" }

/-- The branch of `Observe` for a cancelled observation. -/
def unregister (obsId : UInt8) : ServerM Unit := do
  let uuid ← tableEntry obsId.toNat
  onRedis (RedisDb.setEntries externals.rejects outcomes.alive (cStr uuid) notAlive)
  modify fun s => { s with
    resourceTable := s.resourceTable.erase obsId.toNat
    interestedObservers := s.interestedObservers.filter (· ≠ obsId) }

/-- The end of `Observe`. -/
def startThread : ServerM Unit := modify fun s =>
  if s.isStartedThread then s
  else { s with isStartedThread := true, startedThreads := s.startedThreads + 1 }

/-- `Observe`. -/
def Observe (observationInfo : ObservationInfo) : ServerM Unit := do
  match observationInfo.action with
  | .observeRegister =>
      modify fun s => { s with
        interestedObservers := s.interestedObservers ++ [observationInfo.obsId] }
  | .observeUnregister => unregister externals outcomes observationInfo.obsId
  startThread

/-- The response to a request, before it is sent. -/
def respond (request : OCResourceRequest) : ServerM OCResourceResponse := do
  if request.requestType = "GET" then
    let value ← Get
    pure ⟨.ok, some value⟩
  else if request.requestType = "POST" then
    addResourceTable externals outcomes request.representation request.observationInfo
    Post externals outcomes request.representation
    let value ← Get
    pure ⟨.ok, some value⟩
  else pure ⟨.error, none⟩

/-- `OCPlatform::sendResponse`. -/
def sendResponse (response : OCResourceResponse) : ServerM OCStackResult := do
  modify fun s => { s with responses := s.responses ++ [response] }
  runExcept (resultGuard outcomes.sendResponse)

/-- The part of `EntityHandlerCB` for the request flag. -/
def handleRequest (request : OCResourceRequest) : ServerM OCEntityHandlerResult := do
  let response ← respond externals outcomes request
  let result ← sendResponse outcomes response
  pure (if result = .ok then .ok else .error)

/-- `EntityHandlerCB`. -/
def EntityHandlerCB (request : Option OCResourceRequest) : ServerM OCEntityHandlerResult :=
  match request with
  | none => pure .error
  | some request => do
      let ehResult ←
        if request.requestHandlerFlag &&& requestFlag ≠ 0 then
          handleRequest externals outcomes request
        else pure .error
      -- an observe request is answered `ok` whatever came of the other part
      if request.requestHandlerFlag &&& observerFlag ≠ 0 then do
        Observe externals outcomes request.observationInfo
        pure .ok
      else pure ehResult

end Server
end FireEvacuation
