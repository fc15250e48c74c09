import Mathlib.Logic.Function.Basic
import Mathlib.Tactic.Common

/-!
# Requests as the application's entity handler sees them

The C stack describes a request by a flag, a method, a payload and the observation
it is about.  `formResourceRequest` turns this into an `OCResourceRequest`.  The
observation is copied for observe requests only; every other request keeps the
values of the constructor, action `ObserveRegister` and id `0`.
-/

namespace FireEvacuation
namespace Platform

/-- A value of a representation, as far as `getValue<std::string>` tells them apart. -/
inductive AttributeValue where
  | string (value : String)
  | other
  deriving DecidableEq, Repr

/-- `OCRepresentation`: the attribute stored under each key. -/
abbrev OCRepresentation := String → Option AttributeValue

/-- `getValue(key, value)` for a string: `none` when it returns false, because the
key is missing or its value is not a string. -/
def OCRepresentation.getValue (rep : OCRepresentation) (key : String) : Option String :=
  match rep key with
  | some (.string value) => some value
  | _ => none

/-- `setValue(key, value)`. -/
def OCRepresentation.setValue (rep : OCRepresentation) (key value : String) :
    OCRepresentation :=
  Function.update rep key (some (.string value))

inductive ObserveAction where
  | observeRegister
  | observeUnregister
  deriving DecidableEq, Repr

structure ObservationInfo where
  action : ObserveAction
  obsId : UInt8
  deriving DecidableEq, Repr

/-- The methods `formResourceRequest` gives a name to. -/
inductive OCMethod where
  | get
  | put
  | post
  | delete
  | other
  deriving DecidableEq, Repr

/-- `OCEntityHandlerRequest`. -/
structure OCEntityHandlerRequest where
  method : OCMethod
  payload : OCRepresentation
  obsInfo : ObservationInfo

structure OCResourceRequest where
  requestType : String
  requestHandlerFlag : Nat
  representation : OCRepresentation
  observationInfo : ObservationInfo

/-- `OC_REQUEST_FLAG` and `RequestHandlerFlag::RequestFlag`. -/
def requestFlag : Nat := 2

/-- `OC_OBSERVE_FLAG` and `RequestHandlerFlag::ObserverFlag`. -/
def observerFlag : Nat := 4

/-- The request types of `PlatformCommands`. -/
def OCMethod.requestType : OCMethod → String
  | .get => "GET"
  | .put => "PUT"
  | .post => "POST"
  | .delete => "DELETE"
  | .other => ""

/-- Only the requests with a body pass their payload on. -/
def OCMethod.carriesPayload : OCMethod → Bool
  | .put | .post => true
  | _ => false

/-- The constructor of `OCResourceRequest`. -/
def emptyRequest : OCResourceRequest where
  requestType := ""
  requestHandlerFlag := 0
  representation := fun _ => none
  observationInfo := ⟨.observeRegister, 0⟩

/-- `formResourceRequest`. -/
def formResourceRequest (flag : Nat) (entityHandlerRequest : OCEntityHandlerRequest) :
    OCResourceRequest :=
  let request :=
    if flag &&& requestFlag ≠ 0 then
      { emptyRequest with
        requestHandlerFlag := requestFlag
        requestType := entityHandlerRequest.method.requestType
        representation :=
          if entityHandlerRequest.method.carriesPayload then entityHandlerRequest.payload
          else emptyRequest.representation }
    else emptyRequest
  if flag &&& observerFlag ≠ 0 then
    { request with
      requestHandlerFlag := requestFlag ||| observerFlag
      observationInfo := entityHandlerRequest.obsInfo }
  else request

end Platform
end FireEvacuation
