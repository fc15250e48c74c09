import FireEvacuation.Core.Effects

/-!
# Result codes and exceptions of the platform

`OCStackResult` is the enumeration every call of the resource stack returns
(`octypes.h`, built with presence).  The C++ layer over the stack passes most of
these codes through `result_guard`, which lets a few of them through and turns
the others into an `OCException` (`OCUtilities.cpp`).
-/

namespace FireEvacuation
namespace Platform

open FireEvacuation.Core

/-- `OCStackResult`. -/
inductive OCStackResult where
  | ok
  | resourceCreated
  | resourceDeleted
  | continue_
  | resourceChanged
  | invalidUri
  | invalidQuery
  | invalidIp
  | invalidPort
  | invalidCallback
  | invalidMethod
  | invalidParam
  | invalidObserveParam
  | noMemory
  | commError
  | timeout
  | adapterNotEnabled
  | notimpl
  | noResource
  | resourceError
  | slowResource
  | duplicateRequest
  | noObservers
  | observerNotFound
  | virtualDoNotHandle
  | invalidOption
  | malformedResponse
  | persistentBufferRequired
  | invalidRequestHandle
  | invalidDeviceInfo
  | invalidJson
  | unauthorizedReq
  | tooLargeReq
  | pdmIsNotInitialized
  | duplicateUuid
  | inconsistentDb
  | authenticationFailure
  | notAllowedOxm
  | continueOperation
  | badEndpoint
  | presenceStopped
  | presenceTimeout
  | presenceDoNotHandle
  | userDeniedReq
  | notAcceptable
  | forbiddenReq
  | internalServerError
  | gatewayTimeout
  | serviceUnavailable
  | error
  deriving DecidableEq, Repr

/-- The exceptions the modelled code throws, with what their class carries; `number` is a
`throw` of an `int`. -/
inductive CppException where
  | runtimeError (what : String)
  | lengthError (what : String)
  | invalidArgument (what : String)
  | jsonException (id : Nat) (what : String)
  | ocException (code : OCStackResult)
  | number (value : Int32)
  deriving DecidableEq, Repr

/-- A call which may throw one of these exceptions. -/
abbrev Cpp (σ α : Type) := Effect CppException σ α

/-- The codes listed in `result_guard` as success or non-exceptional failure. -/
def OCStackResult.passesGuard : OCStackResult → Bool
  | .ok | .noResource | .resourceError | .slowResource | .noObservers
  | .observerNotFound | .presenceStopped | .presenceTimeout
  | .presenceDoNotHandle => true
  | _ => false

/-- `OC::result_guard`: the listed codes are returned, every other code (the
`default` branch included) is thrown. -/
def resultGuard (r : OCStackResult) : Except (Fault CppException) OCStackResult :=
  if r.passesGuard then .ok r else .error (.exception (.ocException r))

theorem resultGuard_of_passes {r : OCStackResult} (h : r.passesGuard = true) :
    resultGuard r = .ok r := by
  simp only [resultGuard, h, if_true]

theorem resultGuard_of_not_passes {r : OCStackResult} (h : r.passesGuard = false) :
    resultGuard r = .error (.exception (.ocException r)) := by
  simp only [resultGuard, h, Bool.false_eq_true, if_false]

end Platform
end FireEvacuation
