import FireEvacuation.Server.RequestHandling

/-!
# Does every request get a result?

No handler stands above `EntityHandlerCB`, so an exception which leaves it, like a
null pointer which is used, ends the server.  `Post` has a `try` block of its own,
but `addResourceTable` reads the same text in front of it, `Observe` writes to
Redis, and `result_guard` throws on most of the stack's codes.
-/

namespace FireEvacuation
namespace Server

open FireEvacuation.Core FireEvacuation.Core.Effect Platform Redis DevMgmt

/-- The table once a request was answered: a `POST` of a device enters its uuid under
the id of the request. -/
def requestTable (externals : Externals) (request : OCResourceRequest) (s : ServerState) :
    Std.ExtTreeMap Int String :=
  if request.requestType = "POST" then
    match request.representation.getValue resourceKey with
    | none => s.resourceTable
    | some value =>
        match readDevice externals value with
        | .ok (_, device) => insertEntry request.observationInfo.obsId device s.resourceTable
        | .error _ => s.resourceTable
  else s.resourceTable

/-- The table when `Observe` is called. -/
def observedTable (externals : Externals) (request : OCResourceRequest) (s : ServerState) :
    Std.ExtTreeMap Int String :=
  if request.requestHandlerFlag &&& requestFlag ≠ 0 then requestTable externals request s
  else s.resourceTable

/-- The text of a `POST` is missing or read as a device, `SADD` is answered, and no
argument is missing in the command for the hash. -/
def PostServed (externals : Externals) (outcomes : Outcomes) (request : OCResourceRequest)
    (s : ServerState) : Prop :=
  ∀ value, request.representation.getValue resourceKey = some value →
    ∃ json device, readDevice externals value = .ok (json, device) ∧
      SaddAnswered outcomes s.redis ∧ sentCommand externals device ≠ .undefined

/-- When a request gets a result. -/
def Served (externals : Externals) (outcomes : Outcomes) (request : OCResourceRequest)
    (s : ServerState) : Prop :=
  (request.requestHandlerFlag &&& requestFlag ≠ 0 →
    (request.requestType = "POST" → PostServed externals outcomes request s) ∧
      outcomes.sendResponse.passesGuard = true) ∧
  (request.requestHandlerFlag &&& observerFlag ≠ 0 →
    request.observationInfo.action = .observeUnregister →
      CancelServed externals outcomes
        (tableUuid (observedTable externals request s) request.observationInfo.obsId))

section Calls

variable {externals : Externals} {outcomes : Outcomes}

/-! ## The response -/

/-- The response is formed exactly when a `POST` is served. -/
theorem respond_returns_iff {request : OCResourceRequest} {s : ServerState} :
    (∃ response t, respond externals outcomes request s = .ok response t) ↔
      (request.requestType = "POST" → PostServed externals outcomes request s) := by
  by_cases hpost : request.requestType = "POST"
  · cases hvalue : request.representation.getValue resourceKey with
    | none =>
        refine iff_of_true ⟨_, _, respond_post_none hpost hvalue s⟩ fun _ value hsome => ?_
        rw [hvalue] at hsome
        cases hsome
    | some value =>
        have hserved : (request.requestType = "POST" →
            PostServed externals outcomes request s) ↔
            ∃ json device, readDevice externals value = .ok (json, device) ∧
              SaddAnswered outcomes s.redis ∧ sentCommand externals device ≠ .undefined := by
          constructor
          · intro h
            exact h hpost value hvalue
          · intro h _ value' hvalue'
            rw [hvalue] at hvalue'
            cases hvalue'
            exact h
        rw [hserved]
        constructor
        · rintro ⟨response, t, hrespond⟩
          cases hread : readDevice externals value with
          | error e =>
              rw [respond_post_error hpost hvalue hread s] at hrespond
              cases hrespond
          | ok posted =>
              obtain ⟨json, device⟩ := posted
              refine ⟨json, device, rfl, ?_⟩
              -- the last thing that can go wrong is the text of the second command
              by_cases hsadd : SaddAnswered outcomes s.redis
              · refine ⟨hsadd, fun hsent => ?_⟩
                obtain ⟨u, hundefined⟩ := respond_post_undefined hpost hvalue hread hsadd hsent
                rw [hundefined] at hrespond
                cases hrespond
              · obtain ⟨e, hfail⟩ := respond_post_sadd_failed hpost hvalue hread hsadd
                rw [hfail] at hrespond
                cases hrespond
        · rintro ⟨json, device, hread, hsadd, hsent⟩
          exact ⟨_, _, respond_post_ok hpost hvalue hread hsadd hsent⟩
  · refine iff_of_true ?_ fun h => absurd h hpost
    by_cases hget : request.requestType = "GET"
    · exact ⟨_, _, respond_get hget s⟩
    · exact ⟨_, _, respond_other hget hpost s⟩

/-- The table after the response was formed. -/
theorem respond_resourceTable {request : OCResourceRequest} {s t : ServerState}
    {response : OCResourceResponse}
    (h : respond externals outcomes request s = .ok response t) :
    t.resourceTable = requestTable externals request s := by
  by_cases hpost : request.requestType = "POST"
  · rw [requestTable, if_pos hpost]
    cases hvalue : request.representation.getValue resourceKey with
    | none =>
        rw [respond_post_none hpost hvalue s] at h
        cases h
        rfl
    | some value =>
        obtain ⟨json, device, hread, hsadd, hsent⟩ :=
          respond_returns_iff.mp ⟨_, _, h⟩ hpost value hvalue
        rw [respond_post_ok hpost hvalue hread hsadd hsent] at h
        cases h
        simp only [hread]
        rfl
  · rw [requestTable, if_neg hpost]
    by_cases hget : request.requestType = "GET"
    · rw [respond_get hget s] at h
      cases h
      rfl
    · rw [respond_other hget hpost s] at h
      cases h
      rfl

/-- The part for the request flag returns exactly when a response is formed and its
code passes the guard. -/
theorem handleRequest_returns_iff {request : OCResourceRequest} {s : ServerState} :
    (∃ result t, handleRequest externals outcomes request s = .ok result t) ↔
      (request.requestType = "POST" → PostServed externals outcomes request s) ∧
        outcomes.sendResponse.passesGuard = true := by
  rw [← respond_returns_iff]
  cases hrespond : respond externals outcomes request s with
  | error e t =>
      rw [handleRequest_error hrespond]
      constructor
      · rintro ⟨result, u, h⟩
        cases h
      · rintro ⟨⟨response, u, h⟩, -⟩
        cases h
  | ok response t =>
      cases hguard : outcomes.sendResponse.passesGuard with
      | true =>
          rw [handleRequest_passes hrespond hguard]
          exact iff_of_true ⟨_, _, rfl⟩ ⟨⟨_, _, rfl⟩, rfl⟩
      | false =>
          rw [handleRequest_throws hrespond hguard]
          constructor
          · rintro ⟨result, u, h⟩
            cases h
          · rintro ⟨-, h⟩
            cases h

theorem handleRequest_resourceTable {request : OCResourceRequest} {s t : ServerState}
    {result : OCEntityHandlerResult}
    (h : handleRequest externals outcomes request s = .ok result t) :
    t.resourceTable = requestTable externals request s := by
  rw [handleRequest, bind_eq_ok_iff] at h
  obtain ⟨response, u, hrespond, hsend⟩ := h
  rw [bind_eq_ok_iff] at hsend
  obtain ⟨code, v, hsend, hresult⟩ := hsend
  cases hresult
  have htable := respond_resourceTable hrespond
  cases hguard : outcomes.sendResponse.passesGuard with
  | true =>
      rw [sendResponse_passes hguard] at hsend
      cases hsend
      exact htable
  | false =>
      rw [sendResponse_throws hguard] at hsend
      cases hsend

/-- `Observe` returns exactly when a cancelled observation is served. -/
theorem Observe_returns_iff {observationInfo : ObservationInfo} {s : ServerState} :
    (∃ t, Observe externals outcomes observationInfo s = .ok () t) ↔
      (observationInfo.action = .observeUnregister →
        CancelServed externals outcomes
          (tableUuid s.resourceTable observationInfo.obsId)) := by
  cases haction : observationInfo.action with
  | observeRegister =>
      refine iff_of_true ⟨_, Observe_register haction s⟩ ?_
      intro h
      cases h
  | observeUnregister =>
      by_cases hserved : CancelServed externals outcomes
          (tableUuid s.resourceTable observationInfo.obsId)
      · exact iff_of_true ⟨_, Observe_unregister_ok haction hserved⟩ fun _ => hserved
      · obtain ⟨e, t, herror⟩ := Observe_unregister_error haction hserved
        refine iff_of_false ?_ fun h => hserved (h rfl)
        rintro ⟨u, hok⟩
        rw [herror] at hok
        cases hok

/-- A sequence of a call and `Observe` with a fixed result. -/
theorem observe_then_returns_iff {observationInfo : ObservationInfo} {s : ServerState} :
    (∃ result t, (do
        Observe externals outcomes observationInfo
        pure OCEntityHandlerResult.ok : ServerM OCEntityHandlerResult) s = .ok result t) ↔
      ∃ t, Observe externals outcomes observationInfo s = .ok () t := by
  constructor
  · rintro ⟨result, t, h⟩
    obtain ⟨⟨⟩, u, hobserve, -⟩ := bind_eq_ok_iff.mp h
    exact ⟨u, hobserve⟩
  · rintro ⟨t, hobserve⟩
    exact ⟨.ok, t, by rw [bind_of_ok hobserve, pure_apply]⟩

end Calls

/-- **Robustness.**  `EntityHandlerCB` returns a result, without an exception leaving it
and without a null pointer being used, exactly when the request is empty or served. -/
theorem EntityHandlerCB_returns_iff (externals : Externals) (outcomes : Outcomes)
    (request : Option OCResourceRequest) (s : ServerState) :
    (∃ result t, EntityHandlerCB externals outcomes request s = .ok result t) ↔
      ∀ r, request = some r → Served externals outcomes r s := by
  cases request with
  | none =>
      refine iff_of_true ⟨_, _, EntityHandlerCB_none s⟩ ?_
      intro r h
      cases h
  | some request =>
      have hserved : (∀ r, some request = some r → Served externals outcomes r s) ↔
          Served externals outcomes request s := by
        constructor
        · intro h
          exact h request rfl
        · rintro h r heq
          cases heq
          exact h
      rw [hserved, Served, observedTable]
      by_cases hrequest : request.requestHandlerFlag &&& requestFlag = 0
      · rw [EntityHandlerCB_no_request hrequest]
        simp only [hrequest, ne_eq, not_true_eq_false, false_implies, true_and, if_false]
        by_cases hobserver : request.requestHandlerFlag &&& observerFlag = 0
        · simp only [hobserver, not_true_eq_false, if_false, false_implies, iff_true]
          exact ⟨_, _, pure_apply _ s⟩
        · simp only [hobserver, not_false_eq_true, if_true, true_implies]
          rw [observe_then_returns_iff, Observe_returns_iff]
      · simp only [hrequest, ne_eq, not_false_eq_true, true_implies, if_true]
        by_cases hobserver : request.requestHandlerFlag &&& observerFlag = 0
        · rw [EntityHandlerCB_plain hrequest hobserver, handleRequest_returns_iff]
          simp only [hobserver, not_true_eq_false, false_implies, and_true]
        · rw [EntityHandlerCB_observe hrequest hobserver]
          simp only [hobserver, not_false_eq_true, true_implies]
          constructor
          · rintro ⟨result, t, h⟩
            obtain ⟨code, u, hhandle, hrest⟩ := bind_eq_ok_iff.mp h
            have hobserve := Observe_returns_iff.mp
              (observe_then_returns_iff.mp ⟨result, t, hrest⟩)
            -- the observation looks at the table the request has left
            rw [handleRequest_resourceTable hhandle] at hobserve
            exact ⟨handleRequest_returns_iff.mp ⟨code, u, hhandle⟩, hobserve⟩
          · rintro ⟨hhandled, hobserve⟩
            obtain ⟨code, u, hhandle⟩ := handleRequest_returns_iff.mpr hhandled
            rw [← handleRequest_resourceTable hhandle] at hobserve
            obtain ⟨result, t, hrest⟩ :=
              observe_then_returns_iff.mpr (Observe_returns_iff.mpr hobserve)
            exact ⟨result, t, by rw [bind_of_ok hhandle, hrest]⟩

/-- A text which is no JSON stops the server: the exception of the parser leaves
`EntityHandlerCB`. -/
theorem bad_json_not_returned :
    ¬∃ result t, EntityHandlerCB smokeExternals .good
      (some (formResourceRequest requestFlag
        { method := .post
          payload := OCRepresentation.setValue (fun _ => none) resourceKey "fire!"
          obsInfo := ⟨.observeRegister, 0⟩ }))
      (.initial RedisDb.emptyStore) = .ok result t := by
  have hread : readDevice smokeExternals "fire!" = .error (.exception
      (.jsonException 101 "[json.exception.parse_error.101] parse error")) := by
    have hjson : smokeExternals.jsonParse "fire!" = .error
        (.jsonException 101 "[json.exception.parse_error.101] parse error") := by
      simp only [smokeExternals]
      exact if_neg (by decide)
    rw [readDevice, hjson]
  rintro ⟨result, t, h⟩
  rw [EntityHandlerCB_plain (by decide) (by decide),
    handleRequest_error (respond_post_error rfl rfl hread _)] at h
  cases h

end Server
end FireEvacuation
