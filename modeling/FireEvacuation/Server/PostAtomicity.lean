import FireEvacuation.Server.RequestHandling

/-!
# Is a `POST` atomic and its answer truthful?

A `POST` should be answered `OC_EH_OK` exactly when afterwards the uuid is in the
set `devices` and its hash carries the fields of the device, and in every other
case nothing should have changed.  The handling writes the set, the table, the
broadcast text and the hash one after the other and swallows what goes wrong in
the last step, so this depends on how far it gets.
-/

namespace FireEvacuation
namespace Server

open FireEvacuation.Core Platform Redis DevMgmt

/-- The call returned, or an exception left it, in the given state. -/
def EndsIn {α : Type} (result : EStateM.Result (Fault CppException) ServerState α)
    (t : ServerState) : Prop :=
  (∃ a, result = .ok a t) ∨ ∃ e, result = .error (.exception e) t

/-- A response with the result `OC_EH_OK` was handed to the stack. -/
def AnsweredOk (s t : ServerState) : Prop :=
  ∃ response, t.responses = s.responses ++ [response] ∧ response.responseResult = .ok

/-- The hash carries all fields of the device. -/
def CarriesFields (device : Device) (fields : Hash) : Prop :=
  ∀ k v : String, (deviceEntries device)[k]? = some v → fields[k]? = some v

/-- The uuid is in the set `devices` and its hash carries the device's fields. -/
structure StoresDevice (store : Store) (device : Device) : Prop where
  member : device.uuid ∈ storedSet store "devices"
  carries : CarriesFields device (storedHash store device.uuid)

/-- The request carries a device and this device is stored. -/
def StoresPosted (externals : Externals) (request : OCResourceRequest) (store : Store) :
    Prop :=
  ∃ value json device, request.representation.getValue resourceKey = some value ∧
    readDevice externals value = .ok (json, device) ∧ StoresDevice store device

/-- The broadcast text, the table, the set `devices` and all hashes are as before. -/
structure Untouched (s t : ServerState) : Prop where
  genericControl : t.genericControl = s.genericControl
  resourceTable : t.resourceTable = s.resourceTable
  devices : storedSet t.redis "devices" = storedSet s.redis "devices"
  hashes : ∀ key, storedHash t.redis key = storedHash s.redis key

/-- The handling of a `POST` is atomic and its answer truthful. -/
def PostAtomic (externals : Externals) (outcomes : Outcomes) (request : OCResourceRequest)
    (s : ServerState) : Prop :=
  ∃ t, EndsIn (handleRequest externals outcomes request s) t ∧
    (AnsweredOk s t ↔ StoresPosted externals request t.redis) ∧
    (¬AnsweredOk s t → Untouched s t)

/-- When the hash of the device carries its fields after the command, given the hash
before. -/
inductive FieldsCondition (externals : Externals) (link : Link) (device : Device)
    (old : Hash) : Prop where
  /-- The command is executed and arrives as it is meant.  The fields it leaves out, those
  of the sensor of a class 1 device, are there already. -/
  | written (hexec : link.executes = true)
      (hplain : RedisDb.PlainCommand (cStr device.uuid) (postedEntries device))
      (hnul : nul ∉ device.uuid.toList)
      (hrest : ∀ k v : String, (deviceEntries device)[k]? = some v →
        (postedEntries device)[k]? = none → old[k]? = some v)
  /-- The command writes nothing into this hash, and all fields are there already. -/
  | present (hkept : link.executes = true → ∀ pairs,
        sentCommand externals device = .args ("HMSET" :: device.uuid :: pairs) →
          pairs.length % 2 = 1)
      (hold : CarriesFields device old)

/-- The three ways in which a `POST` keeps the promise. -/
inductive PostCondition (externals : Externals) (outcomes : Outcomes)
    (request : OCResourceRequest) (s : ServerState) : Prop where
  /-- The text is rejected with an exception. -/
  | rejected {value : String} {e : CppException}
      (hvalue : request.representation.getValue resourceKey = some value)
      (hread : readDevice externals value = .error (.exception e))
  /-- `SADD` fails, adds nothing new, and the device was not stored before. -/
  | notAdded {value : String} {json : Json} {device : Device}
      (hvalue : request.representation.getValue resourceKey = some value)
      (hread : readDevice externals value = .ok (json, device))
      (hsadd : ¬SaddAnswered outcomes s.redis)
      (hold : outcomes.sadd.executes = true → HoldsSet s.redis "devices" →
        (cStr device.uuid).text ∈ storedSet s.redis "devices")
      (hnew : ¬StoresDevice s.redis device)
  /-- `SADD` works, its argument is the whole uuid, and the hash carries the fields
  after the pairs were written. -/
  | stored {value : String} {json : Json} {device : Device}
      (hvalue : request.representation.getValue resourceKey = some value)
      (hread : readDevice externals value = .ok (json, device))
      (hsadd : SaddAnswered outcomes s.redis)
      (hsent : sentCommand externals device ≠ .undefined)
      (huuid : device.uuid = (cStr device.uuid).text ∨
        device.uuid ∈ storedSet s.redis "devices")
      (hname : device.uuid ≠ "devices")
      (hkey : HoldsHash s.redis device.uuid)
      (hfields : FieldsCondition externals outcomes.hmset device
        (storedHash s.redis device.uuid))

section Stores

/-! ## The store after the two commands -/

theorem afterSadd_other (device : Device) (store : Store) {key : String}
    (h : key ≠ "devices") : afterSadd device store key = store key :=
  sadd_other h _ store

theorem storedSet_afterSadd {store : Store} (h : HoldsSet store "devices") (device : Device) :
    storedSet (afterSadd device store) "devices" =
      insert (cStr device.uuid).text (storedSet store "devices") :=
  storedSet_sadd h _

theorem storedHash_afterSadd (device : Device) (store : Store) (key : String) :
    storedHash (afterSadd device store) key = storedHash store key :=
  storedHash_sadd "devices" _ store key

/-- The command for the hash is an `HMSET`, or nothing is executed. -/
theorem afterHmset_cases (externals : Externals) (link : Link) (device : Device)
    (store : Store) :
    afterHmset externals link device store = store ∨
      ∃ key pairs, sentCommand externals device = .args ("HMSET" :: key :: pairs) ∧
        link.executes = true ∧
        afterHmset externals link device store = (hmset key pairs store).2 := by
  rw [afterHmset]
  cases hsent : sentCommand externals device with
  | formatError => exact Or.inl rfl
  | undefined => exact Or.inl rfl
  | args argv =>
      obtain ⟨rest, rfl⟩ := RedisDb.args_start_hmset hsent
      cases hlink : link.executes with
      | false => exact Or.inl rfl
      | true =>
          cases rest with
          | nil => exact Or.inl rfl
          | cons key pairs => exact Or.inr ⟨key, pairs, rfl, rfl, rfl⟩

theorem storedSet_afterHmset (externals : Externals) (link : Link) (device : Device)
    (store : Store) (key : String) :
    storedSet (afterHmset externals link device store) key = storedSet store key := by
  obtain h | ⟨key', pairs, -, -, h⟩ := afterHmset_cases externals link device store
  · rw [h]
  · rw [h, storedSet_hmset]

/-- The hash of the device after the command, given the hash before: the pairs
hiredis makes of the command are written if the command is executed, reaches the
right key and has a value for every field. -/
def writtenHash (externals : Externals) (link : Link) (device : Device) (old : Hash) : Hash :=
  match sentCommand externals device with
  | .args (_ :: key :: pairs) =>
      if link.executes = true ∧ key = device.uuid ∧ pairs.length % 2 = 0 then
        insertPairs old pairs
      else old
  | _ => old

/-- A written hash, and the reasons for one which was not. -/
theorem writtenHash_cases (externals : Externals) (link : Link) (device : Device)
    (old : Hash) :
    (∃ pairs, sentCommand externals device = .args ("HMSET" :: device.uuid :: pairs) ∧
      link.executes = true ∧ pairs.length % 2 = 0 ∧
      writtenHash externals link device old = insertPairs old pairs) ∨
    ((link.executes = true → ∀ pairs,
        sentCommand externals device = .args ("HMSET" :: device.uuid :: pairs) →
          pairs.length % 2 = 1) ∧
      writtenHash externals link device old = old) := by
  rw [writtenHash]
  cases hsent : sentCommand externals device with
  | formatError => exact Or.inr ⟨nofun, rfl⟩
  | undefined => exact Or.inr ⟨nofun, rfl⟩
  | args argv =>
      obtain ⟨rest, rfl⟩ := RedisDb.args_start_hmset hsent
      cases rest with
      | nil => exact Or.inr ⟨nofun, rfl⟩
      | cons key pairs =>
          dsimp only
          by_cases hwritten : link.executes = true ∧ key = device.uuid ∧ pairs.length % 2 = 0
          · obtain ⟨hexec, rfl, heven⟩ := hwritten
            exact Or.inl ⟨pairs, rfl, hexec, heven, if_pos ⟨hexec, rfl, heven⟩⟩
          · refine Or.inr ⟨fun hexec pairs' hargs => ?_, if_neg hwritten⟩
            injection hargs with hargs
            injection hargs with _ hargs
            injection hargs with hkey hpairs
            rw [← hpairs]
            by_contra heven
            exact hwritten ⟨hexec, hkey, by omega⟩

/-- What a plain command writes. -/
theorem writtenHash_plain (externals : Externals) {link : Link} {device : Device}
    (hexec : link.executes = true)
    (hplain : RedisDb.PlainCommand (cStr device.uuid) (postedEntries device))
    (hnul : nul ∉ device.uuid.toList) (old : Hash) :
    writtenHash externals link device old = overlay old (postedEntries device) := by
  have hlength : (flattenPairs (postedEntries device).toList).length % 2 = 0 := by
    rw [length_flattenPairs]
    omega
  rw [writtenHash, sentCommand, RedisDb.format_entriesCommand hplain, RedisDb.commandWords]
  dsimp only
  rw [if_pos ⟨hexec, cStr_text_of_noNul hnul, hlength⟩, insertPairs_toList]

/-- The condition is what it takes. -/
theorem carriesFields_writtenHash_iff (externals : Externals) (link : Link) (device : Device)
    (old : Hash) :
    CarriesFields device (writtenHash externals link device old) ↔
      FieldsCondition externals link device old := by
  constructor
  · intro h
    obtain ⟨pairs, hsent, hexec, heven, hwritten⟩ | ⟨hkept, hsame⟩ :=
      writtenHash_cases externals link device old
    · -- the key came out of the command, so it has no terminator
      have hnul : nul ∉ device.uuid.toList :=
        ((redisvFormatCommand_produced hsent).words device.uuid (by simp)).noNul
      have hcarries : RedisDb.Carries (insertPairs old pairs) (postedEntries device) := by
        intro k v hposted
        refine ⟨v, ?_, fun _ => rfl⟩
        rw [← hwritten]
        exact h k v (deviceEntries_of_postedEntries hposted)
      have hplain : RedisDb.PlainCommand (cStr device.uuid) (postedEntries device) := by
        have hargs : sentCommand externals device =
            .args ("HMSET" :: (cStr device.uuid).text :: pairs) := by
          rw [cStr_text_of_noNul hnul, hsent]
        exact RedisDb.plainCommand_of_carries hargs heven (plainNames_postedEntries device)
          hcarries
      refine .written hexec hplain hnul fun k v hdevice hposted => ?_
      have hget := h k v hdevice
      rw [writtenHash_plain externals hexec hplain hnul, getElem?_overlay, hposted,
        Option.none_or] at hget
      exact hget
    · rw [hsame] at h
      exact .present hkept h
  · intro h
    cases h with
    | written hexec hplain hnul hrest =>
        intro k v hdevice
        rw [writtenHash_plain externals hexec hplain hnul, getElem?_overlay]
        cases hposted : (postedEntries device)[k]? with
        | none => exact hrest k v hdevice hposted
        | some v' =>
            rw [deviceEntries_of_postedEntries hposted] at hdevice
            exact hdevice
    | present hkept hold =>
        obtain ⟨pairs, hsent, hexec, heven, -⟩ | ⟨-, hsame⟩ :=
          writtenHash_cases externals link device old
        · have hodd := hkept hexec pairs hsent
          omega
        · rw [hsame]
          exact hold

/-- The hash of the device after the command. -/
theorem storedHash_afterHmset (externals : Externals) (link : Link) {device : Device}
    {store : Store} (h : HoldsHash store device.uuid) :
    storedHash (afterHmset externals link device store) device.uuid =
      writtenHash externals link device (storedHash store device.uuid) := by
  rw [afterHmset, writtenHash]
  cases hsent : sentCommand externals device with
  | formatError => rfl
  | undefined => rfl
  | args argv =>
      obtain ⟨rest, rfl⟩ := RedisDb.args_start_hmset hsent
      cases rest with
      | nil =>
          dsimp only
          split <;> rfl
      | cons key pairs =>
          dsimp only
          rw [execCommand_hmset]
          cases hlink : link.executes with
          | false => simp
          | true =>
              rw [if_pos rfl]
              by_cases hkey : key = device.uuid
              · subst hkey
                by_cases heven : pairs.length % 2 = 0
                · rw [if_pos ⟨rfl, rfl, heven⟩, storedHash_hmset h heven]
                · rw [if_neg fun hall => heven hall.2.2,
                    hmset_wrongArity (Or.inr (by omega))]
              · rw [if_neg fun hall => hkey hall.2.1]
                exact storedHash_congr (hmset_other (Ne.symm hkey) pairs store)

/-- No command of the server turns a key of another kind into a hash. -/
theorem not_holdsHash_afterHmset (externals : Externals) (link : Link) {device : Device}
    {store : Store} {key : String} (h : ¬HoldsHash store key) :
    ¬HoldsHash (afterHmset externals link device store) key := by
  obtain hsame | ⟨key', pairs, -, -, hexec⟩ := afterHmset_cases externals link device store
  · rw [hsame]
    exact h
  · rw [hexec, ← execCommand_hmset]
    exact RedisDb.not_holdsHash_execCommand h

/-- A stored device has a hash of its own. -/
theorem StoresDevice.holdsHash {store : Store} {device : Device}
    (h : StoresDevice store device) : HoldsHash store device.uuid := by
  by_contra hnot
  have hid := h.carries "id" device.uuid (deviceEntries_id device)
  rw [storedHash_of_not_holdsHash hnot, Std.ExtTreeMap.getElem?_empty] at hid
  cases hid

/-- After both commands the device is stored exactly when its uuid arrived whole and
the written hash carries its fields. -/
theorem storesDevice_after_iff (externals : Externals) (link : Link) {store : Store} {device : Device}
    (hset : HoldsSet store "devices") :
    StoresDevice (afterHmset externals link device (afterSadd device store)) device ↔
      (device.uuid = (cStr device.uuid).text ∨ device.uuid ∈ storedSet store "devices") ∧
        device.uuid ≠ "devices" ∧ HoldsHash store device.uuid ∧
        FieldsCondition externals link device (storedHash store device.uuid) := by
  have hmember : device.uuid ∈ storedSet
      (afterHmset externals link device (afterSadd device store)) "devices" ↔
        device.uuid = (cStr device.uuid).text ∨ device.uuid ∈ storedSet store "devices" := by
    rw [storedSet_afterHmset, storedSet_afterSadd hset, Finset.mem_insert]
  constructor
  · intro h
    -- under the key `devices` there is the set now, which is no hash
    have hname : device.uuid ≠ "devices" := by
      intro hname
      have hdevices : ¬HoldsHash (afterSadd device store) device.uuid := by
        have hset' : afterSadd device store device.uuid =
            some (.set (insert (cStr device.uuid).text (storedSet store "devices"))) := by
          obtain ⟨added, hadd⟩ := sadd_of_holdsSet hset (cStr device.uuid).text
          rw [afterSadd, hadd, ← hname]
          exact Function.update_self _ _ _
        rintro (hnone | ⟨fields, hfields⟩)
        · rw [hset'] at hnone
          cases hnone
        · rw [hset'] at hfields
          cases hfields
      exact not_holdsHash_afterHmset externals link hdevices h.holdsHash
    have hsame := afterSadd_other device store hname
    have hholds : HoldsHash (afterSadd device store) device.uuid := by
      by_contra hnot
      exact not_holdsHash_afterHmset externals link hnot h.holdsHash
    have huuid := hmember.mp h.member
    have hkey := (holdsHash_congr hsame).mp hholds
    have hcarries := h.carries
    rw [storedHash_afterHmset externals link hholds, storedHash_afterSadd,
      carriesFields_writtenHash_iff] at hcarries
    exact ⟨huuid, hname, hkey, hcarries⟩
  · rintro ⟨huuid, hname, hkey, hfields⟩
    have hholds := (holdsHash_congr (afterSadd_other device store hname)).mpr hkey
    refine ⟨hmember.mpr huuid, ?_⟩
    rw [storedHash_afterHmset externals link hholds, storedHash_afterSadd,
      carriesFields_writtenHash_iff]
    exact hfields

end Stores

/-! ## One lemma for every way a `POST` can go -/

section Cases

variable {externals : Externals} {outcomes : Outcomes}

theorem endsIn_ok_iff {α : Type} {a : α} {t u : ServerState} :
    EndsIn (.ok a t) u ↔ t = u := by
  constructor
  · rintro (⟨a', h⟩ | ⟨e, h⟩)
    · injection h
    · cases h
  · rintro rfl
    exact Or.inl ⟨a, rfl⟩

theorem endsIn_exception_iff {α : Type} {e : CppException} {t u : ServerState} :
    EndsIn (.error (.exception e) t : EStateM.Result _ _ α) u ↔ t = u := by
  constructor
  · rintro (⟨a, h⟩ | ⟨e', h⟩)
    · cases h
    · injection h
  · rintro rfl
    exact Or.inr ⟨e, rfl⟩

theorem not_endsIn_undefined {α : Type} {t u : ServerState} :
    ¬EndsIn (.error .undefined t : EStateM.Result _ _ α) u := by
  rintro (⟨a, h⟩ | ⟨e, h⟩)
  · cases h
  · cases h

/-- Whether the stack takes the response or `result_guard` throws, the state is the
one in which the response was handed over. -/
theorem handleRequest_endsIn_iff {request : OCResourceRequest}
    {response : OCResourceResponse} {s t u : ServerState}
    (hrespond : respond externals outcomes request s = .ok response t) :
    EndsIn (handleRequest externals outcomes request s) u ↔ withResponse response t = u := by
  cases hguard : outcomes.sendResponse.passesGuard with
  | true => rw [handleRequest_passes hrespond hguard, endsIn_ok_iff]
  | false => rw [handleRequest_throws hrespond hguard, endsIn_exception_iff]

theorem not_answeredOk_of_responses {s t : ServerState} (h : t.responses = s.responses) :
    ¬AnsweredOk s t := by
  rintro ⟨response, heq, -⟩
  rw [h] at heq
  have hlength := congrArg List.length heq
  rw [List.length_append, List.length_singleton] at hlength
  omega

theorem answeredOk_withResponse {s t : ServerState} (h : t.responses = s.responses)
    (value : Option String) : AnsweredOk s (withResponse ⟨.ok, value⟩ t) := by
  refine ⟨⟨.ok, value⟩, ?_, rfl⟩
  rw [withResponse, h]

/-- The posted device is the one the text is read as. -/
theorem storesPosted_iff {request : OCResourceRequest} {value : String} {json : Json}
    {device : Device} {store : Store}
    (hvalue : request.representation.getValue resourceKey = some value)
    (hread : readDevice externals value = .ok (json, device)) :
    StoresPosted externals request store ↔ StoresDevice store device := by
  constructor
  · rintro ⟨value', json', device', hvalue', hread', hstores⟩
    rw [hvalue] at hvalue'
    cases hvalue'
    rw [hread] at hread'
    cases hread'
    exact hstores
  · intro hstores
    exact ⟨value, json, device, hvalue, hread, hstores⟩

theorem not_postAtomic_none {request : OCResourceRequest} {s : ServerState}
    (hpost : request.requestType = "POST")
    (hvalue : request.representation.getValue resourceKey = none) :
    ¬PostAtomic externals outcomes request s := by
  rintro ⟨t, hends, hanswer, -⟩
  rw [handleRequest_endsIn_iff (respond_post_none hpost hvalue s)] at hends
  subst hends
  obtain ⟨value, json, device, hvalue', -⟩ := hanswer.mp (answeredOk_withResponse rfl _)
  rw [hvalue] at hvalue'
  cases hvalue'

theorem postAtomic_rejected {request : OCResourceRequest} {value : String}
    {e : CppException} {s : ServerState} (hpost : request.requestType = "POST")
    (hvalue : request.representation.getValue resourceKey = some value)
    (hread : readDevice externals value = .error (.exception e)) :
    PostAtomic externals outcomes request s := by
  have hrespond : respond externals outcomes request s = .error (.exception e) s :=
    respond_post_error hpost hvalue hread s
  have hhandle := handleRequest_error hrespond
  refine ⟨s, ?_, iff_of_false (not_answeredOk_of_responses rfl) ?_, fun _ => ?_⟩
  · rw [hhandle, endsIn_exception_iff]
  · rintro ⟨value', json, device, hvalue', hread', -⟩
    rw [hvalue] at hvalue'
    cases hvalue'
    rw [hread] at hread'
    cases hread'
  · exact ⟨rfl, rfl, rfl, fun _ => rfl⟩

theorem not_postAtomic_of_respond_undefined {request : OCResourceRequest}
    {s t : ServerState} (h : respond externals outcomes request s = .error .undefined t) :
    ¬PostAtomic externals outcomes request s := by
  rintro ⟨u, hends, -⟩
  rw [handleRequest_error h] at hends
  exact not_endsIn_undefined hends

/-- `SADD` failed: the answer is not OK, so the device must not be stored and the set
must be as before. -/
theorem postAtomic_sadd_failed_iff {request : OCResourceRequest} {value : String}
    {json : Json} {device : Device} {s : ServerState} (hpost : request.requestType = "POST")
    (hvalue : request.representation.getValue resourceKey = some value)
    (hread : readDevice externals value = .ok (json, device))
    (hsadd : ¬SaddAnswered outcomes s.redis) :
    PostAtomic externals outcomes request s ↔
      (outcomes.sadd.executes = true → HoldsSet s.redis "devices" →
        (cStr device.uuid).text ∈ storedSet s.redis "devices") ∧
      ¬StoresDevice s.redis device := by
  obtain ⟨e, hrespond⟩ := respond_post_sadd_failed hpost hvalue hread hsadd
  have hhashes : ∀ key, storedHash (if outcomes.sadd.executes = true then
      afterSadd device s.redis else s.redis) key = storedHash s.redis key := by
    intro key
    split
    · exact storedHash_afterSadd device s.redis key
    · rfl
  -- the set is as before unless the command was executed and added something
  have hdevices : storedSet (if outcomes.sadd.executes = true then
      afterSadd device s.redis else s.redis) "devices" = storedSet s.redis "devices" ↔
      (outcomes.sadd.executes = true → HoldsSet s.redis "devices" →
        (cStr device.uuid).text ∈ storedSet s.redis "devices") := by
    by_cases hexec : outcomes.sadd.executes = true
    · rw [if_pos hexec]
      by_cases hset : HoldsSet s.redis "devices"
      · rw [storedSet_afterSadd hset, Finset.insert_eq_self]
        exact ⟨fun h _ _ => h, fun h => h hexec hset⟩
      · rw [afterSadd, sadd_of_not_holdsSet hset]
        exact ⟨fun _ _ h => absurd h hset, fun _ => rfl⟩
    · rw [if_neg hexec]
      exact ⟨fun _ h => absurd h hexec, fun _ => rfl⟩
  constructor
  · rintro ⟨t, hends, hanswer, huntouched⟩
    rw [handleRequest_error hrespond, endsIn_exception_iff] at hends
    subst hends
    have hnot := not_answeredOk_of_responses (s := s) (t := { s with
      redis := if outcomes.sadd.executes then afterSadd device s.redis else s.redis }) rfl
    have hsame := (huntouched hnot).devices
    refine ⟨hdevices.mp hsame, fun hstores => hnot (hanswer.mpr ?_)⟩
    rw [storesPosted_iff hvalue hread]
    refine ⟨?_, ?_⟩
    · rw [hsame]
      exact hstores.member
    · rw [hhashes]
      exact hstores.carries
  · rintro ⟨hold, hnew⟩
    refine ⟨{ s with redis := if outcomes.sadd.executes then afterSadd device s.redis
      else s.redis }, ?_, ?_, fun _ => ⟨rfl, rfl, hdevices.mpr hold, hhashes⟩⟩
    · rw [handleRequest_error hrespond, endsIn_exception_iff]
    · refine iff_of_false (not_answeredOk_of_responses rfl) ?_
      rw [storesPosted_iff hvalue hread]
      intro hstores
      apply hnew
      refine ⟨?_, ?_⟩
      · rw [← hdevices.mpr hold]
        exact hstores.member
      · rw [← hhashes]
        exact hstores.carries

/-- `SADD` was answered: the answer is OK whatever happens to the hash. -/
theorem postAtomic_sadd_answered_iff {request : OCResourceRequest} {value : String}
    {json : Json} {device : Device} {s : ServerState} (hpost : request.requestType = "POST")
    (hvalue : request.representation.getValue resourceKey = some value)
    (hread : readDevice externals value = .ok (json, device))
    (hsadd : SaddAnswered outcomes s.redis)
    (hsent : sentCommand externals device ≠ .undefined) :
    PostAtomic externals outcomes request s ↔
      StoresDevice
        (afterHmset externals outcomes.hmset device (afterSadd device s.redis)) device := by
  have hrespond := respond_post_ok hpost hvalue hread hsadd hsent
  have hanswered := answeredOk_withResponse (s := s) (t := afterPost externals outcomes.hmset
    request.observationInfo.obsId value device s) rfl (some value)
  have hstores : StoresPosted externals request (withResponse ⟨.ok, some value⟩
      (afterPost externals outcomes.hmset request.observationInfo.obsId value device s)).redis ↔
      StoresDevice
        (afterHmset externals outcomes.hmset device (afterSadd device s.redis)) device :=
    storesPosted_iff hvalue hread
  constructor
  · rintro ⟨t, hends, hanswer, -⟩
    rw [handleRequest_endsIn_iff hrespond] at hends
    subst hends
    exact hstores.mp (hanswer.mp hanswered)
  · intro h
    refine ⟨_, (handleRequest_endsIn_iff hrespond).mpr rfl,
      iff_of_true hanswered (hstores.mpr h), fun hnot => absurd hanswered hnot⟩

/-- The condition for a text which is read as a device. -/
theorem postCondition_iff_of_read {request : OCResourceRequest} {value : String}
    {json : Json} {device : Device} {s : ServerState}
    (hvalue : request.representation.getValue resourceKey = some value)
    (hread : readDevice externals value = .ok (json, device)) :
    PostCondition externals outcomes request s ↔
      (¬SaddAnswered outcomes s.redis ∧
        (outcomes.sadd.executes = true → HoldsSet s.redis "devices" →
          (cStr device.uuid).text ∈ storedSet s.redis "devices") ∧
        ¬StoresDevice s.redis device) ∨
      (SaddAnswered outcomes s.redis ∧ sentCommand externals device ≠ .undefined ∧
        StoresDevice
          (afterHmset externals outcomes.hmset device (afterSadd device s.redis)) device) := by
  have hsame : ∀ {value' : String} {x : JsonM (Json × Device)},
      request.representation.getValue resourceKey = some value' →
      readDevice externals value' = x → x = .ok (json, device) := by
    intro value' x hvalue' hread'
    rw [hvalue] at hvalue'
    cases hvalue'
    rw [← hread', hread]
  constructor
  · intro h
    cases h with
    | rejected hvalue' hread' => cases hsame hvalue' hread'
    | notAdded hvalue' hread' hsadd hold hnew =>
        cases hsame hvalue' hread'
        exact Or.inl ⟨hsadd, hold, hnew⟩
    | stored hvalue' hread' hsadd hsent huuid hname hkey hfields =>
        cases hsame hvalue' hread'
        exact Or.inr ⟨hsadd, hsent,
          (storesDevice_after_iff externals outcomes.hmset hsadd.2).mpr ⟨huuid, hname, hkey, hfields⟩⟩
  · rintro (⟨hsadd, hold, hnew⟩ | ⟨hsadd, hsent, hstores⟩)
    · exact .notAdded hvalue hread hsadd hold hnew
    · obtain ⟨huuid, hname, hkey, hfields⟩ :=
        (storesDevice_after_iff externals outcomes.hmset hsadd.2).mp hstores
      exact .stored hvalue hread hsadd hsent huuid hname hkey hfields

end Cases

/-- **Atomicity of a `POST`.**  The handling of a `POST` is atomic and its answer
truthful exactly in the three ways of `PostCondition`. -/
theorem postAtomic_iff (externals : Externals) (outcomes : Outcomes)
    {request : OCResourceRequest} (hpost : request.requestType = "POST") (s : ServerState) :
    PostAtomic externals outcomes request s ↔
      PostCondition externals outcomes request s := by
  cases hvalue : request.representation.getValue resourceKey with
  | none =>
      refine iff_of_false (not_postAtomic_none hpost hvalue) ?_
      rintro (⟨hvalue', -⟩ | ⟨hvalue', -⟩ | ⟨hvalue', -⟩) <;>
        · rw [hvalue] at hvalue'
          cases hvalue'
  | some value =>
      cases hread : readDevice externals value with
      | error e =>
          -- an exception is an end of the handling, undefined behaviour is not
          by_cases hexception : ∃ e', e = .exception e'
          · obtain ⟨e', rfl⟩ := hexception
            exact iff_of_true (postAtomic_rejected hpost hvalue hread) (.rejected hvalue hread)
          · refine iff_of_false ?_ ?_
            · rintro ⟨t, hends, -⟩
              rw [handleRequest_error (respond_post_error hpost hvalue hread s)] at hends
              obtain ⟨a, h⟩ | ⟨e', h⟩ := hends
              · cases h
              · injection h with h _
                exact hexception ⟨e', h⟩
            · rintro (⟨hvalue', hread'⟩ | ⟨hvalue', hread', -⟩ | ⟨hvalue', hread', -⟩) <;>
                · rw [hvalue] at hvalue'
                  cases hvalue'
                  rw [hread] at hread'
                  cases hread' <;> exact hexception ⟨_, rfl⟩
      | ok posted =>
          obtain ⟨json, device⟩ := posted
          rw [postCondition_iff_of_read hvalue hread]
          by_cases hsadd : SaddAnswered outcomes s.redis
          · by_cases hsent : sentCommand externals device = .undefined
            · obtain ⟨t, hrespond⟩ :=
                respond_post_undefined hpost hvalue hread hsadd hsent
              refine iff_of_false (not_postAtomic_of_respond_undefined hrespond) ?_
              rintro (⟨hnot, -⟩ | ⟨-, hnot, -⟩)
              · exact hnot hsadd
              · exact hnot hsent
            · rw [postAtomic_sadd_answered_iff hpost hvalue hread hsadd hsent]
              constructor
              · intro h
                exact Or.inr ⟨hsadd, hsent, h⟩
              · rintro (⟨hnot, -⟩ | ⟨-, -, h⟩)
                · exact absurd hsadd hnot
                · exact h
          · rw [postAtomic_sadd_failed_iff hpost hvalue hread hsadd]
            constructor
            · rintro ⟨hold, hnew⟩
              exact Or.inl ⟨hsadd, hold, hnew⟩
            · rintro (⟨-, hold, hnew⟩ | ⟨hyes, -⟩)
              · exact ⟨hold, hnew⟩
              · exact absurd hyes hsadd

/-- The `POST` of a smoke detector when everything works. -/
theorem postAtomic_iff_smoke :
    PostAtomic smokeExternals .good smokeRequest (.initial RedisDb.emptyStore) ↔
      PostCondition smokeExternals .good smokeRequest (.initial RedisDb.emptyStore) :=
  postAtomic_iff smokeExternals .good rfl _

/-- Redis refuses the `HMSET`: the request is answered OK and nothing of the device is
in its hash. -/
theorem refused_hmset_not_atomic :
    smokeRequest.requestType = "POST" ∧
      ¬PostAtomic smokeExternals ⟨.up, .refused "OOM command not allowed", .up, .ok⟩
        smokeRequest (.initial RedisDb.emptyStore) := by
  have hset : HoldsSet (ServerState.initial RedisDb.emptyStore).redis "devices" := Or.inl rfl
  have hsent : sentCommand smokeExternals (smokeDetector "m") ≠ .undefined := by
    rw [sentCommand_smoke]
    simp
  refine ⟨rfl, ?_⟩
  rw [postAtomic_sadd_answered_iff rfl smokeRequest_value smokeRequest_read ⟨rfl, hset⟩ hsent,
    storesDevice_after_iff _ _ hset]
  rintro ⟨-, -, -, hfields⟩
  have hempty : storedHash (ServerState.initial RedisDb.emptyStore).redis "u" = ∅ := rfl
  rw [show (smokeDetector "m").uuid = "u" from rfl, hempty] at hfields
  cases hfields with
  | written hexec => cases hexec
  | present _ hold =>
      have hid := hold "id" "u" (deviceEntries_id (smokeDetector "m"))
      rw [Std.ExtTreeMap.getElem?_empty] at hid
      cases hid

end Server
end FireEvacuation
