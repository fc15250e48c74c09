import FireEvacuation.Core.Threads
import FireEvacuation.Platform.StackResult

/-!
# The selection of a server

A client looks for resources, and the stack starts a thread with `foundResource` for each
one it finds.  Under `_resource_lock` the first suitable one is stored and a GET is sent to
it; the answer starts a thread with `onGet`, which requests the observation.  Both clients
have the same code.

The resource is stored before the GET is sent, and nothing takes it out again.  When the GET
cannot be sent, is never answered, is answered with an error or by another resource, or when
the observation cannot be requested, the slot stays full and no later discovery selects a
server.
-/

namespace FireEvacuation
namespace Clients

open FireEvacuation.Core Platform

/-! ## The code -/

/-- `RESOURCE_URI`. -/
def resourceUri : String := "/SpeechTTSResURI"

/-- `CT_ADAPTER_IP` and `CT_ADAPTER_TCP`. -/
def ctAdapterIp : UInt32 := 0x10000

def ctAdapterTcp : UInt32 := 0x100000

/-- What a discovered resource says about itself; `host()` may throw. -/
structure FoundResource where
  uri : String
  host : Option String
  allHosts : List String
  connectivityType : UInt32
  deriving DecidableEq, Repr

/-- The pattern starts somewhere in the text. -/
def containsChars (pattern : List Char) : List Char → Bool
  | [] => pattern.isEmpty
  | c :: rest => pattern.isPrefixOf (c :: rest) || containsChars pattern rest

/-- `text.find(pattern) != npos`. -/
def contains (text pattern : String) : Bool := containsChars pattern.toList text.toList

/-- An endpoint which is not the host and not a Bluetooth one. -/
def otherEndpoint (host endpoint : String) : Bool :=
  endpoint ≠ host && !contains endpoint "coap+rfcomm"

/-- `Util::CheckResourceInfo`: the transport to use, and the resource with its host changed
to the first other endpoint.  `setHost` is `host()` and `connectivityType()` after the
change, or nothing when it throws. -/
def checkResourceInfo (resource : FoundResource) (setHost : Option (Option String × UInt32)) :
    Option (FoundResource × UInt32) :=
  match resource.host with
  | none => none
  | some host =>
      if contains host "coap://" || contains host "coaps://" || contains host "coap+tcp://" ||
          contains host "coaps+tcp://" then
        match resource.allHosts.find? (otherEndpoint host) with
        | none => some (resource, ctAdapterIp)
        | some newHost =>
            setHost.map fun changed =>
              ({ resource with host := changed.1, connectivityType := changed.2 },
                if contains newHost "tcp" then ctAdapterTcp else ctAdapterIp)
      else some (resource, ctAdapterIp)

/-- The call of the stack behind `resource->get` and `resource->observe`: it throws when
there is no client wrapper any more, and for the codes `result_guard` throws. -/
def guardedCall (issue : Option OCStackResult) : Except (Fault CppException) OCStackResult :=
  match issue with
  | none => .error (.exception (.ocException .invalidParam))
  | some result => resultGuard result

/-- The shared variables: `_resource_lock`, the slot in `_registered_resources`, the GETs
the stack waits for, and the results of the requests for an observation.  A resource is
named by the thread which was started with it; `stored` are all which were ever stored. -/
structure Selection where
  lock : Option Nat
  slot : Option Nat
  stored : List Nat
  inFlight : Nat
  requests : List (Except (Fault CppException) OCStackResult)
  deriving DecidableEq

def Selection.initial : Selection := ⟨none, none, [], 0, []⟩

/-- An answer to a GET. -/
structure GetAnswer where
  eCode : OCStackResult
  uri : String
  deriving DecidableEq, Repr

/-- What a thread does next. -/
inductive SelectionThread where
  -- `foundResource`
  | lock (resource : FoundResource)
  | testSlot (resource : FoundResource)
  | checkResource (resource : FoundResource)
  | store (resource : FoundResource)
  | getRepresentation (resource : FoundResource)
  | unlock
  -- `onGet`
  | answered (answer : GetAnswer)
  | observe
  | done
  deriving DecidableEq, Repr

/-- What a thread is started for. -/
inductive Arrival where
  | resource (resource : FoundResource)
  | answer (answer : GetAnswer)
  deriving DecidableEq, Repr

/-- What the outside answers to a step: `setHost`, and the stack to a request. -/
structure Outside where
  setHost : Option (Option String × UInt32)
  issue : Option OCStackResult
  deriving DecidableEq, Repr

/-- `resource->get`: the stack waits for an answer when it took the request.  A result
which is no exception is dropped, and the exceptions are caught at the end of the block. -/
def issueGet (s : Selection) (issue : Option OCStackResult) : Selection :=
  if issue = some .ok then { s with inFlight := s.inFlight + 1 } else s

/-- One step of a thread. -/
def selectionAdvance (self : Nat) (s : Selection) (thread : SelectionThread)
    (outside : Outside) : Option (Selection × SelectionThread) :=
  match thread with
  | .lock resource =>
      match s.lock with
      | none => some ({ s with lock := some self }, .testSlot resource)
      | some _ => none
  | .testSlot resource =>
      match s.slot with
      | none => some (s, .checkResource resource)
      | some _ => some (s, .unlock)
  | .checkResource resource =>
      match checkResourceInfo resource outside.setHost with
      -- the handler around the block catches what `setHost` throws
      | none => some (s, .unlock)
      | some (resource, transport) =>
          if resource.uri = resourceUri ∧ resource.connectivityType &&& transport ≠ 0 then
            some (s, .store resource)
          else some (s, .unlock)
  -- nothing takes the resource out again
  | .store resource =>
      some ({ s with slot := some self, stored := s.stored ++ [self] },
        .getRepresentation resource)
  | .getRepresentation resource =>
      -- the host is printed first
      match resource.host with
      | none => some (s, .unlock)
      | some _ => some (issueGet s outside.issue, .unlock)
  | .unlock => some ({ s with lock := none }, .done)
  | .answered answer =>
      if answer.eCode = .ok ∧ answer.uri = resourceUri then some (s, .observe)
      else some (s, .done)
  | .observe =>
      match s.slot with
      | none => some (s, .done)
      | some _ =>
          some ({ s with requests := s.requests ++ [guardedCall outside.issue] }, .done)
  | .done => none

/-- The threads of a client.  An answer starts a thread and ends the transaction of its GET;
the step of the environment is a GET which the stack gives up without an answer. -/
def selectionSystem : ThreadSystem Selection SelectionThread Arrival Outside Unit where
  start := fun s arrival =>
    match arrival with
    | .resource resource => some (s, .lock resource)
    | .answer answer =>
        if 0 < s.inFlight then
          some ({ s with inFlight := s.inFlight - 1 }, .answered answer)
        else none
  advance := selectionAdvance
  environment := fun s _ =>
    if 0 < s.inFlight then some { s with inFlight := s.inFlight - 1 } else none

/-! ## What is promised -/

namespace SelectionThread

/-- The thread has stored its resource and is about to send the GET. -/
def issues : SelectionThread → Bool
  | .getRepresentation _ => true
  | _ => false

/-- The thread handles the answer to a GET. -/
def handles : SelectionThread → Bool
  | .answered _ | .observe => true
  | _ => false

/-- The thread is in the critical section. -/
def holds : SelectionThread → Bool
  | .testSlot _ | .checkResource _ | .store _ | .getRepresentation _ | .unlock => true
  | _ => false

/-- The thread has found the slot empty and has not stored anything yet. -/
def selects : SelectionThread → Bool
  | .checkResource _ | .store _ => true
  | _ => false

end SelectionThread

/-- A selected server is still asked, or it was asked for the observation. -/
def UnderWay (p : Pool Selection SelectionThread) : Prop :=
  (∃ thread ∈ p.threads, thread.issues = true ∨ thread.handles = true) ∨
    0 < p.shared.inFlight ∨ .ok .ok ∈ p.shared.requests

/-- One resource is stored and never replaced, one observation is requested, and the slot is
full only while the selection is under way or when it has succeeded. -/
structure AllOrNothing (p : Pool Selection SelectionThread) : Prop where
  stored : p.shared.stored.length ≤ 1
  kept : p.shared.slot.toList = p.shared.stored
  requests : p.shared.requests.length ≤ 1
  underWay : p.shared.slot.isSome = true → UnderWay p

/-- The condition on a step of a thread: the GET is sent, it is answered as expected, and
the request for the observation is taken. -/
def SelectionThread.Succeeds (outside : Outside) : SelectionThread → Prop
  | .getRepresentation resource => resource.host.isSome = true ∧ outside.issue = some .ok
  | .answered answer => answer.eCode = .ok ∧ answer.uri = resourceUri
  | .observe => outside.issue = some .ok
  | .lock _ | .testSlot _ | .checkResource _ | .store _ | .unlock | .done => True

/-- The condition on a step: no GET is given up, and the threads succeed. -/
def SelectionCondition (p : Pool Selection SelectionThread) :
    PoolEvent Arrival Outside Unit → Prop
  | .start _ => True
  | .advance index outside => ∀ thread ∈ p.threads[index]?, thread.Succeeds outside
  | .environment _ => False

instance (outside : Outside) : DecidablePred (SelectionThread.Succeeds outside)
  | .getRepresentation resource =>
      inferInstanceAs (Decidable (resource.host.isSome = true ∧ outside.issue = some .ok))
  | .answered answer =>
      inferInstanceAs (Decidable (answer.eCode = .ok ∧ answer.uri = resourceUri))
  | .observe => inferInstanceAs (Decidable (outside.issue = some .ok))
  | .lock _ | .testSlot _ | .checkResource _ | .store _ | .unlock | .done => isTrue trivial

instance (p : Pool Selection SelectionThread) :
    (event : PoolEvent Arrival Outside Unit) → Decidable (SelectionCondition p event)
  | .start _ => isTrue trivial
  | .advance index outside =>
      inferInstanceAs (Decidable (∀ thread ∈ p.threads[index]?, thread.Succeeds outside))
  | .environment _ => isFalse id

/-! ## Where the selection is -/

/-- How far the selection has come; an index is that of the thread which is at work. -/
inductive Phase where
  | idle
  | issuing (index : Nat)
  | flying
  | answered (index : Nat)
  | observed
  | lost
  deriving DecidableEq

/-- The shared variables in a phase. -/
inductive PhaseState (count : Nat) (s : Selection) : Phase → Prop
  | idle (hslot : s.slot = none) (hflight : s.inFlight = 0) (hrequests : s.requests = []) :
      PhaseState count s .idle
  | issuing {index : Nat} (hindex : index < count) (hslot : s.slot.isSome = true)
      (hflight : s.inFlight = 0) (hrequests : s.requests = []) :
      PhaseState count s (.issuing index)
  | flying (hslot : s.slot.isSome = true) (hflight : s.inFlight = 1)
      (hrequests : s.requests = []) : PhaseState count s .flying
  | answered {index : Nat} (hindex : index < count) (hslot : s.slot.isSome = true)
      (hflight : s.inFlight = 0) (hrequests : s.requests = []) :
      PhaseState count s (.answered index)
  | observed (hslot : s.slot.isSome = true) (hflight : s.inFlight = 0)
      (hrequests : s.requests = [.ok .ok]) : PhaseState count s .observed
  | lost (hslot : s.slot.isSome = true) (hflight : s.inFlight = 0)
      (hrequests : s.requests.length ≤ 1) (hfailed : .ok .ok ∉ s.requests) :
      PhaseState count s .lost

/-- The shared part: what was stored is still there. -/
structure SelectionShared (phase : Phase) (count : Nat) (s : Selection) : Prop where
  kept : s.slot.toList = s.stored
  state : PhaseState count s phase

/-- The part of a thread: who selects has the lock, and the phase names who is at work. -/
structure SelectionPart (phase : Phase) (index : Nat) (s : Selection)
    (thread : SelectionThread) : Prop where
  holds : thread.holds = true → s.lock = some index
  selects : thread.selects = true → phase = .idle
  issues : thread.issues = true ↔ phase = .issuing index
  handles : thread.handles = true ↔ phase = .answered index

/-- What holds in every run, in some phase. -/
abbrev SelectionInv (phase : Phase) (p : Pool Selection SelectionThread) : Prop :=
  PoolInv (SelectionShared phase) (SelectionPart phase) p

theorem selectionInv_initial : SelectionInv .idle ⟨.initial, []⟩ :=
  PoolInv.of_empty ⟨rfl, .idle rfl rfl rfl⟩

section Phases

variable {phase phase' : Phase} {p : Pool Selection SelectionThread} {s t : Selection}
  {index count : Nat} {thread next : SelectionThread}

theorem SelectionThread.holds_of_selects (h : thread.selects = true) : thread.holds = true := by
  cases thread with
  | checkResource _ | store _ => rfl
  | lock _ | testSlot _ | getRepresentation _ | unlock | answered _ | observe | done => cases h

/-- The thread with the index is at work on the selection. -/
def Phase.Working (phase : Phase) (index : Nat) : Prop :=
  phase = .issuing index ∨ phase = .answered index

theorem Phase.Working.unique {other : Nat} (h : phase.Working other) (h' : phase.Working index) :
    other = index := by
  rcases h with rfl | rfl
  · simpa [Phase.Working] using h'
  · simpa [Phase.Working] using h'

theorem Phase.not_working_idle : ¬Phase.Working .idle index := by simp [Phase.Working]

theorem Phase.not_working_flying : ¬Phase.Working .flying index := by simp [Phase.Working]

theorem Phase.not_working_observed : ¬Phase.Working .observed index := by simp [Phase.Working]

theorem Phase.not_working_lost : ¬Phase.Working .lost index := by simp [Phase.Working]

/-- The phase is about the slot, the GETs and the requests only. -/
theorem PhaseState.congr (h : PhaseState count s phase) (hslot : t.slot = s.slot)
    (hflight : t.inFlight = s.inFlight) (hrequests : t.requests = s.requests) :
    PhaseState count t phase := by
  cases h with
  | idle h1 h2 h3 => exact .idle (hslot ▸ h1) (hflight ▸ h2) (hrequests ▸ h3)
  | issuing h0 h1 h2 h3 => exact .issuing h0 (hslot ▸ h1) (hflight ▸ h2) (hrequests ▸ h3)
  | flying h1 h2 h3 => exact .flying (hslot ▸ h1) (hflight ▸ h2) (hrequests ▸ h3)
  | answered h0 h1 h2 h3 => exact .answered h0 (hslot ▸ h1) (hflight ▸ h2) (hrequests ▸ h3)
  | observed h1 h2 h3 => exact .observed (hslot ▸ h1) (hflight ▸ h2) (hrequests ▸ h3)
  | lost h1 h2 h3 h4 =>
      exact .lost (hslot ▸ h1) (hflight ▸ h2) (hrequests ▸ h3) (hrequests ▸ h4)

/-- More threads do not change the phase. -/
theorem PhaseState.mono (h : PhaseState count s phase) {count' : Nat} (hcount : count ≤ count') :
    PhaseState count' s phase := by
  cases h with
  | idle h1 h2 h3 => exact .idle h1 h2 h3
  | issuing h0 h1 h2 h3 => exact .issuing (Nat.lt_of_lt_of_le h0 hcount) h1 h2 h3
  | flying h1 h2 h3 => exact .flying h1 h2 h3
  | answered h0 h1 h2 h3 => exact .answered (Nat.lt_of_lt_of_le h0 hcount) h1 h2 h3
  | observed h1 h2 h3 => exact .observed h1 h2 h3
  | lost h1 h2 h3 h4 => exact .lost h1 h2 h3 h4

/-- The slot is empty in the first phase only. -/
theorem PhaseState.slot_eq_none_iff (h : PhaseState count s phase) :
    s.slot = none ↔ phase = .idle := by
  cases h with
  | idle h1 h2 h3 => simp [h1]
  | issuing h0 h1 h2 h3 | answered h0 h1 h2 h3 => simp [Option.isSome_iff_ne_none.mp h1]
  | flying h1 h2 h3 | observed h1 h2 h3 => simp [Option.isSome_iff_ne_none.mp h1]
  | lost h1 h2 h3 h4 => simp [Option.isSome_iff_ne_none.mp h1]

theorem PhaseState.inFlight_pos_iff (h : PhaseState count s phase) :
    0 < s.inFlight ↔ phase = .flying := by
  cases h with
  | idle h1 h2 h3 | issuing h0 h1 h2 h3 | answered h0 h1 h2 h3 | observed h1 h2 h3
  | flying h1 h2 h3 | lost h1 h2 h3 h4 => simp [h2]

theorem PhaseState.requests_length (h : PhaseState count s phase) : s.requests.length ≤ 1 := by
  cases h with
  | idle h1 h2 h3 | issuing h0 h1 h2 h3 | answered h0 h1 h2 h3 | observed h1 h2 h3
  | flying h1 h2 h3 => simp [h3]
  | lost h1 h2 h3 h4 => exact h3

theorem PhaseState.observed_iff (h : PhaseState count s phase) :
    .ok .ok ∈ s.requests ↔ phase = .observed := by
  cases h with
  | idle h1 h2 h3 | issuing h0 h1 h2 h3 | answered h0 h1 h2 h3 | observed h1 h2 h3
  | flying h1 h2 h3 => simp [h3]
  | lost h1 h2 h3 h4 => simp [h4]

/-- Who is at work on the selection is one of the threads there are. -/
theorem PhaseState.working_lt (h : PhaseState count s phase) (hwork : phase.Working index) :
    index < count := by
  rcases hwork with rfl | rfl
  · cases h with
    | issuing hlt _ _ _ => exact hlt
  · cases h with
    | answered hlt _ _ _ => exact hlt

/-- The promise is about the phase alone. -/
theorem SelectionInv.allOrNothing_iff (h : SelectionInv phase p) :
    AllOrNothing p ↔ phase ≠ .lost := by
  have hstate := h.shared.state
  have hunder : UnderWay p ↔ (∃ index, phase = .issuing index ∨ phase = .answered index) ∨
      phase = .flying ∨ phase = .observed := by
    unfold UnderWay
    rw [hstate.inFlight_pos_iff, hstate.observed_iff]
    refine or_congr_left ⟨?_, ?_⟩
    · rintro ⟨thread, hmem, hwork⟩
      rcases List.mem_iff_getElem?.mp hmem with ⟨index, hindex⟩
      have hpart := h.threads index thread hindex
      exact ⟨index, hwork.imp hpart.issues.mp hpart.handles.mp⟩
    · rintro ⟨index, hphase⟩
      have hlt : index < p.threads.length := hstate.working_lt hphase
      have hpart := h.threads index _ (List.getElem?_eq_getElem hlt)
      exact ⟨_, List.getElem_mem hlt, hphase.imp hpart.issues.mpr hpart.handles.mpr⟩
  constructor
  · intro hall hlost
    have hslot : p.shared.slot ≠ none := by
      rw [Ne, hstate.slot_eq_none_iff, hlost]
      simp
    have hwork := hunder.mp (hall.underWay (Option.isSome_iff_ne_none.mpr hslot))
    simp [hlost] at hwork
  · intro hphase
    refine ⟨?_, h.shared.kept, hstate.requests_length, fun hslot => hunder.mpr ?_⟩
    · rw [← h.shared.kept]
      cases p.shared.slot with
      | none => simp
      | some _ => simp
    · have hidle : phase ≠ .idle := by
        rw [Ne, ← hstate.slot_eq_none_iff]
        exact Option.isSome_iff_ne_none.mp hslot
      cases phase with
      | idle => exact absurd rfl hidle
      | lost => exact absurd rfl hphase
      | issuing index => exact .inl ⟨index, .inl rfl⟩
      | answered index => exact .inl ⟨index, .inr rfl⟩
      | flying => exact .inr (.inl rfl)
      | observed => exact .inr (.inr rfl)

/-! ## Steps -/

/-- A thread which does not take the step keeps its part. -/
theorem SelectionPart.other (h : SelectionPart phase index s thread)
    (hholds : thread.holds = true → t.lock = some index)
    (hselects : thread.selects = true → phase' = .idle)
    (hissues : phase' = .issuing index ↔ phase = .issuing index)
    (hhandles : phase' = .answered index ↔ phase = .answered index) :
    SelectionPart phase' index t thread :=
  ⟨hholds, hselects, h.issues.trans hissues.symm, h.handles.trans hhandles.symm⟩

/-- A thread goes on without a new phase. -/
theorem SelectionInv.stays (h : SelectionInv phase p)
    (hnext : SelectionPart phase index p.shared next) :
    SelectionInv phase ⟨p.shared, p.threads.set index next⟩ :=
  PoolInv.advance h h.shared hnext fun _ _ _ _ hother => hother

/-- A thread which is not at work on the selection when nobody is. -/
theorem SelectionPart.of_not_working {shared : Selection} (hworking : ∀ other, ¬phase.Working other)
    (hholds : thread.holds = true → shared.lock = some index)
    (hselects : thread.selects = false) (hissues : thread.issues = false)
    (hhandles : thread.handles = false) : SelectionPart phase index shared thread := by
  refine ⟨hholds, fun h => ?_, iff_of_false ?_ fun h => hworking index (.inl h),
    iff_of_false ?_ fun h => hworking index (.inr h)⟩
  · rw [hselects] at h
    cases h
  · simp [hissues]
  · simp [hhandles]

/-- The thread at work ends its work, and nobody takes it over. -/
theorem SelectionInv.finishes (h : SelectionInv phase p) (hwork : phase.Working index)
    (hshared : SelectionShared phase' p.threads.length s) (hlock : s.lock = p.shared.lock)
    (hworking : ∀ other, ¬phase'.Working other) (hnext : SelectionPart phase' index s next) :
    SelectionInv phase' ⟨s, p.threads.set index next⟩ := by
  refine PoolInv.advance h hshared hnext fun other thread hne _ hother => ?_
  have hnobody : ¬phase.Working other := fun hboth => hne (hboth.unique hwork)
  refine hother.other (fun hholds => ?_) (fun hselects => ?_) ?_ ?_
  · rw [hlock]
    exact hother.holds hholds
  · rw [hother.selects hselects] at hwork
    exact absurd hwork Phase.not_working_idle
  · exact iff_of_false (fun h => hworking other (.inl h)) fun h => hnobody (.inl h)
  · exact iff_of_false (fun h => hworking other (.inr h)) fun h => hnobody (.inr h)

theorem SelectionInv.takesLock (h : SelectionInv phase p) {resource : FoundResource}
    (hthread : p.threads[index]? = some (.lock resource)) (hlock : p.shared.lock = none) :
    SelectionInv phase ⟨{ p.shared with lock := some index },
      p.threads.set index (.testSlot resource)⟩ := by
  have hpart := h.threads index _ hthread
  refine PoolInv.advance h ⟨h.shared.kept, h.shared.state.congr rfl rfl rfl⟩
    ⟨fun _ => rfl, fun hselects => (nomatch hselects), hpart.issues, hpart.handles⟩ ?_
  intro other thread _ _ hother
  refine hother.other (fun hholds => ?_) hother.selects Iff.rfl Iff.rfl
  have hheld := hother.holds hholds
  rw [hlock] at hheld
  cases hheld

theorem SelectionInv.unlocks (h : SelectionInv phase p)
    (hthread : p.threads[index]? = some .unlock) :
    SelectionInv phase ⟨{ p.shared with lock := none }, p.threads.set index .done⟩ := by
  have hpart := h.threads index _ hthread
  refine PoolInv.advance h ⟨h.shared.kept, h.shared.state.congr rfl rfl rfl⟩
    ⟨fun hholds => (nomatch hholds), fun hselects => (nomatch hselects), hpart.issues,
      hpart.handles⟩ ?_
  intro other thread hne _ hother
  refine hother.other (fun hholds => ?_) hother.selects Iff.rfl Iff.rfl
  -- nobody else has the lock
  have hheld := hother.holds hholds
  rw [hpart.holds rfl] at hheld
  exact absurd (Option.some.inj hheld).symm hne

/-- The first resource is stored. -/
theorem SelectionInv.stores (h : SelectionInv phase p) {resource : FoundResource}
    (hthread : p.threads[index]? = some (.store resource)) :
    SelectionInv (.issuing index)
      ⟨{ p.shared with slot := some index, stored := p.shared.stored ++ [index] },
        p.threads.set index (.getRepresentation resource)⟩ := by
  have hpart := h.threads index _ hthread
  have hidle : phase = .idle := hpart.selects rfl
  subst hidle
  have hempty := h.shared.state.slot_eq_none_iff.mpr rfl
  have hstored : p.shared.stored = [] := by
    rw [← h.shared.kept, hempty]
    rfl
  have hlt := (List.getElem?_eq_some_iff.mp hthread).1
  have hshared : SelectionShared (.issuing index) p.threads.length
      { p.shared with slot := some index, stored := p.shared.stored ++ [index] } := by
    refine ⟨by simp [hstored], ?_⟩
    cases h.shared.state with
    | idle _ hflight hrequests => exact .issuing hlt rfl hflight hrequests
  refine PoolInv.advance h hshared ⟨fun _ => hpart.holds rfl, fun hselects => (nomatch hselects),
    ⟨fun _ => rfl, fun _ => rfl⟩, ⟨fun hhandles => (nomatch hhandles), fun hphase =>
      (nomatch hphase)⟩⟩ ?_
  intro other thread hne _ hother
  refine hother.other hother.holds (fun hselects => ?_) ?_ ?_
  · have hheld := hother.holds (SelectionThread.holds_of_selects hselects)
    rw [hpart.holds rfl] at hheld
    exact absurd (Option.some.inj hheld).symm hne
  · simp [Ne.symm hne]
  · simp

/-- The GET is sent, or nobody will ever ask the stored server. -/
theorem SelectionInv.sends (h : SelectionInv phase p) {resource : FoundResource}
    {outside : Outside} (hthread : p.threads[index]? = some (.getRepresentation resource))
    (hadvance : selectionAdvance index p.shared (.getRepresentation resource) outside =
      some (s, next)) :
    ∃ phase', SelectionInv phase' ⟨s, p.threads.set index next⟩ ∧
      (phase' = .lost ↔ ¬SelectionThread.Succeeds outside (.getRepresentation resource)) := by
  have hpart := h.threads index _ hthread
  have hphase : phase = .issuing index := hpart.issues.mp rfl
  subst hphase
  have hworking : Phase.Working (.issuing index) index := .inl rfl
  cases h.shared.state with
  | issuing hlt hslot hflight hrequests =>
      by_cases hsent : resource.host.isSome = true ∧ outside.issue = some .ok
      · rcases Option.isSome_iff_exists.mp hsent.1 with ⟨host, hhost⟩
        unfold selectionAdvance issueGet at hadvance
        simp only [hhost, hsent.2, if_true] at hadvance
        cases hadvance
        refine ⟨.flying, h.finishes hworking ⟨h.shared.kept, ?_⟩ rfl
          (fun _ => Phase.not_working_flying) (.of_not_working (fun _ => Phase.not_working_flying)
            (fun _ => hpart.holds rfl) rfl rfl rfl), ?_⟩
        · exact .flying hslot (congrArg (· + 1) hflight) hrequests
        · simp [SelectionThread.Succeeds, hsent]
      · -- the slot stays full and nothing is sent
        have hsame : s = p.shared ∧ next = .unlock := by
          unfold selectionAdvance issueGet at hadvance
          dsimp only at hadvance
          cases hhost : resource.host with
          | none =>
              rw [hhost] at hadvance
              cases hadvance
              exact ⟨rfl, rfl⟩
          | some host =>
              have hissue : outside.issue ≠ some .ok := fun hissue => hsent ⟨by simp [hhost], hissue⟩
              rw [hhost] at hadvance
              dsimp only at hadvance
              rw [if_neg hissue] at hadvance
              cases hadvance
              exact ⟨rfl, rfl⟩
        rcases hsame with ⟨rfl, rfl⟩
        refine ⟨.lost, h.finishes hworking ⟨h.shared.kept, ?_⟩ rfl
          (fun _ => Phase.not_working_lost) (.of_not_working (fun _ => Phase.not_working_lost)
            (fun _ => hpart.holds rfl) rfl rfl rfl), ?_⟩
        · exact .lost hslot hflight (by simp [hrequests]) (by simp [hrequests])
        · exact iff_of_true rfl hsent

/-- The thread which handles the answer is done with it. -/
theorem SelectionInv.handled (h : SelectionInv (.answered index) p)
    (hshared : SelectionShared phase' p.threads.length s) (hlock : s.lock = p.shared.lock)
    (hworking : ∀ other, ¬phase'.Working other) :
    SelectionInv phase' ⟨s, p.threads.set index .done⟩ :=
  h.finishes (.inr rfl) hshared hlock hworking
    (.of_not_working hworking (fun hholds => (nomatch hholds)) rfl rfl rfl)

/-- The answer leads to the request, or to nothing. -/
theorem SelectionInv.reads (h : SelectionInv phase p) {answer : GetAnswer} {outside : Outside}
    (hthread : p.threads[index]? = some (.answered answer))
    (hadvance : selectionAdvance index p.shared (.answered answer) outside = some (s, next)) :
    ∃ phase', SelectionInv phase' ⟨s, p.threads.set index next⟩ ∧
      (phase' = .lost ↔ ¬SelectionThread.Succeeds outside (.answered answer)) := by
  have hpart := h.threads index _ hthread
  have hphase : phase = .answered index := hpart.handles.mp rfl
  subst hphase
  unfold selectionAdvance at hadvance
  dsimp only at hadvance
  split at hadvance
  · rename_i hexpected
    cases hadvance
    refine ⟨.answered index, h.stays ⟨fun hholds => (nomatch hholds),
      fun hselects => (nomatch hselects), hpart.issues, hpart.handles⟩, ?_⟩
    simp [SelectionThread.Succeeds, hexpected]
  · rename_i hunexpected
    cases hadvance
    cases h.shared.state with
    | answered hlt hslot hflight hrequests =>
        refine ⟨.lost, h.handled ⟨h.shared.kept, ?_⟩ rfl fun _ => Phase.not_working_lost, ?_⟩
        · exact .lost hslot hflight (by simp [hrequests]) (by simp [hrequests])
        · exact iff_of_true rfl hunexpected

theorem guardedCall_eq_ok_iff {issue : Option OCStackResult} :
    guardedCall issue = .ok .ok ↔ issue = some .ok := by
  cases issue with
  | none => simp [guardedCall]
  | some result =>
      unfold guardedCall resultGuard
      dsimp only
      split
      · simp
      · rename_i hpasses
        refine iff_of_false (fun heq => (nomatch heq)) fun heq => hpasses ?_
        cases heq
        rfl

/-- The observation is requested, or it never will be. -/
theorem SelectionInv.requests (h : SelectionInv phase p) {outside : Outside}
    (hthread : p.threads[index]? = some .observe)
    (hadvance : selectionAdvance index p.shared .observe outside = some (s, next)) :
    ∃ phase', SelectionInv phase' ⟨s, p.threads.set index next⟩ ∧
      (phase' = .lost ↔ ¬SelectionThread.Succeeds outside .observe) := by
  have hpart := h.threads index _ hthread
  have hphase : phase = .answered index := hpart.handles.mp rfl
  subst hphase
  cases h.shared.state with
  | answered hlt hslot hflight hrequests =>
      have hnext : s = { p.shared with
          requests := p.shared.requests ++ [guardedCall outside.issue] } ∧ next = .done := by
        unfold selectionAdvance at hadvance
        dsimp only at hadvance
        split at hadvance
        · rename_i hnone
          rw [hnone] at hslot
          cases hslot
        · cases hadvance
          exact ⟨rfl, rfl⟩
      rcases hnext with ⟨rfl, rfl⟩
      by_cases htaken : outside.issue = some .ok
      · refine ⟨.observed, h.handled ⟨h.shared.kept, ?_⟩ rfl
          fun _ => Phase.not_working_observed, ?_⟩
        · refine .observed hslot hflight ?_
          show p.shared.requests ++ [guardedCall outside.issue] = [.ok .ok]
          rw [hrequests, guardedCall_eq_ok_iff.mpr htaken, List.nil_append]
        · simp [SelectionThread.Succeeds, htaken]
      · have hfailed : guardedCall outside.issue ≠ .ok .ok :=
          fun heq => htaken (guardedCall_eq_ok_iff.mp heq)
        refine ⟨.lost, h.handled ⟨h.shared.kept, ?_⟩ rfl fun _ => Phase.not_working_lost, ?_⟩
        · exact .lost hslot hflight (by simp [hrequests])
            (by simp [hrequests, Ne.symm hfailed])
        · exact iff_of_true rfl htaken

/-- A thread takes a step. -/
theorem SelectionInv.advance (h : SelectionInv phase p) {outside : Outside}
    (hthread : p.threads[index]? = some thread)
    (hadvance : selectionAdvance index p.shared thread outside = some (s, next)) :
    ∃ phase', SelectionInv phase' ⟨s, p.threads.set index next⟩ ∧
      (phase' = .lost ↔ phase = .lost ∨ ¬thread.Succeeds outside) := by
  have hpart := h.threads index _ hthread
  -- the steps which always succeed leave the selection where it is
  have hsame : SelectionInv phase ⟨s, p.threads.set index next⟩ → thread.Succeeds outside →
      ∃ phase', SelectionInv phase' ⟨s, p.threads.set index next⟩ ∧
        (phase' = .lost ↔ phase = .lost ∨ ¬thread.Succeeds outside) :=
    fun hinv hsucceeds => ⟨phase, hinv, by simp [hsucceeds]⟩
  cases thread with
  | lock resource =>
      unfold selectionAdvance at hadvance
      dsimp only at hadvance
      split at hadvance
      · rename_i hlock
        cases hadvance
        exact hsame (h.takesLock hthread hlock) trivial
      · cases hadvance
  | testSlot resource =>
      unfold selectionAdvance at hadvance
      dsimp only at hadvance
      split at hadvance
      · rename_i hempty
        cases hadvance
        refine hsame (h.stays ⟨fun _ => hpart.holds rfl, fun _ => ?_, hpart.issues,
          hpart.handles⟩) trivial
        exact h.shared.state.slot_eq_none_iff.mp hempty
      · cases hadvance
        exact hsame (h.stays ⟨fun _ => hpart.holds rfl, fun hselects => (nomatch hselects),
          hpart.issues, hpart.handles⟩) trivial
  | checkResource resource =>
      have hunlock : SelectionPart phase index p.shared .unlock :=
        ⟨fun _ => hpart.holds rfl, fun hselects => (nomatch hselects), hpart.issues,
          hpart.handles⟩
      unfold selectionAdvance at hadvance
      dsimp only at hadvance
      split at hadvance
      · cases hadvance
        exact hsame (h.stays hunlock) trivial
      · split at hadvance
        · cases hadvance
          exact hsame (h.stays ⟨fun _ => hpart.holds rfl, fun _ => hpart.selects rfl,
            hpart.issues, hpart.handles⟩) trivial
        · cases hadvance
          exact hsame (h.stays hunlock) trivial
  | store resource =>
      cases hadvance
      refine ⟨.issuing index, h.stores hthread, ?_⟩
      have hidle : phase = .idle := hpart.selects rfl
      simp [hidle, SelectionThread.Succeeds]
  | getRepresentation resource =>
      rcases h.sends hthread hadvance with ⟨phase', hinv, hlost⟩
      have hphase : phase = .issuing index := hpart.issues.mp rfl
      exact ⟨phase', hinv, by simp [hlost, hphase]⟩
  | unlock =>
      cases hadvance
      exact hsame (h.unlocks hthread) trivial
  | answered answer =>
      rcases h.reads hthread hadvance with ⟨phase', hinv, hlost⟩
      have hphase : phase = .answered index := hpart.handles.mp rfl
      exact ⟨phase', hinv, by simp [hlost, hphase]⟩
  | observe =>
      rcases h.requests hthread hadvance with ⟨phase', hinv, hlost⟩
      have hphase : phase = .answered index := hpart.handles.mp rfl
      exact ⟨phase', hinv, by simp [hlost, hphase]⟩
  | done => cases hadvance

/-- The selection is lost by the steps which do not meet the condition, and only by them. -/
theorem SelectionInv.step {q : Pool Selection SelectionThread}
    {event : PoolEvent Arrival Outside Unit} (h : SelectionInv phase p)
    (hstep : selectionSystem.step p event = some q) :
    ∃ phase', SelectionInv phase' q ∧
      (phase' = .lost ↔ phase = .lost ∨ ¬SelectionCondition p event) := by
  cases event with
  | start arrival =>
      rcases ThreadSystem.step_start hstep with ⟨s, thread, hstart, rfl⟩
      cases arrival with
      | resource resource =>
          cases hstart
          refine ⟨phase, PoolInv.start h ⟨h.shared.kept, h.shared.state.mono (by omega)⟩
            ⟨fun hholds => (nomatch hholds), fun hselects => (nomatch hselects), ?_, ?_⟩
            fun _ _ _ hother => hother, by simp [SelectionCondition]⟩
          -- the thread is a new one, so the phase does not know it yet
          · exact iff_of_false (fun hissues => nomatch hissues) fun hphase =>
              Nat.lt_irrefl _ (h.shared.state.working_lt (.inl hphase))
          · exact iff_of_false (fun hhandles => nomatch hhandles) fun hphase =>
              Nat.lt_irrefl _ (h.shared.state.working_lt (.inr hphase))
      | answer answer =>
          have hflying : 0 < p.shared.inFlight ∧
              s = { p.shared with inFlight := p.shared.inFlight - 1 } ∧
                thread = .answered answer := by
            change (if 0 < p.shared.inFlight then _ else none) = _ at hstart
            split at hstart
            · rename_i hpos
              cases hstart
              exact ⟨hpos, rfl, rfl⟩
            · cases hstart
          rcases hflying with ⟨hpos, rfl, rfl⟩
          have hphase := h.shared.state.inFlight_pos_iff.mp hpos
          subst hphase
          cases h.shared.state with
          | flying hslot hflight hrequests =>
              refine ⟨.answered p.threads.length, PoolInv.start h ⟨h.shared.kept, ?_⟩
                ⟨fun hholds => (nomatch hholds), fun hselects => (nomatch hselects), by simp
                  [SelectionThread.issues], by simp [SelectionThread.handles]⟩ ?_,
                by simp [SelectionCondition]⟩
              · exact .answered (by omega) hslot (congrArg (· - 1) hflight) hrequests
              · intro other thread hother hpart
                have hlt := (List.getElem?_eq_some_iff.mp hother).1
                refine hpart.other hpart.holds (fun hselects => ?_) (by simp) ?_
                · cases hpart.selects hselects
                · have hne : p.threads.length ≠ other := by omega
                  simp [hne]
  | advance index outside =>
      rcases ThreadSystem.step_advance hstep with ⟨thread, s, next, hthread, hadvance, rfl⟩
      rcases h.advance hthread hadvance with ⟨phase', hinv, hlost⟩
      refine ⟨phase', hinv, hlost.trans (or_congr_right (not_congr ?_))⟩
      show _ ↔ ∀ thread ∈ p.threads[index]?, thread.Succeeds outside
      rw [hthread]
      simp
  | environment event =>
      rcases ThreadSystem.step_environment hstep with ⟨s, henv, rfl⟩
      have hflying : 0 < p.shared.inFlight ∧
          s = { p.shared with inFlight := p.shared.inFlight - 1 } := by
        change (if 0 < p.shared.inFlight then _ else none) = _ at henv
        split at henv
        · rename_i hpos
          cases henv
          exact ⟨hpos, rfl⟩
        · cases henv
      rcases hflying with ⟨hpos, rfl⟩
      have hphase := h.shared.state.inFlight_pos_iff.mp hpos
      subst hphase
      cases h.shared.state with
      | flying hslot hflight hrequests =>
          refine ⟨.lost, PoolInv.environment h ⟨h.shared.kept, ?_⟩ ?_, by
            simp [SelectionCondition]⟩
          · exact .lost hslot (congrArg (· - 1) hflight) (by simp [hrequests])
              (by simp [hrequests])
          · intro other thread _ hpart
            refine hpart.other hpart.holds (fun hselects => ?_) (by simp) (by simp)
            cases hpart.selects hselects

end Phases

/-! ## Runs -/

/-- What holds in every run. -/
def InSomePhase (p : Pool Selection SelectionThread) : Prop := ∃ phase, SelectionInv phase p

/-- What holds in every run under the condition. -/
def NotLost (p : Pool Selection SelectionThread) : Prop :=
  ∃ phase, SelectionInv phase p ∧ phase ≠ .lost

/-- Whatever happens, one resource at most is stored, it stays, and one observation at most
is requested. -/
theorem selectedOnce_of_reaches {p : Pool Selection SelectionThread}
    (h : Reaches selectionSystem.step ⟨.initial, []⟩ p) :
    p.shared.stored.length ≤ 1 ∧ p.shared.slot.toList = p.shared.stored ∧
      p.shared.requests.length ≤ 1 := by
  have hinitial : InSomePhase ⟨.initial, []⟩ := ⟨.idle, selectionInv_initial⟩
  have hinv : InSomePhase p := by
    refine h.invariant (fun s event t hs hstep => ?_) hinitial
    rcases hs with ⟨phase, hphase⟩
    rcases hphase.step hstep with ⟨phase', hphase', -⟩
    exact ⟨phase', hphase'⟩
  rcases hinv with ⟨phase, hphase⟩
  refine ⟨?_, hphase.shared.kept, hphase.shared.state.requests_length⟩
  rw [← hphase.shared.kept]
  cases p.shared.slot with
  | none => simp
  | some _ => simp

/-- **The selection is all-or-nothing.**  In every run whose steps meet the condition one
server is selected at most, and it is asked until the observation is requested; and a next
step keeps this exactly under the condition. -/
theorem allOrNothing_of_guardedReaches {p : Pool Selection SelectionThread}
    (h : GuardedReaches selectionSystem.step SelectionCondition ⟨.initial, []⟩ p) :
    AllOrNothing p ∧ ∀ event q, selectionSystem.step p event = some q →
      (AllOrNothing q ↔ SelectionCondition p event) := by
  have hinitial : NotLost ⟨.initial, []⟩ := ⟨.idle, selectionInv_initial, by simp⟩
  have hinv : NotLost p := by
    refine h.invariant (fun s event t hs hcondition hstep => ?_) hinitial
    rcases hs with ⟨phase, hphase, hkept⟩
    rcases hphase.step hstep with ⟨phase', hphase', hlost⟩
    exact ⟨phase', hphase', fun heq => (hlost.mp heq).elim hkept fun hnot => hnot hcondition⟩
  rcases hinv with ⟨phase, hphase, hkept⟩
  refine ⟨hphase.allOrNothing_iff.mpr hkept, fun event q hstep => ?_⟩
  rcases hphase.step hstep with ⟨phase', hphase', hlost⟩
  rw [hphase'.allOrNothing_iff, Ne, hlost]
  simp [hkept]

/-- A server with two endpoints, as it is found. -/
def ttsResource : FoundResource :=
  ⟨resourceUri, some "coap://10.0.0.2:5683",
    ["coap://10.0.0.2:5683", "coap+tcp://10.0.0.2:5683"], ctAdapterIp⟩

/-- The host is changed to the second endpoint, and the stack takes every request. -/
def cooperative : Outside := ⟨some (some "coap+tcp://10.0.0.2:5683", ctAdapterTcp), some .ok⟩

/-- A discovery up to the unlock. -/
def discoverySteps (index : Nat) (outside : Outside) : List (PoolEvent Arrival Outside Unit) :=
  .start (.resource ttsResource) :: List.replicate 6 (.advance index outside)

/-- One discovery has selected a server, and its answer was followed by the request. -/
def selectedPool : Pool Selection SelectionThread :=
  ⟨⟨none, some 0, [0], 0, [.ok .ok]⟩, [.done, .done]⟩

theorem selectedPool_reached :
    GuardedReaches selectionSystem.step SelectionCondition ⟨.initial, []⟩ selectedPool :=
  ⟨discoverySteps 0 cooperative ++ .start (.answer ⟨.ok, resourceUri⟩) ::
    List.replicate 2 (.advance 1 cooperative), by decide, by decide⟩

theorem allOrNothing_of_guardedReaches_selected :
    AllOrNothing selectedPool ∧ ∀ event q, selectionSystem.step selectedPool event = some q →
      (AllOrNothing q ↔ SelectionCondition selectedPool event) :=
  allOrNothing_of_guardedReaches selectedPool_reached

/-- The GET throws, and the server stays selected. -/
theorem failed_get_keeps_slot :
    ¬∀ p, Reaches selectionSystem.step ⟨.initial, []⟩ p → AllOrNothing p := by
  intro h
  have hreaches : Reaches selectionSystem.step ⟨.initial, []⟩
      ⟨⟨none, some 0, [0], 0, []⟩, [.done]⟩ :=
    ⟨discoverySteps 0 { cooperative with issue := some .commError }, by decide⟩
  rcases (h _ hreaches).underWay rfl with ⟨thread, hmem, hwork⟩ | hflight | hrequest
  · cases List.mem_singleton.mp hmem
    simp [SelectionThread.issues, SelectionThread.handles] at hwork
  · exact absurd hflight (by decide)
  · cases hrequest

end Clients
end FireEvacuation
