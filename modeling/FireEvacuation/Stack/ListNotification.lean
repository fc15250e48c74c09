import FireEvacuation.Stack.Observe
import Mathlib.Logic.Function.Basic

/-!
# Notifying a list of observers

`SendListObserverNotification` runs over a list of ids, sends a notification to every
observer of the resource it finds for one, and folds all the outcomes into one result:
OK when every id was served, `NO_OBSERVERS` when none was, an error in between.

A payload which cannot be allocated is tried again by the source, search included; the
outcome of an observer stands for the last try.

The search for an id goes over the observers before the one it finds, and sends a
confirmable notification to those whose time to live has run out.  These are attempts like
all others.
-/

namespace FireEvacuation
namespace Stack

open Platform

/-- What becomes of the notification of one observer. -/
inductive SendOutcome where
  /-- `AddServerRequest` fails. -/
  | notAdded
  /-- The result of `OCDoResponse`. -/
  | answered (result : OCStackResult)
  deriving DecidableEq, Repr

/-- The notification was sent. -/
def SendOutcome.sent (outcome : SendOutcome) : Bool := outcome = .answered .ok

/-- What the loop meets outside the list.  Its turns are counted from 0, and the tries of a
turn as well. -/
structure Delivery where
  send : ResourceObserver → SendOutcome
  /-- How often the payload of a turn cannot be allocated. -/
  retries : Nat → Nat
  /-- What the clock says when a try of a turn comes past an observer. -/
  clock : Nat → Nat → ResourceObserver → UInt32
  /-- `SendObserveNotification` gets as far as the entity handler in this turn. -/
  resends : Nat → ResourceObserver → Bool
  /-- The time to live of an observer when the loop begins. -/
  ttl : ResourceObserver → UInt32

/-- The variables of the loop, the ids of the observers a notification was attempted for,
and the times to live.  There are at most 255 ids, so the counter does not overflow. -/
structure SendLoop where
  numSentNotification : Nat
  observeErrorFlag : Bool
  attempts : List UInt8
  turn : Nat
  ttl : ResourceObserver → UInt32

section Loop

variable (observers : List ResourceObserver) (resource : ResourceHandle) (delivery : Delivery)

/-- The observer of the resource with the id. -/
def observerOfResource (id : UInt8) : Option ResourceObserver :=
  (GetObserverUsingId observers id).filter fun observer => observer.resource = resource

/-- `CheckTimedOutObserver`, when the clock says `now`. -/
def CheckTimedOutObserver (loop : SendLoop) (check : ResourceObserver × UInt32) : SendLoop :=
  if timedOut (loop.ttl check.1) check.2 then
    { loop with
      attempts := loop.attempts ++ [check.1.observeId]
      ttl :=
        if delivery.resends loop.turn check.1 then
          Function.update loop.ttl check.1 (observerTtl check.2)
        else loop.ttl }
  else loop

/-- The observers which the searches of a turn pass, each with the time. -/
def passedInTurn (turn : Nat) (id : UInt8) : List (ResourceObserver × UInt32) :=
  (List.range (delivery.retries turn + 1)).flatMap fun attempt =>
    (passedById observers id).map fun observer =>
      (observer, delivery.clock turn attempt observer)

/-- The searches of a turn. -/
def searchTurn (loop : SendLoop) (id : UInt8) : SendLoop :=
  (passedInTurn observers delivery loop.turn id).foldl (CheckTimedOutObserver delivery) loop

/-- The notification of the observer which was found. -/
def sendTurn (loop : SendLoop) (observer : ResourceObserver) : SendLoop :=
  { loop with
    numSentNotification :=
      loop.numSentNotification + if (delivery.send observer).sent then 1 else 0
    observeErrorFlag := loop.observeErrorFlag || !(delivery.send observer).sent
    attempts := loop.attempts ++ [observer.observeId]
    -- the time to live is set whatever `OCDoResponse` returns
    ttl :=
      if delivery.send observer = .notAdded then loop.ttl
      else Function.update loop.ttl observer
        (observerTtl (delivery.clock loop.turn (delivery.retries loop.turn) observer)) }

/-- The body of the loop. -/
def notifyObserver (loop : SendLoop) (id : UInt8) : SendLoop :=
  let searched := searchTurn observers delivery loop id
  let notified :=
    match observerOfResource observers resource id with
    | none => searched
    | some observer => sendTurn delivery searched observer
  { notified with turn := notified.turn + 1 }

/-- The loop. -/
def sendLoop (obsIdList : List UInt8) : SendLoop :=
  obsIdList.foldl (notifyObserver observers resource delivery) ⟨0, false, [], 0, delivery.ttl⟩

/-- `SendListObserverNotification`, with the attempts it made. -/
def SendListObserverNotification (obsIdList : List UInt8) : OCStackResult × List UInt8 :=
  let loop := sendLoop observers resource delivery obsIdList
  if loop.numSentNotification = obsIdList.length ∧ loop.observeErrorFlag = false then
    (.ok, loop.attempts)
  else if loop.numSentNotification = 0 then (.noObservers, loop.attempts)
  else (.error, loop.attempts)

/-- `OCNotifyListOfObservers` for a list which may be a null pointer and a handle which
may be unknown. -/
def OCNotifyListOfObservers (known : Bool) (obsIdList : Option (List UInt8)) :
    OCStackResult × List UInt8 :=
  match obsIdList with
  | none => (.error, [])
  | some ids =>
      if known then SendListObserverNotification observers resource delivery ids
      else (.noResource, [])

/-- Every check of the observer, from this turn on up to its own, finds that its time to
live has not run out. -/
def InTimeFrom (observer : ResourceObserver) (turn : Nat) (ttl : UInt32)
    (obsIdList : List UInt8) : Prop :=
  ∀ k id, obsIdList[k]? = some id → observer.observeId ∉ obsIdList.take k →
    ∀ check ∈ passedInTurn observers delivery (turn + k) id, check.1 = observer →
      timedOut ttl check.2 = false

/-- No search of the loop finds that the time to live of the observer has run out. -/
def InTime (obsIdList : List UInt8) (observer : ResourceObserver) : Prop :=
  InTimeFrom observers delivery observer 0 (delivery.ttl observer) obsIdList

/-- The observers the loop finds. -/
def foundObservers (obsIdList : List UInt8) : List ResourceObserver :=
  obsIdList.filterMap (observerOfResource observers resource)

variable {observers resource delivery}

theorem observerOfResource_eq_some {id : UInt8} {observer : ResourceObserver}
    (h : observerOfResource observers resource id = some observer) :
    observer ∈ observers ∧ observer.resource = resource ∧ observer.observeId = id := by
  rw [observerOfResource, Option.filter_eq_some_iff, GetObserverUsingId] at h
  obtain ⟨hfind, hresource⟩ := h
  refine ⟨List.mem_of_find?_eq_some hfind, of_decide_eq_true hresource, ?_⟩
  simpa only [decide_eq_true_eq] using List.find?_some hfind

/-- With distinct ids an observer is found by its own. -/
theorem observerOfResource_self (hdistinct : DistinctIds observers)
    {observer : ResourceObserver} (hmem : observer ∈ observers)
    (hresource : observer.resource = resource) :
    observerOfResource observers resource observer.observeId = some observer := by
  rw [observerOfResource]
  cases hfind : GetObserverUsingId observers observer.observeId with
  | none => exact absurd rfl (GetObserverUsingId_eq_none.mp hfind observer hmem)
  | some other =>
      have hid : other.observeId = observer.observeId := by
        simpa only [decide_eq_true_eq] using List.find?_some hfind
      have hother : other ∈ observers := List.mem_of_find?_eq_some hfind
      rw [hdistinct.eq hother hmem hid, Option.filter_some, if_pos (decide_eq_true hresource)]

/-! ## The counters -/

/-- A search touches neither the counters nor the turn. -/
theorem foldl_check_counters (delivery : Delivery)
    (checks : List (ResourceObserver × UInt32)) (loop : SendLoop) :
    (checks.foldl (CheckTimedOutObserver delivery) loop).numSentNotification =
        loop.numSentNotification ∧
      (checks.foldl (CheckTimedOutObserver delivery) loop).observeErrorFlag =
        loop.observeErrorFlag ∧
      (checks.foldl (CheckTimedOutObserver delivery) loop).turn = loop.turn := by
  induction checks generalizing loop with
  | nil => exact ⟨rfl, rfl, rfl⟩
  | cons check checks ih =>
      obtain ⟨hsent, hflag, hturn⟩ := ih (CheckTimedOutObserver delivery loop check)
      rw [List.foldl_cons, hsent, hflag, hturn, CheckTimedOutObserver]
      split
      · exact ⟨rfl, rfl, rfl⟩
      · exact ⟨rfl, rfl, rfl⟩

/-- The counters of the loop, in terms of the observers it finds. -/
theorem foldl_notifyObserver (ids : List UInt8) (loop : SendLoop) :
    (ids.foldl (notifyObserver observers resource delivery) loop).numSentNotification =
        loop.numSentNotification +
          (foundObservers observers resource ids).countP (fun o => (delivery.send o).sent) ∧
      (ids.foldl (notifyObserver observers resource delivery) loop).observeErrorFlag =
        (loop.observeErrorFlag ||
          (foundObservers observers resource ids).any fun o => !(delivery.send o).sent) := by
  -- for any counters, since each turn adds to those of the turn before
  induction ids generalizing loop with
  | nil => simp [foundObservers]
  | cons id ids ih =>
      obtain ⟨hsent, hflag⟩ := ih (notifyObserver observers resource delivery loop id)
      obtain ⟨hsearchSent, hsearchFlag, -⟩ :=
        foldl_check_counters delivery (passedInTurn observers delivery loop.turn id) loop
      rw [List.foldl_cons, hsent, hflag, notifyObserver, foundObservers, foundObservers]
      cases hfound : observerOfResource observers resource id with
      | none =>
          rw [List.filterMap_cons_none hfound]
          exact ⟨congrArg (· + _) hsearchSent, congrArg (· || _) hsearchFlag⟩
      | some observer =>
          rw [List.filterMap_cons_some hfound, List.countP_cons, List.any_cons]
          simp only [sendTurn, searchTurn, hsearchSent, hsearchFlag]
          exact ⟨by omega, Bool.or_assoc _ _ _⟩

theorem length_foundObservers_le (observers : List ResourceObserver)
    (resource : ResourceHandle) (ids : List UInt8) :
    (foundObservers observers resource ids).length ≤ ids.length :=
  List.length_filterMap_le _ _

/-- The result is OK exactly when every id belongs to an observer of the resource which
was notified. -/
theorem SendListObserverNotification_ok_iff (ids : List UInt8) :
    (SendListObserverNotification observers resource delivery ids).1 = .ok ↔
      ∀ id ∈ ids, ∃ observer, observerOfResource observers resource id = some observer ∧
        (delivery.send observer).sent = true := by
  have hcount : (foundObservers observers resource ids).countP (fun o => (delivery.send o).sent) =
      ids.length ↔ ∀ id ∈ ids, ∃ observer,
        observerOfResource observers resource id = some observer ∧
          (delivery.send observer).sent = true := by
    rw [foundObservers, List.countP_filterMap, List.countP_eq_length]
    constructor
    · intro h id hid
      have hany := h id hid
      cases hfound : observerOfResource observers resource id with
      | none =>
          rw [hfound] at hany
          cases hany
      | some observer =>
          rw [hfound] at hany
          exact ⟨observer, rfl, hany⟩
    · intro h id hid
      obtain ⟨observer, hfound, hsent⟩ := h id hid
      rw [hfound]
      exact hsent
  rw [SendListObserverNotification, sendLoop]
  rw [(foldl_notifyObserver ids _).1, (foldl_notifyObserver ids _).2, ← hcount, Nat.zero_add,
    Bool.false_or]
  constructor
  · intro h
    split at h
    · rename_i hall
      exact hall.1
    · split at h <;> cases h
  · intro h
    -- when as many were notified as there are ids, no notification has failed
    have hfailed : ((foundObservers observers resource ids).any fun o => !(delivery.send o).sent) =
        false := by
      have hlength := length_foundObservers_le observers resource ids
      rw [← h] at hlength
      have hall := List.countP_eq_length.mp (Nat.le_antisymm List.countP_le_length hlength)
      rw [List.any_eq_false]
      intro observer hmem
      simp [hall observer hmem]
    rw [if_pos ⟨h, hfailed⟩]

/-- The only other results. -/
theorem SendListObserverNotification_cases (observers : List ResourceObserver)
    (resource : ResourceHandle) (delivery : Delivery) (ids : List UInt8) :
    (SendListObserverNotification observers resource delivery ids).1 = .ok ∨
      (SendListObserverNotification observers resource delivery ids).1 = .noObservers ∨
      (SendListObserverNotification observers resource delivery ids).1 = .error := by
  rw [SendListObserverNotification]
  split
  · exact Or.inl rfl
  · split
    · exact Or.inr (Or.inl rfl)
    · exact Or.inr (Or.inr rfl)

/-- Without a hit there is nobody to notify. -/
theorem SendListObserverNotification_of_none {ids : List UInt8} (hids : ids ≠ [])
    (h : ∀ id ∈ ids, observerOfResource observers resource id = none) :
    (SendListObserverNotification observers resource delivery ids).1 = .noObservers := by
  have hfound : foundObservers observers resource ids = [] := by
    rw [foundObservers, List.filterMap_eq_nil_iff]
    exact h
  have hlength : ids.length ≠ 0 := by rwa [ne_eq, List.length_eq_zero_iff]
  rw [SendListObserverNotification, sendLoop]
  rw [(foldl_notifyObserver ids _).1, hfound]
  simp [hlength.symm]

/-- The attempts are those of the loop. -/
theorem attempts_SendListObserverNotification (ids : List UInt8) :
    (SendListObserverNotification observers resource delivery ids).2 =
      (sendLoop observers resource delivery ids).attempts := by
  rw [SendListObserverNotification]
  split
  · rfl
  · split <;> rfl

/-! ## The attempts for one observer -/

section Attempts

variable {observer : ResourceObserver}

theorem inTimeFrom_cons {turn : Nat} {ttl : UInt32} {id : UInt8} {ids : List UInt8} :
    InTimeFrom observers delivery observer turn ttl (id :: ids) ↔
      (∀ check ∈ passedInTurn observers delivery turn id, check.1 = observer →
        timedOut ttl check.2 = false) ∧
      (id ≠ observer.observeId →
        InTimeFrom observers delivery observer (turn + 1) ttl ids) := by
  constructor
  · intro h
    refine ⟨fun check hcheck => h 0 id rfl List.not_mem_nil check hcheck, ?_⟩
    intro hne k other hother hbefore check hcheck
    refine h (k + 1) other hother ?_ check ?_
    · rw [List.take_succ_cons, List.mem_cons, not_or]
      exact ⟨Ne.symm hne, hbefore⟩
    · rwa [Nat.add_assoc, Nat.add_comm 1 k] at hcheck
  · rintro ⟨hfirst, hrest⟩ k other hother hbefore check hcheck
    cases k with
    | zero =>
        cases hother
        exact hfirst check hcheck
    | succ k =>
        rw [List.take_succ_cons, List.mem_cons, not_or] at hbefore
        refine hrest (Ne.symm hbefore.1) k other hother hbefore.2 check ?_
        rwa [Nat.add_assoc, Nat.add_comm 1 k]

/-- Nobody who was given a time to live by the stack is out of time. -/
theorem inTimeFrom_of_givenTtl {turn : Nat} {ttl : UInt32} (h : GivenTtl ttl)
    (ids : List UInt8) : InTimeFrom observers delivery observer turn ttl ids :=
  fun _ _ _ _ check _ _ => h.not_timedOut check.2

/-- A search only adds attempts. -/
theorem foldl_check_count_le (delivery : Delivery)
    (checks : List (ResourceObserver × UInt32)) (loop : SendLoop) (id : UInt8) :
    loop.attempts.count id ≤
      (checks.foldl (CheckTimedOutObserver delivery) loop).attempts.count id := by
  induction checks generalizing loop with
  | nil => exact Nat.le_refl _
  | cons check checks ih =>
      refine Nat.le_trans ?_ (ih (CheckTimedOutObserver delivery loop check))
      rw [CheckTimedOutObserver]
      split
      · rw [List.count_append]
        exact Nat.le_add_right _ _
      · exact Nat.le_refl _

/-- A check of somebody else, or of the observer in time, leaves it alone. -/
theorem check_quiet (delivery : Delivery) {loop : SendLoop}
    {check : ResourceObserver × UInt32} (h : check.1.observeId = observer.observeId →
      timedOut (loop.ttl check.1) check.2 = false) :
    (CheckTimedOutObserver delivery loop check).attempts.count observer.observeId =
        loop.attempts.count observer.observeId ∧
      (CheckTimedOutObserver delivery loop check).ttl observer = loop.ttl observer := by
  rw [CheckTimedOutObserver]
  split
  · rename_i hout
    have hid : check.1.observeId ≠ observer.observeId := by
      intro hid
      rw [h hid] at hout
      cases hout
    have hne : observer ≠ check.1 := fun heq => hid (congrArg _ heq.symm)
    refine ⟨?_, ?_⟩
    · rw [List.count_append, List.count_singleton]
      simp [hid]
    · dsimp only
      split
      · rw [Function.update_of_ne hne]
      · rfl
  · exact ⟨rfl, rfl⟩

theorem foldl_check_quiet (delivery : Delivery)
    {checks : List (ResourceObserver × UInt32)} {loop : SendLoop}
    (h : ∀ check ∈ checks, check.1.observeId = observer.observeId →
      check.1 = observer ∧ timedOut (loop.ttl observer) check.2 = false) :
    (checks.foldl (CheckTimedOutObserver delivery) loop).attempts.count observer.observeId =
        loop.attempts.count observer.observeId ∧
      (checks.foldl (CheckTimedOutObserver delivery) loop).ttl observer =
        loop.ttl observer := by
  induction checks generalizing loop with
  | nil => exact ⟨rfl, rfl⟩
  | cons check checks ih =>
      have hfirst : check.1.observeId = observer.observeId →
          timedOut (loop.ttl check.1) check.2 = false := by
        intro hid
        obtain ⟨heq, hin⟩ := h check List.mem_cons_self hid
        rw [heq]
        exact hin
      obtain ⟨hcount, httl⟩ := check_quiet delivery hfirst
      have hlater : ∀ other ∈ checks, other.1.observeId = observer.observeId →
          other.1 = observer ∧
            timedOut ((CheckTimedOutObserver delivery loop check).ttl observer) other.2 =
              false := by
        intro other hother hid
        rw [httl]
        exact h other (List.mem_cons_of_mem _ hother) hid
      obtain ⟨hrestCount, hrestTtl⟩ := ih hlater
      rw [List.foldl_cons, hrestCount, hrestTtl]
      exact ⟨hcount, httl⟩

/-- An observer out of time is sent a notification by the search. -/
theorem foldl_check_count_lt {checks : List (ResourceObserver × UInt32)} {loop : SendLoop}
    {check : ResourceObserver × UInt32} (hcheck : check ∈ checks) (hself : check.1 = observer)
    (hout : timedOut (loop.ttl observer) check.2 = true) :
    loop.attempts.count observer.observeId <
      (checks.foldl (CheckTimedOutObserver delivery) loop).attempts.count
        observer.observeId := by
  induction checks generalizing loop with
  | nil => cases hcheck
  | cons first checks ih =>
      rw [List.foldl_cons]
      by_cases hfirst : first.1 = observer ∧ timedOut (loop.ttl first.1) first.2 = true
      · -- the first check sends one, and nothing takes it back
        refine Nat.lt_of_lt_of_le ?_ (foldl_check_count_le delivery checks _ observer.observeId)
        rw [CheckTimedOutObserver, if_pos hfirst.2, List.count_append, hfirst.1]
        simp
      · have hmem : check ∈ checks := by
          rcases List.mem_cons.mp hcheck with rfl | hmem
          · exact absurd ⟨hself, hself ▸ hout⟩ hfirst
          · exact hmem
        have httl : (CheckTimedOutObserver delivery loop first).ttl observer =
            loop.ttl observer := by
          rw [CheckTimedOutObserver]
          split
          · rename_i hfirstOut
            have hne : observer ≠ first.1 := fun heq => hfirst ⟨heq.symm, hfirstOut⟩
            dsimp only
            split
            · rw [Function.update_of_ne hne]
            · rfl
          · rfl
        have hle : loop.attempts.count observer.observeId ≤
            (CheckTimedOutObserver delivery loop first).attempts.count observer.observeId :=
          foldl_check_count_le delivery [first] loop observer.observeId
        exact Nat.lt_of_le_of_lt hle (ih hmem (by rw [httl]; exact hout))

/-- Who is checked in a turn is in the list, and not the one which is searched for. -/
theorem mem_passedInTurn {turn : Nat} {id : UInt8} {check : ResourceObserver × UInt32}
    (h : check ∈ passedInTurn observers delivery turn id) :
    check.1 ∈ observers ∧ check.1.observeId ≠ id := by
  rw [passedInTurn, List.mem_flatMap] at h
  obtain ⟨attempt, -, hmem⟩ := h
  obtain ⟨passed, hpassed, rfl⟩ := List.mem_map.mp hmem
  exact ne_of_mem_passedById hpassed

variable (hdistinct : DistinctIds observers) (hmem : observer ∈ observers)
  (hresource : observer.resource = resource)

/-- In its own turn an observer is attempted, and in the turn of another one it may be. -/
theorem notifyObserver_attempts (loop : SendLoop) (id : UInt8) :
    (notifyObserver observers resource delivery loop id).attempts =
      (searchTurn observers delivery loop id).attempts ++
        ((observerOfResource observers resource id).map ResourceObserver.observeId).toList := by
  rw [notifyObserver]
  cases observerOfResource observers resource id with
  | none => exact (List.append_nil _).symm
  | some found => rfl

include hdistinct hmem hresource in
theorem count_found (id : UInt8) :
    ((observerOfResource observers resource id).map
      ResourceObserver.observeId).toList.count observer.observeId =
        [id].count observer.observeId := by
  by_cases hid : id = observer.observeId
  · subst hid
    rw [observerOfResource_self hdistinct hmem hresource]
    rfl
  · cases hfound : observerOfResource observers resource id with
    | none => simp [hid]
    | some found =>
        have hother := (observerOfResource_eq_some hfound).2.2
        simp [hother]

theorem notifyObserver_turn (loop : SendLoop) (id : UInt8) :
    (notifyObserver observers resource delivery loop id).turn = loop.turn + 1 := by
  have hsearch := (foldl_check_counters delivery
    (passedInTurn observers delivery loop.turn id) loop).2.2
  rw [notifyObserver]
  cases observerOfResource observers resource id with
  | none => exact congrArg (· + 1) hsearch
  | some found => exact congrArg (· + 1) hsearch

/-- The turn of another observer leaves alone what the search left. -/
theorem notifyObserver_ttl_of_ne (loop : SendLoop) {id : UInt8}
    (hid : id ≠ observer.observeId) :
    (notifyObserver observers resource delivery loop id).ttl observer =
      (searchTurn observers delivery loop id).ttl observer := by
  rw [notifyObserver]
  cases hfound : observerOfResource observers resource id with
  | none => rfl
  | some found =>
      have hother := (observerOfResource_eq_some hfound).2.2
      have hne : observer ≠ found := fun heq => hid (heq ▸ hother.symm)
      dsimp only [sendTurn]
      split
      · rfl
      · rw [Function.update_of_ne hne]

include hdistinct hmem hresource in
/-- An observer which was sent its notification has a time to live from the stack. -/
theorem givenTtl_of_own_turn (hsent : (delivery.send observer).sent = true)
    (loop : SendLoop) :
    GivenTtl ((notifyObserver observers resource delivery loop observer.observeId).ttl
      observer) := by
  have hadded : delivery.send observer ≠ .notAdded := by
    intro hnot
    rw [hnot] at hsent
    cases hsent
  rw [notifyObserver, observerOfResource_self hdistinct hmem hresource]
  simp only [sendTurn, if_neg hadded, Function.update_self]
  exact .inr ⟨_, rfl⟩

include hdistinct hmem in
/-- A search which finds the observer in time leaves it alone. -/
theorem searchTurn_quiet {loop : SendLoop} {id : UInt8}
    (h : ∀ check ∈ passedInTurn observers delivery loop.turn id, check.1 = observer →
      timedOut (loop.ttl observer) check.2 = false) :
    (searchTurn observers delivery loop id).attempts.count observer.observeId =
        loop.attempts.count observer.observeId ∧
      (searchTurn observers delivery loop id).ttl observer = loop.ttl observer := by
  refine foldl_check_quiet delivery fun check hcheck hid => ?_
  have hself := hdistinct.eq (mem_passedInTurn hcheck).1 hmem hid
  exact ⟨hself, h check hcheck hself⟩

theorem count_cons_singleton (id : UInt8) (ids : List UInt8) (other : UInt8) :
    (id :: ids).count other = [id].count other + ids.count other := by
  rw [← List.singleton_append, List.count_append]

include hdistinct hmem hresource in
/-- Every id gives its observer an attempt. -/
theorem foldl_notifyObserver_count_le (delivery : Delivery) (ids : List UInt8) (loop : SendLoop) :
    loop.attempts.count observer.observeId + ids.count observer.observeId ≤
      (ids.foldl (notifyObserver observers resource delivery) loop).attempts.count
        observer.observeId := by
  induction ids generalizing loop with
  | nil => exact Nat.le_refl _
  | cons id ids ih =>
      have hrest := ih (notifyObserver observers resource delivery loop id)
      rw [notifyObserver_attempts, List.count_append,
        count_found hdistinct hmem hresource] at hrest
      have hsearch : loop.attempts.count observer.observeId ≤
          (searchTurn observers delivery loop id).attempts.count observer.observeId :=
        foldl_check_count_le delivery _ loop observer.observeId
      have hcons := count_cons_singleton id ids observer.observeId
      rw [List.foldl_cons, hcons]
      omega

include hdistinct hmem hresource in
/-- An observer in time is attempted as often as its id is in the list. -/
theorem foldl_notifyObserver_count_eq (hsent : (delivery.send observer).sent = true)
    (ids : List UInt8) (loop : SendLoop)
    (h : InTimeFrom observers delivery observer loop.turn (loop.ttl observer) ids) :
    (ids.foldl (notifyObserver observers resource delivery) loop).attempts.count
      observer.observeId =
        loop.attempts.count observer.observeId + ids.count observer.observeId := by
  induction ids generalizing loop with
  | nil => rfl
  | cons id ids ih =>
      obtain ⟨hfirst, hlater⟩ := inTimeFrom_cons.mp h
      have hquiet := searchTurn_quiet hdistinct hmem hfirst
      have hnext : InTimeFrom observers delivery observer
          (notifyObserver observers resource delivery loop id).turn
          ((notifyObserver observers resource delivery loop id).ttl observer) ids := by
        by_cases hid : id = observer.observeId
        · subst hid
          exact inTimeFrom_of_givenTtl
            (givenTtl_of_own_turn hdistinct hmem hresource hsent loop) ids
        · rw [notifyObserver_turn, notifyObserver_ttl_of_ne loop hid, hquiet.2]
          exact hlater hid
      have hcons := count_cons_singleton id ids observer.observeId
      rw [List.foldl_cons, ih _ hnext, notifyObserver_attempts, List.count_append,
        count_found hdistinct hmem hresource, hquiet.1, hcons, Nat.add_assoc]

include hdistinct hmem hresource in
/-- One which is not is attempted once more. -/
theorem foldl_notifyObserver_count_lt (ids : List UInt8) (loop : SendLoop)
    (h : ¬InTimeFrom observers delivery observer loop.turn (loop.ttl observer) ids) :
    loop.attempts.count observer.observeId + ids.count observer.observeId <
      (ids.foldl (notifyObserver observers resource delivery) loop).attempts.count
        observer.observeId := by
  induction ids generalizing loop with
  | nil => exact absurd (fun k id hid => by simp at hid) h
  | cons id ids ih =>
      have hcons := count_cons_singleton id ids observer.observeId
      rw [List.foldl_cons, hcons]
      by_cases hfirst : ∀ check ∈ passedInTurn observers delivery loop.turn id,
          check.1 = observer → timedOut (loop.ttl observer) check.2 = false
      · -- the search is no trouble yet, so it is a later one, before the observer's own turn
        have hquiet := searchTurn_quiet hdistinct hmem hfirst
        have hlater : id ≠ observer.observeId ∧
            ¬InTimeFrom observers delivery observer (loop.turn + 1) (loop.ttl observer) ids := by
          rw [inTimeFrom_cons, not_and, Classical.not_imp] at h
          exact h hfirst
        have hrest := ih (notifyObserver observers resource delivery loop id) (by
          rw [notifyObserver_turn, notifyObserver_ttl_of_ne loop hlater.1, hquiet.2]
          exact hlater.2)
        rw [notifyObserver_attempts, List.count_append, count_found hdistinct hmem hresource,
          hquiet.1] at hrest
        omega
      · simp only [not_forall, Bool.not_eq_false] at hfirst
        obtain ⟨check, hcheck, hself, hout⟩ := hfirst
        have hsearch : loop.attempts.count observer.observeId <
            (searchTurn observers delivery loop id).attempts.count observer.observeId :=
          foldl_check_count_lt hcheck hself hout
        have hrest := foldl_notifyObserver_count_le hdistinct hmem hresource delivery ids
          (notifyObserver observers resource delivery loop id)
        rw [notifyObserver_attempts, List.count_append,
          count_found hdistinct hmem hresource] at hrest
        omega

end Attempts

end Loop

end Stack
end FireEvacuation
