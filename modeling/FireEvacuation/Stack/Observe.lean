import FireEvacuation.Platform.StackResult
import Mathlib.Data.List.Nodup
import Mathlib.Data.List.TakeWhile

/-!
# The observer list of the C stack

`g_serverObsList` holds the observers of all resources.  An observer is found by its
id or by the token of its request; a token is compared over the length of the token
which is searched for, and an empty one is a null pointer.  (A token which is longer
than the stored one is read past the end of the latter; here it counts as different.)

A search gives every observer it passes to `CheckTimedOutObserver`, which sends a
notification when the time to live of the observer has run out.  This is a `GET` of the
resource: it changes neither the list nor the observations.  So the result of a search and
the observers it passes are two functions here.  The time to live is always `UINT32_MAX`
or 0, since the product in `GetTicks` is one of 32-bit numbers, and never runs out.
-/

namespace FireEvacuation
namespace Stack

open Platform

/-- `OCResourceHandle`. -/
abbrev ResourceHandle := Nat

abbrev Token := List UInt8

/-- `ResourceObserver`, as far as the modelled functions read it. -/
structure ResourceObserver where
  observeId : UInt8
  token : Token
  resource : ResourceHandle
  failedCommCount : UInt8
  deriving DecidableEq, Repr

/-- `memcmp(out->token, token, tokenLength) == 0`. -/
def ResourceObserver.hasToken (token : Token) (observer : ResourceObserver) : Bool :=
  token.isPrefixOf observer.token

/-- What `GetObserverUsingId` returns. -/
def GetObserverUsingId (observers : List ResourceObserver) (observeId : UInt8) :
    Option ResourceObserver :=
  observers.find? fun observer => observer.observeId = observeId

/-- The observers which `GetObserverUsingId` gives to `CheckTimedOutObserver`. -/
def passedById (observers : List ResourceObserver) (observeId : UInt8) :
    List ResourceObserver :=
  observers.takeWhile fun observer => observer.observeId ≠ observeId

/-- What `GetObserverUsingToken` returns. -/
def GetObserverUsingToken (observers : List ResourceObserver) (token : Token) :
    Option ResourceObserver :=
  if token = [] then none else observers.find? (ResourceObserver.hasToken token)

/-- `DeleteObserverUsingToken`. -/
def DeleteObserverUsingToken (observers : List ResourceObserver) (token : Token) :
    OCStackResult × List ResourceObserver :=
  if token = [] then (.invalidParam, observers)
  else (.ok, observers.eraseP (ResourceObserver.hasToken token))

/-- `AddObserver` for an observable resource, with or without enough memory. -/
def AddObserver (memory : Bool) (observers : List ResourceObserver) (obsId : UInt8)
    (token : Token) (resHandle : ResourceHandle) : OCStackResult × List ResourceObserver :=
  if token = [] then (.invalidParam, observers)
  else if memory then
    (.ok, observers ++
      [{ observeId := obsId, token := token, resource := resHandle, failedCommCount := 0 }])
  else (.noMemory, observers)

/-! ## The time to live -/

/-- `UINT32_MAX`. -/
def uint32Max : UInt32 := 4294967295

/-- `COAP_TICKS_PER_SECOND` under POSIX. -/
def coapTicksPerSecond : UInt32 := 1024

/-- `MILLISECONDS_PER_SECOND`. -/
def millisecondsPerSecond : UInt32 := 1000

/-- `MAX_OBSERVER_TTL_SECONDS`. -/
def maxObserverTtlSeconds : UInt32 := 60 * 60 * 24

/-- `GetTicks`, when the clock says `now`. -/
def GetTicks (now milliSeconds : UInt32) : UInt32 :=
  if milliSeconds ≤ ((uint32Max - now) * millisecondsPerSecond) / coapTicksPerSecond then
    now + (milliSeconds * coapTicksPerSecond) / millisecondsPerSecond
  else uint32Max

/-- The time to live of a new observer, and of one which was sent a notification. -/
def observerTtl (now : UInt32) : UInt32 :=
  GetTicks now (maxObserverTtlSeconds * millisecondsPerSecond)

/-- The test of `CheckTimedOutObserver`. -/
def timedOut (ttl now : UInt32) : Bool := ttl ≠ 0 && ttl < now

/-- A day is more than `GetTicks` can add, whatever the clock says. -/
theorem observerTtl_eq (now : UInt32) : observerTtl now = uint32Max := by
  rw [observerTtl, GetTicks, if_neg]
  intro hle
  have hdiv : (((uint32Max - now) * millisecondsPerSecond) / coapTicksPerSecond).toNat ≤
      4194303 := by
    rw [UInt32.toNat_div]
    have hlt := ((uint32Max - now) * millisecondsPerSecond).toNat_lt
    have hticks : coapTicksPerSecond.toNat = 1024 := rfl
    rw [hticks]
    omega
  have hday : (maxObserverTtlSeconds * millisecondsPerSecond).toNat = 86400000 := rfl
  have h := UInt32.le_iff_toNat_le.mp hle
  rw [hday] at h
  omega

@[simp] theorem timedOut_zero (now : UInt32) : timedOut 0 now = false := rfl

/-- What `GetTicks` gives an observer never runs out. -/
@[simp] theorem timedOut_observerTtl (since now : UInt32) :
    timedOut (observerTtl since) now = false := by
  rw [observerTtl_eq, timedOut, Bool.and_eq_false_iff]
  refine .inr (decide_eq_false fun hlt => ?_)
  have hbound := now.toNat_lt
  have h := UInt32.lt_iff_toNat_lt.mp hlt
  have hmax : uint32Max.toNat = 4294967295 := rfl
  rw [hmax] at h
  omega

/-- The times to live which the stack gives: 0 to an observer of presence, and `observerTtl`
to all others, when they are added and when they are sent a notification. -/
def GivenTtl (ttl : UInt32) : Prop := ttl = 0 ∨ ∃ now, ttl = observerTtl now

theorem GivenTtl.not_timedOut {ttl : UInt32} (h : GivenTtl ttl) (now : UInt32) :
    timedOut ttl now = false := by
  rcases h with rfl | ⟨since, rfl⟩
  · exact timedOut_zero now
  · exact timedOut_observerTtl since now

/-! ## Observers and their ids -/

/-- No two observers have the same id. -/
def DistinctIds (observers : List ResourceObserver) : Prop :=
  (observers.map ResourceObserver.observeId).Nodup

/-- The id is held by some observer of the resource. -/
def Observes (observers : List ResourceObserver) (resource : ResourceHandle) (id : UInt8) :
    Prop :=
  ∃ observer ∈ observers, observer.resource = resource ∧ observer.observeId = id

/-- What an observation is known by. -/
def ResourceObserver.key (observer : ResourceObserver) : ResourceHandle × UInt8 :=
  (observer.resource, observer.observeId)

theorem observes_iff_key {observers : List ResourceObserver} {resource : ResourceHandle}
    {id : UInt8} :
    Observes observers resource id ↔ (resource, id) ∈ observers.map ResourceObserver.key := by
  simp [Observes, ResourceObserver.key]

theorem distinctIds_iff_key {observers : List ResourceObserver} :
    DistinctIds observers ↔ ((observers.map ResourceObserver.key).map Prod.snd).Nodup := by
  rw [DistinctIds, List.map_map]
  rfl

theorem GetObserverUsingId_eq_none {observers : List ResourceObserver} {id : UInt8} :
    GetObserverUsingId observers id = none ↔
      ∀ observer ∈ observers, observer.observeId ≠ id := by
  simp [GetObserverUsingId, List.find?_eq_none]

/-- A search passes observers with other ids. -/
theorem ne_of_mem_passedById {observers : List ResourceObserver} {id : UInt8}
    {observer : ResourceObserver} (h : observer ∈ passedById observers id) :
    observer ∈ observers ∧ observer.observeId ≠ id := by
  refine ⟨(List.takeWhile_sublist _).mem h, ?_⟩
  simpa using List.mem_takeWhile_imp h

theorem GetObserverUsingToken_mem {observers : List ResourceObserver} {token : Token}
    {observer : ResourceObserver} (h : GetObserverUsingToken observers token = some observer) :
    observer ∈ observers := by
  rw [GetObserverUsingToken] at h
  split at h
  · cases h
  · exact List.mem_of_find?_eq_some h

theorem DistinctIds.eq {observers : List ResourceObserver} (h : DistinctIds observers)
    {x y : ResourceObserver} (hx : x ∈ observers) (hy : y ∈ observers)
    (hid : x.observeId = y.observeId) : x = y :=
  List.inj_on_of_nodup_map h hx hy hid

/-- The first observer which satisfies a test is removed, and only this one. -/
theorem mem_eraseP {observers : List ResourceObserver} {p : ResourceObserver → Bool}
    {found : ResourceObserver} (hdistinct : DistinctIds observers)
    (hfind : observers.find? p = some found) (x : ResourceObserver) :
    x ∈ observers.eraseP p ↔ x ∈ observers ∧ x.observeId ≠ found.observeId := by
  induction observers with
  | nil => cases hfind
  | cons y observers ih =>
      rw [DistinctIds, List.map_cons, List.nodup_cons] at hdistinct
      obtain ⟨hnot, hrest⟩ := hdistinct
      by_cases hp : p y = true
      · rw [List.find?_cons_of_pos hp] at hfind
        cases hfind
        rw [List.eraseP_cons_of_pos hp]
        constructor
        · intro hx
          refine ⟨List.mem_cons_of_mem _ hx, fun heq => hnot ?_⟩
          exact heq ▸ List.mem_map_of_mem hx
        · rintro ⟨hx, hne⟩
          obtain rfl | hx := List.mem_cons.mp hx
          · exact absurd rfl hne
          · exact hx
      · rw [List.find?_cons_of_neg hp] at hfind
        rw [List.eraseP_cons_of_neg hp, List.mem_cons, List.mem_cons, ih hrest hfind]
        have hfound : found ∈ observers := List.mem_of_find?_eq_some hfind
        constructor
        · rintro (rfl | ⟨hx, hne⟩)
          · refine ⟨Or.inl rfl, fun heq => hnot ?_⟩
            exact heq ▸ List.mem_map_of_mem hfound
          · exact ⟨Or.inr hx, hne⟩
        · rintro ⟨rfl | hx, hne⟩
          · exact Or.inl rfl
          · exact Or.inr ⟨hx, hne⟩

/-- Without a hit nothing is removed. -/
theorem DeleteObserverUsingToken_of_none {observers : List ResourceObserver} {token : Token}
    (h : GetObserverUsingToken observers token = none) :
    (DeleteObserverUsingToken observers token).2 = observers := by
  rw [GetObserverUsingToken] at h
  rw [DeleteObserverUsingToken]
  split at h
  · rename_i hnull
    rw [if_pos hnull]
  · rename_i htoken
    rw [if_neg htoken, List.eraseP_of_forall_not]
    intro x hx hp
    exact List.find?_eq_none.mp h x hx hp

theorem mem_DeleteObserverUsingToken {observers : List ResourceObserver} {token : Token}
    {found : ResourceObserver} (hdistinct : DistinctIds observers)
    (hfind : GetObserverUsingToken observers token = some found) (x : ResourceObserver) :
    x ∈ (DeleteObserverUsingToken observers token).2 ↔
      x ∈ observers ∧ x.observeId ≠ found.observeId := by
  rw [GetObserverUsingToken] at hfind
  rw [DeleteObserverUsingToken]
  split at hfind
  · cases hfind
  · rename_i htoken
    rw [if_neg htoken]
    exact mem_eraseP hdistinct hfind x

theorem DistinctIds.delete {observers : List ResourceObserver} (h : DistinctIds observers)
    (token : Token) : DistinctIds (DeleteObserverUsingToken observers token).2 := by
  rw [DeleteObserverUsingToken]
  split
  · exact h
  · exact h.sublist ((List.eraseP_sublist).map _)

/-- An observer with a fresh id can be appended. -/
theorem DistinctIds.append {observers : List ResourceObserver} (h : DistinctIds observers)
    {observer : ResourceObserver}
    (hfresh : GetObserverUsingId observers observer.observeId = none) :
    DistinctIds (observers ++ [observer]) := by
  rw [DistinctIds, List.map_append, List.map_singleton, List.nodup_append]
  refine ⟨h, List.nodup_singleton _, ?_⟩
  intro id hid other hother heq
  rw [List.mem_singleton] at hother
  obtain ⟨x, hx, rfl⟩ := List.mem_map.mp hid
  exact GetObserverUsingId_eq_none.mp hfresh x hx (heq.trans hother)

end Stack
end FireEvacuation
