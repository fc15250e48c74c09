import FireEvacuation.Core.Transition
import FireEvacuation.Stack.Observe

/-!
# Which notifications are confirmable

`DetermineObserverQoS` of `ocobserve.c` says how a notification is sent.  After three
notifications which are not confirmable an observer is sent one that is, to see whether it is
still there, and `OCStackFeedBack` counts the ones which got no answer.  This holds of every
observer over whole runs, whatever the application asks for.

The two loops which notify many observers hand the decision for one observer on as the wish of
the application for the next, so an observer who is due makes all notifications behind it
confirmable, and their counters stay where they are.

The decision is made before anything is sent.  So what is counted are the tries, and a
confirmable notification which could not be sent is taken for a check all the same.
Notifications about presence are sent without the decision and are not counted.

The counters are those of the C structure.  Next to them stands what has happened to an
observer, the latest first; nothing in the code reads it.
-/

namespace FireEvacuation
namespace Stack

open FireEvacuation.Core FireEvacuation.Platform

/-- `OCQualityOfService`; `na` stands for the quality the observer asked for. -/
inductive OCQualityOfService where
  | low
  | medium
  | high
  | na
  deriving DecidableEq, Repr

/-- What happens to an observer: a notification of its resource or one about presence is tried,
which has gone out or not, or `OCStackFeedBack` is told that the observer is still interested or
that it could not be reached. -/
inductive Occurrence where
  | notified (qos : OCQualityOfService) (goneOut : Bool)
  | announced (qos : OCQualityOfService) (goneOut : Bool)
  | answered
  | failed
  deriving DecidableEq, Repr

/-- What becomes of a notification: what the code is told, and whether it has gone out. -/
structure Sending where
  result : OCStackResult
  goneOut : Bool
  deriving DecidableEq, Repr

/-- `ResourceObserver` with the fields about the quality of service. -/
structure CountedObserver extends ResourceObserver where
  qos : OCQualityOfService
  lowQosCount : UInt8
  forceHighQos : Bool
  history : List Occurrence
  deriving DecidableEq, Repr

/-- `MAX_OBSERVER_NON_COUNT`. -/
def maxObserverNonCount : UInt8 := 3

/-- `MAX_OBSERVER_FAILED_COMM`. -/
def maxFailedComm : UInt8 := 2

/-- `DetermineObserverQoS`; `presence` says whether the method is `OC_REST_PRESENCE`. -/
def DetermineObserverQoS (presence : Bool) (observer : CountedObserver)
    (appQoS : OCQualityOfService) : OCQualityOfService × CountedObserver :=
  let decidedQoS := if appQoS = .na then observer.qos else appQoS
  if appQoS ≠ .high then
    if (observer.forceHighQos ∨ maxObserverNonCount ≤ observer.lowQosCount) ∧ ¬ presence then
      (.high, { observer with lowQosCount := 0 })
    else (decidedQoS, { observer with lowQosCount := observer.lowQosCount + 1 })
  else (decidedQoS, observer)

/-- What is done for one observer: the quality, what became of the notification, and the observer
after it. -/
structure Notified where
  qos : OCQualityOfService
  sending : Sending
  observer : CountedObserver

section Send

variable (send : CountedObserver → OCQualityOfService → Sending)

/-- A notification of the resource: the decision, and then the try. -/
def notify (observer : CountedObserver) (appQoS : OCQualityOfService) : Notified :=
  let decided := DetermineObserverQoS false observer appQoS
  let sending := send decided.2 decided.1
  ⟨decided.1, sending, { decided.2 with
    history := .notified decided.1 sending.goneOut :: decided.2.history }⟩

/-- A notification about presence: nothing is decided. -/
def announce (observer : CountedObserver) (qos : OCQualityOfService) : Notified :=
  let sending := send observer qos
  ⟨qos, sending, { observer with history := .announced qos sending.goneOut :: observer.history }⟩

/-! ## The loops -/

/-- The variables of the loop of `SendAllObserverNotification`. -/
structure AllLoop where
  qos : OCQualityOfService
  numObs : UInt8
  observeErrorFlag : Bool
  result : OCStackResult

variable (resource : ResourceHandle)

/-- The loop of `SendAllObserverNotification`; `presence` says whether the method is
`OC_REST_PRESENCE`. -/
def sendAllLoop (presence : Bool) :
    AllLoop → List CountedObserver → AllLoop × List CountedObserver
  | loop, [] => (loop, [])
  | loop, observer :: observers =>
      if observer.resource = resource then
        let notified :=
          if presence then announce send observer loop.qos else notify send observer loop.qos
        let (last, behind) := sendAllLoop presence
          { qos := notified.qos
            numObs := loop.numObs + 1
            observeErrorFlag := loop.observeErrorFlag || notified.sending.result ≠ .ok
            result := notified.sending.result } observers
        (last, notified.observer :: behind)
      else
        let (last, behind) := sendAllLoop presence loop observers
        (last, observer :: behind)

/-- `SendAllObserverNotification`. -/
def SendAllObserverNotification (presence : Bool) (qos : OCQualityOfService)
    (observers : List CountedObserver) : OCStackResult × List CountedObserver :=
  let (loop, observers) := sendAllLoop send resource presence ⟨qos, 0, false, .error⟩ observers
  if loop.numObs = 0 then (.noObservers, observers)
  else if loop.observeErrorFlag then (.error, observers)
  else (loop.result, observers)

/-- The loop of `SendListObserverNotification`, as far as the observers are concerned. -/
def sendListLoop :
    OCQualityOfService → List UInt8 → List CountedObserver → List CountedObserver
  | _, [], observers => observers
  | qos, id :: ids, observers =>
      match observers.find? fun observer => observer.observeId = id with
      | none => sendListLoop qos ids observers
      | some observer =>
          if observer.resource = resource then
            sendListLoop (notify send observer qos).qos ids
              (observers.replaceF fun o =>
                if o.observeId = id then some (notify send o qos).observer else none)
          else sendListLoop qos ids observers

end Send

/-- `CheckTimedOutObserver` sends a confirmable notification to an observer whose time to live
has run out, past the counters. -/
def resend (observeId : UInt8) (goneOut : Bool) (observers : List CountedObserver) :
    List CountedObserver :=
  observers.map fun o =>
    if o.observeId = observeId then { o with history := .notified .high goneOut :: o.history } else o

/-! ## Feedback -/

/-- The first observer with the token; an empty token is a null pointer. -/
def hasCountedToken (token : Token) (observer : CountedObserver) : Bool :=
  token ≠ [] && observer.toResourceObserver.hasToken token

/-- The first observer with the token is changed. -/
def updateFirst (token : Token) (change : CountedObserver → CountedObserver)
    (observers : List CountedObserver) : List CountedObserver :=
  observers.replaceF fun o => if hasCountedToken token o then some (change o) else none

/-- `OCStackFeedBack` with `OC_OBSERVER_NOT_INTERESTED`. -/
def feedBackNotInterested (token : Token) (observers : List CountedObserver) :
    List CountedObserver :=
  observers.eraseP (hasCountedToken token)

/-- `OCStackFeedBack` with `OC_OBSERVER_STILL_INTERESTED`. -/
def feedBackStillInterested (token : Token) (observers : List CountedObserver) :
    List CountedObserver :=
  updateFirst token (fun o =>
    { o with forceHighQos := false, failedCommCount := 0, history := .answered :: o.history })
    observers

/-- `OCStackFeedBack` with `OC_OBSERVER_FAILED_COMM`. -/
def feedBackFailedComm (token : Token) (observers : List CountedObserver) : List CountedObserver :=
  match observers.find? (hasCountedToken token) with
  | none => observers
  | some observer =>
      if maxFailedComm ≤ observer.failedCommCount then observers.eraseP (hasCountedToken token)
      else
        updateFirst token (fun o =>
          { o with
            failedCommCount := o.failedCommCount + 1
            forceHighQos := true
            history := .failed :: o.history }) observers

/-! ## Steps -/

/-- What changes the list. -/
inductive QosEvent where
  | added (observeId : UInt8) (token : Token) (resource : ResourceHandle)
      (qos : OCQualityOfService)
  | deleted (token : Token)
  | sentToAll (send : CountedObserver → OCQualityOfService → Sending)
      (resource : ResourceHandle) (presence : Bool) (qos : OCQualityOfService)
  | sentToList (send : CountedObserver → OCQualityOfService → Sending)
      (resource : ResourceHandle) (qos : OCQualityOfService) (obsIdList : List UInt8)
  | timedOut (observeId : UInt8) (goneOut : Bool)
  | notInterested (token : Token)
  | stillInterested (token : Token)
  | failedComm (token : Token)

/-- The list after an event. -/
def qosStep (observers : List CountedObserver) : QosEvent → Option (List CountedObserver)
  | .added observeId token resource qos =>
      some (observers ++ [⟨⟨observeId, token, resource, 0⟩, qos, 0, false, []⟩])
  | .deleted token => some (observers.eraseP (hasCountedToken token))
  | .sentToAll send resource presence qos =>
      some (SendAllObserverNotification send resource presence qos observers).2
  | .sentToList send resource qos obsIdList =>
      some (sendListLoop send resource qos obsIdList observers)
  | .timedOut observeId goneOut => some (resend observeId goneOut observers)
  | .notInterested token => some (feedBackNotInterested token observers)
  | .stillInterested token => some (feedBackStillInterested token observers)
  | .failedComm token => some (feedBackFailedComm token observers)

/-! ## What the counters say -/

/-- The tries since the last confirmable one. -/
def unconfirmed : List Occurrence → Nat
  | [] => 0
  | .notified .high _ :: _ => 0
  | .notified _ _ :: history => unconfirmed history + 1
  | .announced _ _ :: history => unconfirmed history
  | .answered :: history => unconfirmed history
  | .failed :: history => unconfirmed history

/-- The notifications which have gone out since the last confirmable one which has. -/
def unchecked : List Occurrence → Nat
  | [] => 0
  | .notified qos goneOut :: history =>
      if goneOut then (if qos = .high then 0 else unchecked history + 1) else unchecked history
  | .announced _ _ :: history => unchecked history
  | .answered :: history => unchecked history
  | .failed :: history => unchecked history

/-- The failures since the observer was last heard of. -/
def failures : List Occurrence → Nat
  | [] => 0
  | .notified _ _ :: history => failures history
  | .announced _ _ :: history => failures history
  | .answered :: _ => 0
  | .failed :: history => failures history + 1

/-- A try is confirmable unless there is no reason for doubt: fewer than three have been made
since the last confirmable one, and none has failed since the observer was heard of. -/
def Checked : List Occurrence → Prop
  | [] => True
  | .notified qos _ :: history =>
      (qos ≠ .high → unconfirmed history < 3 ∧ failures history = 0) ∧ Checked history
  | .announced _ _ :: history => Checked history
  | .answered :: history => Checked history
  | .failed :: history => Checked history

/-- The counters of an observer agree with what has happened to it. -/
structure Counts (observer : CountedObserver) : Prop where
  low : unconfirmed observer.history ≤ observer.lowQosCount.toNat
  bound : observer.lowQosCount.toNat ≤ 3
  failed : observer.failedCommCount.toNat = failures observer.history
  limit : failures observer.history ≤ 2
  force : observer.forceHighQos = true ↔ failures observer.history ≠ 0
  checked : Checked observer.history

theorem unconfirmed_notified {qos : OCQualityOfService} {goneOut : Bool}
    {history : List Occurrence} : unconfirmed (.notified qos goneOut :: history) =
      if qos = .high then 0 else unconfirmed history + 1 := by
  cases qos <;> rfl

/-- Where no confirmable notification was held back, what has gone out was tried since the last
one. -/
theorem unchecked_le {history : List Occurrence}
    (h : ∀ occurrence ∈ history, occurrence ≠ .notified .high false) :
    unchecked history ≤ unconfirmed history := by
  induction history with
  | nil => exact Nat.le_refl 0
  | cons occurrence history ih =>
      obtain ⟨hfirst, hrest⟩ := List.forall_mem_cons.mp h
      have hle := ih hrest
      cases occurrence with
      | notified qos goneOut =>
          rw [unconfirmed_notified, unchecked]
          cases goneOut with
          | true =>
              rw [if_pos rfl]
              split_ifs
              · exact Nat.le_refl 0
              · exact Nat.succ_le_succ hle
          | false =>
              have hlow : qos ≠ .high := fun hhigh => hfirst (hhigh ▸ rfl)
              rw [if_neg Bool.false_ne_true, if_neg hlow]
              exact Nat.le_succ_of_le hle
      | announced qos goneOut => exact hle
      | answered => exact hle
      | failed => exact hle

theorem three_le_iff {n : UInt8} : maxObserverNonCount ≤ n ↔ 3 ≤ n.toNat := UInt8.le_iff_toNat_le

theorem two_le_iff {n : UInt8} : maxFailedComm ≤ n ↔ 2 ≤ n.toNat := UInt8.le_iff_toNat_le

/-- A confirmable notification. -/
theorem Counts.confirmable {observer : CountedObserver} (h : Counts observer) (goneOut : Bool) :
    Counts { observer with history := .notified .high goneOut :: observer.history } :=
  ⟨Nat.zero_le _, h.bound, h.failed, h.limit, h.force, fun hbad => absurd rfl hbad, h.checked⟩

/-- A notification about presence. -/
theorem Counts.announce {observer : CountedObserver} (h : Counts observer)
    (send : CountedObserver → OCQualityOfService → Sending) (qos : OCQualityOfService) :
    Counts (announce send observer qos).observer :=
  ⟨h.low, h.bound, h.failed, h.limit, h.force, h.checked⟩

/-- One notification. -/
theorem Counts.notify {observer : CountedObserver} (h : Counts observer)
    (send : CountedObserver → OCQualityOfService → Sending) (appQoS : OCQualityOfService) :
    Counts (notify send observer appQoS).observer := by
  obtain ⟨hlow, hbound, hfailed, hlimit, hforce, hchecked⟩ := id h
  unfold Stack.notify DetermineObserverQoS
  by_cases hhigh : appQoS = .high
  · subst hhigh
    exact h.confirmable _
  · rw [if_pos hhigh]
    by_cases hdue : (observer.forceHighQos ∨ maxObserverNonCount ≤ observer.lowQosCount) ∧
        ¬ false = true
    · rw [if_pos hdue]
      exact ⟨Nat.zero_le _, Nat.zero_le _, hfailed, hlimit, hforce, fun hbad => absurd rfl hbad,
        hchecked⟩
    · rw [if_neg hdue]
      have hnot : ¬ observer.forceHighQos = true ∧ ¬ maxObserverNonCount ≤ observer.lowQosCount := by
        simpa using hdue
      have hroom : observer.lowQosCount.toNat < 3 := Nat.not_le.mp (mt three_le_iff.mpr hnot.2)
      have hnone : failures observer.history = 0 := by
        by_contra hsome
        exact hnot.1 (hforce.mpr hsome)
      have hsucc : (observer.lowQosCount + 1).toNat = observer.lowQosCount.toNat + 1 := by
        rw [UInt8.toNat_add]
        exact Nat.mod_eq_of_lt (show observer.lowQosCount.toNat + 1 < 256 by omega)
      refine ⟨?_, ?_, hfailed, hlimit, hforce, fun _ => ⟨?_, hnone⟩, hchecked⟩
      · show unconfirmed (.notified _ _ :: observer.history) ≤ (observer.lowQosCount + 1).toNat
        rw [unconfirmed_notified, hsucc]
        split_ifs <;> omega
      · show (observer.lowQosCount + 1).toNat ≤ 3
        omega
      · show unconfirmed observer.history < 3
        omega

/-! ## All observers -/

section Lists

variable {P : CountedObserver → Prop} {observers : List CountedObserver}

theorem forall_replaceF {f : CountedObserver → Option CountedObserver}
    (h : ∀ o ∈ observers, P o) (hf : ∀ o o', P o → f o = some o' → P o') :
    ∀ o ∈ observers.replaceF f, P o := by
  induction observers with
  | nil => exact h
  | cons first observers ih =>
      obtain ⟨hfirst, hrest⟩ := List.forall_mem_cons.mp h
      rw [List.replaceF_cons]
      cases hchange : f first with
      | none => exact List.forall_mem_cons.mpr ⟨hfirst, ih hrest⟩
      | some changed => exact List.forall_mem_cons.mpr ⟨hf first changed hfirst hchange, hrest⟩

theorem forall_updateFirst {token : Token} {change : CountedObserver → CountedObserver}
    (h : ∀ o ∈ observers, P o) (hchange : ∀ o, P o → P (change o)) :
    ∀ o ∈ updateFirst token change observers, P o := by
  apply forall_replaceF h
  intro o o' ho heq
  obtain ⟨-, rfl⟩ := (Option.ite_none_right_eq_some.mp heq).imp_right Option.some.inj
  exact hchange o ho

variable {send : CountedObserver → OCQualityOfService → Sending} {resource : ResourceHandle}

theorem forall_sendAllLoop {presence : Bool} {loop : AllLoop} (h : ∀ o ∈ observers, P o)
    (hnotify : ∀ o qos, P o → P (notify send o qos).observer)
    (hannounce : ∀ o qos, P o → P (announce send o qos).observer) :
    ∀ o ∈ (sendAllLoop send resource presence loop observers).2, P o := by
  induction observers generalizing loop with
  | nil => exact h
  | cons first observers ih =>
      obtain ⟨hfirst, hrest⟩ := List.forall_mem_cons.mp h
      rw [sendAllLoop]
      by_cases hresource : first.resource = resource
      · rw [if_pos hresource]
        cases presence with
        | true => exact List.forall_mem_cons.mpr ⟨hannounce first _ hfirst, ih hrest⟩
        | false => exact List.forall_mem_cons.mpr ⟨hnotify first _ hfirst, ih hrest⟩
      · rw [if_neg hresource]
        exact List.forall_mem_cons.mpr ⟨hfirst, ih hrest⟩

theorem forall_sendListLoop {qos : OCQualityOfService} {ids : List UInt8}
    (h : ∀ o ∈ observers, P o) (hnotify : ∀ o qos, P o → P (notify send o qos).observer) :
    ∀ o ∈ sendListLoop send resource qos ids observers, P o := by
  induction ids generalizing qos observers with
  | nil => exact h
  | cons id ids ih =>
      rw [sendListLoop]
      split
      · exact ih h
      · split_ifs
        · apply ih
          apply forall_replaceF h
          intro o o' ho heq
          obtain ⟨-, rfl⟩ := (Option.ite_none_right_eq_some.mp heq).imp_right Option.some.inj
          exact hnotify o qos ho
        · exact ih h

theorem sendAll_observers (presence : Bool) (qos : OCQualityOfService) :
    (SendAllObserverNotification send resource presence qos observers).2 =
      (sendAllLoop send resource presence ⟨qos, 0, false, .error⟩ observers).2 := by
  unfold SendAllObserverNotification
  dsimp only
  split_ifs <;> rfl

end Lists

theorem Counts.answered {observer : CountedObserver} (h : Counts observer) :
    Counts { observer with
      forceHighQos := false, failedCommCount := 0, history := .answered :: observer.history } where
  low := h.low
  bound := h.bound
  failed := rfl
  limit := Nat.zero_le _
  force := ⟨nofun, fun hbad => absurd rfl hbad⟩
  checked := h.checked

theorem Counts.fail {observer : CountedObserver} (h : Counts observer)
    (hroom : ¬ maxFailedComm ≤ observer.failedCommCount) :
    Counts { observer with
      failedCommCount := observer.failedCommCount + 1
      forceHighQos := true
      history := .failed :: observer.history } := by
  have hlt : observer.failedCommCount.toNat < 2 := Nat.not_le.mp (mt two_le_iff.mpr hroom)
  have hsucc : (observer.failedCommCount + 1).toNat = observer.failedCommCount.toNat + 1 := by
    rw [UInt8.toNat_add]
    exact Nat.mod_eq_of_lt (show observer.failedCommCount.toNat + 1 < 256 by omega)
  have hfailed := h.failed
  refine ⟨h.low, h.bound, ?_, ?_, ?_, h.checked⟩
  · show (observer.failedCommCount + 1).toNat = failures observer.history + 1
    omega
  · show failures observer.history + 1 ≤ 2
    omega
  · exact ⟨fun _ => Nat.succ_ne_zero _, fun _ => rfl⟩

/-- The first observer with a token changes, and only this one. -/
theorem forall_updateFirst_of_find {P : CountedObserver → Prop} {observers : List CountedObserver}
    {token : Token} {change : CountedObserver → CountedObserver} {found : CountedObserver}
    (h : ∀ o ∈ observers, P o) (hfind : observers.find? (hasCountedToken token) = some found)
    (hchange : P (change found)) : ∀ o ∈ updateFirst token change observers, P o := by
  induction observers with
  | nil => cases hfind
  | cons first observers ih =>
      obtain ⟨hfirst, hrest⟩ := List.forall_mem_cons.mp h
      rw [updateFirst, List.replaceF_cons]
      by_cases hp : hasCountedToken token first = true
      · rw [List.find?_cons_of_pos hp] at hfind
        cases hfind
        rw [if_pos hp]
        exact List.forall_mem_cons.mpr ⟨hchange, hrest⟩
      · rw [List.find?_cons_of_neg hp] at hfind
        rw [if_neg hp]
        exact List.forall_mem_cons.mpr ⟨hfirst, ih hrest hfind⟩

/-- One event keeps the counters right. -/
theorem qosStep_counts {observers next : List CountedObserver} {event : QosEvent}
    (h : ∀ o ∈ observers, Counts o) (hstep : qosStep observers event = some next) :
    ∀ o ∈ next, Counts o := by
  have herase (token : Token) : ∀ o ∈ observers.eraseP (hasCountedToken token), Counts o :=
    fun o ho => h o (List.mem_of_mem_eraseP ho)
  cases event with
  | added observeId token resource qos =>
      cases hstep
      intro o ho
      obtain ho | ho := List.mem_append.mp ho
      · exact h o ho
      · rw [List.mem_singleton.mp ho]
        exact ⟨Nat.le_refl _, Nat.zero_le _, rfl, Nat.zero_le _,
          ⟨nofun, fun hbad => absurd rfl hbad⟩, trivial⟩
  | deleted token =>
      cases hstep
      exact herase token
  | sentToAll send resource presence qos =>
      cases hstep
      rw [sendAll_observers]
      exact forall_sendAllLoop h (fun o qos ho => ho.notify send qos)
        fun o qos ho => ho.announce send qos
  | sentToList send resource qos ids =>
      cases hstep
      exact forall_sendListLoop h fun o qos ho => ho.notify send qos
  | timedOut observeId goneOut =>
      cases hstep
      intro o ho
      obtain ⟨before, hbefore, rfl⟩ := List.mem_map.mp ho
      split_ifs
      · exact (h before hbefore).confirmable goneOut
      · exact h before hbefore
  | notInterested token =>
      cases hstep
      exact herase token
  | stillInterested token =>
      cases hstep
      exact forall_updateFirst h fun o ho => ho.answered
  | failedComm token =>
      cases hstep
      rw [feedBackFailedComm]
      split
      · exact h
      · rename_i found hfind
        split_ifs with hroom
        · exact herase token
        · exact forall_updateFirst_of_find h hfind
            ((h found (List.mem_of_find?_eq_some hfind)).fail hroom)

theorem counts_of_reaches {observers : List CountedObserver} (h : Reaches qosStep [] observers) :
    ∀ o ∈ observers, Counts o :=
  Reaches.invariant (fun _ _ _ hinv hstep => qosStep_counts hinv hstep) h fun _ ho => nomatch ho

/-- The record of a checked observer at any point. -/
theorem Checked.at {history later earlier : List Occurrence} {qos : OCQualityOfService}
    {goneOut : Bool} (h : Checked history)
    (hat : history = later ++ .notified qos goneOut :: earlier) (hlow : qos ≠ .high) :
    unconfirmed earlier < 3 ∧ failures earlier = 0 := by
  induction later generalizing history with
  | nil =>
      subst hat
      exact h.1 hlow
  | cons occurrence later ih =>
      subst hat
      have hrest : Checked (later ++ .notified qos goneOut :: earlier) := by
        cases occurrence with
        | notified qos' goneOut' => exact h.2
        | announced qos' goneOut' => exact h
        | answered => exact h
        | failed => exact h
      exact ih hrest rfl

/-- **Observers are checked.**  In every run, a notification which is not confirmable is tried
only if fewer than three have been tried since the last confirmable one, and if the observer has
been heard of since it could not be reached.  So fewer than three have gone out since the last
confirmable one went out, if all of these did. -/
theorem notified_checked {observers : List CountedObserver} (h : Reaches qosStep [] observers)
    {observer : CountedObserver} (hmem : observer ∈ observers) {later earlier : List Occurrence}
    {qos : OCQualityOfService} {goneOut : Bool}
    (hat : observer.history = later ++ .notified qos goneOut :: earlier) (hlow : qos ≠ .high) :
    unconfirmed earlier < 3 ∧ failures earlier = 0 ∧
      ((∀ occurrence ∈ earlier, occurrence ≠ .notified .high false) → unchecked earlier < 3) := by
  obtain ⟨htries, hnone⟩ := (counts_of_reaches h observer hmem).checked.at hat hlow
  exact ⟨htries, hnone, fun hout => (unchecked_le hout).trans_lt htries⟩

theorem notified_checked_second :
    unconfirmed [.notified .low true] < 3 ∧ failures [.notified .low true] = 0 ∧
      ((∀ occurrence ∈ [Occurrence.notified .low true], occurrence ≠ .notified .high false) →
        unchecked [.notified .low true] < 3) :=
  @notified_checked
    [⟨⟨1, [1], 5, 0⟩, .low, 2, false, [.notified .low true, .notified .low true]⟩]
    ⟨[.added 1 [1] 5 .low, .sentToAll (fun _ _ => ⟨.ok, true⟩) 5 false .low,
      .sentToList (fun _ _ => ⟨.ok, true⟩) 5 .low [1]], rfl⟩ _
    (List.mem_singleton.mpr rfl) [] [.notified .low true] .low true rfl (by decide)

/-- A confirmable notification which cannot be sent is taken for a check: the fourth one in a row
goes out. -/
example :
    let pass (goneOut : Bool) := QosEvent.sentToAll (fun _ _ => ⟨.ok, goneOut⟩) 5 false .low
    (run qosStep [] [.added 1 [1] 5 .low, pass true, pass true, pass true, pass false, pass true]).map
        (·.map fun observer => unchecked observer.history) = some [4] := by
  decide

/-- **The third failure in a row removes an observer**, and no failure before does. -/
theorem failedComm_removes_iff {observers : List CountedObserver}
    (h : Reaches qosStep [] observers) {token : Token} {observer : CountedObserver}
    (hfind : observers.find? (hasCountedToken token) = some observer) :
    (feedBackFailedComm token observers).length < observers.length ↔
      failures observer.history = 2 := by
  have hcounts := counts_of_reaches h observer (List.mem_of_find?_eq_some hfind)
  have hfailed := hcounts.failed
  have hbound := hcounts.limit
  rw [feedBackFailedComm, hfind]
  dsimp only
  split_ifs with hroom
  · have hpos := List.length_pos_of_mem (List.mem_of_find?_eq_some hfind)
    rw [List.length_eraseP_of_mem (List.mem_of_find?_eq_some hfind) (List.find?_some hfind)]
    rw [two_le_iff] at hroom
    omega
  · rw [updateFirst, List.length_replaceF]
    rw [two_le_iff] at hroom
    omega

theorem failedComm_removes_iff_third :
    ∃ observers : List CountedObserver, observers.length = 1 ∧
      (feedBackFailedComm [1] observers).length < observers.length :=
  ⟨_, rfl, (@failedComm_removes_iff _
    ⟨[.added 1 [1] 5 .low, .failedComm [1], .failedComm [1]], rfl⟩ [1] _ rfl).mpr rfl⟩

/-! ## One pass over the observers of a resource -/

/-- The next notification has to be confirmable. -/
def due (observer : CountedObserver) : Bool :=
  observer.forceHighQos || decide (maxObserverNonCount ≤ observer.lowQosCount)

section Pass

variable (send : CountedObserver → OCQualityOfService → Sending)

/-- After a notification which was counted. -/
def afterCounted (qos : OCQualityOfService) (observer : CountedObserver) : CountedObserver :=
  let counted := { observer with lowQosCount := observer.lowQosCount + 1 }
  { counted with history := .notified qos (send counted qos).goneOut :: observer.history }

/-- After a notification for an observer who was due. -/
def afterCheck (observer : CountedObserver) : CountedObserver :=
  let counted := { observer with lowQosCount := 0 }
  { counted with history := .notified .high (send counted .high).goneOut :: observer.history }

/-- After a notification which the application wished to be confirmable. -/
def afterWish (observer : CountedObserver) : CountedObserver :=
  { observer with history := .notified .high (send observer .high).goneOut :: observer.history }

/-- What a pass makes of the observers of the resource: up to the first one who is due they are
counted, and from there on all notifications are confirmable. -/
def passed (qos : OCQualityOfService) (targets : List CountedObserver) : List CountedObserver :=
  (targets.takeWhile fun o => !due o).map (afterCounted send qos) ++
    match targets.dropWhile fun o => !due o with
    | [] => []
    | first :: behind => afterCheck send first :: behind.map (afterWish send)

variable {send}

theorem notify_due {observer : CountedObserver} {qos : OCQualityOfService} (hqos : qos ≠ .high)
    (hdue : due observer = true) : (notify send observer qos).qos = .high ∧
      (notify send observer qos).observer = afterCheck send observer := by
  have hcond : (observer.forceHighQos = true ∨ maxObserverNonCount ≤ observer.lowQosCount) ∧
      ¬ false = true := by
    simpa [due] using hdue
  rw [notify, DetermineObserverQoS, if_pos hqos, if_pos hcond]
  exact ⟨rfl, rfl⟩

theorem notify_counted {observer : CountedObserver} {qos : OCQualityOfService}
    (hqos : qos ≠ .high) (hna : qos ≠ .na) (hdue : due observer = false) :
    (notify send observer qos).qos = qos ∧
      (notify send observer qos).observer = afterCounted send qos observer := by
  have hcond : ¬ ((observer.forceHighQos = true ∨ maxObserverNonCount ≤ observer.lowQosCount) ∧
      ¬ false = true) := by
    simpa [due] using hdue
  rw [notify, DetermineObserverQoS, if_pos hqos, if_neg hcond, if_neg hna]
  exact ⟨rfl, rfl⟩

variable {resource : ResourceHandle} {loop : AllLoop} {observers : List CountedObserver}

theorem sendAllLoop_high (hloop : loop.qos = .high) :
    (sendAllLoop send resource false loop observers).2 =
      observers.map fun o => if o.resource = resource then afterWish send o else o := by
  induction observers generalizing loop with
  | nil => rfl
  | cons first observers ih =>
      rw [sendAllLoop, hloop, if_neg Bool.false_ne_true, List.map_cons]
      split_ifs with hresource
      · exact congrArg _ (ih rfl)
      · exact congrArg _ (ih hloop)

/-- The observers of a resource. -/
def ofResource (resource : ResourceHandle) (observers : List CountedObserver) :
    List CountedObserver := observers.filter fun o => o.resource = resource

theorem ofResource_cons {first : CountedObserver} :
    ofResource resource (first :: observers) =
      if first.resource = resource then first :: ofResource resource observers
      else ofResource resource observers := by
  simp [ofResource, List.filter_cons]

theorem ofResource_afterWish :
    ofResource resource
        (observers.map fun o => if o.resource = resource then afterWish send o else o) =
      (ofResource resource observers).map (afterWish send) := by
  induction observers with
  | nil => rfl
  | cons first observers ih =>
      rw [List.map_cons, ofResource_cons, ofResource_cons, ih]
      by_cases hresource : first.resource = resource
      · have hsame : (afterWish send first).resource = resource := hresource
        rw [if_pos hresource, if_pos hresource, if_pos hsame]
        rfl
      · rw [if_neg hresource, if_neg hresource, if_neg hresource]

/-- **A pass over the observers of a resource**, for a method other than presence. -/
theorem sendAll_passed {qos : OCQualityOfService} (hqos : qos = .low ∨ qos = .medium) :
    ofResource resource (SendAllObserverNotification send resource false qos observers).2 =
      passed send qos (ofResource resource observers) := by
  have hhigh : qos ≠ .high := by rintro rfl; simp at hqos
  have hna : qos ≠ .na := by rintro rfl; simp at hqos
  rw [sendAll_observers]
  generalize hloop : AllLoop.mk qos 0 false .error = loop
  replace hloop : loop.qos = qos := by rw [← hloop]
  induction observers generalizing loop with
  | nil => rfl
  | cons first observers ih =>
      rw [sendAllLoop, hloop, if_neg Bool.false_ne_true, @ofResource_cons resource observers first]
      by_cases hresource : first.resource = resource
      · rw [if_pos hresource, if_pos hresource]
        cases hdue : due first with
        | true =>
            have hsame : (afterCheck send first).resource = resource := hresource
            obtain ⟨hqos', hobserver⟩ := @notify_due send first qos hhigh hdue
            dsimp only
            rw [hobserver, hqos', sendAllLoop_high rfl, ofResource_cons, if_pos hsame,
              ofResource_afterWish]
            simp [passed, hdue]
        | false =>
            have hsame : (afterCounted send qos first).resource = resource := hresource
            obtain ⟨hqos', hobserver⟩ := @notify_counted send first qos hhigh hna hdue
            dsimp only
            rw [hobserver, hqos', ofResource_cons, if_pos hsame, ih _ rfl]
            simp [passed, hdue]
      · rw [if_neg hresource, if_neg hresource]
        dsimp only
        rw [ofResource_cons, if_neg hresource]
        exact ih loop hloop

/-- Two observers, of which the first one is due. -/
def dueObservers : List CountedObserver :=
  [⟨⟨1, [1], 5, 0⟩, .low, 3, false, []⟩, ⟨⟨2, [2], 5, 0⟩, .low, 0, false, []⟩]

theorem sendAll_passed_due :
    ofResource 5
        (SendAllObserverNotification (fun _ _ => ⟨.ok, true⟩) 5 false .low dueObservers).2 =
      passed (fun _ _ => ⟨.ok, true⟩) .low dueObservers :=
  @sendAll_passed (fun _ _ => ⟨.ok, true⟩) 5 dueObservers .low (Or.inl rfl)

end Pass

end Stack
end FireEvacuation
