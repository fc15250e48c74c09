import FireEvacuation.Core.Transition
import FireEvacuation.Coap.Message
import Mathlib.Data.List.Nodup
import Mathlib.Data.List.Perm.Basic
import Mathlib.Data.List.Range

/-!
# Retransmission

`caretransmission.c` keeps the confirmable messages which have not been answered.  A routine looks
at the list from time to time, sends again what has waited long enough, and gives a message up
together with its last transmission.

Time is counted in microseconds and does not overflow.  Memory is taken to be there.  Next to the
fields of the C structures stands a record which nothing in the code reads: the number of each
message in the order they were taken over, the times at which it was sent, and the messages which
have left the list.
-/

namespace FireEvacuation
namespace Coap

open FireEvacuation.Core

/-- `CARetransmissionData_t`; `message` is what `dataSendMethod` is handed: the endpoint, the bytes
and the type of the data. -/
structure CARetransmissionData (δ : Type) where
  timeStamp : Nat
  timeout : Nat
  triedCount : UInt8
  messageId : UInt16
  adapter : Nat
  message : δ
  serial : Nat
  sentAt : List Nat
  deriving Repr

/-- What an acknowledgement is matched with. -/
def CARetransmissionData.key {δ : Type} (retData : CARetransmissionData δ) : UInt16 × Nat :=
  (retData.messageId, retData.adapter)

/-- Why a message has left the list. -/
inductive Departure where
  | answered
  | timedOut
  deriving DecidableEq, Repr

/-- `CARetransmission_t`, as far as it changes, with the record. -/
structure CARetransmission (δ : Type) where
  dataList : List (CARetransmissionData δ)
  accepted : Nat
  left : List (CARetransmissionData δ × Departure)

/-- What `CARetransmissionSentData` returns. -/
inductive SentResult where
  | ok
  | notSupported
  | failed
  deriving DecidableEq, Repr

/-- How long a message waits for its next transmission: the shift is made with milliseconds. -/
def waiting (timeout tried : Nat) : Nat := timeout / 1000 * 2 ^ tried * 1000

/-- `CACheckTimeout`. -/
def CACheckTimeout {δ : Type} (currentTime : Nat) (retData : CARetransmissionData δ) : Bool :=
  retData.timeStamp + waiting retData.timeout retData.triedCount.toNat ≤ currentTime

/-- `DEFAULT_RETRANSMISSION_COUNT`; the message handler passes no other configuration. -/
def defaultRetransmissionCount : UInt8 := 4

section Context

variable {δ : Type} (tryingCount : UInt8)

/-- A message which has waited long enough is sent again. -/
def resend (currentTime : Nat) (retData : CARetransmissionData δ) : CARetransmissionData δ :=
  if CACheckTimeout currentTime retData then
    { retData with
      timeStamp := currentTime
      triedCount := retData.triedCount + 1
      sentAt := currentTime :: retData.sentAt }
  else retData

/-- The loop of `CACheckRetransmissionList`: what stays and what is given up.  `clock` is the time
when an element is looked at. -/
def checkLoop (clock : Nat → Nat) :
    Nat → List (CARetransmissionData δ) → List (CARetransmissionData δ) × List (CARetransmissionData δ)
  | _, [] => ([], [])
  | i, retData :: dataList =>
      let retData := resend (clock i) retData
      let (kept, given) := checkLoop clock (i + 1) dataList
      if tryingCount ≤ retData.triedCount then (kept, retData :: given) else (retData :: kept, given)

/-- `CACheckRetransmissionList`. -/
def CACheckRetransmissionList (clock : Nat → Nat) (context : CARetransmission δ) :
    CARetransmission δ :=
  let (kept, given) := checkLoop tryingCount clock 0 context.dataList
  { context with
    dataList := kept
    left := context.left ++ given.map fun retData => (retData, .timedOut) }

/-- `CARetransmissionSentData` for a message which was sent at this time. -/
def CARetransmissionSentData (supported : Bool) (type : CAMessageType) (messageId : UInt16)
    (adapter : Nat) (message : δ) (now timeout : Nat) (context : CARetransmission δ) :
    SentResult × CARetransmission δ :=
  if supported = false then (.notSupported, context)
  else if type ≠ .confirm then (.notSupported, context)
  else if context.dataList.any fun currData => currData.key == (messageId, adapter) then
    (.failed, context)
  else
    (.ok, { context with
      dataList := context.dataList ++
        [{ timeStamp := now, timeout := timeout, triedCount := 0, messageId := messageId,
           adapter := adapter, message := message, serial := context.accepted,
           sentAt := [now] }]
      accepted := context.accepted + 1 })

/-- The messages which `CARetransmissionReceivedData` takes for an answer: an acknowledgement, or a
reset without a code. -/
def isAnswer (type : CAMessageType) (code : Nat) : Bool :=
  type = .acknowledge ∨ type = .reset ∧ code = caEmpty

/-- `CARetransmissionReceivedData`, with the message whose copy is returned.  The first match is
removed. -/
def CARetransmissionReceivedData (supported : Bool) (type : CAMessageType) (code : Nat)
    (messageId : UInt16) (adapter : Nat) (context : CARetransmission δ) :
    Option δ × CARetransmission δ :=
  if supported = false ∨ isAnswer type code = false then (none, context)
  else
    match context.dataList.find? fun retData => retData.key == (messageId, adapter) with
    | none => (none, context)
    | some retData =>
        (if code = caEmpty then some retData.message else none,
          { context with
            dataList := context.dataList.eraseP fun retData => retData.key == (messageId, adapter)
            left := context.left ++ [(retData, .answered)] })

/-- What happens to the context. -/
inductive RetransmissionEvent (δ : Type) where
  | sentData (supported : Bool) (type : CAMessageType) (messageId : UInt16) (adapter : Nat)
      (message : δ) (now timeout : Nat)
  | receivedData (supported : Bool) (type : CAMessageType) (code : Nat) (messageId : UInt16)
      (adapter : Nat)
  | check (clock : Nat → Nat)

/-- One step. -/
def retransmissionStep (context : CARetransmission δ) :
    RetransmissionEvent δ → Option (CARetransmission δ)
  | .sentData supported type messageId adapter message now timeout =>
      some (CARetransmissionSentData supported type messageId adapter message now timeout context).2
  | .receivedData supported type code messageId adapter =>
      some (CARetransmissionReceivedData supported type code messageId adapter context).2
  | .check clock => some (CACheckRetransmissionList tryingCount clock context)

/-- The context after `CARetransmissionInitialize`. -/
def CARetransmission.initial : CARetransmission δ := ⟨[], 0, []⟩

end Context

/-! ## One message -/

/-- Between two transmissions the message has waited, twice as long each time. -/
def Spaced (timeout : Nat) : List Nat → Prop
  | [] => True
  | [_] => True
  | last :: before :: times =>
      before + waiting timeout times.length ≤ last ∧ Spaced timeout (before :: times)

/-- What is known of a message which waits. -/
structure Waits {δ : Type} (tryingCount : UInt8) (retData : CARetransmissionData δ) : Prop where
  tried : retData.triedCount.toNat < tryingCount.toNat
  count : retData.sentAt.length = retData.triedCount.toNat + 1
  latest : retData.sentAt.head? = some retData.timeStamp
  spaced : Spaced retData.timeout retData.sentAt

/-- What is known of a message which has left the list. -/
structure Left {δ : Type} (tryingCount : UInt8) (gone : CARetransmissionData δ × Departure) :
    Prop where
  bound : gone.1.sentAt.length ≤ tryingCount.toNat + 1
  timedOut : gone.2 = .timedOut → gone.1.sentAt.length = tryingCount.toNat + 1
  answered : gone.2 = .answered → gone.1.sentAt.length ≤ tryingCount.toNat
  spaced : Spaced gone.1.timeout gone.1.sentAt

section Message

variable {δ : Type} {tryingCount : UInt8} {retData : CARetransmissionData δ}

@[simp] theorem resend_key (currentTime : Nat) : (resend currentTime retData).key = retData.key := by
  unfold resend
  split_ifs <;> rfl

@[simp] theorem resend_serial (currentTime : Nat) :
    (resend currentTime retData).serial = retData.serial := by
  unfold resend
  split_ifs <;> rfl

/-- Looking at a message which waits: it goes on waiting, or it was sent for the last time. -/
theorem Waits.resend (h : Waits tryingCount retData) (currentTime : Nat) :
    if tryingCount ≤ (resend currentTime retData).triedCount then
      Left tryingCount (Coap.resend currentTime retData, .timedOut)
    else Waits tryingCount (Coap.resend currentTime retData) := by
  obtain ⟨htried, hcount, hlatest, hspaced⟩ := h
  have hbyte := tryingCount.toNat_lt
  unfold Coap.resend
  by_cases htime : CACheckTimeout currentTime retData = true
  · rw [if_pos htime]
    have hsucc : (retData.triedCount + 1).toNat = retData.triedCount.toNat + 1 := by
      rw [UInt8.toNat_add]
      exact Nat.mod_eq_of_lt (show retData.triedCount.toNat + 1 < 256 by omega)
    have hlonger : Spaced retData.timeout (currentTime :: retData.sentAt) := by
      obtain ⟨before, times, hsent⟩ := List.exists_cons_of_length_pos (l := retData.sentAt) (by omega)
      rw [hsent] at hlatest hspaced hcount ⊢
      cases hlatest
      rw [List.length_cons] at hcount
      refine ⟨?_, hspaced⟩
      have hwait : retData.timeStamp + waiting retData.timeout retData.triedCount.toNat ≤
          currentTime := of_decide_eq_true htime
      rwa [Nat.succ.inj hcount]
    show if tryingCount ≤ retData.triedCount + 1 then _ else _
    by_cases hlast : tryingCount ≤ retData.triedCount + 1
    · have hend : tryingCount.toNat ≤ (retData.triedCount + 1).toNat := UInt8.le_iff_toNat_le.mp hlast
      rw [if_pos hlast]
      refine ⟨?_, fun _ => ?_, nofun, hlonger⟩
      · show retData.sentAt.length + 1 ≤ _
        omega
      · show retData.sentAt.length + 1 = _
        omega
    · have hmore : ¬ tryingCount.toNat ≤ (retData.triedCount + 1).toNat :=
        mt UInt8.le_iff_toNat_le.mpr hlast
      rw [if_neg hlast]
      refine ⟨?_, ?_, rfl, hlonger⟩
      · show (retData.triedCount + 1).toNat < _
        omega
      · show retData.sentAt.length + 1 = (retData.triedCount + 1).toNat + 1
        omega
  · have hmore : ¬ tryingCount ≤ retData.triedCount := by
      rw [UInt8.le_iff_toNat_le]
      omega
    rw [if_neg htime, if_neg hmore]
    exact ⟨htried, hcount, hlatest, hspaced⟩

end Message

/-! ## The list -/

/-- The invariant: every message waits as it should or has left as it should, no two which wait are
answered by the same acknowledgement, and each message taken over is in one place. -/
structure Orderly {δ : Type} (tryingCount : UInt8) (context : CARetransmission δ) : Prop where
  waits : ∀ retData ∈ context.dataList, Waits tryingCount retData
  gone : ∀ left ∈ context.left, Left tryingCount left
  keys : (context.dataList.map CARetransmissionData.key).Nodup
  serials : (context.dataList.map CARetransmissionData.serial ++
    context.left.map fun left => left.1.serial).Perm (List.range context.accepted)

section List

variable {δ : Type} {tryingCount : UInt8} {clock : Nat → Nat}
  {dataList : List (CARetransmissionData δ)}

theorem checkLoop_waits (h : ∀ retData ∈ dataList, Waits tryingCount retData) (i : Nat) :
    (∀ retData ∈ (checkLoop tryingCount clock i dataList).1, Waits tryingCount retData) ∧
      ∀ retData ∈ (checkLoop tryingCount clock i dataList).2,
        Left tryingCount (retData, .timedOut) := by
  induction dataList generalizing i with
  | nil => exact ⟨h, fun _ hmem => nomatch hmem⟩
  | cons first dataList ih =>
      obtain ⟨hfirst, hrest⟩ := List.forall_mem_cons.mp h
      obtain ⟨hkept, hgiven⟩ := ih hrest (i + 1)
      have hone := hfirst.resend (clock i)
      rw [checkLoop]
      dsimp only
      split_ifs at hone ⊢
      · exact ⟨hkept, List.forall_mem_cons.mpr ⟨hone, hgiven⟩⟩
      · exact ⟨List.forall_mem_cons.mpr ⟨hone, hkept⟩, hgiven⟩

theorem checkLoop_keys (i : Nat) :
    ((checkLoop tryingCount clock i dataList).1.map CARetransmissionData.key).Sublist
      (dataList.map CARetransmissionData.key) := by
  induction dataList generalizing i with
  | nil => exact List.Sublist.slnil
  | cons first dataList ih =>
      rw [checkLoop]
      dsimp only
      split_ifs
      · exact (ih (i + 1)).cons _
      · rw [List.map_cons, resend_key]
        exact (ih (i + 1)).cons_cons _

theorem checkLoop_serials (i : Nat) :
    ((checkLoop tryingCount clock i dataList).1.map CARetransmissionData.serial ++
        (checkLoop tryingCount clock i dataList).2.map CARetransmissionData.serial).Perm
      (dataList.map CARetransmissionData.serial) := by
  induction dataList generalizing i with
  | nil => exact List.Perm.refl _
  | cons first dataList ih =>
      rw [checkLoop]
      dsimp only
      split_ifs
      · rw [List.map_cons, List.map_cons, resend_serial]
        exact List.perm_middle.trans ((ih (i + 1)).cons _)
      · rw [List.map_cons, List.map_cons, resend_serial]
        exact (ih (i + 1)).cons _

/-- Checking the list. -/
theorem Orderly.check {context : CARetransmission δ} (h : Orderly tryingCount context) :
    Orderly tryingCount (CACheckRetransmissionList tryingCount clock context) := by
  obtain ⟨hwaits, hgone, hkeys, hserials⟩ := h
  obtain ⟨hkept, hgiven⟩ := @checkLoop_waits _ _ clock _ hwaits 0
  refine ⟨hkept, ?_, hkeys.sublist (checkLoop_keys 0), ?_⟩
  · intro left hleft
    obtain hleft | hleft := List.mem_append.mp hleft
    · exact hgone left hleft
    · obtain ⟨retData, hmem, rfl⟩ := List.mem_map.mp hleft
      exact hgiven retData hmem
  · have hloop := @checkLoop_serials _ tryingCount clock context.dataList 0
    have hmove : ((checkLoop tryingCount clock 0 context.dataList).1.map CARetransmissionData.serial ++
        ((context.left ++ (checkLoop tryingCount clock 0 context.dataList).2.map fun retData =>
          (retData, Departure.timedOut)).map fun left => left.1.serial)).Perm
        (context.dataList.map CARetransmissionData.serial ++
          context.left.map fun left => left.1.serial) := by
      rw [List.map_append, List.map_map]
      refine (List.perm_append_comm.append_left _).trans ?_
      rw [← List.append_assoc]
      exact hloop.append_right _
    exact hmove.trans hserials

/-- A message which was sent. -/
theorem Orderly.sentData {context : CARetransmission δ} (h : Orderly tryingCount context)
    (hcount : 0 < tryingCount.toNat) (supported : Bool) (type : CAMessageType)
    (messageId : UInt16) (adapter : Nat) (message : δ) (now timeout : Nat) :
    Orderly tryingCount
      (CARetransmissionSentData supported type messageId adapter message now timeout context).2 := by
  obtain ⟨hwaits, hgone, hkeys, hserials⟩ := h
  unfold CARetransmissionSentData
  split_ifs with hsupported htype hduplicate
  · exact ⟨hwaits, hgone, hkeys, hserials⟩
  · exact ⟨hwaits, hgone, hkeys, hserials⟩
  · exact ⟨hwaits, hgone, hkeys, hserials⟩
  · refine ⟨?_, hgone, ?_, ?_⟩
    · intro retData hmem
      obtain hmem | hmem := List.mem_append.mp hmem
      · exact hwaits retData hmem
      · rw [List.mem_singleton.mp hmem]
        exact ⟨hcount, rfl, rfl, trivial⟩
    · rw [List.map_append, List.nodup_append]
      refine ⟨hkeys, List.nodup_singleton _, ?_⟩
      intro key hkey other hother heq
      obtain ⟨retData, hmem, rfl⟩ := List.mem_map.mp hkey
      rw [List.map_singleton, List.mem_singleton] at hother
      refine hduplicate (List.any_eq_true.mpr ⟨retData, hmem, ?_⟩)
      rw [heq, hother]
      exact beq_self_eq_true _
    · show ((context.dataList ++ [_]).map CARetransmissionData.serial ++ _).Perm _
      rw [List.map_append, List.append_assoc, List.range_succ]
      refine (List.perm_append_comm.append_left _).trans ?_
      rw [← List.append_assoc]
      exact hserials.append_right _

theorem eraseP_serials {p : CARetransmissionData δ → Bool} {found : CARetransmissionData δ}
    (hfind : dataList.find? p = some found) :
    ((dataList.eraseP p).map CARetransmissionData.serial ++ [found.serial]).Perm
      (dataList.map CARetransmissionData.serial) := by
  induction dataList with
  | nil => cases hfind
  | cons first dataList ih =>
      by_cases hp : p first = true
      · rw [List.find?_cons_of_pos hp] at hfind
        cases hfind
        rw [List.eraseP_cons_of_pos hp]
        exact List.perm_append_singleton _ _
      · rw [List.find?_cons_of_neg hp] at hfind
        rw [List.eraseP_cons_of_neg hp]
        exact (ih hfind).cons _

/-- An answer. -/
theorem Orderly.receivedData {context : CARetransmission δ} (h : Orderly tryingCount context)
    (supported : Bool) (type : CAMessageType) (code : Nat) (messageId : UInt16) (adapter : Nat) :
    Orderly tryingCount
      (CARetransmissionReceivedData supported type code messageId adapter context).2 := by
  have hall := h
  obtain ⟨hwaits, hgone, hkeys, hserials⟩ := h
  unfold CARetransmissionReceivedData
  by_cases hanswer : supported = false ∨ isAnswer type code = false
  · rw [if_pos hanswer]
    exact hall
  · rw [if_neg hanswer]
    cases hfind : context.dataList.find? fun retData => retData.key == (messageId, adapter) with
    | none => exact hall
    | some found =>
        have hfound := hwaits found (List.mem_of_find?_eq_some hfind)
        have htried := hfound.tried
        have hcount := hfound.count
        refine ⟨?_, ?_, ?_, ?_⟩
        · intro retData hmem
          exact hwaits retData (List.mem_of_mem_eraseP hmem)
        · intro left hleft
          obtain hleft | hleft := List.mem_append.mp hleft
          · exact hgone left hleft
          · rw [List.mem_singleton.mp hleft]
            have hlimit : found.sentAt.length ≤ tryingCount.toNat := by omega
            exact ⟨Nat.le_succ_of_le hlimit, nofun, fun _ => hlimit, hfound.spaced⟩
        · exact hkeys.sublist (List.eraseP_sublist.map _)
        · show (_ ++ (context.left ++ [(found, Departure.answered)]).map _).Perm _
          rw [List.map_append]
          refine (List.perm_append_comm.append_left _).trans ?_
          rw [← List.append_assoc]
          exact ((eraseP_serials hfind).append_right _).trans hserials

/-- One step keeps the order. -/
theorem retransmissionStep_orderly (hcount : 0 < tryingCount.toNat)
    (context : CARetransmission δ) (event : RetransmissionEvent δ) (next : CARetransmission δ)
    (h : Orderly tryingCount context) (hstep : retransmissionStep tryingCount context event = some next) :
    Orderly tryingCount next := by
  cases event with
  | sentData supported type messageId adapter message now timeout =>
      cases hstep
      exact h.sentData hcount supported type messageId adapter message now timeout
  | receivedData supported type code messageId adapter =>
      cases hstep
      exact h.receivedData supported type code messageId adapter
  | check clock =>
      cases hstep
      exact h.check

theorem orderly_of_reaches (hcount : 0 < tryingCount.toNat) {context : CARetransmission δ}
    (h : Reaches (retransmissionStep tryingCount) .initial context) : Orderly tryingCount context :=
  h.invariant (retransmissionStep_orderly hcount)
    ⟨List.forall_mem_nil _, List.forall_mem_nil _, List.nodup_nil, List.Perm.refl _⟩

/-! ## Whole runs -/

/-- Nothing which has left comes back. -/
theorem left_of_reaches {context next : CARetransmission δ}
    (h : Reaches (retransmissionStep tryingCount) context next) : context.left <+: next.left := by
  suffices hpres : ∀ s event t, context.left <+: s.left →
      retransmissionStep tryingCount s event = some t → context.left <+: t.left from
    h.invariant hpres (List.prefix_refl _)
  intro s event t hkept hstep
  apply hkept.trans
  cases event with
  | sentData supported type messageId adapter message now timeout =>
      cases hstep
      unfold CARetransmissionSentData
      split_ifs <;> exact List.prefix_refl _
  | receivedData supported type code messageId adapter =>
      cases hstep
      unfold CARetransmissionReceivedData
      by_cases hanswer : supported = false ∨ isAnswer type code = false
      · rewrite [if_pos hanswer]
        exact List.prefix_refl _
      · rw [if_neg hanswer]
        split
        · exact List.prefix_refl _
        · exact List.prefix_append _ _
  | check clock =>
      cases hstep
      exact List.prefix_append _ _

/-- A message whose transmissions are spaced has waited all their times together. -/
theorem Spaced.total {timeout last : Nat} {times : List Nat} (h : Spaced timeout (last :: times)) :
    ∃ first, (last :: times).getLast? = some first ∧
      first + timeout / 1000 * 1000 * (2 ^ times.length - 1) ≤ last := by
  induction times generalizing last with
  | nil => exact ⟨last, rfl, by simp⟩
  | cons before times ih =>
      obtain ⟨hwait, hrest⟩ := h
      obtain ⟨first, hfirst, htotal⟩ := ih hrest
      refine ⟨first, by rw [← hfirst]; simp, ?_⟩
      have hpow : 0 < 2 ^ times.length := Nat.two_pow_pos _
      have hone : waiting timeout times.length = timeout / 1000 * 1000 * 2 ^ times.length := by
        rw [waiting, Nat.mul_right_comm]
      have hsum : timeout / 1000 * 1000 * (2 ^ (times.length + 1) - 1) =
          timeout / 1000 * 1000 * (2 ^ times.length - 1) +
            timeout / 1000 * 1000 * 2 ^ times.length := by
        rw [← Nat.mul_add, Nat.pow_succ]
        congr 1
        omega
      rw [List.length_cons, hsum]
      omega

/-- **No message is lost or kept twice**: each one which was taken over waits, or was answered, or
was given up. -/
theorem serials_of_reaches (hcount : 0 < tryingCount.toNat) {context : CARetransmission δ}
    (h : Reaches (retransmissionStep tryingCount) .initial context) :
    (context.dataList.map CARetransmissionData.serial ++
      context.left.map fun left => left.1.serial).Perm (List.range context.accepted) :=
  (orderly_of_reaches hcount h).serials

/-- A message which is sent, waits, and is sent again. -/
def sampleEvents : List (RetransmissionEvent Unit) :=
  [.sentData true .confirm 7 1 () 0 2000000, .check fun _ => 3000000]

def sampleData : CARetransmissionData Unit := ⟨3000000, 2000000, 1, 7, 1, (), 0, [3000000, 0]⟩

theorem sampleEvents_reached :
    Reaches (retransmissionStep 4) .initial (⟨[sampleData], 1, []⟩ : CARetransmission Unit) := by
  refine ⟨sampleEvents, ?_⟩
  simp [run, sampleEvents, retransmissionStep, CARetransmissionSentData, CARetransmission.initial,
    CACheckRetransmissionList, checkLoop, resend, CACheckTimeout, waiting, sampleData]

theorem serials_of_reaches_waiting :
    ([sampleData].map CARetransmissionData.serial ++ []).Perm (List.range 1) :=
  serials_of_reaches (by decide) sampleEvents_reached

/-- **What was answered or given up is not sent again**, however the run goes on. -/
theorem left_for_good (hcount : 0 < tryingCount.toNat) {context next : CARetransmission δ}
    (h : Reaches (retransmissionStep tryingCount) .initial context)
    (hnext : Reaches (retransmissionStep tryingCount) context next)
    {left : CARetransmissionData δ × Departure} (hleft : left ∈ context.left) :
    left ∈ next.left ∧ ∀ retData ∈ next.dataList, retData.serial ≠ left.1.serial := by
  have hmem : left ∈ next.left := (left_of_reaches hnext).subset hleft
  refine ⟨hmem, fun retData hwaits heq => ?_⟩
  have hserials := (orderly_of_reaches hcount (h.trans hnext)).serials
  have hnodup := hserials.nodup_iff.mpr List.nodup_range
  rw [List.nodup_append] at hnodup
  exact hnodup.2.2 _ (List.mem_map_of_mem hwaits) _
    (List.mem_map.mpr ⟨left, hmem, rfl⟩) heq

theorem left_for_good_answered :
    ∃ next : CARetransmission Unit, next.dataList.length = 1 ∧
      (sampleData, Departure.answered) ∈ next.left ∧
      ∀ retData ∈ next.dataList, retData.serial ≠ sampleData.serial :=
  ⟨_, rfl, @left_for_good Unit 4 (by decide) ⟨[], 1, [(sampleData, .answered)]⟩ _
    (sampleEvents_reached.trans ⟨[.receivedData true .acknowledge caEmpty 7 1], rfl⟩)
    ⟨[.sentData true .confirm 7 1 () 3000000 2000000], rfl⟩ _ (List.mem_singleton.mpr rfl)⟩

/-- **Giving up.**  A message is given up with its last retransmission: by then it was sent once
and then as often as the configuration says, and its first transmission lies back as long as it was
to wait before each of these together. -/
theorem timedOut_of_reaches (hcount : 0 < tryingCount.toNat) {context : CARetransmission δ}
    (h : Reaches (retransmissionStep tryingCount) .initial context)
    {retData : CARetransmissionData δ} (hleft : (retData, .timedOut) ∈ context.left) :
    ∃ last times first, retData.sentAt = last :: times ∧ times.length = tryingCount.toNat ∧
      retData.sentAt.getLast? = some first ∧
      first + retData.timeout / 1000 * 1000 * (2 ^ tryingCount.toNat - 1) ≤ last := by
  have hgone := (orderly_of_reaches hcount h).gone _ hleft
  have hlength : retData.sentAt.length = tryingCount.toNat + 1 := hgone.timedOut rfl
  have hspaced := hgone.spaced
  obtain ⟨last, times, hsent⟩ := List.exists_cons_of_length_pos (l := retData.sentAt) (by omega)
  dsimp only at hspaced
  rw [hsent] at hlength hspaced
  obtain ⟨first, hfirst, htotal⟩ := hspaced.total
  have htimes : times.length = tryingCount.toNat := Nat.succ.inj hlength
  rw [htimes] at htotal
  exact ⟨last, times, first, hsent, htimes, by rw [hsent, hfirst], htotal⟩

theorem timedOut_of_reaches_once :
    ∃ last times first, sampleData.sentAt = last :: times ∧ times.length = 1 ∧
      sampleData.sentAt.getLast? = some first ∧
      first + sampleData.timeout / 1000 * 1000 * (2 ^ 1 - 1) ≤ last := by
  have hrun : run (retransmissionStep 1) .initial sampleEvents =
      some ⟨[], 1, [(sampleData, .timedOut)]⟩ := by
    simp [run, sampleEvents, retransmissionStep, CARetransmissionSentData, CARetransmission.initial,
      CACheckRetransmissionList, checkLoop, resend, CACheckTimeout, waiting, sampleData]
  exact timedOut_of_reaches (by decide) ⟨sampleEvents, hrun⟩ (List.mem_singleton.mpr rfl)

theorem eraseP_eq_filter {β : Type} [BEq β] [LawfulBEq β] {f : CARetransmissionData δ → β} {b : β}
    (hnodup : (dataList.map f).Nodup) :
    dataList.eraseP (fun retData => f retData == b) =
      dataList.filter fun retData => f retData != b := by
  induction dataList with
  | nil => rfl
  | cons first dataList ih =>
      obtain ⟨hnot, hrest⟩ := List.nodup_cons.mp hnodup
      by_cases hfirst : f first = b
      · have hnone : ∀ retData ∈ dataList, f retData ≠ b := fun retData hmem heq =>
          hnot (List.mem_map.mpr ⟨retData, hmem, heq.trans hfirst.symm⟩)
        rw [List.eraseP_cons_of_pos (by simp [hfirst]), List.filter_cons_of_neg (by simp [hfirst])]
        refine (List.filter_eq_self.mpr ?_).symm
        intro retData hmem
        simp [hnone retData hmem]
      · rw [List.eraseP_cons_of_neg (by simp [hfirst]), List.filter_cons_of_pos (by simp [hfirst]),
          ih hrest]

/-- **An answer** takes exactly the message with its id which was sent over the same adapter,
whichever peer it comes from. -/
theorem receivedData_dataList (hcount : 0 < tryingCount.toNat) {context : CARetransmission δ}
    (h : Reaches (retransmissionStep tryingCount) .initial context) (type : CAMessageType)
    (code : Nat) (messageId : UInt16) (adapter : Nat) :
    (CARetransmissionReceivedData true type code messageId adapter context).2.dataList =
      if isAnswer type code then
        context.dataList.filter fun retData => retData.key != (messageId, adapter)
      else context.dataList := by
  have hkeys := (orderly_of_reaches hcount h).keys
  unfold CARetransmissionReceivedData
  cases hanswer : isAnswer type code with
  | false => rfl
  | true =>
      rw [if_neg (by simp), if_pos rfl, ← eraseP_eq_filter hkeys]
      split
      · rename_i hfind
        refine (List.eraseP_of_forall_not ?_).symm
        intro retData hmem hmatch
        exact List.find?_eq_none.mp hfind retData hmem hmatch
      · rfl

theorem receivedData_dataList_answered :
    (CARetransmissionReceivedData true .acknowledge caEmpty 7 1
        (⟨[sampleData], 1, []⟩ : CARetransmission Unit)).2.dataList =
      [sampleData].filter fun retData => retData.key != (7, 1) :=
  receivedData_dataList (by decide) sampleEvents_reached .acknowledge caEmpty 7 1

end List

end Coap
end FireEvacuation
