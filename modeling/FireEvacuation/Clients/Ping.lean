import Mathlib.Algebra.Field.Rat
import Mathlib.Data.List.Chain
import Mathlib.Tactic.Ring
import FireEvacuation.Core.Transition
import FireEvacuation.Platform.StackResult

/-!
# The Bluetooth ping of the clients

`Bluetooth::ping` sends echo requests to a peer, one after the other, and waits for the
response to each.  The counters of the packets are static: only `getInstance` puts them back
to 0, once, and all pings add to them.  The loss of a ping is the difference of the counters
when the ping returns 0; a ping which loses a request throws behind the first of the two
counters, so that the difference stays with the pings after it.

The members `reverse` and `verify` are 0 from `getInstance` on, as nothing sets them, and
the code which they guard is left out; so is the check for the two buffers, which
`getInstance` has made.  What the calls into the kernel return, the packets and the times
come with the call of `ping`.  Times and the latency are rational numbers.
-/

namespace FireEvacuation
namespace Clients

open FireEvacuation.Core FireEvacuation.Core.Effect Platform

/-! ## Requests -/

/-- `INT_MAX`. -/
def intMax : Int := 2147483647

/-- `L2CAP_ECHO_RSP`. -/
def echoRsp : UInt8 := 0x09

/-- `L2CAP_COMMAND_REJ`. -/
def commandRej : UInt8 := 0x01

/-- `ident`, the identifier of the first request. -/
def ident : UInt8 := 200

/-- `if (++id > 254) id = ident;` -/
def nextId (id : UInt8) : UInt8 := if id + 1 > 254 then ident else id + 1

/-- The identifier of the request with the index. -/
def idAt : Nat → UInt8
  | 0 => ident
  | index + 1 => nextId (idAt index)

/-- `struct timeval`, as the difference of two. -/
structure Timeval where
  sec : Int
  usec : Int
  deriving DecidableEq, Repr

/-- `tv2fl`: the milliseconds. -/
def tv2fl (tv : Timeval) : Rat := tv.sec * 1000 + tv.usec / 1000

/-- The header of a packet, as it stands in the buffer after `recv`. -/
structure Packet where
  code : UInt8
  ident : UInt8
  deriving DecidableEq, Repr

/-- What becomes of the wait when no packet has ended it: `poll` returns 0 or fails, `recv`
fails or returns 0, or packets of others come in for ever. -/
inductive WaitEnd where
  | timeout
  | pollFailed
  | recvFailed
  | disconnected
  | endless
  deriving DecidableEq, Repr

/-- What one request meets: the result of `send`, the packets received after it, and the time
between the two calls of `gettimeofday`. -/
structure Exchange where
  send : Int
  packets : List Packet
  waitEnd : WaitEnd
  elapsed : Timeval

/-- The wait for the response, up to the value of `lost`. -/
def awaitResponse (id : UInt8) (waitEnd : WaitEnd) :
    List Packet → Except (Fault CppException) Bool
  | [] =>
      match waitEnd with
      | .timeout => .ok true
      | .pollFailed => .error (.exception (.runtimeError "Poll failed"))
      | .recvFailed => .error (.exception (.runtimeError "Recv failed"))
      | .disconnected => .error (.exception (.runtimeError "Disconnected"))
      | .endless => .error .blocked
  | packet :: packets =>
      -- responses to other requests, and the requests of the peer itself
      if packet.ident ≠ id then awaitResponse id waitEnd packets
      else if packet.code = echoRsp then .ok false
      else if packet.code = commandRej then
        .error (.exception (.runtimeError "Peer doesn't support echo packets"))
      else awaitResponse id waitEnd packets

/-! ## Pings -/

/-- The members `ping` works with.  `sentIds` and `answers` are not in the source: the
identifiers which the last ping has sent, and the times of its requests which were answered. -/
structure Bluetooth where
  count : Int
  latency : Rat
  sentPkt : Int
  recvPkt : Int
  loss : Int
  sentIds : List UInt8
  answers : List Rat

/-- `getInstance` with `initMemberValue`; nothing is said of the latency. -/
def getInstance (latency : Rat) : Bluetooth := ⟨10, latency, 0, 0, 0, [], []⟩

/-- `setCount`. -/
def setCount (count : Int) (s : Bluetooth) : Bluetooth := { s with count := count }

/-- `stat`. -/
def stat (s : Bluetooth) : Bluetooth :=
  { s with loss := if s.sentPkt ≠ 0 then s.sentPkt - s.recvPkt else 0 }

/-- `getLatency`. -/
def getLatency (s : Bluetooth) : Rat := s.latency / ((s.count - s.loss : Int) : Rat)

/-- `sent_pkt++`; there is no `int` beyond `INT_MAX`. -/
def countSent : Cpp Bluetooth Unit := fun s =>
  if s.sentPkt < intMax then .ok () { s with sentPkt := s.sentPkt + 1 } else .error .undefined s

/-- `recv_pkt++`. -/
def countReceived : Cpp Bluetooth Unit := fun s =>
  if s.recvPkt < intMax then .ok () { s with recvPkt := s.recvPkt + 1 } else .error .undefined s

/-- One turn of the loop over the requests. -/
def request (exchange : Exchange) (id : UInt8) : Cpp Bluetooth Unit :=
  if exchange.send ≤ 0 then throwException (.runtimeError "Send failed")
  else do
    -- only what the kernel took was sent
    modify fun s => { s with sentIds := s.sentIds ++ [id] }
    let lost ← runExcept (awaitResponse id exchange.waitEnd exchange.packets)
    countSent
    -- the exception comes between the two counters
    if lost then throwException (.runtimeError "No response...")
    else
      countReceived
      modify fun s => { s with
        latency := s.latency + tv2fl exchange.elapsed
        answers := s.answers ++ [tv2fl exchange.elapsed] }

/-- The loop for a `count` other than -1, with the number of the requests to come. -/
def requests (exchange : Nat → Exchange) : Nat → Nat → UInt8 → Cpp Bluetooth Unit
  | 0, _, _ => pure ()
  | n + 1, index, id => do
      request (exchange index) id
      requests exchange n (index + 1) (nextId id)

/-- A call of `setCount` with a count of at least 1 and of `ping` behind it: the results of
the calls which set up the socket, and what the requests meet. -/
structure PingCall where
  count : Int
  count_pos : 1 ≤ count
  count_le : count ≤ intMax
  socket : Int
  bind : Int
  connect : Int
  getsockname : Int
  exchange : Nat → Exchange

/-- The body of the `try`. -/
def pingBody (call : PingCall) (count : Int) : Cpp Bluetooth Int :=
  if call.socket < 0 then throwException (.runtimeError "Can't create socket")
  else if call.bind < 0 then throwException (.runtimeError "Can't bind socket")
  else if call.connect < 0 then throwException (.runtimeError "Can't connect")
  else if call.getsockname < 0 then throwException (.runtimeError "Can't get local address")
  else do
    requests call.exchange count.toNat 0 ident
    modify stat
    pure 0

/-- `Bluetooth::ping`. -/
def ping (call : PingCall) : Cpp Bluetooth Int := do
  let s ← get
  -- the counters are not put back to 0 here
  modify fun s => { s with latency := 0, sentIds := [], answers := [] }
  catchException (pingBody call s.count) fun _ => pure (-1)

/-- One call of `ping` after `setCount`.  Nothing follows a ping which never returns, or which
counts beyond `INT_MAX`. -/
def pingStep (s : Bluetooth) (call : PingCall) : Option Bluetooth :=
  match ping call (setCount call.count s) with
  | .ok _ t => some t
  | .error _ _ => none

/-! ## What is promised -/

/-- The sum of the times. -/
def total : List Rat → Rat
  | [] => 0
  | time :: times => time + total times

def mean (times : List Rat) : Rat := total times / (times.length : Rat)

/-- The identifiers and the counters. -/
structure Sound (s : Bluetooth) : Prop where
  range : ∀ id ∈ s.sentIds, 200 ≤ id ∧ id ≤ 254
  consecutive : s.sentIds.IsChain (· ≠ ·)
  recvPkt_nonneg : 0 ≤ s.recvPkt
  recvPkt_le : s.recvPkt ≤ s.sentPkt
  sentPkt_le : s.sentPkt ≤ intMax

/-- The loss and the latency after a ping which returned 0. -/
structure Accounted (s : Bluetooth) : Prop where
  loss : s.loss = (s.sentIds.length : Int) - s.answers.length
  loss_nonneg : 0 ≤ s.loss
  loss_lt : s.loss ≤ s.count - 1
  divisor : s.count - s.loss ≠ 0
  latency : getLatency s = mean s.answers

def PingAccounted (s : Bluetooth) (call : PingCall) : Prop :=
  ∀ t, ping call (setCount call.count s) = .ok 0 t → Accounted t

/-- The first packet which ends the wait for the response is the response. -/
def Answered (id : UInt8) (exchange : Exchange) : Prop :=
  0 < exchange.send ∧ ∃ packet,
    exchange.packets.find? (fun packet =>
      decide (packet.ident = id ∧ (packet.code = echoRsp ∨ packet.code = commandRej))) =
        some packet ∧ packet.code = echoRsp

/-- The socket is there. -/
structure PingCall.SetUp (call : PingCall) : Prop where
  socket : 0 ≤ call.socket
  bind : 0 ≤ call.bind
  connect : 0 ≤ call.connect
  getsockname : 0 ≤ call.getsockname

/-- The socket is there, each request is sent and answered, and `sent_pkt` has room for all
of them. -/
structure Completes (s : Bluetooth) (call : PingCall) : Prop where
  setUp : call.SetUp
  answered : ∀ index < call.count.toNat, Answered (idAt index) (call.exchange index)
  room : s.sentPkt + call.count ≤ intMax

/-- The condition: a ping which completes finds the two counters equal. -/
def CountersAgree (s : Bluetooth) (call : PingCall) : Prop :=
  Completes s call → s.sentPkt = s.recvPkt

section Requests

variable {exchange : Exchange} {id : UInt8} {index : Nat} {s t : Bluetooth}

theorem nextId_range (h : 200 ≤ id ∧ id ≤ 254) : 200 ≤ nextId id ∧ nextId id ≤ 254 := by
  unfold nextId ident
  split
  · decide
  · simp only [gt_iff_lt, UInt8.lt_iff_toNat_lt, UInt8.le_iff_toNat_le, UInt8.toNat_add,
      UInt8.reduceToNat] at *
    omega

theorem nextId_ne (h : 200 ≤ id ∧ id ≤ 254) : id ≠ nextId id := by
  unfold nextId ident
  split
  · simp only [gt_iff_lt, UInt8.lt_iff_toNat_lt, UInt8.le_iff_toNat_le, UInt8.toNat_add,
      UInt8.reduceToNat, ne_eq, ← UInt8.toNat_inj] at *
    omega
  · simp only [UInt8.le_iff_toNat_le, UInt8.toNat_add, UInt8.reduceToNat, ne_eq,
      ← UInt8.toNat_inj] at *
    omega

theorem idAt_range (index : Nat) : 200 ≤ idAt index ∧ idAt index ≤ 254 := by
  induction index with
  | zero => decide
  | succ index ih => exact nextId_range ih

/-- The wait ends with the response when the response is the first packet to end it. -/
theorem awaitResponse_eq_false_iff {waitEnd : WaitEnd} {packets : List Packet} :
    awaitResponse id waitEnd packets = .ok false ↔ ∃ packet, packets.find? (fun packet =>
      decide (packet.ident = id ∧ (packet.code = echoRsp ∨ packet.code = commandRej))) =
        some packet ∧ packet.code = echoRsp := by
  induction packets with
  | nil => cases waitEnd <;> simp [awaitResponse]
  | cons packet packets ih =>
      unfold awaitResponse
      rw [List.find?_cons]
      by_cases hid : packet.ident = id
      · by_cases hrsp : packet.code = echoRsp
        · simp [hid, hrsp]
        · by_cases hrej : packet.code = commandRej
          · have hne : commandRej ≠ echoRsp := by decide
            simp [hid, hrej, hne]
          · simp [hid, hrsp, hrej, ih]
      · simp [hid, ih]

theorem answered_iff : Answered id exchange ↔
    0 < exchange.send ∧ awaitResponse id exchange.waitEnd exchange.packets = .ok false := by
  unfold Answered
  rw [awaitResponse_eq_false_iff]

/-- A request is lost only when `poll` runs into its timeout. -/
theorem waitEnd_of_lost {waitEnd : WaitEnd} {packets : List Packet}
    (h : awaitResponse id waitEnd packets = .ok true) : waitEnd = .timeout := by
  induction packets with
  | nil =>
      cases waitEnd with
      | timeout => rfl
      | pollFailed => cases h
      | recvFailed => cases h
      | disconnected => cases h
      | endless => cases h
  | cons packet packets ih =>
      unfold awaitResponse at h
      split at h
      · exact ih h
      · split at h
        · cases h
        · split at h
          · cases h
          · exact ih h

/-- The state behind a request which is answered. -/
def received (s : Bluetooth) (id : UInt8) (time : Rat) : Bluetooth :=
  { s with
    latency := s.latency + time
    sentPkt := s.sentPkt + 1
    recvPkt := s.recvPkt + 1
    sentIds := s.sentIds ++ [id]
    answers := s.answers ++ [time] }

/-- What a request leaves when it stops: nothing was sent, it was sent and `sent_pkt` not
reached, or it was lost. -/
inductive LeftBy (exchange : Exchange) (id : UInt8) (s : Bluetooth) : Bluetooth → Prop where
  | unsent : LeftBy exchange id s s
  | unanswered : LeftBy exchange id s { s with sentIds := s.sentIds ++ [id] }
  | lost (hroom : s.sentPkt < intMax) (htimeout : exchange.waitEnd = .timeout) :
      LeftBy exchange id s
        { s with sentIds := s.sentIds ++ [id], sentPkt := s.sentPkt + 1 }

/-- All a request can do. -/
theorem request_cases (exchange : Exchange) (id : UInt8) (hs : s.recvPkt ≤ s.sentPkt) :
    (Answered id exchange ∧ s.sentPkt < intMax ∧
      request exchange id s = .ok () (received s id (tv2fl exchange.elapsed))) ∨
    (¬(Answered id exchange ∧ s.sentPkt < intMax) ∧
      ∃ e t, request exchange id s = .error e t ∧ LeftBy exchange id s t) := by
  unfold request
  by_cases hsend : exchange.send ≤ 0
  · -- nothing was sent
    right
    rw [if_pos hsend]
    exact ⟨fun h => absurd h.1.1 (by omega), _, s, rfl, .unsent⟩
  · rw [if_neg hsend, bind_of_ok (modify_apply _ s)]
    cases hwait : awaitResponse id exchange.waitEnd exchange.packets with
    | error e =>
        right
        refine ⟨fun h => ?_, e, _, bind_of_error (runExcept_error e _), .unanswered⟩
        have hanswer := (answered_iff.mp h.1).2
        rw [hwait] at hanswer
        cases hanswer
    | ok lost =>
        rw [bind_of_ok (runExcept_ok lost _)]
        by_cases hroom : s.sentPkt < intMax
        · have hcount : countSent { s with sentIds := s.sentIds ++ [id] } =
              .ok () { s with sentIds := s.sentIds ++ [id], sentPkt := s.sentPkt + 1 } := by
            unfold countSent
            exact if_pos hroom
          rw [bind_of_ok hcount]
          cases lost with
          | true =>
              right
              refine ⟨fun h => ?_, _, _, rfl, .lost hroom (waitEnd_of_lost hwait)⟩
              have hanswer := (answered_iff.mp h.1).2
              rw [hwait] at hanswer
              cases hanswer
          | false =>
              left
              refine ⟨answered_iff.mpr ⟨by omega, hwait⟩, hroom, ?_⟩
              have hreceived : countReceived
                  { s with sentIds := s.sentIds ++ [id], sentPkt := s.sentPkt + 1 } =
                  .ok () { s with
                    sentIds := s.sentIds ++ [id]
                    sentPkt := s.sentPkt + 1
                    recvPkt := s.recvPkt + 1 } := by
                unfold countReceived
                exact if_pos (lt_of_le_of_lt hs hroom)
              simp only [Bool.false_eq_true, if_false]
              rw [bind_of_ok hreceived]
              rfl
        · -- the counter is at its maximum
          right
          have hcount : countSent { s with sentIds := s.sentIds ++ [id] } =
              .error .undefined { s with sentIds := s.sentIds ++ [id] } := by
            unfold countSent
            exact if_neg hroom
          exact ⟨fun h => hroom h.2, _, _, bind_of_error hcount, .unanswered⟩

end Requests

section Loop

variable {exchange : Nat → Exchange} {index n : Nat} {s t : Bluetooth}

theorem total_append (times : List Rat) (time : Rat) :
    total (times ++ [time]) = total times + time := by
  induction times with
  | nil => simp [total]
  | cons first times ih =>
      rw [List.cons_append, total, total, ih]
      ring

/-- Between two requests: the identifier of the next one is not the last which was sent. -/
structure LoopInv (index : Nat) (s : Bluetooth) : Prop where
  sound : Sound s
  next : ∀ id ∈ s.sentIds.getLast?, id ≠ idAt index

theorem sound_send (h : LoopInv index s) :
    Sound { s with sentIds := s.sentIds ++ [idAt index] } := by
  refine ⟨fun id hid => ?_, h.sound.consecutive.append (List.isChain_singleton _) ?_,
    h.sound.recvPkt_nonneg, h.sound.recvPkt_le, h.sound.sentPkt_le⟩
  · rcases List.mem_append.mp hid with hold | hnew
    · exact h.sound.range id hold
    · rw [List.mem_singleton.mp hnew]
      exact idAt_range index
  · intro last hlast id hid
    cases hid
    exact h.next last hlast

/-- What `stat` would make of the counters. -/
def missing (s : Bluetooth) : Int := s.sentPkt - s.recvPkt

/-- How a loop stops: the difference of the counters has not become smaller, and without a
timeout it is what it was. -/
structure Stopped (exchange : Nat → Exchange) (s t : Bluetooth) : Prop where
  sound : Sound t
  missing_le : missing s ≤ missing t
  missing_eq : (∀ k, (exchange k).waitEnd ≠ .timeout) → missing t = missing s

theorem stopped_leftBy (h : LoopInv index s) (hleft : LeftBy (exchange index) (idAt index) s t) :
    Stopped exchange s t := by
  cases hleft with
  | unsent => exact ⟨h.sound, le_refl _, fun _ => rfl⟩
  | unanswered => exact ⟨sound_send h, le_refl _, fun _ => rfl⟩
  | lost hroom hlost =>
      have hsent := sound_send h
      refine ⟨⟨hsent.range, hsent.consecutive, hsent.recvPkt_nonneg, ?_, hroom⟩, ?_,
        fun htimeout => absurd hlost (htimeout index)⟩
      · exact le_trans hsent.recvPkt_le (by simp)
      · unfold missing
        dsimp only
        omega

/-- An answered request keeps the invariant of the loop. -/
theorem loopInv_received (h : LoopInv index s) (hroom : s.sentPkt < intMax) (time : Rat) :
    LoopInv (index + 1) (received s (idAt index) time) := by
  have hsent := sound_send h
  refine ⟨⟨hsent.range, hsent.consecutive, ?_, ?_, hroom⟩, fun id hid => ?_⟩
  · exact le_trans hsent.recvPkt_nonneg (by simp [received])
  · exact Int.add_le_add_right hsent.recvPkt_le 1
  · have hlast : (s.sentIds ++ [idAt index]).getLast? = some id := hid
    rw [List.getLast?_append_of_ne_nil _ (List.cons_ne_nil _ _)] at hlast
    cases hlast
    exact nextId_ne (idAt_range index)

/-- What `n` answered requests add. -/
structure Served (n : Nat) (s t : Bluetooth) : Prop where
  count : t.count = s.count
  sentPkt : t.sentPkt = s.sentPkt + n
  recvPkt : t.recvPkt = s.recvPkt + n
  sentIds : t.sentIds.length = s.sentIds.length + n
  answers : t.answers.length = s.answers.length + n
  latency : t.latency - total t.answers = s.latency - total s.answers

theorem served_received {id : UInt8} {time : Rat} (h : Served n (received s id time) t) :
    Served (n + 1) s t := by
  rcases h with ⟨hcount, hsent, hrecv, hids, hanswers, hlatency⟩
  simp only [received, List.length_append, List.length_singleton, total_append] at *
  refine ⟨hcount, ?_, ?_, ?_, ?_, ?_⟩
  · omega
  · omega
  · omega
  · omega
  · rw [hlatency]
    ring

/-- All the loop can do. -/
theorem requests_cases (exchange : Nat → Exchange) (n index : Nat) (h : LoopInv index s) :
    ((∀ k < n, Answered (idAt (index + k)) (exchange (index + k))) ∧ s.sentPkt + n ≤ intMax ∧
      ∃ t, requests exchange n index (idAt index) s = .ok () t ∧ Served n s t ∧ Sound t) ∨
    (¬((∀ k < n, Answered (idAt (index + k)) (exchange (index + k))) ∧
        s.sentPkt + n ≤ intMax) ∧
      ∃ e t, requests exchange n index (idAt index) s = .error e t ∧ Stopped exchange s t) := by
  -- on the requests to come; the index gives the identifier of the next one
  induction n generalizing index s with
  | zero =>
      left
      refine ⟨fun k hk => absurd hk (Nat.not_lt_zero k), ?_, s, rfl, ?_, h.sound⟩
      · simpa using h.sound.sentPkt_le
      · exact ⟨rfl, by simp, by simp, rfl, rfl, rfl⟩
  | succ n ih =>
      have hsplit : (∀ k < n + 1, Answered (idAt (index + k)) (exchange (index + k))) ↔
          Answered (idAt index) (exchange index) ∧
            ∀ k < n, Answered (idAt (index + 1 + k)) (exchange (index + 1 + k)) := by
        rw [Nat.forall_lt_succ_left]
        simp only [Nat.add_zero, Nat.add_assoc, Nat.add_comm 1]
      rw [hsplit]
      unfold requests
      rcases request_cases (exchange index) (idAt index) h.sound.recvPkt_le with
        ⟨hanswered, hroom, hok⟩ | ⟨hnot, e, t, herror, hleft⟩
      · rw [bind_of_ok hok]
        have hnext := loopInv_received h hroom (tv2fl (exchange index).elapsed)
        have hsent : (received s (idAt index) (tv2fl (exchange index).elapsed)).sentPkt + n =
            s.sentPkt + (n + 1 : Nat) := by
          simp only [received]
          omega
        have hmissing : missing (received s (idAt index) (tv2fl (exchange index).elapsed)) =
            missing s := by
          unfold missing received
          dsimp only
          omega
        rcases ih (index + 1) hnext with
          ⟨hall, hmax, t, hrun, hserved, hsound⟩ | ⟨hnot, e, t, hrun, hstop⟩
        · left
          rw [hsent] at hmax
          exact ⟨⟨hanswered, hall⟩, hmax, t, hrun, served_received hserved, hsound⟩
        · right
          rw [hsent] at hnot
          exact ⟨fun hall => hnot ⟨hall.1.2, hall.2⟩, e, t, hrun, hstop.sound,
            hmissing ▸ hstop.missing_le, hmissing ▸ hstop.missing_eq⟩
      · right
        rw [bind_of_error herror]
        exact ⟨fun hall => hnot ⟨hall.1.1, by omega⟩, e, t, rfl, stopped_leftBy h hleft⟩

end Loop

section Ping

variable {call : PingCall} {s t : Bluetooth}

/-- The state in front of the `try`. -/
def started (call : PingCall) (s : Bluetooth) : Bluetooth :=
  { setCount call.count s with latency := 0, sentIds := [], answers := [] }

theorem sound_started (call : PingCall) (h : Sound s) : Sound (started call s) :=
  ⟨fun _ hid => absurd hid List.not_mem_nil, List.isChain_nil, h.recvPkt_nonneg, h.recvPkt_le,
    h.sentPkt_le⟩

theorem ping_eq : ping call (setCount call.count s) =
    catchException (pingBody call call.count) (fun _ => pure (-1)) (started call s) := rfl

theorem ping_of_error {e : Fault CppException}
    (h : pingBody call call.count (started call s) = .error e t) :
    (∀ u, ping call (setCount call.count s) ≠ .ok 0 u) ∧
      leftIn (ping call (setCount call.count s)) = t := by
  rw [ping_eq]
  unfold catchException
  rw [h]
  cases e with
  | exception e =>
      refine ⟨fun u hu => ?_, rfl⟩
      simp at hu
  | undefined =>
      refine ⟨fun u hu => ?_, rfl⟩
      cases hu
  | blocked =>
      refine ⟨fun u hu => ?_, rfl⟩
      cases hu

theorem pingBody_of_not_setUp (s : Bluetooth) (count : Int) (h : ¬call.SetUp) :
    ∃ e, pingBody call count s = .error e s := by
  unfold pingBody
  split
  · exact ⟨_, rfl⟩
  · split
    · exact ⟨_, rfl⟩
    · split
      · exact ⟨_, rfl⟩
      · split
        · exact ⟨_, rfl⟩
        · exact absurd ⟨by omega, by omega, by omega, by omega⟩ h

theorem pingBody_of_setUp (s : Bluetooth) (count : Int) (h : call.SetUp) :
    pingBody call count s =
      (do requests call.exchange count.toNat 0 ident; modify stat; pure 0 :
        Cpp Bluetooth Int) s := by
  unfold pingBody
  rw [if_neg (by have := h.socket; omega), if_neg (by have := h.bind; omega),
    if_neg (by have := h.connect; omega), if_neg (by have := h.getsockname; omega)]

/-- All a ping can do. -/
theorem ping_cases (call : PingCall) (hs : Sound s) :
    (Completes s call ∧ ∃ t, ping call (setCount call.count s) = .ok 0 (stat t) ∧
      Served call.count.toNat (started call s) t ∧ Sound t) ∨
    (¬Completes s call ∧ (∀ t, ping call (setCount call.count s) ≠ .ok 0 t) ∧
      Stopped call.exchange s (leftIn (ping call (setCount call.count s)))) := by
  have hstarted := sound_started call hs
  have hcount : (call.count.toNat : Int) = call.count :=
    Int.toNat_of_nonneg (le_trans (by decide) call.count_pos)
  by_cases hsetUp : call.SetUp
  · have hbody := pingBody_of_setUp (started call s) call.count hsetUp
    have hcompletes : Completes s call ↔
        (∀ k < call.count.toNat, Answered (idAt (0 + k)) (call.exchange (0 + k))) ∧
          (started call s).sentPkt + call.count.toNat ≤ intMax := by
      simp only [Nat.zero_add]
      rw [hcount]
      exact ⟨fun h => ⟨h.answered, h.room⟩, fun h => ⟨hsetUp, h.1, h.2⟩⟩
    rw [hcompletes]
    rcases requests_cases call.exchange call.count.toNat 0
      ⟨hstarted, fun id hid => nomatch hid⟩ with
      ⟨hall, hroom, t, hrun, hserved, hsound⟩ | ⟨hnot, e, t, hrun, hstop⟩
    · left
      refine ⟨⟨hall, hroom⟩, t, ?_, hserved, hsound⟩
      rw [ping_eq]
      exact catch_of_ok (hbody.trans (bind_of_ok hrun))
    · right
      have herror := ping_of_error (hbody.trans (bind_of_error hrun))
      rw [herror.2]
      exact ⟨hnot, herror.1, hstop.sound, hstop.missing_le, hstop.missing_eq⟩
  · right
    rcases pingBody_of_not_setUp (started call s) call.count hsetUp with ⟨e, hbody⟩
    have herror := ping_of_error hbody
    rw [herror.2]
    exact ⟨fun h => hsetUp h.setUp, herror.1, hstarted, le_refl _, fun _ => rfl⟩

/-- Behind a ping which completes the loss is what the counters differed by before it. -/
theorem accounted_iff (hserved : Served call.count.toNat (started call s) t) (hs : Sound s) :
    Accounted (stat t) ↔ s.sentPkt = s.recvPkt := by
  have hcount : (call.count.toNat : Int) = call.count :=
    Int.toNat_of_nonneg (le_trans (by decide) call.count_pos)
  have hpos := call.count_pos
  rcases hserved with ⟨hcountEq, hsent, hrecv, hids, hanswers, hlatency⟩
  simp only [started, setCount, List.length_nil, Nat.zero_add, total, sub_zero] at *
  -- both counters have grown by the count, which leaves the difference there was
  have hloss : (stat t).loss = s.sentPkt - s.recvPkt := by
    have hnonneg := hs.recvPkt_nonneg
    have hle := hs.recvPkt_le
    unfold stat
    dsimp only
    rw [if_pos (by omega)]
    omega
  constructor
  · intro h
    have hown := h.loss
    rw [hloss] at hown
    simp only [stat] at hown
    omega
  · intro hagree
    have hzero : (stat t).loss = 0 := by omega
    have hdivisor : (stat t).count - (stat t).loss = (t.answers.length : Int) := by
      rw [hzero, hanswers, hcount]
      simp [stat, hcountEq]
    refine ⟨?_, ?_, ?_, ?_, ?_⟩
    · rw [hzero]
      simp only [stat]
      omega
    · omega
    · rw [hzero]
      simp only [stat]
      omega
    · rw [hdivisor]
      omega
    · unfold getLatency mean
      rw [hdivisor]
      have htotal : t.latency = total t.answers := by
        rw [← sub_eq_zero]
        exact hlatency
      simp [stat, htotal]

end Ping

section Runs

variable {call : PingCall} {s t : Bluetooth} {latency : Rat}

theorem sound_getInstance (latency : Rat) : Sound (getInstance latency) :=
  ⟨fun _ hid => absurd hid List.not_mem_nil, List.isChain_nil, le_refl _, le_refl _,
    show (0 : Int) ≤ intMax by decide⟩

/-- However a ping ends. -/
theorem stopped_ping (call : PingCall) (hs : Sound s) :
    Stopped call.exchange s (leftIn (ping call (setCount call.count s))) := by
  rcases ping_cases call hs with ⟨-, t, hping, hserved, hsound⟩ | ⟨-, -, hstop⟩
  · rw [hping]
    have hmissing : missing (stat t) = missing s := by
      have hsent : t.sentPkt = s.sentPkt + call.count.toNat := hserved.sentPkt
      have hrecv : t.recvPkt = s.recvPkt + call.count.toNat := hserved.recvPkt
      show t.sentPkt - t.recvPkt = s.sentPkt - s.recvPkt
      omega
    exact ⟨⟨hsound.range, hsound.consecutive, hsound.recvPkt_nonneg, hsound.recvPkt_le,
      hsound.sentPkt_le⟩, le_of_eq hmissing.symm, fun _ => hmissing⟩
  · exact hstop

theorem stopped_pingStep (hs : Sound s) (hstep : pingStep s call = some t) :
    Stopped call.exchange s t := by
  have hleft := stopped_ping call hs
  unfold pingStep at hstep
  cases hping : ping call (setCount call.count s) with
  | ok result u =>
      rw [hping] at hstep hleft
      cases hstep
      exact hleft
  | error e u =>
      rw [hping] at hstep
      cases hstep

theorem sound_of_reaches (h : Reaches pingStep (getInstance latency) s) : Sound s :=
  h.invariant (fun _ _ _ hs hstep => (stopped_pingStep hs hstep).sound)
    (sound_getInstance latency)

/-- **Loss accounting.**  In every reachable state, and after every ping however it ends, the
identifiers and the counters are sound; and the loss and the latency of a ping are right
exactly when the ping does not complete or finds the counters equal. -/
theorem ping_accounted_iff (latency : Rat) (s : Bluetooth)
    (h : Reaches pingStep (getInstance latency) s) :
    Sound s ∧ ∀ call, Sound (leftIn (ping call (setCount call.count s))) ∧
      (PingAccounted s call ↔ CountersAgree s call) := by
  have hs := sound_of_reaches h
  refine ⟨hs, fun call => ⟨(stopped_ping call hs).sound, ?_⟩⟩
  rcases ping_cases call hs with ⟨hcompletes, t, hping, hserved, -⟩ | ⟨hnot, hfails, -⟩
  · constructor
    · intro haccounted _
      exact (accounted_iff hserved hs).mp (haccounted (stat t) hping)
    · intro hagree u hu
      rw [hping] at hu
      cases hu
      exact (accounted_iff hserved hs).mpr (hagree hcompletes)
  · constructor
    · exact fun _ hcompletes => absurd hcompletes hnot
    · exact fun _ t ht => absurd ht (hfails t)

/-- No wait of the call runs into its timeout. -/
def NoTimeout (_ : Bluetooth) (call : PingCall) : Prop :=
  ∀ k, (call.exchange k).waitEnd ≠ .timeout

/-- The counters are equal as long as no ping has run into a timeout. -/
theorem counters_eq_of_guardedReaches
    (h : GuardedReaches pingStep NoTimeout (getInstance latency) s) :
    s.sentPkt = s.recvPkt := by
  have hpres : ∀ u call t, Sound u ∧ missing u = 0 → NoTimeout u call →
      pingStep u call = some t → Sound t ∧ missing t = 0 := by
    intro u call t hu htimeout hstep
    have hstop := stopped_pingStep hu.1 hstep
    exact ⟨hstop.sound, (hstop.missing_eq htimeout).trans hu.2⟩
  have hzero := (h.invariant hpres ⟨sound_getInstance latency, rfl⟩).2
  unfold missing at hzero
  omega

/-- Once they differ they differ for good. -/
theorem counters_ne_of_reaches (hs : Sound s) (hne : s.sentPkt ≠ s.recvPkt)
    (h : Reaches pingStep s t) : t.sentPkt ≠ t.recvPkt := by
  have hpres : ∀ u call v, Sound u ∧ missing s ≤ missing u →
      pingStep u call = some v → Sound v ∧ missing s ≤ missing v := by
    intro u call v hu hstep
    have hstop := stopped_pingStep hu.1 hstep
    exact ⟨hstop.sound, le_trans hu.2 hstop.missing_le⟩
  have hmissing := (h.invariant hpres ⟨hs, le_refl _⟩).2
  have hle := hs.recvPkt_le
  unfold missing at hmissing
  omega

end Runs

/-! ## A ping behind a lost request -/

/-- A ping with one request, and what that meets. -/
def onePing (exchange : Exchange) : PingCall where
  count := 1
  count_pos := le_refl 1
  count_le := by decide
  socket := 3
  bind := 0
  connect := 0
  getsockname := 0
  exchange := fun _ => exchange

/-- The request is lost. -/
def lostPing : PingCall := onePing ⟨48, [], .timeout, ⟨0, 0⟩⟩

/-- The request is answered behind a packet of another. -/
def answeredPing : PingCall :=
  onePing ⟨48, [⟨echoRsp, 17⟩, ⟨echoRsp, 200⟩], .timeout, ⟨0, 1500⟩⟩

/-- What the lost ping leaves. -/
def afterLostPing : Bluetooth := ⟨1, 0, 1, 0, 0, [200], []⟩

theorem ping_accounted_iff_after_lost :
    Sound afterLostPing ∧ ∀ call,
      Sound (leftIn (ping call (setCount call.count afterLostPing))) ∧
        (PingAccounted afterLostPing call ↔ CountersAgree afterLostPing call) :=
  ping_accounted_iff 0 afterLostPing ⟨[lostPing], rfl⟩

/-- The lost request is the loss of the next ping, which divides its latency by 0. -/
theorem lost_request_is_lost_again :
    ¬∀ latency s, Reaches pingStep (getInstance latency) s → Sound s ∧ ∀ call,
      Sound (leftIn (ping call (setCount call.count s))) ∧ PingAccounted s call := by
  intro h
  have haccounted := ((h 0 afterLostPing ⟨[lostPing], rfl⟩).2 answeredPing).2 _ rfl
  exact haccounted.divisor rfl

end Clients
end FireEvacuation
