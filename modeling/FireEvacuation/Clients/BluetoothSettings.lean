import FireEvacuation.Clients.Ping

/-!
# The settings of the Bluetooth ping

An object of `Bluetooth` holds a count, a delay and a timeout.  `setTimeout` compares what it
is given with the delay, `setDelay` compares nothing, and `ping` reads both members anew in
every turn of its loop.  The steps here are the calls of the program, and for a ping the turns
of its loop, so that also a ping with the count -1 is followed turn by turn.  What a turn does
to the counters is the request of the calls as a whole, and a ping which returns 0 leaves the
same either way.

`getInstance` works on a local pointer with the name of the static one.  The static one is
never set, and every call makes another object; all of them share the static counters.

`waits` and `returned` are not in the source: the calls of `poll` and the pauses so far, and
the objects which `getInstance` has returned.
-/

namespace FireEvacuation
namespace Clients
namespace BluetoothSettings

open FireEvacuation.Core FireEvacuation.Core.Effect Platform

/-! ## Objects -/

/-- The type `long`: it has at least the values of `int`. -/
structure Long where
  max : Int
  intMax_le : intMax ≤ max

/-- The members which are not the same in all objects. -/
structure Members where
  delay : Int32
  count : Int32
  timeout : Int32
  latency : Rat

/-- The static members `sent_pkt`, `recv_pkt` and `loss`. -/
structure Counters where
  sentPkt : Int
  recvPkt : Int
  loss : Int

/-- `struct timespec`. -/
structure Timespec where
  sec : Int
  nsec : Int
  deriving DecidableEq, Repr

/-- What stands behind an answered request: nothing, a call of `nanosleep`, or a product which
`long` does not have. -/
inductive Pause where
  | none
  | nanosleep (req : Timespec)
  | overflow
  deriving DecidableEq, Repr

/-- `if (delay > 0)`, with the request for `nanosleep`. -/
def pause (long : Long) (delay : Int32) : Pause :=
  if delay > 0 then
    if delay.toInt * 1000000 ≤ long.max then .nanosleep ⟨0, delay.toInt * 1000000⟩
    else .overflow
  else .none

/-- What a request waits for: its response, by calls of `poll` which are all alike, and what
stands behind it when it is answered.  The members they are made from are there too. -/
inductive Wait where
  | polled (timeout delay : Int32)
  | paused (delay : Int32) (pause : Pause)
  deriving DecidableEq, Repr

/-- Where the program is: between two calls, in the loop of a ping, or behind a call which
never returns or is undefined.  The count is the local variable. -/
inductive Control where
  | idle
  | pinging (object : Nat) (count : Int32) (id : UInt8)
  | stuck
  deriving DecidableEq, Repr

structure Program where
  /-- `Bluetooth::_instance`. -/
  instancePtr : Option Nat
  objects : List Members
  returned : List Nat
  counters : Counters
  control : Control
  waits : List Wait

/-- The program before its first call. -/
def initial : Program := ⟨none, [], [], ⟨0, 0, 0⟩, .idle, []⟩

/-! ## Calls -/

/-- `initMemberValue`, for the members of the object. -/
def initMemberValue (m : Members) : Members :=
  { m with delay := 300, count := 10, timeout := 10 * 1000 }

/-- `getInstance`; `fresh` is what stands in the memory of a new object. -/
def getInstance (fresh : Members) (s : Program) : Program :=
  match s.instancePtr with
  | none =>
      -- the pointer to the new object is lost with the call
      { s with
        objects := s.objects ++ [initMemberValue fresh]
        returned := s.returned ++ [s.objects.length]
        counters := ⟨0, 0, 0⟩ }
  | some object =>
      { s with
        objects := s.objects.modify object initMemberValue
        returned := s.returned ++ [object]
        counters := ⟨0, 0, 0⟩ }

/-- `setCount`. -/
def setCount (count : Int32) (m : Members) : Members := { m with count := count }

/-- `setDelay`. -/
def setDelay (millisec : Int32) (m : Members) : Members := { m with delay := millisec }

/-- `setTimeout`. -/
def setTimeout (millisec : Int32) (m : Members) : Members :=
  if millisec > m.delay then { m with timeout := millisec } else { m with timeout := m.delay }

/-- The results of the calls which set up the socket. -/
structure SocketCalls where
  socket : Int
  bind : Int
  connect : Int
  getsockname : Int

/-- One of them throws. -/
def SocketCalls.Failed (calls : SocketCalls) : Prop :=
  calls.socket < 0 ∨ calls.bind < 0 ∨ calls.connect < 0 ∨ calls.getsockname < 0

instance (calls : SocketCalls) : Decidable calls.Failed :=
  inferInstanceAs (Decidable (_ ∨ _))

/-- `ping`, up to its loop. -/
def ping (object : Nat) (calls : SocketCalls) (m : Members) (s : Program) : Program :=
  { s with
    objects := s.objects.set object { m with latency := 0 }
    control := if calls.Failed then .idle else .pinging object m.count ident }

/-- `count == -1 || count-- > 0`: the count behind it when the loop goes on. -/
def loopTest (count : Int32) : Except (Fault CppException) (Option Int32) :=
  if count = -1 then .ok (some count)
  -- there is no `int` below the least one
  else if count = Int32.minValue then .error .undefined
  else if count > 0 then .ok (some (count - 1))
  else .ok none

/-- The members a request works with. -/
def view (m : Members) (counters : Counters) : Bluetooth :=
  ⟨m.count.toInt, m.latency, counters.sentPkt, counters.recvPkt, counters.loss, [], []⟩

/-- What they are behind it is put back. -/
def writeBack (object : Nat) (m : Members) (b : Bluetooth) (s : Program) : Program :=
  { s with
    objects := s.objects.set object { m with latency := b.latency }
    counters := ⟨b.sentPkt, b.recvPkt, b.loss⟩ }

/-- The body of the loop. -/
def requestTurn (long : Long) (exchange : Exchange) (object : Nat) (m : Members)
    (count : Int32) (id : UInt8) (s : Program) : Program :=
  let polled := if 0 < exchange.send then [.polled m.timeout m.delay] else []
  match request exchange id (view m s.counters) with
  | .ok _ b =>
      { writeBack object m b s with
        control := if pause long m.delay = .overflow then .stuck
          else .pinging object count (nextId id)
        waits := s.waits ++ (polled ++ [.paused m.delay (pause long m.delay)]) }
  | .error e b =>
      { writeBack object m b s with
        -- an exception is caught, and the ping returns -1
        control := match e with
          | .exception _ => .idle
          | .undefined => .stuck
          | .blocked => .stuck
        waits := s.waits ++ polled }

/-- One turn of the loop of the ping, or its end. -/
def turn (long : Long) (exchange : Exchange) (object : Nat) (m : Members) (count : Int32)
    (id : UInt8) (s : Program) : Program :=
  match loopTest count with
  | .error _ => { s with control := .stuck }
  | .ok none =>
      { writeBack object m (stat (view m s.counters)) s with control := .idle }
  | .ok (some count) => requestTurn long exchange object m count id s

/-- The calls, with any arguments, and the turns of a ping. -/
inductive Event where
  | getInstance (fresh : Members)
  | setCount (object : Nat) (count : Int32)
  | setDelay (object : Nat) (millisec : Int32)
  | setTimeout (object : Nat) (millisec : Int32)
  | ping (object : Nat) (calls : SocketCalls)
  | turn (exchange : Exchange)

/-- A call which changes an object. -/
def Program.method (s : Program) (object : Nat) (change : Members → Program) :
    Option Program :=
  if s.control = .idle then (s.objects[object]?).map change else none

/-- One step.  There is none for a call while a ping runs, for a call on an object there is
not, and for a turn without a ping. -/
def step (long : Long) (s : Program) : Event → Option Program
  | .getInstance fresh => if s.control = .idle then some (getInstance fresh s) else none
  | .setCount object count =>
      s.method object fun m => { s with objects := s.objects.set object (setCount count m) }
  | .setDelay object millisec =>
      s.method object fun m => { s with objects := s.objects.set object (setDelay millisec m) }
  | .setTimeout object millisec =>
      s.method object fun m => { s with objects := s.objects.set object (setTimeout millisec m) }
  | .ping object calls => s.method object fun m => ping object calls m s
  | .turn exchange =>
      match s.control with
      | .pinging object count id =>
          (s.objects[object]?).map fun m => turn long exchange object m count id s
      | _ => none

/-! ## Whole pings -/

/-- The object and the counters are those of the other model of `ping`. -/
structure Agrees (m : Members) (counters : Counters) (b : Bluetooth) : Prop where
  latency : m.latency = b.latency
  counters : counters = ⟨b.sentPkt, b.recvPkt, b.loss⟩

/-- The turns for so many requests. -/
def turns (exchange : Nat → Exchange) : Nat → Nat → List Event
  | 0, _ => []
  | n + 1, index => .turn (exchange index) :: turns exchange n (index + 1)

section Pings

variable {long : Long} {object : Nat} {m : Members} {s : Program} {b b' : Bluetooth}

theorem method_eq_some_iff {change : Members → Program} {t : Program} :
    s.method object change = some t ↔
      s.control = .idle ∧ ∃ m, s.objects[object]? = some m ∧ change m = t := by
  unfold Program.method
  rw [Option.ite_none_right_eq_some, Option.map_eq_some_iff]

theorem loopTest_succ {n : Nat} (hn : ((n + 1 : Nat) : Int) ≤ intMax) :
    loopTest (Int32.ofNat (n + 1)) = .ok (some (Int32.ofNat n)) := by
  have hlt : n + 1 < 2 ^ 31 := by
    simp only [intMax] at hn
    omega
  have hcount : (Int32.ofNat (n + 1)).toInt = ((n + 1 : Nat) : Int) :=
    Int32.toInt_ofNat_of_lt hlt
  have hpos : 0 < Int32.ofNat (n + 1) := by
    rw [Int32.lt_iff_toInt_lt, hcount]
    exact Int.natCast_pos.mpr (Nat.succ_pos n)
  have hunlimited : Int32.ofNat (n + 1) ≠ -1 := by
    intro h
    rw [h] at hpos
    exact absurd hpos (by decide)
  have hleast : Int32.ofNat (n + 1) ≠ Int32.minValue := by
    intro h
    rw [h] at hpos
    exact absurd hpos (by decide)
  unfold loopTest
  rw [if_neg hunlimited, if_neg hleast, if_pos hpos, Int32.ofNat_add]
  congr
  exact Int32.add_sub_cancel _ _

/-- A request which is answered in one of the models is answered in the other one. -/
theorem request_of_agrees {exchange : Exchange} {id : UInt8} (hagrees : Agrees m s.counters b)
    (hs : b.recvPkt ≤ b.sentPkt) (hrequest : request exchange id b = .ok () b') :
    Answered id exchange ∧ b' = received b id (tv2fl exchange.elapsed) ∧
      request exchange id (view m s.counters) =
        .ok () (received (view m s.counters) id (tv2fl exchange.elapsed)) := by
  have hview : (view m s.counters).recvPkt = b.recvPkt ∧
      (view m s.counters).sentPkt = b.sentPkt := by
    rw [hagrees.counters]
    exact ⟨rfl, rfl⟩
  rcases request_cases exchange id hs with ⟨hanswered, hroom, hok⟩ | ⟨-, e, u, herror, -⟩
  · rw [hok] at hrequest
    cases hrequest
    refine ⟨hanswered, rfl, ?_⟩
    have hs' : (view m s.counters).recvPkt ≤ (view m s.counters).sentPkt := by
      rw [hview.1, hview.2]
      exact hs
    rcases request_cases exchange id hs' with ⟨-, -, hok'⟩ | ⟨hnot, -⟩
    · exact hok'
    · rw [hview.2] at hnot
      exact absurd ⟨hanswered, hroom⟩ hnot
  · rw [herror] at hrequest
    cases hrequest

/-- One answered request in both models. -/
theorem step_turn_of_request {exchange : Exchange} {n : Nat} {id : UInt8}
    (hcontrol : s.control = .pinging object (Int32.ofNat (n + 1)) id)
    (hn : ((n + 1 : Nat) : Int) ≤ intMax) (hfound : s.objects[object]? = some m)
    (hpause : pause long m.delay ≠ .overflow) (hagrees : Agrees m s.counters b)
    (hs : b.recvPkt ≤ b.sentPkt) (hrequest : request exchange id b = .ok () b') :
    ∃ t, step long s (.turn exchange) = some t ∧
      t.control = .pinging object (Int32.ofNat n) (nextId id) ∧
      t.objects[object]? = some { m with latency := b'.latency } ∧
      Agrees { m with latency := b'.latency } t.counters b' ∧ b'.recvPkt ≤ b'.sentPkt := by
  obtain ⟨hanswered, rfl, hview⟩ := request_of_agrees hagrees hs hrequest
  have hlt : object < s.objects.length := (List.getElem?_eq_some_iff.mp hfound).1
  have hturn : turn long exchange object m (Int32.ofNat (n + 1)) id s =
      { writeBack object m (received (view m s.counters) id (tv2fl exchange.elapsed)) s with
        control := .pinging object (Int32.ofNat n) (nextId id)
        waits := s.waits ++
          [.polled m.timeout m.delay, .paused m.delay (pause long m.delay)] } := by
    simp only [turn, loopTest_succ hn, requestTurn, hview]
    rw [if_neg hpause, if_pos hanswered.1]
    rfl
  refine ⟨turn long exchange object m (Int32.ofNat (n + 1)) id s, ?_, ?_⟩
  · simp only [step, hcontrol, hfound, Option.map_some]
  rw [hturn]
  refine ⟨rfl, ?_, ⟨rfl, ?_⟩, Int.add_le_add_right hs 1⟩
  · show (s.objects.set object _)[object]? = _
    rw [List.getElem?_set_self hlt]
    simp [received, view, hagrees.latency]
  · simp [writeBack, received, view, hagrees.counters]

/-- The turns of a loop which gets through. -/
theorem run_turns {exchange : Nat → Exchange} {n : Nat} (hn : (n : Int) ≤ intMax) :
    ∀ {index : Nat} {s : Program} {m : Members} {b : Bluetooth},
      s.control = .pinging object (Int32.ofNat n) (idAt index) →
      s.objects[object]? = some m → pause long m.delay ≠ .overflow → Agrees m s.counters b →
      b.recvPkt ≤ b.sentPkt → requests exchange n index (idAt index) b = .ok () b' →
      ∃ t m', run (step long) s (turns exchange n index) = some t ∧
        t.control = .pinging object 0 (idAt (index + n)) ∧ t.objects[object]? = some m' ∧
        Agrees m' t.counters b' := by
  induction n with
  | zero =>
      intro index s m b hcontrol hfound _ hagrees _ hrequests
      cases hrequests
      exact ⟨s, m, rfl, hcontrol, hfound, hagrees⟩
  | succ n ih =>
      intro index s m b hcontrol hfound hpause hagrees hs hrequests
      obtain ⟨_, c, hrequest, hrest⟩ := bind_eq_ok_iff.mp hrequests
      obtain ⟨u, hstep, hcontrol', hfound', hagrees', hs'⟩ :=
        step_turn_of_request hcontrol hn hfound hpause hagrees hs hrequest
      obtain ⟨t, m', hrun, hend, hfound'', hagrees''⟩ :=
        ih (by omega) hcontrol' hfound' hpause hagrees' hs' hrest
      refine ⟨t, m', ?_, ?_, hfound'', hagrees''⟩
      · rw [turns, run_cons_of_step hstep]
        exact hrun
      · rw [hend, Nat.add_assoc, Nat.add_comm 1 n]

/-- A ping which returns 0 has set up its socket and got through its loop. -/
theorem requests_of_ping {call : PingCall}
    (h : Clients.ping call (Clients.setCount call.count b) = .ok 0 b') :
    call.SetUp ∧ ∃ c, requests call.exchange call.count.toNat 0 ident (started call b) = .ok () c ∧
      b' = stat c := by
  cases hbody : pingBody call call.count (started call b) with
  | error e u => exact absurd h ((ping_of_error hbody).1 b')
  | ok result u =>
      rw [ping_eq, catch_of_ok hbody] at h
      cases h
      by_cases hsetUp : call.SetUp
      · rw [pingBody_of_setUp _ _ hsetUp] at hbody
        obtain ⟨_, c, hrequests, hend⟩ := bind_eq_ok_iff.mp hbody
        cases hend
        exact ⟨hsetUp, c, hrequests, rfl⟩
      · obtain ⟨e, herror⟩ := pingBody_of_not_setUp (started call b) call.count hsetUp
        rw [herror] at hbody
        cases hbody

/-- The results of the calls which set up the socket of a ping. -/
def socketCalls (call : PingCall) : SocketCalls where
  socket := call.socket
  bind := call.bind
  connect := call.connect
  getsockname := call.getsockname

theorem not_failed_of_setUp {call : PingCall} (h : call.SetUp) : ¬(socketCalls call).Failed := by
  rintro (hfailed | hfailed | hfailed | hfailed)
  · exact absurd h.socket (Int.not_le.mpr hfailed)
  · exact absurd h.bind (Int.not_le.mpr hfailed)
  · exact absurd h.connect (Int.not_le.mpr hfailed)
  · exact absurd h.getsockname (Int.not_le.mpr hfailed)

/-- The calls for a ping with its count. -/
def pingEvents (object : Nat) (call : PingCall) : List Event :=
  .setCount object (Int32.ofNat call.count.toNat) :: .ping object (socketCalls call) ::
    (turns call.exchange call.count.toNat 0 ++ [.turn (call.exchange call.count.toNat)])

/-- The socket is set up: the loop comes next. -/
theorem control_ping {calls : SocketCalls} (hcalls : ¬calls.Failed) (object : Nat) (m : Members)
    (s : Program) : (ping object calls m s).control = .pinging object m.count ident := by
  show (if calls.Failed then Control.idle else _) = _
  rw [if_neg hcalls]

/-- The turn behind the last request is the end of the ping. -/
theorem step_turn_of_last {exchange : Exchange} {id : UInt8}
    (hcontrol : s.control = .pinging object 0 id) (hfound : s.objects[object]? = some m)
    (hagrees : Agrees m s.counters b) :
    ∃ t m', step long s (.turn exchange) = some t ∧ t.control = .idle ∧
      t.objects[object]? = some m' ∧ Agrees m' t.counters (stat b) := by
  have hlt : object < s.objects.length := (List.getElem?_eq_some_iff.mp hfound).1
  refine ⟨{ writeBack object m (stat (view m s.counters)) s with control := .idle },
    { m with latency := (stat (view m s.counters)).latency }, ?_, rfl,
    List.getElem?_set_self hlt, hagrees.latency, ?_⟩
  · simp only [step, hcontrol, hfound, Option.map_some]
    rfl
  · simp [writeBack, stat, view, hagrees.counters]

/-- **Pings.**  A ping which returns 0 when it is called as a whole leaves the same counters and
the same latency when it is followed turn by turn. -/
theorem run_pingEvents {call : PingCall} (hidle : s.control = .idle)
    (hfound : s.objects[object]? = some m) (hpause : pause long m.delay ≠ .overflow)
    (hs : s.counters.recvPkt ≤ s.counters.sentPkt)
    (hping : Clients.ping call (Clients.setCount call.count (view m s.counters)) = .ok 0 b) :
    ∃ t m', run (step long) s (pingEvents object call) = some t ∧ t.control = .idle ∧
      t.objects[object]? = some m' ∧ Agrees m' t.counters b := by
  obtain ⟨hsetUp, c, hrequests, rfl⟩ := requests_of_ping hping
  have hlt : object < s.objects.length := (List.getElem?_eq_some_iff.mp hfound).1
  have hcount : (call.count.toNat : Int) ≤ intMax := by
    rw [Int.toNat_of_nonneg (le_trans (by decide) call.count_pos)]
    exact call.count_le
  let m₁ := setCount (Int32.ofNat call.count.toNat) m
  let s₁ : Program := { s with objects := s.objects.set object m₁ }
  have hfound₁ : s₁.objects[object]? = some m₁ := List.getElem?_set_self hlt
  have hstep₁ : step long s (.setCount object (Int32.ofNat call.count.toNat)) = some s₁ :=
    method_eq_some_iff.mpr ⟨hidle, m, hfound, rfl⟩
  let s₂ := ping object (socketCalls call) m₁ s₁
  have hstep₂ : step long s₁ (.ping object (socketCalls call)) = some s₂ :=
    method_eq_some_iff.mpr ⟨hidle, m₁, hfound₁, rfl⟩
  have hfound₂ : s₂.objects[object]? = some { m₁ with latency := 0 } := by
    have hlt₁ : object < s₁.objects.length := (List.getElem?_eq_some_iff.mp hfound₁).1
    exact List.getElem?_set_self hlt₁
  have hcontrol₂ : s₂.control = .pinging object m₁.count ident :=
    control_ping (not_failed_of_setUp hsetUp) object m₁ s₁
  obtain ⟨t, m', hrun, hcontrol, hfound', hagrees⟩ :=
    run_turns hcount hcontrol₂ hfound₂ hpause ⟨rfl, rfl⟩ hs hrequests
  obtain ⟨u, m'', hlast, hend⟩ :=
    step_turn_of_last hcontrol hfound' hagrees
  refine ⟨u, m'', ?_, hend⟩
  rw [pingEvents, run_cons_of_step hstep₁, run_cons_of_step hstep₂, run_append hrun,
    run_cons_of_step hlast, run_nil]

end Pings

/-! ## What is promised -/

/-- A request `nanosleep` accepts, for the delay; without a delay there is no pause. -/
def Pause.Of (delay : Int32) : Pause → Prop
  | .none => delay ≤ 0
  | .nanosleep req =>
      0 ≤ req.nsec ∧ req.nsec ≤ 999999999 ∧
        req.sec * 1000000000 + req.nsec = delay.toInt * 1000000
  | .overflow => False

/-- The timeout is not smaller than the delay, and the pause is that of the delay. -/
def Wait.Fits : Wait → Prop
  | .polled timeout delay => delay ≤ timeout
  | .paused delay pause => pause.Of delay

/-- One object, which all calls of `getInstance` return, and every wait fits. -/
structure Configured (s : Program) : Prop where
  single : s.objects.length ≤ 1
  same : ∀ object ∈ s.returned, ∀ object' ∈ s.returned, object = object'
  waits : ∀ wait ∈ s.waits, wait.Fits

/-- The request of the next turn: its object and its identifier. -/
def Program.requesting (s : Program) : Option (Members × UInt8) :=
  match s.control with
  | .pinging object count id =>
      match loopTest count with
      | .ok (some _) => (s.objects[object]?).map fun m => (m, id)
      | _ => none
  | _ => none

/-- The request is answered, and `sent_pkt` has room for it. -/
def Program.Answers (s : Program) (id : UInt8) (exchange : Exchange) : Prop :=
  Answered id exchange ∧ s.counters.sentPkt < intMax

/-- The condition, step by step: `getInstance` is called only once, a request is sent only with
a delay up to the timeout, and answered only with a delay below a second. -/
def StepFits (s : Program) : Event → Prop
  | .getInstance _ => s.objects = []
  | .turn exchange =>
      ∀ m id, s.requesting = some (m, id) →
        (0 < exchange.send → m.delay ≤ m.timeout) ∧ (s.Answers id exchange → m.delay ≤ 999)
  | _ => True

/-- What a caller has to keep to: `getInstance` is called only once, and `setDelay` only with a
value up to the timeout and below a second. -/
def CallFits (s : Program) : Event → Prop
  | .getInstance _ => s.objects = []
  | .setDelay object millisec =>
      ∀ m, s.objects[object]? = some m → millisec ≤ m.timeout ∧ millisec ≤ 999
  | _ => True

section Waits

variable {long : Long} {exchange : Exchange} {object : Nat} {m : Members} {count : Int32}
  {id : UInt8} {s t : Program} {e : Event}

/-- **Pauses.**  The nanoseconds of a delay are those of a valid request exactly when the delay
is below a second. -/
theorem pause_of_iff (long : Long) (delay : Int32) :
    (pause long delay).Of delay ↔ delay ≤ 999 := by
  have hintMax := long.intMax_le
  unfold pause
  rw [Int32.le_iff_toInt_le]
  show _ ↔ delay.toInt ≤ 999
  split
  · rename_i hpos
    have hpos' : 0 < delay.toInt := Int32.lt_iff_toInt_lt.mp hpos
    split
    · simp only [Pause.Of]
      omega
    · rename_i hover
      simp only [intMax] at hintMax
      exact iff_of_false id (by omega)
  · rename_i hpos
    have hneg : ¬0 < delay.toInt := fun h => hpos (Int32.lt_iff_toInt_lt.mpr h)
    show delay ≤ 0 ↔ _
    rw [Int32.le_iff_toInt_le]
    show delay.toInt ≤ 0 ↔ _
    omega

/-- A delay up to the timeout and below a second. -/
structure Members.Kept (m : Members) : Prop where
  delay_le_timeout : m.delay ≤ m.timeout
  delay_le : m.delay ≤ 999

theorem kept_initMemberValue (m : Members) : (initMemberValue m).Kept :=
  ⟨show (300 : Int32) ≤ 10 * 1000 by decide, show (300 : Int32) ≤ 999 by decide⟩

/-- Behind `setTimeout` the timeout is not smaller than the delay, whatever it was before. -/
theorem delay_le_setTimeout (millisec : Int32) (m : Members) :
    (setTimeout millisec m).delay ≤ (setTimeout millisec m).timeout := by
  unfold setTimeout
  split
  · rename_i hlt
    exact Int32.le_of_lt hlt
  · exact Int32.le_refl _

theorem kept_setTimeout (millisec : Int32) (h : m.Kept) : (setTimeout millisec m).Kept := by
  have hdelay : (setTimeout millisec m).delay = m.delay := by
    unfold setTimeout
    split <;> rfl
  refine ⟨delay_le_setTimeout millisec m, ?_⟩
  rw [hdelay]
  exact h.delay_le

/-- What a step does which is no call of `getInstance`: it changes one object, and adds waits
which fit exactly under the condition. -/
structure Changes (s : Program) (e : Event) (t : Program) (object : Nat) (m m' : Members)
    (new : List Wait) : Prop where
  found : s.objects[object]? = some m
  objects : t.objects = s.objects.set object m'
  instancePtr : t.instancePtr = s.instancePtr
  returned : t.returned = s.returned
  counters : t.counters.recvPkt ≤ t.counters.sentPkt
  waits : t.waits = s.waits ++ new
  fits : (∀ wait ∈ new, wait.Fits) ↔ StepFits s e
  kept : CallFits s e → m.Kept → m'.Kept

/-- A change of one object without a wait. -/
theorem changes_of_quiet {m' : Members} {counters : Counters} {control : Control}
    (hfound : s.objects[object]? = some m) (hcounters : counters.recvPkt ≤ counters.sentPkt)
    (hfits : StepFits s e) (hkept : CallFits s e → m.Kept → m'.Kept) :
    Changes s e { s with
      objects := s.objects.set object m'
      counters := counters
      control := control } object m m' [] where
  found := hfound
  objects := rfl
  instancePtr := rfl
  returned := rfl
  counters := hcounters
  waits := (List.append_nil _).symm
  fits := iff_of_true (fun _ h => absurd h List.not_mem_nil) hfits
  kept := hkept

/-- The condition speaks of the request which the turn sends. -/
theorem stepFits_turn_iff (hrequesting : s.requesting = some (m, id)) :
    StepFits s (.turn exchange) ↔
      (0 < exchange.send → m.delay ≤ m.timeout) ∧ (s.Answers id exchange → m.delay ≤ 999) := by
  constructor
  · intro h
    exact h m id hrequesting
  · intro h m' id' hrequesting'
    rw [hrequesting] at hrequesting'
    cases hrequesting'
    exact h

/-- **One request.**  Its waits are made from the members of its object. -/
theorem requestTurn_changes (hfound : s.objects[object]? = some m)
    (hs : s.counters.recvPkt ≤ s.counters.sentPkt) (hrequesting : s.requesting = some (m, id)) :
    ∃ m' new, Changes s (.turn exchange) (requestTurn long exchange object m count id s) object
      m m' new := by
  unfold requestTurn
  rcases request_cases (s := view m s.counters) exchange id hs with
    ⟨hanswered, hroom, hrequest⟩ | ⟨hnot, e, b, hrequest, hleft⟩
  · rw [hrequest]
    refine ⟨_, _, hfound, rfl, rfl, rfl, Int.add_le_add_right hs 1, rfl, ?_,
      fun _ h => ⟨h.delay_le_timeout, h.delay_le⟩⟩
    have hanswers : s.Answers id exchange := ⟨hanswered, hroom⟩
    rw [stepFits_turn_iff hrequesting, if_pos hanswered.1]
    simp [Wait.Fits, pause_of_iff, hanswered.1, hanswers]
  · rw [hrequest]
    have hcounters : b.recvPkt ≤ b.sentPkt := by
      cases hleft with
      | unsent => exact hs
      | unanswered => exact hs
      | lost => exact Int.le_trans hs (Int.le_add_one (Int.le_refl _))
    refine ⟨_, _, hfound, rfl, rfl, rfl, hcounters, rfl, ?_,
      fun _ h => ⟨h.delay_le_timeout, h.delay_le⟩⟩
    have hanswers : ¬s.Answers id exchange := hnot
    rw [stepFits_turn_iff hrequesting]
    by_cases hsend : 0 < exchange.send
    · simp [Wait.Fits, hsend, hanswers]
    · simp [hsend, hanswers]

/-- A turn of a ping. -/
theorem turn_changes (hcontrol : s.control = .pinging object count id)
    (hfound : s.objects[object]? = some m) (hs : s.counters.recvPkt ≤ s.counters.sentPkt) :
    ∃ m' new, Changes s (.turn exchange) (turn long exchange object m count id s) object m m'
      new := by
  have hquiet : (∀ goesOn, loopTest count ≠ .ok (some goesOn)) → StepFits s (.turn exchange) := by
    intro hends m' id' hrequesting
    unfold Program.requesting at hrequesting
    rw [hcontrol] at hrequesting
    dsimp only at hrequesting
    split at hrequesting
    · rename_i goesOn hgoesOn
      exact absurd hgoesOn (hends goesOn)
    · cases hrequesting
  unfold turn
  cases htest : loopTest count with
  | error e =>
      have hsame : s.objects.set object m = s.objects := by
        obtain ⟨hlt, rfl⟩ := List.getElem?_eq_some_iff.mp hfound
        exact List.set_getElem_self hlt
      have hfits := hquiet (by simp [htest])
      have hchanges : Changes s (.turn exchange)
          { s with objects := s.objects.set object m, control := .stuck } object m m [] :=
        changes_of_quiet hfound hs hfits fun _ h => h
      rw [hsame] at hchanges
      exact ⟨m, [], hchanges⟩
  | ok test =>
      cases test with
      | none =>
          have hfits := hquiet (by simp [htest])
          exact ⟨_, _, changes_of_quiet hfound hs hfits
            fun _ h => ⟨h.delay_le_timeout, h.delay_le⟩⟩
      | some goesOn =>
          have hrequesting : s.requesting = some (m, id) := by
            simp [Program.requesting, hcontrol, htest, hfound]
          exact requestTurn_changes hfound hs hrequesting

/-- **One step.** -/
theorem step_cases (hs : s.counters.recvPkt ≤ s.counters.sentPkt)
    (hstep : step long s e = some t) :
    (∃ fresh, e = .getInstance fresh ∧ t = getInstance fresh s) ∨
      ∃ object m m' new, Changes s e t object m m' new := by
  cases e with
  | getInstance fresh =>
      left
      obtain ⟨-, heq⟩ := Option.ite_none_right_eq_some.mp hstep
      exact ⟨fresh, rfl, (Option.some.inj heq).symm⟩
  | setCount object count =>
      right
      obtain ⟨-, m, hfound, rfl⟩ := method_eq_some_iff.mp hstep
      exact ⟨object, m, _, _, changes_of_quiet hfound hs trivial
        fun _ h => ⟨h.delay_le_timeout, h.delay_le⟩⟩
  | setDelay object millisec =>
      right
      obtain ⟨-, m, hfound, rfl⟩ := method_eq_some_iff.mp hstep
      exact ⟨object, m, _, _, changes_of_quiet hfound hs trivial
        fun hcall _ => ⟨(hcall m hfound).1, (hcall m hfound).2⟩⟩
  | setTimeout object millisec =>
      right
      obtain ⟨-, m, hfound, rfl⟩ := method_eq_some_iff.mp hstep
      exact ⟨object, m, _, _, changes_of_quiet hfound hs trivial
        fun _ h => kept_setTimeout millisec h⟩
  | ping object calls =>
      right
      obtain ⟨-, m, hfound, rfl⟩ := method_eq_some_iff.mp hstep
      exact ⟨object, m, _, _, changes_of_quiet hfound hs trivial
        fun _ h => ⟨h.delay_le_timeout, h.delay_le⟩⟩
  | turn exchange =>
      right
      cases hcontrol : s.control with
      | pinging object count id =>
          simp only [step, hcontrol] at hstep
          obtain ⟨m, hfound, rfl⟩ := Option.map_eq_some_iff.mp hstep
          obtain ⟨m', new, hchanges⟩ := turn_changes hcontrol hfound hs
          exact ⟨object, m, m', new, hchanges⟩
      | idle =>
          simp only [step, hcontrol] at hstep
          cases hstep
      | stuck =>
          simp only [step, hcontrol] at hstep
          cases hstep

/-- As long as nothing sets the static pointer: the objects are those which were returned. -/
structure Unassigned (s : Program) : Prop where
  instancePtr : s.instancePtr = none
  returned : s.returned = List.range s.objects.length
  counters : s.counters.recvPkt ≤ s.counters.sentPkt

theorem getInstance_of_unassigned (fresh : Members) (h : Unassigned s) :
    getInstance fresh s =
      { s with
        objects := s.objects ++ [initMemberValue fresh]
        returned := s.returned ++ [s.objects.length]
        counters := ⟨0, 0, 0⟩ } := by
  unfold getInstance
  rw [h.instancePtr]

theorem unassigned_step (h : Unassigned s) (hstep : step long s e = some t) : Unassigned t := by
  rcases step_cases h.counters hstep with
    ⟨fresh, rfl, rfl⟩ | ⟨object, m, m', new, hchanges⟩
  · rw [getInstance_of_unassigned fresh h]
    refine ⟨h.instancePtr, ?_, Int.le_refl _⟩
    rw [List.length_append, List.length_singleton, List.range_succ, h.returned]
  · refine ⟨hchanges.instancePtr.trans h.instancePtr, ?_, hchanges.counters⟩
    rw [hchanges.returned, hchanges.objects, List.length_set]
    exact h.returned

/-- One object is returned by all calls. -/
theorem configured_iff_single (h : Unassigned s) :
    Configured s ↔ s.objects.length ≤ 1 ∧ ∀ wait ∈ s.waits, wait.Fits := by
  constructor
  · exact fun hs => ⟨hs.single, hs.waits⟩
  · rintro ⟨hsingle, hwaits⟩
    have hzero : ∀ object ∈ s.returned, object = 0 := by
      intro object hobject
      rw [h.returned, List.mem_range] at hobject
      omega
    refine ⟨hsingle, fun object hobject object' hobject' => ?_, hwaits⟩
    rw [hzero object hobject, hzero object' hobject']

/-- The condition says of every step whether it keeps what is promised. -/
theorem configured_iff (h : Unassigned s) (hs : Configured s) (hstep : step long s e = some t) :
    Configured t ↔ StepFits s e := by
  rw [configured_iff_single (unassigned_step h hstep)]
  rcases step_cases h.counters hstep with
    ⟨fresh, rfl, rfl⟩ | ⟨object, m, m', new, hchanges⟩
  · rw [getInstance_of_unassigned fresh h]
    show (s.objects ++ [_]).length ≤ 1 ∧ (∀ wait ∈ s.waits, wait.Fits) ↔ s.objects = []
    rw [List.length_append, List.length_singleton, ← List.length_eq_zero_iff]
    constructor
    · rintro ⟨hsingle, -⟩
      omega
    · intro hnone
      exact ⟨by omega, hs.waits⟩
  · rw [hchanges.objects, List.length_set, hchanges.waits, List.forall_mem_append,
      ← hchanges.fits]
    constructor
    · rintro ⟨-, -, hnew⟩
      exact hnew
    · intro hnew
      exact ⟨hs.single, hs.waits, hnew⟩

/-- All objects have a delay up to the timeout and below a second. -/
def Disciplined (s : Program) : Prop := Unassigned s ∧ ∀ m ∈ s.objects, m.Kept

theorem disciplined_step (h : Disciplined s) (hcall : CallFits s e)
    (hstep : step long s e = some t) : Disciplined t := by
  refine ⟨unassigned_step h.1 hstep, ?_⟩
  rcases step_cases h.1.counters hstep with
    ⟨fresh, rfl, rfl⟩ | ⟨object, m, m', new, hchanges⟩
  · rw [getInstance_of_unassigned fresh h.1]
    intro x hx
    rcases List.mem_append.mp hx with hold | hnew
    · exact h.2 x hold
    · rw [List.mem_singleton.mp hnew]
      exact kept_initMemberValue fresh
  · rw [hchanges.objects]
    intro x hx
    rcases List.mem_or_eq_of_mem_set hx with hold | rfl
    · exact h.2 x hold
    · exact hchanges.kept hcall (h.2 m (List.mem_of_getElem? hchanges.found))

/-- A caller who keeps to the condition for calls keeps to that for steps. -/
theorem stepFits_of_callFits (h : Disciplined s) (hcall : CallFits s e) : StepFits s e := by
  cases e with
  | getInstance fresh => exact hcall
  | turn exchange =>
      intro m id hrequesting
      have hm : m ∈ s.objects := by
        unfold Program.requesting at hrequesting
        split at hrequesting
        · split at hrequesting
          · obtain ⟨m', hfound, heq⟩ := Option.map_eq_some_iff.mp hrequesting
            cases heq
            exact List.mem_of_getElem? hfound
          · cases hrequesting
        · cases hrequesting
      exact ⟨fun _ => (h.2 m hm).delay_le_timeout, fun _ => (h.2 m hm).delay_le⟩
  | setCount object count => trivial
  | setDelay object millisec => trivial
  | setTimeout object millisec => trivial
  | ping object calls => trivial

theorem unassigned_initial : Unassigned initial := ⟨rfl, rfl, Int.le_refl _⟩

theorem configured_initial : Configured initial where
  single := Nat.zero_le _
  same _ h := absurd h List.not_mem_nil
  waits _ h := absurd h List.not_mem_nil

theorem disciplined_initial : Disciplined initial :=
  ⟨unassigned_initial, fun _ h => absurd h List.not_mem_nil⟩

/-- **Settings.**  In a run everything is as promised exactly when every step meets the
condition; and a caller who calls `getInstance` once, and `setDelay` with values up to the
timeout and below a second, makes only such runs. -/
theorem configured_throughout_iff (long : Long) (es : List Event) (t : Program)
    (hrun : run (step long) initial es = some t) :
    (Guarded (step long) StepFits initial es ↔ Throughout (step long) Configured initial es) ∧
      (Guarded (step long) CallFits initial es →
        Throughout (step long) Configured initial es) := by
  have hpres : ∀ s e t, Unassigned s ∧ Configured s → StepFits s e → step long s e = some t →
      Unassigned t ∧ Configured t := by
    intro s e t hs hfits hstep
    exact ⟨unassigned_step hs.1 hstep, (configured_iff hs.1 hs.2 hstep).mpr hfits⟩
  have hgood : ∀ s e t, Unassigned s ∧ Configured s → step long s e = some t →
      (Configured t ↔ StepFits s e) := by
    intro s e t hs hstep
    exact configured_iff hs.1 hs.2 hstep
  have hexact := guarded_iff_throughout hpres hgood hrun
    ⟨unassigned_initial, configured_initial⟩ configured_initial
  refine ⟨hexact, fun hcalls => hexact.mp ?_⟩
  apply hcalls.imp _ _ disciplined_initial
  · exact fun s e t hs hcall hstep => disciplined_step hs hcall hstep
  · exact fun s e hs hcall => stepFits_of_callFits hs hcall

end Waits

/-! ## A delay below the timeout, and one above it -/

/-- `long` with 64 bits. -/
def long64 : Long := ⟨9223372036854775807, by decide⟩

/-- One object, a delay and a timeout, and a ping with one request which is answered. -/
def pingWith (delay timeout : Int32) : List Event :=
  [.getInstance ⟨0, 0, 0, 0⟩, .setCount 0 1, .setTimeout 0 timeout, .setDelay 0 delay,
    .ping 0 ⟨3, 0, 0, 0⟩, .turn ⟨48, [⟨echoRsp, 200⟩], .timeout, ⟨0, 1500⟩⟩]

theorem configured_throughout_iff_ping :
    (Guarded (step long64) StepFits initial (pingWith 10 100) ↔
      Throughout (step long64) Configured initial (pingWith 10 100)) ∧
      (Guarded (step long64) CallFits initial (pingWith 10 100) →
        Throughout (step long64) Configured initial (pingWith 10 100)) :=
  configured_throughout_iff long64 (pingWith 10 100) _ rfl

/-- A delay of two seconds behind a timeout of one: the timeout is smaller than the delay, the
request for `nanosleep` has all the nanoseconds of two seconds, and a second call of
`getInstance` makes a second object. -/
theorem settings_are_not_kept :
    ∃ t, run (step long64) initial (pingWith 2000 1000 ++ [.turn ⟨48, [], .timeout, ⟨0, 0⟩⟩,
        .getInstance ⟨0, 0, 0, 0⟩]) = some t ∧
      t.objects.length = 2 ∧ t.returned = [0, 1] ∧
      t.waits = [.polled 1000 2000, .paused 2000 (.nanosleep ⟨0, 2000000000⟩)] ∧
      ¬Configured t := by
  refine ⟨_, rfl, rfl, rfl, rfl, fun h => ?_⟩
  exact absurd h.single (by decide)

end BluetoothSettings
end Clients
end FireEvacuation
