import FireEvacuation.Coap.RoundTrip
import FireEvacuation.Core.Framing

/-!
# CoAP messages on a TCP stream

The receiving side of `catcpserver.c` and `catcpadapter.c` for connections without TLS.  A session
keeps the bytes of a message until it is whole; what one call of `recv` has read may end
anywhere.  The messages handed on are those of the stream, however it was cut, with one exception:
where only one byte of a message has been read, `CAConstructCoAP` takes it and returns without
saying so, and is given the same byte again.

Memory is taken to be there; the errors of `OICCalloc` and `OICRealloc` are left out.
-/

namespace FireEvacuation
namespace Coap

open FireEvacuation.Core

/-- `CAProtocol_t`. -/
inductive CAProtocol where
  | unknown
  | tls
  | coap
  deriving DecidableEq, Repr

/-- What `CATCPSessionInfo_t` has of the message which is being received: the `len` bytes of
`data`, and the length of the whole message once it is known. -/
structure CATCPSessionInfo where
  data : Option (List UInt8)
  totalLen : Nat
  protocol : CAProtocol
  deriving DecidableEq, Repr

/-- `len`. -/
def CATCPSessionInfo.len (svritem : CATCPSessionInfo) : Nat := (svritem.data.getD []).length

/-- `CACleanData`. -/
def CACleanData (svritem : CATCPSessionInfo) : CATCPSessionInfo :=
  { svritem with data := none, totalLen := 0, protocol := .unknown }

/-- Bytes in memory, with zeroes behind them. -/
def memoryOf (bytes : List UInt8) : Memory := fun i => bytes.getD i 0

/-- `coap_get_tcp_header_length_for_transport` of the header which begins with this byte. -/
def headerLenOf (data : List UInt8) : Nat :=
  (coapGetTcpHeaderTypeFromInitbyte ((data.getD 0 0).toNat / 16)).headerSize

/-- The part of `CAConstructCoAP` which copies the payload. -/
def fillPayload (svritem : CATCPSessionInfo) (inBuffer : List UInt8) :
    CATCPSessionInfo × List UInt8 :=
  let copyLen := min inBuffer.length (svritem.totalLen - svritem.len)
  ({ svritem with data := some (svritem.data.getD [] ++ inBuffer.take copyLen) },
    inBuffer.drop copyLen)

/-- The part of `CAConstructCoAP` behind the first byte. -/
def fillMessage (svritem : CATCPSessionInfo) (inBuffer : List UInt8) :
    CATCPSessionInfo × List UInt8 :=
  let svritem := { svritem with protocol := .coap }
  let headerLen := headerLenOf (svritem.data.getD [])
  if svritem.len < headerLen then
    let copyLen := min inBuffer.length (headerLen - svritem.len)
    let svritem := { svritem with data := some (svritem.data.getD [] ++ inBuffer.take copyLen) }
    if svritem.len < headerLen then (svritem, inBuffer.drop copyLen)
    else
      fillPayload
        { svritem with totalLen := coapGetTotalMessageLength (memoryOf (svritem.data.getD [])) }
        (inBuffer.drop copyLen)
  else fillPayload svritem inBuffer

/-- `CAConstructCoAP`, with what is left of the buffer.  Where the first byte is all there is, the
buffer stays as it was. -/
def CAConstructCoAP (svritem : CATCPSessionInfo) (buffer : List UInt8) :
    CATCPSessionInfo × List UInt8 :=
  match svritem.data, buffer with
  | none, byte :: inBuffer =>
      let svritem := { svritem with data := some [byte] }
      if inBuffer = [] then (svritem, buffer) else fillMessage svritem inBuffer
  | _, _ => if buffer = [] then (svritem, buffer) else fillMessage svritem buffer

/-- The loop of `CATCPPacketReceivedCB`, with the messages which `g_networkPacketCallback` is
handed. -/
def receiveLoop : Nat → CATCPSessionInfo → List UInt8 → List (List UInt8) × CATCPSessionInfo
  | 0, svritem, _ => ([], svritem)
  | fuel + 1, svritem, buffer =>
      if buffer = [] then ([], svritem)
      else
        let (svritem, buffer) := CAConstructCoAP svritem buffer
        if svritem.len = svritem.totalLen then
          let (messages, last) := receiveLoop fuel (CACleanData svritem) buffer
          (svritem.data.getD [] :: messages, last)
        else receiveLoop fuel svritem buffer

/-- `CATCPPacketReceivedCB`.  Each round of the loop takes at least one byte, but for one which
leaves the last byte to the next round. -/
def CATCPPacketReceivedCB (svritem : CATCPSessionInfo) (data : List UInt8) :
    List (List UInt8) × CATCPSessionInfo :=
  if svritem.protocol = .unknown then ([], svritem)
  else receiveLoop (data.length + 1) svritem data

/-- `CAReceiveMessage` for a connection without TLS, when `recv` has read bytes. -/
def CAReceiveMessage (svritem : CATCPSessionInfo) (bytes : List UInt8) :
    List (List UInt8) × CATCPSessionInfo :=
  CATCPPacketReceivedCB { svritem with protocol := .coap } bytes

/-! ## The messages of a stream -/

theorem memoryOf_append {bytes : List UInt8} {i : Nat} (hi : i < bytes.length) (more : List UInt8) :
    memoryOf (bytes ++ more) i = memoryOf bytes i := by
  simp [memoryOf, List.getD_eq_getElem?_getD, List.getElem?_append_left hi]

theorem headerLenOf_append {data : List UInt8} (h : data ≠ []) (more : List UInt8) :
    headerLenOf (data ++ more) = headerLenOf data := by
  cases data with
  | nil => exact absurd rfl h
  | cons byte data => rfl

/-- The length of a message is read off its header. -/
theorem coapGetTotalMessageLength_append {data : List UInt8} (h : headerLenOf data ≤ data.length)
    (more : List UInt8) :
    coapGetTotalMessageLength (memoryOf (data ++ more)) =
      coapGetTotalMessageLength (memoryOf data) := by
  have hzero : 0 < headerLenOf data :=
    Nat.lt_of_lt_of_le (by decide) (CoapTransport.two_le_headerSize _)
  have hsame (i : Nat) (hi : i < headerLenOf data) :
      memoryOf (data ++ more) i = memoryOf data i :=
    memoryOf_append (Nat.lt_of_lt_of_le hi h) more
  rw [headerLenOf] at hsame hzero
  have hfirst : memoryOf (data ++ more) 0 = memoryOf data 0 := hsame 0 hzero
  have hbyte : memoryOf data 0 = data.getD 0 0 := rfl
  rw [coapGetTotalMessageLength, coapGetTotalMessageLength, hfirst, hbyte]
  generalize coapGetTcpHeaderTypeFromInitbyte ((data.getD 0 0).toNat / 16) = transport at hsame ⊢
  cases transport with
  | udp => rfl
  | tcp => simp only [coapGetLengthFromHeader, hfirst]
  | tcp8Bit => simp only [coapGetLengthFromHeader, hsame 1 (by decide)]
  | tcp16Bit => simp only [coapGetLengthFromHeader, hsame 1 (by decide), hsame 2 (by decide)]
  | tcp32Bit =>
      simp only [coapGetLengthFromHeader, hsame 1 (by decide), hsame 2 (by decide),
        hsame 3 (by decide), hsame 4 (by decide)]

theorem headerLenOf_le_total (data : List UInt8) :
    headerLenOf data ≤ coapGetTotalMessageLength (memoryOf data) := by
  show headerLenOf data ≤ headerLenOf data + _ + _
  omega

theorem two_le_headerLenOf (data : List UInt8) : 2 ≤ headerLenOf data :=
  CoapTransport.two_le_headerSize _

/-- How the header of a message says where it ends. -/
def tcpFraming : Framing UInt8 where
  size data :=
    if headerLenOf data ≤ data.length then some (coapGetTotalMessageLength (memoryOf data)) else none
  size_append := by
    intro data n h more
    obtain ⟨hheader, rfl⟩ := (Option.ite_none_right_eq_some.mp h).imp_right Option.some.inj
    have hnil : data ≠ [] := by
      rintro rfl
      have := two_le_headerLenOf []
      exact absurd hheader (by simp only [List.length_nil]; omega)
    rw [headerLenOf_append hnil, coapGetTotalMessageLength_append hheader,
      if_pos (by rw [List.length_append]; omega)]
  size_pos := by
    intro data n h
    obtain ⟨-, rfl⟩ := (Option.ite_none_right_eq_some.mp h).imp_right Option.some.inj
    have htwo := two_le_headerLenOf data
    have htotal := headerLenOf_le_total data
    omega

/-- What is taken twice at the end of what was read: the first byte of a message, if it is all
there is. -/
def twice (rest : List UInt8) : List UInt8 := if rest.length = 1 then rest else []

/-- A session with an unfinished message. -/
def sessionOf (rest : List UInt8) : CATCPSessionInfo :=
  if rest = [] then ⟨none, 0, .unknown⟩
  else ⟨some rest, (tcpFraming.size rest).getD 0, .coap⟩

theorem tcpFraming_size_of_short {data : List UInt8} (h : data.length < headerLenOf data) :
    tcpFraming.size data = none := if_neg (Nat.not_le.mpr h)

theorem tcpFraming_size_of_header {data : List UInt8} (h : headerLenOf data ≤ data.length) :
    tcpFraming.size data = some (coapGetTotalMessageLength (memoryOf data)) := if_pos h

theorem front_of_length_le_one {data : List UInt8} (h : data.length ≤ 1) :
    tcpFraming.front data = none := by
  apply Framing.front_eq_none_iff.mpr
  intro n hsize
  have htwo := two_le_headerLenOf data
  rw [tcpFraming_size_of_short (by omega)] at hsize
  cases hsize

theorem two_le_size {data : List UInt8} {n : Nat} (h : tcpFraming.size data = some n) : 2 ≤ n := by
  obtain ⟨-, rfl⟩ := (Option.ite_none_right_eq_some.mp h).imp_right Option.some.inj
  exact Nat.le_trans (two_le_headerLenOf data) (headerLenOf_le_total data)

/-- A byte which is taken twice is not taken a third time. -/
theorem twice_once {rest : List UInt8} (hrest : tcpFraming.front rest = none) :
    twice (tcpFraming.frames (rest ++ twice rest)).2 = [] := by
  by_cases hone : rest.length = 1
  · obtain ⟨byte, rfl⟩ := List.length_eq_one_iff.mp hone
    show twice (tcpFraming.frames [byte, byte]).2 = []
    cases hfront : tcpFraming.front [byte, byte] with
    | none =>
        rw [Framing.frames_of_none hfront]
        rfl
    | some one =>
        obtain ⟨message, rest⟩ := one
        obtain ⟨htext, hsize⟩ := Framing.front_eq_some_iff.mp hfront
        have hlength := congrArg List.length htext
        have htwo := two_le_size hsize
        simp only [List.length_cons, List.length_nil, List.length_append] at hlength
        obtain rfl : rest = [] := List.length_eq_zero_iff.mp (by omega)
        rw [Framing.frames_of_some hfront]
        rfl
  · have htwice : twice rest = [] := if_neg hone
    rw [htwice, List.append_nil, Framing.frames_of_none hrest, htwice]

/-! ## One round of the loop -/

/-- What a round does: it takes bytes until the message is whole, or all of them. -/
def Filled (data input : List UInt8) (out : CATCPSessionInfo × List UInt8) : Prop :=
  ∃ k, k ≤ input.length ∧
    out = (⟨some (data ++ input.take k), (tcpFraming.size (data ++ input.take k)).getD 0, .coap⟩,
      input.drop k) ∧
    (tcpFraming.size (data ++ input.take k) = some (data.length + k) ∨
      k = input.length ∧ tcpFraming.front (data ++ input) = none)

theorem Filled.prepend {data a b : List UInt8} {out : CATCPSessionInfo × List UInt8}
    (h : Filled (data ++ a) b out) : Filled data (a ++ b) out := by
  obtain ⟨k, hk, rfl, hend⟩ := h
  have htake : (a ++ b).take (a.length + k) = a ++ b.take k := List.take_length_add_append k
  have hdrop : (a ++ b).drop (a.length + k) = b.drop k := by
    rw [← List.drop_drop, List.drop_left]
  rw [List.append_assoc, List.length_append, Nat.add_assoc] at hend
  refine ⟨a.length + k, ?_, ?_, ?_⟩
  · rw [List.length_append]
    omega
  · rw [htake, hdrop, List.append_assoc]
  · rw [htake, List.length_append, ← List.append_assoc data a b]
    exact hend.imp_right fun h => ⟨by omega, h.2⟩

theorem fillPayload_filled {data : List UInt8} {total : Nat}
    (hsize : tcpFraming.size data = some total) (hle : data.length ≤ total) (input : List UInt8) :
    Filled data input (fillPayload ⟨some data, total, .coap⟩ input) := by
  have hout (k : Nat) : tcpFraming.size (data ++ input.take k) = some total :=
    tcpFraming.size_append hsize _
  refine ⟨min input.length (total - data.length), Nat.min_le_left _ _, ?_, ?_⟩
  · rw [hout]
    rfl
  · rw [hout]
    by_cases hroom : total - data.length ≤ input.length
    · left
      rw [Nat.min_eq_right hroom]
      congr 1
      omega
    · right
      refine ⟨Nat.min_eq_left (by omega), Framing.front_eq_none_iff.mpr fun n hn => ?_⟩
      rw [tcpFraming.size_append hsize] at hn
      obtain rfl := Option.some.inj hn
      rw [List.length_append]
      omega

theorem fillMessage_filled {data : List UInt8} (hdata : data ≠ [])
    (hfront : tcpFraming.front data = none) (protocol : CAProtocol) (input : List UInt8) :
    Filled data input
      (fillMessage ⟨some data, (tcpFraming.size data).getD 0, protocol⟩ input) := by
  have hlen (bytes : List UInt8) (total : Nat) (protocol : CAProtocol) :
      (CATCPSessionInfo.mk (some bytes) total protocol).len = bytes.length := rfl
  unfold fillMessage
  simp only [hlen, Option.getD_some]
  by_cases hheader : data.length < headerLenOf data
  · rw [if_pos hheader, tcpFraming_size_of_short hheader]
    generalize hk : min input.length (headerLenOf data - data.length) = k
    have hlength : (data ++ input.take k).length = data.length + k := by
      rw [List.length_append, List.length_take]
      omega
    have hsame : headerLenOf (data ++ input.take k) = headerLenOf data := headerLenOf_append hdata _
    by_cases hpartial : (data ++ input.take k).length < headerLenOf data
    · -- the header is not there yet
      have hall : k = input.length := by omega
      have hshort : tcpFraming.size (data ++ input.take k) = none :=
        tcpFraming_size_of_short (by omega)
      rw [if_pos hpartial]
      refine ⟨k, by omega, ?_, Or.inr ⟨hall, ?_⟩⟩
      · rw [hshort]
      · apply Framing.front_eq_none_iff.mpr
        intro n hn
        rw [hall, List.take_length] at hshort
        rw [hshort] at hn
        cases hn
    · have hsize := @tcpFraming_size_of_header (data ++ input.take k) (by omega)
      have htotal := headerLenOf_le_total (data ++ input.take k)
      rw [if_neg hpartial]
      have hrest := fillPayload_filled hsize (by omega) (input.drop k)
      have hboth := hrest.prepend
      rw [List.take_append_drop] at hboth
      exact hboth
  · have hsize := @tcpFraming_size_of_header data (by omega)
    have hmore := Framing.front_eq_none_iff.mp hfront _ hsize
    rw [if_neg hheader, hsize]
    exact fillPayload_filled hsize (by omega) input

/-- The state and the messages after bytes which are heard as they are, or the last one twice. -/
def heard (rest piece : List UInt8) : List (List UInt8) × CATCPSessionInfo :=
  let text := rest ++ piece ++ twice (tcpFraming.frames (rest ++ piece)).2
  ((tcpFraming.frames text).1, sessionOf (tcpFraming.frames text).2)

theorem heard_of_front {rest piece message behind : List UInt8}
    (h : tcpFraming.front (rest ++ piece) = some (message, behind)) :
    heard rest piece = (message :: (heard [] behind).1, (heard [] behind).2) := by
  simp only [heard, List.nil_append]
  rw [Framing.frames_of_some h, Framing.frames_of_some (Framing.front_append h _)]

theorem heard_of_none {rest piece : List UInt8} (h : tcpFraming.front (rest ++ piece) = none)
    (hlength : (rest ++ piece).length ≠ 1) : heard rest piece = ([], sessionOf (rest ++ piece)) := by
  have htwice : twice (rest ++ piece) = [] := if_neg hlength
  rw [heard, Framing.frames_of_none h, htwice, List.append_nil, Framing.frames_of_none h]

@[simp] theorem receiveLoop_nil (fuel : Nat) (svritem : CATCPSessionInfo) :
    receiveLoop fuel svritem [] = ([], svritem) := by
  cases fuel <;> rfl

/-- The round which has taken something, if the rounds behind it do what they should. -/
theorem round_eq {fuel : Nat} {data input : List UInt8} {out : CATCPSessionInfo × List UInt8}
    (h : Filled data input out) (hdata : data ≠ []) (hinput : input ≠ [])
    (hbehind : ∀ k, tcpFraming.size (data ++ input.take k) = some (data.length + k) →
      k ≤ input.length →
      receiveLoop fuel ⟨none, 0, .unknown⟩ (input.drop k) = heard [] (input.drop k)) :
    (if out.1.len = out.1.totalLen then
      (out.1.data.getD [] :: (receiveLoop fuel (CACleanData out.1) out.2).1,
        (receiveLoop fuel (CACleanData out.1) out.2).2)
    else receiveLoop fuel out.1 out.2) = heard data input := by
  obtain ⟨k, hk, rfl, hend⟩ := h
  have hlength : (data ++ input.take k).length = data.length + k := by
    rw [List.length_append, List.length_take, Nat.min_eq_left hk]
  have hpos := List.length_pos_of_ne_nil hdata
  obtain hwhole | ⟨rfl, hfront⟩ := hend
  · have hmessage : tcpFraming.front (data ++ input) =
        some (data ++ input.take k, input.drop k) := by
      refine Framing.front_eq_some_iff.mpr ⟨?_, ?_⟩
      · rw [List.append_assoc, List.take_append_drop]
      · have hsize := tcpFraming.size_append hwhole (input.drop k)
        rw [List.append_assoc, List.take_append_drop] at hsize
        rw [hlength, hsize]
    have hlen : (data ++ input.take k).length =
        (tcpFraming.size (data ++ input.take k)).getD 0 := by
      rw [hwhole, Option.getD_some, hlength]
    rw [heard_of_front hmessage, ← hbehind k hwhole hk]
    exact if_pos hlen
  · rw [List.take_length]
    have hmore : ¬ (data ++ input).length = (tcpFraming.size (data ++ input)).getD 0 := by
      rw [List.length_append]
      cases hsize : tcpFraming.size (data ++ input) with
      | none =>
          rw [Option.getD_none]
          omega
      | some n =>
          have hlt := Framing.front_eq_none_iff.mp hfront _ hsize
          rw [List.length_append] at hlt
          rw [Option.getD_some]
          omega
    have hinput' := List.length_pos_of_ne_nil hinput
    have hnil : data ++ input ≠ [] := by simp [hdata]
    rw [heard_of_none hfront (by rw [List.length_append]; omega), sessionOf, if_neg hnil,
      List.drop_length]
    refine (if_neg hmore).trans ?_
    rw [receiveLoop_nil]

/-- **The loop**, where no message has been begun. -/
theorem receiveLoop_fresh {fuel : Nat} {buffer : List UInt8} (protocol : CAProtocol)
    (hfuel : buffer = [] ∨ buffer.length < fuel) (hprotocol : buffer = [] → protocol = .unknown) :
    receiveLoop fuel ⟨none, 0, protocol⟩ buffer = heard [] buffer := by
  induction hn : buffer.length using Nat.strongRecOn generalizing fuel buffer protocol with
  | ind n ih =>
      match buffer with
      | [] =>
          rw [receiveLoop_nil, hprotocol rfl]
          rfl
      | byte :: input =>
          have hlong := hfuel.resolve_left (List.cons_ne_nil _ _)
          simp only [List.length_cons] at hn hlong
          obtain ⟨m, rfl⟩ := Nat.exists_eq_succ_of_ne_zero (Nat.ne_of_gt (Nat.zero_lt_of_lt hlong))
          have hone : tcpFraming.front [byte] = none := front_of_length_le_one (Nat.le_refl 1)
          have hsize : tcpFraming.size [byte] = none :=
            tcpFraming_size_of_short (two_le_headerLenOf [byte])
          have hfilled := fillMessage_filled (List.cons_ne_nil byte []) hone
          rw [hsize, Option.getD_none] at hfilled
          by_cases hinput : input = []
          · -- the byte is taken, and given to the next round once more
            subst hinput
            obtain ⟨l, rfl⟩ := Nat.exists_eq_succ_of_ne_zero (show m ≠ 0 by omega)
            have hheard : heard [] [byte] = heard [byte] [byte] := by
              have htwo : twice (tcpFraming.frames ([byte] ++ [byte])).2 = [] := twice_once hone
              rw [heard, heard, htwo, List.nil_append, Framing.frames_of_none hone]
              rfl
            rw [hheard]
            exact round_eq (hfilled protocol [byte]) (List.cons_ne_nil _ _) (List.cons_ne_nil _ _)
              fun k hk hle => by
                have htwo := two_le_size hk
                rw [List.length_singleton] at htwo hle
                obtain rfl : k = 1 := by omega
                exact receiveLoop_nil l _
          · have hround := @round_eq m _ _ _ (hfilled protocol input) (List.cons_ne_nil _ _) hinput
              fun k hk hle => ih (input.drop k).length
                (by rw [List.length_drop]; omega) .unknown
                (Or.inr (by rw [List.length_drop]; omega)) (fun _ => rfl) rfl
            have hconstruct : CAConstructCoAP ⟨none, 0, protocol⟩ (byte :: input) =
                fillMessage ⟨some [byte], 0, protocol⟩ input := if_neg hinput
            rw [receiveLoop, if_neg (List.cons_ne_nil _ _), hconstruct]
            exact hround

/-- **What one call of `recv` has read**, with the message which had been begun. -/
theorem CAReceiveMessage_eq {rest bytes : List UInt8} (hrest : tcpFraming.front rest = none)
    (honce : twice rest = []) (hbytes : bytes ≠ []) :
    CAReceiveMessage (sessionOf rest) bytes = heard rest bytes := by
  rw [CAReceiveMessage, CATCPPacketReceivedCB, if_neg (by simp)]
  by_cases hnil : rest = []
  · subst hnil
    exact receiveLoop_fresh .coap (Or.inr (Nat.lt_succ_self _)) fun h => absurd h hbytes
  · have hfilled := fillMessage_filled hnil hrest .coap bytes
    have hround := @round_eq bytes.length _ _ _ hfilled hnil hbytes fun k hk hle => by
      have hpos : 0 < k := by
        apply Nat.pos_of_ne_zero
        rintro rfl
        rw [List.take_zero, List.append_nil] at hk
        have hlt := Framing.front_eq_none_iff.mp hrest _ hk
        omega
      have hlong := List.length_pos_of_ne_nil hbytes
      exact receiveLoop_fresh .unknown (Or.inr (by rw [List.length_drop]; omega)) fun _ => rfl
    have hsession : { sessionOf rest with protocol := .coap } =
        CATCPSessionInfo.mk (some rest) ((tcpFraming.size rest).getD 0) .coap := by
      rw [sessionOf, if_neg hnil]
    have hconstruct : CAConstructCoAP ⟨some rest, (tcpFraming.size rest).getD 0, .coap⟩ bytes =
        fillMessage ⟨some rest, (tcpFraming.size rest).getD 0, .coap⟩ bytes := if_neg hbytes
    rw [hsession, receiveLoop, if_neg hbytes, hconstruct]
    exact hround

theorem tcpFraming_repeats : tcpFraming.Repeats CAReceiveMessage sessionOf twice where
  receive_eq := fun _ _ hrest honce hpiece => CAReceiveMessage_eq hrest honce hpiece
  once := fun _ hrest => twice_once hrest

theorem sessionOf_injective (rest rest' : List UInt8) (h : sessionOf rest = sessionOf rest') :
    rest = rest' := by
  have hdata := congrArg (fun svritem => svritem.data.getD []) h
  have hback (bytes : List UInt8) : (sessionOf bytes).data.getD [] = bytes := by
    unfold sessionOf
    split_ifs with hnil
    · exact hnil.symm
    · rfl
  rwa [hback, hback] at hdata

theorem twice_eq_nil_iff {rest : List UInt8} : twice rest = [] ↔ rest.length ≠ 1 := by
  unfold twice
  split_ifs with hone
  · refine iff_of_false ?_ (not_not.mpr hone)
    rintro rfl
    cases hone
  · exact iff_of_true rfl hone

/-- The session of a connection before anything has been read. -/
def newSession : CATCPSessionInfo := ⟨none, 0, .unknown⟩

theorem receiveAll_iff_twice {pieces : List (List UInt8)} (hpieces : ∀ piece ∈ pieces, piece ≠ []) :
    receiveAll CAReceiveMessage newSession pieces =
        ((tcpFraming.frames pieces.flatten).1, sessionOf (tcpFraming.frames pieces.flatten).2) ↔
      ∀ i, twice (tcpFraming.frames (pieces.take i).flatten).2 = [] := by
  have hnew : newSession = sessionOf [] := rfl
  have h := tcpFraming_repeats.receiveAll_iff sessionOf_injective hpieces Framing.front_nil rfl
  rw [hnew]
  simpa using h

/-- **The session depends on the stream alone**, and not on what each call of `recv` has read,
exactly if no call has left just one byte of a message. -/
theorem receiveAll_eq_frames_iff {pieces : List (List UInt8)}
    (hpieces : ∀ piece ∈ pieces, piece ≠ []) :
    receiveAll CAReceiveMessage newSession pieces =
        ((tcpFraming.frames pieces.flatten).1, sessionOf (tcpFraming.frames pieces.flatten).2) ↔
      ∀ i, (tcpFraming.frames (pieces.take i).flatten).2.length ≠ 1 := by
  rw [receiveAll_iff_twice hpieces]
  simp only [twice_eq_nil_iff]

/-- A message which comes in halves. -/
theorem receiveAll_eq_frames_iff_halves :
    receiveAll CAReceiveMessage newSession [[2, 1], [22, 51]] =
      ((tcpFraming.frames [2, 1, 22, 51]).1, sessionOf (tcpFraming.frames [2, 1, 22, 51]).2) := by
  apply (@receiveAll_eq_frames_iff [[2, 1], [22, 51]] (by decide)).mpr
  intro i
  rcases i with _ | _ | i
  · decide
  · decide
  · show (tcpFraming.frames ([2, 1] :: [22, 51] :: List.take i []).flatten).2.length ≠ 1
    rw [List.take_nil]
    decide

/-! ## From the sender to the receiver -/

/-- A message which was built for a connection, and whose size 32 bits can count. -/
structure SentMessage where
  code : Nat
  info : CAInfo
  options : List NumberedOption
  length : Nat
  pdu : CoapPdu
  counted : msgLength info options = some length
  small : 2 * length + info.tokenBytes.length + 8 < 2 ^ 32
  generated : ∃ withBwt heap randomId transport,
    CAGeneratePDUImpl withBwt true heap randomId code info options = .done (transport, pdu)

/-- What the message says. -/
def SentMessage.content (sent : SentMessage) : Nat × Content :=
  (sent.code, ⟨sent.info.tokenBytes, sent.options, payloadOption sent.info.payload⟩)

theorem span_memoryOf (bytes : List UInt8) : span (memoryOf bytes) 0 bytes.length = bytes := by
  apply List.ext_getElem
  · simp
  · intro i h h'
    rw [span_getElem, Nat.zero_add]
    simp [memoryOf, List.getD_eq_getElem?_getD, h']

theorem SentMessage.message_length (sent : SentMessage) :
    sent.pdu.message.length = sent.pdu.length := span_length _ _ _

/-- The length which the receiver reads off the header. -/
theorem SentMessage.size_eq (sent : SentMessage) :
    tcpFraming.size sent.pdu.message =
      some (sent.pdu.message.length + optionsOvercount 0 sent.options) := by
  obtain ⟨withBwt, heap, randomId, transport, hgenerated⟩ := sent.generated
  have hdata : span (memoryOf sent.pdu.message) 0 sent.pdu.length = sent.pdu.message := by
    rw [← sent.message_length, span_memoryOf]
  have htotal := coapGetTotalMessageLength_generated hgenerated sent.counted sent.small _ hdata
  obtain ⟨counted, hcounted, hlayout⟩ := generated_tcp hgenerated
  obtain rfl := Option.some.inj (sent.counted.symm.trans hcounted)
  obtain ⟨htransport, hlayout⟩ := hlayout sent.small
  have hheader : headerLenOf sent.pdu.message = transport.headerSize := by
    rw [headerLenOf, hlayout.first.1, (tcpLengthCode_nibble htransport).2]
  have hsize : transport.headerSize ≤ sent.pdu.message.length := by
    have hlength := congrArg List.length hlayout.bytes
    rw [List.length_cons, List.length_append] at hlength
    have hone := hlayout.headerSize
    omega
  rw [tcpFraming_size_of_header (by omega), htotal, sent.message_length]

/-- One after the other, the messages are found where they begin exactly if each is as long as it
says. -/
theorem frames_sent_iff (sent : List SentMessage) :
    tcpFraming.frames (sent.map fun message => message.pdu.message).flatten =
        (sent.map fun message => message.pdu.message, []) ↔
      ∀ message ∈ sent, optionCode.Along Counted 0 message.options := by
  have hshows : ∀ bytes ∈ sent.map fun message => message.pdu.message,
      ∃ n, tcpFraming.size bytes = some n := by
    intro bytes hbytes
    obtain ⟨message, -, rfl⟩ := List.mem_map.mp hbytes
    exact ⟨_, message.size_eq⟩
  rw [Framing.frames_messages_iff hshows, List.forall_mem_map]
  apply forall₂_congr
  intro message _
  rw [message.size_eq, ← optionsOvercount_eq_zero_iff, Option.some.injEq]
  omega

/-- A request and a response on their way. -/
def sampleMessage : SentMessage :=
  ⟨1, sampleInfo, samplePath, _, _, rfl, by decide, ⟨true, fun _ => 0, 0, _, rfl⟩⟩

def sampleAnswer : SentMessage :=
  ⟨205, ⟨.acknowledge, 7, some [1, 2], [68]⟩, [], _, _, rfl, by decide,
    ⟨true, fun _ => 0, 0, _, rfl⟩⟩

/-- Both of them, as three calls of `recv` may read them. -/
def samplePieces : List (List UInt8) :=
  [[0x62, 1, 1], [2, 0xB1, 97, 0xFF, 65, 66, 67, 0x22, 0x45], [1, 2, 0xFF, 68]]

theorem samplePieces_flatten : samplePieces.flatten =
    ([sampleMessage, sampleAnswer].map fun message => message.pdu.message).flatten := by
  decide

theorem samplePieces_uncut (i : Nat) :
    (tcpFraming.frames (samplePieces.take i).flatten).2.length ≠ 1 := by
  rcases i with _ | _ | _ | i
  · decide
  · decide
  · decide
  · rw [List.take_of_length_le (by simp [samplePieces])]
    decide

section Sent

variable (sent : List SentMessage) {pieces : List (List UInt8)}
  (hpieces : ∀ piece ∈ pieces, piece ≠ [])
  (hstream : pieces.flatten = (sent.map fun message => message.pdu.message).flatten)
  (hcut : ∀ i, (tcpFraming.frames (pieces.take i).flatten).2.length ≠ 1)

include hpieces hstream hcut

/-- **Messages on a stream.**  However the stream of messages is cut, as long as no call of `recv`
leaves just one byte of a message, the receiver hands on the messages which were sent, in their
order and with nothing left, exactly if all their options were counted as they are written. -/
theorem receiveAll_sent_iff :
    receiveAll CAReceiveMessage newSession pieces =
        (sent.map fun message => message.pdu.message, newSession) ↔
      ∀ message ∈ sent, optionCode.Along Counted 0 message.options := by
  have hstate := (receiveAll_iff_twice hpieces).mpr fun i => twice_eq_nil_iff.mpr (hcut i)
  rw [hstate, hstream, ← frames_sent_iff, Prod.mk.injEq, Prod.ext_iff]
  apply and_congr_right
  intro _
  exact ⟨sessionOf_injective _ [], congrArg sessionOf⟩

end Sent

theorem receiveAll_sent_iff_sample :
    receiveAll CAReceiveMessage newSession samplePieces =
      ([sampleMessage.pdu.message, sampleAnswer.pdu.message], newSession) :=
  (receiveAll_sent_iff [sampleMessage, sampleAnswer] (by decide) samplePieces_flatten
    samplePieces_uncut).mpr
    (by simp [sampleMessage, sampleAnswer, samplePath, Counted, overcount])

end Coap
end FireEvacuation
