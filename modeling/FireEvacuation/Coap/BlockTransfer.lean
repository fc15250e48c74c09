import Mathlib.Order.Lattice
import FireEvacuation.Core.Transition
import FireEvacuation.Coap.Blockwise

/-!
# Blocks which are put together again

What the sender takes out of a payload and what the receiver has of it after each block.  Both
transfers use this: the one of a request with `BLOCK1` and the one of a response with `BLOCK2`.
-/

namespace FireEvacuation
namespace Coap

open FireEvacuation.Core

/-- The bytes of one block of the default size. -/
def slice (p : List UInt8) (num : Nat) : List UInt8 := (p.drop (num * 1024)).take 1024

theorem slice_length (p : List UInt8) (num : Nat) :
    (slice p num).length = min 1024 (p.length - num * 1024) := by
  rw [slice, List.length_take, List.length_drop]

theorem slice_ne_nil {p : List UInt8} {num : Nat} (hstart : num * 1024 < p.length) :
    slice p num ≠ [] := by
  have hlength := slice_length p num
  rw [← List.length_pos_iff]
  omega

/-- The block with this number, as a sender of the default size writes it. -/
def blockAt (p : List UInt8) (num : BitVec 20) : CoapBlock :=
  ⟨num, (num.toNat + 1) * 1024 < p.length, caDefaultBlockSize⟩

/-- What the receiver has before and after the block with this number. -/
theorem take_append_slice (p : List UInt8) (num : Nat) :
    p.take (num * 1024) ++ slice p num = p.take ((num + 1) * 1024) := by
  rw [Nat.succ_mul, List.take_add, slice]

theorem default_pow : 2 ^ (caDefaultBlockSize.toNat + 4) = 1024 := rfl

/-- The sender adds the bytes of the block, if there is room. -/
theorem coapAddBlock_eq_some_iff {overhead : Nat} {p bytes : List UInt8} {block : CoapBlock}
    (hszx : block.szx = caDefaultBlockSize) :
    coapAddBlock overhead p block = some bytes ↔
      block.num.toNat * 1024 < p.length ∧ hasRoom overhead bytes = true ∧
        bytes = slice p block.num.toNat := by
  have hstart : block.num.toNat <<< (block.szx.toNat + 4) = block.num.toNat * 1024 := by
    rw [hszx, Nat.shiftLeft_eq, default_pow]
  have hmost : 1 <<< (block.szx.toNat + 4) = 1024 := by rw [hszx]; rfl
  have htake : (p.drop (block.num.toNat * 1024)).take
      (min (p.length - block.num.toNat * 1024) 1024) = slice p block.num.toNat := by
    rw [slice, ← List.length_drop, Nat.min_comm, ← List.take_eq_take_min]
  rw [coapAddBlock, hstart, hmost, htake]
  dsimp only
  split_ifs with h hroom
  · exact iff_of_false nofun fun hbytes => absurd hbytes.1 (Nat.not_lt.mpr h)
  · rw [Option.some.injEq]
    constructor
    · rintro rfl
      exact ⟨Nat.not_le.mp h, hroom, rfl⟩
    · rintro ⟨-, -, rfl⟩
      rfl
  · refine iff_of_false nofun ?_
    rintro ⟨-, hfits, rfl⟩
    exact hroom hfits

/-- A block has room where its options leave it. -/
theorem hasRoom_of_le {overhead : Nat} {data : List UInt8} (hroom : overhead + 1025 ≤ coapMaxPduSize)
    (hshort : data.length ≤ 1024) : hasRoom overhead data = true := by
  have htext : (payloadText data).length ≤ 1025 := by
    rw [payloadText]
    split_ifs
    · exact Nat.zero_le _
    · rw [List.length_cons]
      omega
  exact decide_eq_true (Nat.le_trans (Nat.add_le_add_left htext overhead) hroom)

theorem CASetMoreBitFromBlock_default {p : List UInt8} {block : CoapBlock}
    (hszx : block.szx = caDefaultBlockSize) :
    CASetMoreBitFromBlock p.length block = blockAt p block.num := by
  obtain ⟨num, m, szx⟩ := block
  obtain rfl : szx = caDefaultBlockSize := hszx
  rw [CASetMoreBitFromBlock, blockAt]
  dsimp only
  rw [Nat.shiftLeft_eq, default_pow]

/-- A block behind which there are bytes has a number below the last one of 20 bits. -/
theorem next_toNat {p : List UInt8} {num : BitVec 20}
    (hmore : (num.toNat + 1) * 1024 < p.length) (hmax : p.length ≤ 2 ^ 30) :
    (num + 1).toNat = num.toNat + 1 := by
  have hone : (1#20).toNat = 1 := BitVec.toNat_one (by decide)
  have hless : num.toNat + 1 < 2 ^ 20 := by omega
  have hadd := @BitVec.toNat_add_of_lt 20 num 1#20 (by rw [hone]; exact hless)
  rw [hone] at hadd
  exact hadd

/-- An entry which is there already for this kind of option. -/
theorem CACheckTheExistOfBlockData_some {device : BlockDevice} {data : CABlockData}
    {type : BlockType} (hdata : device.blockData = some data) (htype : data.type = some type)
    (code : UInt8) : CACheckTheExistOfBlockData device code type = data := by
  rw [CACheckTheExistOfBlockData, hdata, Option.getD_some, ← htype]

/-- A method is no error. -/
theorem caResponseCode_of_isMethod {code : UInt8} (h : isMethod code = true) :
    caResponseCode code ≠ caRequestEntityIncomplete ∧
      caResponseCode code ≠ caRequestEntityTooLarge := by
  obtain rfl | rfl | rfl | rfl := of_decide_eq_true h <;> decide

theorem isMethod_ne_zero {code : UInt8} (hcode : isMethod code = true) : code ≠ 0 := by
  rintro rfl
  cases hcode

/-- A request without blocks is handed up. -/
theorem CAReceivedPacketCallback_request {device : BlockDevice} {message : BlockMessage}
    (hcode : isMethod message.code = true) (hblock1 : message.block1 = none)
    (hblock2 : message.block2 = none) :
    CAReceivedPacketCallback device message =
      { device with received := device.received ++ [message.data] } := by
  have hreceive : CAReceiveBlockWiseData device message = (.notSupported, device) := by
    rw [CAReceiveBlockWiseData, if_neg (isMethod_ne_zero hcode), hblock1, hblock2]
    dsimp only
    rw [if_neg (caResponseCode_of_isMethod hcode).1, if_pos hcode]
  rw [CAReceivedPacketCallback, hreceive]

/-- Sides which agree on the size of blocks have nothing to negotiate. -/
theorem CANegotiateBlockSize_same {data : CABlockData} {block : CoapBlock} {type : BlockType}
    (h : block.szx = (data.block type).szx) (isReqMsg : Bool) :
    CANegotiateBlockSize data block isReqMsg type = block := by
  cases type with
  | block1 =>
      have h : block.szx = data.block1.szx := h
      simp [CANegotiateBlockSize, h, BitVec.lt_irrefl]
  | block2 =>
      have h : block.szx = data.block2.szx := h
      simp [CANegotiateBlockSize, h, BitVec.lt_irrefl]

theorem CAUpdateBlockData_default {block : CoapBlock} (hszx : block.szx = caDefaultBlockSize)
    (data : CABlockData) (type : BlockType) :
    CAUpdateBlockData data block type = some (data.setBlock block type) := by
  rw [CAUpdateBlockData, hszx, if_neg (BitVec.lt_irrefl _)]

/-! ## The buffer -/

/-- Nothing has been received. -/
structure Blank (data : CABlockData) : Prop where
  payload : data.payload = none
  payloadLength : data.payloadLength = 0
  receivedPayloadLen : data.receivedPayloadLen = 0

/-- The first `n` bytes have been received into a buffer for all of them. -/
structure Buffered (p : List UInt8) (n : Nat) (data : CABlockData) : Prop where
  payload : ∃ buffer, data.payload = some buffer ∧ buffer.length = p.length ∧
    buffer.take n = p.take n
  payloadLength : data.payloadLength = p.length
  receivedPayloadLen : data.receivedPayloadLen = n

/-- When all bytes have been received they are the payload. -/
theorem Buffered.whole {p : List UInt8} {n : Nat} {data : CABlockData} (h : Buffered p n data)
    (hn : p.length ≤ n) :
    ∃ buffer, data.payload = some buffer ∧ buffer.take data.receivedPayloadLen = p := by
  obtain ⟨⟨buffer, hpayload, -, htake⟩, -, hreceived⟩ := h
  refine ⟨buffer, hpayload, ?_⟩
  rw [hreceived, htake, List.take_of_length_le hn]

/-- A block in its turn passes the checks. -/
theorem CACheckBlockErrorType_inTurn {data : CABlockData} {block : CoapBlock} {bytes : List UInt8}
    {type : BlockType} (dataLen : Nat) (hsequence : sequenceError data block type = none)
    (hmore : block.m = true → bytes.length = blockSize block.szx)
    (hlast : block.m = false →
      data.receivedPayloadLen + bytes.length = data.payloadLength) :
    CACheckBlockErrorType data block (some bytes) type dataLen = (.unknown, data) := by
  rw [CACheckBlockErrorType, hsequence]
  dsimp only [Option.getD_some]
  cases hm : block.m with
  | true => simp [hmore hm]
  | false => simp [hlast hm]

theorem CACheckBlockErrorType_error {data : CABlockData} {block : CoapBlock}
    {payload : Option (List UInt8)} {type : BlockType} {dataLen : Nat} {status : CABlockState}
    (hsequence : sequenceError data block type = some status) :
    CACheckBlockErrorType data block payload type dataLen = (status, data) := by
  rw [CACheckBlockErrorType, hsequence]

/-- The first block goes into a new buffer. -/
theorem CAUpdatePayloadData_first {p : List UInt8} {data : CABlockData} (hblank : Blank data)
    (hp : p ≠ []) (type : BlockType) :
    ∃ buffer, CAUpdatePayloadData (data.setLength (some p.length)) (some (slice p 0)) .unknown true
        type = some { data with
          payload := some buffer
          payloadLength := p.length
          receivedPayloadLen := min 1024 p.length } ∧
      buffer.length = p.length ∧ buffer.take (min 1024 p.length) = p.take (min 1024 p.length) := by
  obtain ⟨hpayload, hlength, hreceived⟩ := hblank
  have hpos := List.length_pos_iff.mpr hp
  have hslice : slice p 0 = p.take (min 1024 p.length) := by
    rw [slice, Nat.zero_mul, List.drop_zero, List.take_eq_take_min]
  have hsize : (slice p 0).length = min 1024 p.length := by rw [slice_length]; omega
  refine ⟨slice p 0 ++ List.replicate (p.length - min 1024 p.length) 0, ?_, ?_, ?_⟩
  · have hwhole : (slice p 0).take (min 1024 p.length) = slice p 0 := by
      rw [← hsize, List.take_length]
    simp [CAUpdatePayloadData, CABlockData.setLength, hpayload, hreceived, hsize, hp, hwhole]
  · rw [List.length_append, List.length_replicate, hsize]
    omega
  · rw [List.take_left' hsize, hslice]

/-- Each further block goes behind the ones before it. -/
theorem CAUpdatePayloadData_next {p : List UInt8} {data : CABlockData} {num : Nat}
    (hbuffered : Buffered p (num * 1024) data) (hnum : num * 1024 < p.length) (type : BlockType) :
    ∃ buffer, CAUpdatePayloadData data (some (slice p num)) .unknown false type =
        some { data with
          payload := some buffer
          receivedPayloadLen := min ((num + 1) * 1024) p.length } ∧
      buffer.length = p.length ∧
      buffer.take (min ((num + 1) * 1024) p.length) = p.take (min ((num + 1) * 1024) p.length) := by
  obtain ⟨⟨buffer, hpayload, hlength, htake⟩, htotal, hreceived⟩ := hbuffered
  have hp : p.length ≠ 0 := by omega
  have hsize := slice_length p num
  have hsum : num * 1024 + (slice p num).length = min ((num + 1) * 1024) p.length := by omega
  have hfits : ¬ buffer.length < num * 1024 + (slice p num).length := by omega
  have hgrown : (buffer.take (num * 1024) ++ slice p num).length =
      min ((num + 1) * 1024) p.length := by
    rw [List.length_append, List.length_take]
    omega
  refine ⟨buffer.take (num * 1024) ++ slice p num ++
    buffer.drop (num * 1024 + (slice p num).length), ?_, ?_, ?_⟩
  · rw [← hsum]
    simp [CAUpdatePayloadData, hpayload, htotal, hreceived, hp, hfits]
  · rw [List.length_append, hgrown, List.length_drop]
    omega
  · rw [List.take_left' hgrown, htake, take_append_slice, ← List.take_eq_take_min]

/-- What the receiver has after a block in its turn. -/
theorem CAUpdatePayloadData_inTurn {p : List UInt8} {data : CABlockData} {num : Nat}
    {size : Option Nat} (hstart : num * 1024 < p.length)
    (hnext : (Blank data ∧ num = 0 ∧ size = some p.length) ∨
      (Buffered p (num * 1024) data ∧ size = none)) (type : BlockType) :
    ∃ buffer, CAUpdatePayloadData (data.setLength size) (some (slice p num)) .unknown size.isSome
        type = some { data with
          payload := some buffer
          payloadLength := p.length
          receivedPayloadLen := min ((num + 1) * 1024) p.length } ∧
      buffer.length = p.length ∧
      buffer.take (min ((num + 1) * 1024) p.length) = p.take (min ((num + 1) * 1024) p.length) := by
  obtain ⟨hblank, rfl, rfl⟩ | ⟨hbuffered, rfl⟩ := hnext
  · rw [Nat.zero_add, Nat.one_mul]
    exact CAUpdatePayloadData_first hblank (List.length_pos_iff.mp (by omega)) type
  · obtain ⟨buffer, hupdate, hbuffer⟩ := CAUpdatePayloadData_next hbuffered hstart type
    refine ⟨buffer, ?_, hbuffer⟩
    show CAUpdatePayloadData data (some (slice p num)) .unknown false type = _
    rw [hupdate, hbuffered.payloadLength]

/-! ## Both sides -/

/-- Where there is nothing, there is nothing to show. -/
theorem forall_of_none {α : Type} {P : α → Prop} : ∀ a, none = some a → P a := by
  intro a h
  cases h

theorem forall_mem_concat {α : Type} {P : α → Prop} {l : List α} {a : α} (hl : ∀ b ∈ l, P b)
    (ha : P a) : ∀ b ∈ l ++ [a], P b := by
  intro b hb
  obtain hb | hb := List.mem_append.mp hb
  · exact hl b hb
  · rw [List.mem_singleton.mp hb]
    exact ha

theorem forall_mem_append_toList {α : Type} {P : α → Prop} {l : List α} {a : Option α}
    (hl : ∀ b ∈ l, P b) (ha : ∀ b, a = some b → P b) : ∀ b ∈ l ++ a.toList, P b := by
  intro b hb
  obtain hb | hb := List.mem_append.mp hb
  · exact hl b hb
  · exact ha b (Option.mem_toList.mp hb)

/-- What is sent of a message which belongs to an entry. -/
theorem sendNext_entry {device : BlockDevice} {data : CABlockData} {type : BlockType}
    {sendData : CAData} (hdata : device.blockData = some data) (htype : data.type = some type)
    (hqueue : device.sendQueue = [sendData]) (hshort : (sendData.payload.getD []).length < 2 ^ 32)
    (hincomplete : caResponseCode sendData.code ≠ caRequestEntityIncomplete) (overhead : Nat) :
    sendNext device overhead = some (match type with
      | .block1 => CAAddBlockOption1 { device with sendQueue := [] } data sendData.code
          sendData.payload overhead
      | .block2 => CAAddBlockOption2 { device with sendQueue := [] } data sendData.code
          sendData.payload overhead) := by
  unfold sendNext CAAddBlockOption
  rw [hqueue]
  dsimp only
  rw [if_neg (Nat.not_le.mpr hshort), if_neg hincomplete, hdata]
  dsimp only
  rw [htype]
  cases type <;> rfl

/-- What holds of each side and of each message which is on the way. -/
structure BothSides (Client Server : BlockDevice → Prop) (Request Response : BlockMessage → Prop)
    (s : BlockExchange) : Prop where
  client : Client s.client
  server : Server s.server
  requests : ∀ message ∈ s.requests, Request message
  responses : ∀ message ∈ s.responses, Response message

/-- A side keeps what it promises when it sends. -/
def SendsWell (Side : BlockDevice → Prop) (Message : BlockMessage → Prop) : Prop :=
  ∀ device overhead sent next, Side device → sendNext device overhead = some (sent, next) →
    Side next ∧ ∀ message, sent = some message → Message message

/-- **One event**: what each side keeps when it sends, when it receives and when the application
answers, both keep together. -/
theorem BothSides.step {Client Server : BlockDevice → Prop}
    {Request Response : BlockMessage → Prop} {guard : BlockExchange → BlockEvent → Prop}
    (hclientSends : SendsWell Client Request) (hserverSends : SendsWell Server Response)
    (hserverReceives : ∀ device message, Server device → Request message →
      Server (CAReceivedPacketCallback device message))
    (hclientReceives : ∀ s i message, guard s (.clientReceives i) → Client s.client →
      Response message → Client (CAReceivedPacketCallback s.client message))
    (hserverResponds : ∀ s result payload, guard s (.serverResponds result payload) →
      Server s.server → Server (CASendBlockWiseData s.server (.responseInfo result payload)))
    {s t : BlockExchange} {e : BlockEvent} (h : BothSides Client Server Request Response s)
    (hguard : guard s e) (hstep : blockStep s e = some t) :
    BothSides Client Server Request Response t := by
  obtain ⟨hclient, hserver, hrequests, hresponses⟩ := h
  cases e with
  | clientSends overhead =>
      obtain ⟨⟨sent, next⟩, hsent, rfl⟩ := Option.map_eq_some_iff.mp hstep
      obtain ⟨hnext, hgood⟩ := hclientSends _ _ _ _ hclient hsent
      exact ⟨hnext, hserver, forall_mem_append_toList hrequests hgood, hresponses⟩
  | serverSends overhead =>
      obtain ⟨⟨sent, next⟩, hsent, rfl⟩ := Option.map_eq_some_iff.mp hstep
      obtain ⟨hnext, hgood⟩ := hserverSends _ _ _ _ hserver hsent
      exact ⟨hclient, hnext, hrequests, forall_mem_append_toList hresponses hgood⟩
  | serverReceives i =>
      obtain ⟨message, hmessage, rfl⟩ := Option.map_eq_some_iff.mp hstep
      have hgood := hrequests message (List.mem_of_getElem? hmessage)
      exact ⟨hclient, hserverReceives _ _ hserver hgood, hrequests, hresponses⟩
  | clientReceives i =>
      obtain ⟨message, hmessage, rfl⟩ := Option.map_eq_some_iff.mp hstep
      have hgood := hresponses message (List.mem_of_getElem? hmessage)
      exact ⟨hclientReceives s i message hguard hclient hgood, hserver, hrequests, hresponses⟩
  | serverResponds result payload =>
      rw [← Option.some.inj hstep]
      exact ⟨hclient, hserverResponds s result payload hguard hserver, hrequests, hresponses⟩

/-! ## The room of the messages -/

/-- How many bytes header, token and options take in a message of each side.  It may be another
number for every message. -/
structure Overheads where
  client : BlockExchange → Nat
  server : BlockExchange → Nat

namespace Overheads

/-- A block of 1024 bytes and its marker fit behind them. -/
def Fit (overheads : Overheads) : Prop :=
  ∀ s, overheads.client s + 1025 ≤ coapMaxPduSize ∧ overheads.server s + 1025 ≤ coapMaxPduSize

/-- A message takes as many bytes. -/
def Taken (overheads : Overheads) (s : BlockExchange) : BlockEvent → Prop
  | .clientSends overhead => overhead = overheads.client s
  | .serverSends overhead => overhead = overheads.server s
  | .serverReceives _ | .clientReceives _ | .serverResponds _ _ => True

/-- Another condition, and every message takes as many bytes. -/
def guard (overheads : Overheads) (condition : BlockExchange → BlockEvent → Prop)
    (s : BlockExchange) (event : BlockEvent) : Prop :=
  condition s event ∧ overheads.Taken s event

end Overheads

/-- The first request has an option more than the others. -/
def sampleOverheads : Overheads where
  client s := if s.requests = [] then 31 else 28
  server _ := 12

theorem sampleOverheads_fit : sampleOverheads.Fit := by
  intro s
  refine ⟨?_, show 12 + 1025 ≤ coapMaxPduSize by decide⟩
  show (if s.requests = [] then 31 else 28) + 1025 ≤ coapMaxPduSize
  split <;> decide

/-- A message of the client is sent and received. -/
theorem reaches_requested {guard : BlockExchange → BlockEvent → Prop} {s : BlockExchange}
    {overhead : Nat} {message : BlockMessage} {next : BlockDevice}
    (hsent : sendNext s.client overhead = some (some message, next))
    (hsends : guard s (.clientSends overhead))
    (hreceives : guard ⟨next, s.server, s.requests ++ [message], s.responses⟩
      (.serverReceives s.requests.length)) :
    GuardedReaches blockStep guard s ⟨next, CAReceivedPacketCallback s.server message,
      s.requests ++ [message], s.responses⟩ := by
  have hfirst : blockStep s (.clientSends overhead) =
      some ⟨next, s.server, s.requests ++ [message], s.responses⟩ := by
    rw [blockStep, hsent]
    rfl
  have hindex : (s.requests ++ [message])[s.requests.length]? = some message :=
    List.getElem?_concat_length
  refine ((GuardedReaches.refl s).tail hsends hfirst).tail hreceives ?_
  rw [blockStep, hindex]
  rfl

/-- A message of the server is sent and received. -/
theorem reaches_replied {guard : BlockExchange → BlockEvent → Prop} {s : BlockExchange}
    {overhead : Nat} {message : BlockMessage} {next : BlockDevice}
    (hsent : sendNext s.server overhead = some (some message, next))
    (hsends : guard s (.serverSends overhead))
    (hreceives : guard ⟨s.client, next, s.requests, s.responses ++ [message]⟩
      (.clientReceives s.responses.length)) :
    GuardedReaches blockStep guard s ⟨CAReceivedPacketCallback s.client message, next,
      s.requests, s.responses ++ [message]⟩ := by
  have hfirst : blockStep s (.serverSends overhead) =
      some ⟨s.client, next, s.requests, s.responses ++ [message]⟩ := by
    rw [blockStep, hsent]
    rfl
  have hindex : (s.responses ++ [message])[s.responses.length]? = some message :=
    List.getElem?_concat_length
  refine ((GuardedReaches.refl s).tail hsends hfirst).tail hreceives ?_
  rw [blockStep, hindex]
  rfl

/-- **Round after round to the last block**: where a round leads from each block to the next one,
the last one is reached. -/
theorem reaches_lastBlock {guard : BlockExchange → BlockEvent → Prop} {p : List UInt8}
    {Stage : BitVec 20 → BlockExchange → Prop}
    (hround : ∀ num s, Stage num s → (num.toNat + 1) * 1024 < p.length →
      ∃ t, GuardedReaches blockStep guard s t ∧ Stage (num + 1) t)
    (hmax : p.length ≤ 2 ^ 30) {num : BitVec 20} {s : BlockExchange} (h : Stage num s)
    (hstart : num.toNat * 1024 < p.length) :
    ∃ t last, GuardedReaches blockStep guard s t ∧ Stage last t ∧
      last.toNat * 1024 < p.length ∧ p.length ≤ (last.toNat + 1) * 1024 := by
  obtain ⟨k, hk⟩ : ∃ k, p.length ≤ (num.toNat + k + 1) * 1024 := ⟨p.length, by omega⟩
  -- by the number of blocks which are still to come
  induction k generalizing num s with
  | zero => exact ⟨s, num, GuardedReaches.refl s, h, hstart, hk⟩
  | succ k ih =>
      by_cases hmore : (num.toNat + 1) * 1024 < p.length
      · have hrest : p.length ≤ (num.toNat + 1 + k + 1) * 1024 := by
          rw [Nat.add_assoc num.toNat 1 k, Nat.add_comm 1 k]
          exact hk
        have hnext := next_toNat hmore hmax
        obtain ⟨t, hfirst, hstage⟩ := hround num s h hmore
        rw [← hnext] at hmore hrest
        obtain ⟨u, last, hrest, hlast⟩ := ih hstage hmore hrest
        exact ⟨u, last, hfirst.trans hrest, hlast⟩
      · exact ⟨s, num, GuardedReaches.refl s, h, hstart, Nat.not_lt.mp hmore⟩

end Coap
end FireEvacuation
