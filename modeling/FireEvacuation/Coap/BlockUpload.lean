import FireEvacuation.Coap.BlockTransfer

/-!
# A request in blocks

The client sends a long payload with the option `BLOCK1` and goes on with the next block when the
server has acknowledged the one before.  Messages may be lost, doubled and overtake each other.
-/

namespace FireEvacuation
namespace Coap

open FireEvacuation.Core

/-! ## The server -/

/-- An answer, as the server sends it. -/
def IsAnswer (data : CAData) : Prop :=
  ∃ result payload, data = .responseInfo result payload ∧ isMethod (coapResponseCode result) = false

/-- The block with this number as a message. -/
structure IsRequestBlock (p : List UInt8) (num : BitVec 20) (message : BlockMessage) : Prop where
  start : num.toNat * 1024 < p.length
  code : isMethod message.code = true
  block1 : message.block1 = some (blockAt p num)
  block2 : message.block2 = none
  size1 : message.size1 = if num = 0 then some p.length else none
  payload : message.payload = some (slice p num.toNat)

/-- The entry of the server while the blocks come in: nothing, or the blocks up to a number. -/
structure Gathers (p : List UInt8) (data : CABlockData) : Prop where
  type : data.type = some .block1
  szx : data.block1.szx = caDefaultBlockSize
  sentData : ∃ result payload, data.sentData = .responseInfo result payload
  payload : (Blank data ∧ data.block1.num = 0) ∨
    (data.block1.num.toNat * 1024 < p.length ∧
      Buffered p (min ((data.block1.num.toNat + 1) * 1024) p.length) data)

section Server

variable {p : List UInt8} {num : BitVec 20} {message : BlockMessage} {device : BlockDevice}

theorem gathers_checkTheExist (hcode : isMethod message.code = true)
    (h : ∀ data, device.blockData = some data → Gathers p data) :
    Gathers p (CACheckTheExistOfBlockData device message.code .block1) := by
  cases hdata : device.blockData with
  | none =>
      rw [CACheckTheExistOfBlockData, hdata]
      refine ⟨rfl, rfl, ⟨0, none, ?_⟩, Or.inl ⟨⟨rfl, rfl, rfl⟩, rfl⟩⟩
      show CACreateNewDataSet message.code = _
      rw [CACreateNewDataSet, if_pos hcode]
  | some data =>
      rw [CACheckTheExistOfBlockData_some hdata (h data hdata).type]
      exact h data hdata

/-- What the server does with a block which is the next one. -/
theorem CASetNextBlockOption1_next (hm : IsRequestBlock p num message) {data : CABlockData}
    (hdata : CACheckTheExistOfBlockData device message.code .block1 = data)
    (hgathers : Gathers p data)
    (hnext : (Blank data ∧ num = 0) ∨
      (num.toNat = data.block1.num.toNat + 1 ∧ Buffered p (num.toNat * 1024) data)) :
    ∃ after, CASetNextBlockOption1 device message (blockAt p num) =
        (.ok, CAProcessNextStep device after message
          (if (blockAt p num).m then .option1RequestBlock else .option1RequestLastBlock)) ∧
      after.sentData = data.sentData ∧ Gathers p after ∧ after.block1 = blockAt p num ∧
      Buffered p (min ((num.toNat + 1) * 1024) p.length) after := by
  obtain ⟨hstart, hcode, -, -, hsize, hpayload⟩ := hm
  obtain ⟨htype, hszx, hsent, -⟩ := hgathers
  have hmore : (blockAt p num).m = true → (slice p num.toNat).length = 1024 := by
    intro hm
    have hm := of_decide_eq_true hm
    rw [slice_length]
    omega
  have hstored : (Blank data ∧ num.toNat = 0 ∧ message.size1 = some p.length) ∨
      (Buffered p (num.toNat * 1024) data ∧ message.size1 = none) := by
    obtain ⟨hblank, rfl⟩ | ⟨hnum, hbuffered⟩ := hnext
    · exact Or.inl ⟨hblank, rfl, hsize⟩
    · refine Or.inr ⟨hbuffered, ?_⟩
      rw [hsize, if_neg]
      rintro rfl
      cases hnum
  have hreceived : data.receivedPayloadLen = num.toNat * 1024 := by
    obtain ⟨hblank, rfl⟩ | ⟨-, hbuffered⟩ := hnext
    · exact hblank.receivedPayloadLen
    · exact hbuffered.receivedPayloadLen
  obtain ⟨buffer, hupdate, hlength, htake⟩ := CAUpdatePayloadData_inTurn hstart hstored .block1
  have hchecked : CACheckBlockErrorType (data.setLength message.size1) (blockAt p num)
      message.payload .block1 message.dataLen = (.unknown, data.setLength message.size1) := by
    rw [hpayload]
    apply CACheckBlockErrorType_inTurn
    · show (if data.receivedPayloadLen = 1024 * num.toNat then none else _) = none
      rw [hreceived, Nat.mul_comm, if_pos rfl]
    · exact hmore
    · intro hm
      have hm := of_decide_eq_false hm
      show data.receivedPayloadLen + _ = message.size1.getD data.payloadLength
      rw [hreceived, slice_length]
      obtain ⟨-, -, hsome⟩ | ⟨hbuffered, hnone⟩ := hstored
      · rw [hsome, Option.getD_some]
        omega
      · rw [hnone, Option.getD_none, hbuffered.payloadLength]
        omega
  have herror := caResponseCode_of_isMethod hcode
  have hitems (data : CABlockData) (hszx : data.block1.szx = caDefaultBlockSize) :
      CAUpdateBlockOptionItems data message.code (blockAt p num) .block1 .unknown =
        some (blockAt p num) := by
    unfold CAUpdateBlockOptionItems
    rw [if_neg (not_or.mpr herror)]
    show some (CANegotiateBlockSize data (blockAt p num) (isMethod message.code) .block1) = _
    rw [CANegotiateBlockSize_same hszx.symm]
  -- the entry with the block in its buffer
  generalize hgrown : ({ data with
    payload := some buffer
    payloadLength := p.length
    receivedPayloadLen := min ((num.toNat + 1) * 1024) p.length } : CABlockData) = grown at hupdate
  have hbuffered : Buffered p (min ((num.toNat + 1) * 1024) p.length)
      { grown with block1 := blockAt p num } := by
    subst hgrown
    exact ⟨⟨buffer, rfl, hlength, htake⟩, rfl, rfl⟩
  have hsame : grown.sentData = data.sentData ∧ grown.type = data.type ∧
      grown.block1 = data.block1 := by
    subst hgrown
    exact ⟨rfl, rfl, rfl⟩
  obtain ⟨hsame, htypes, hblocks⟩ := hsame
  refine ⟨{ grown with block1 := blockAt p num }, ?_, hsame, ?_, rfl, hbuffered⟩
  · rw [CASetNextBlockOption1, hdata, if_pos hcode, hchecked]
    dsimp only
    rw [hpayload, hupdate]
    dsimp only
    rw [hitems grown (hblocks ▸ hszx)]
    rfl
  · exact ⟨htypes.trans htype, rfl, hsame ▸ hsent, Or.inr ⟨hstart, hbuffered⟩⟩

/-- A block which has come before does not change the entry. -/
theorem setLength_of_gathers (hm : IsRequestBlock p num message) {data : CABlockData}
    (hgathers : Gathers p data) (hnot : data.receivedPayloadLen ≠ 1024 * num.toNat) :
    data.setLength message.size1 = data := by
  have hlength : message.size1.getD data.payloadLength = data.payloadLength := by
    rw [hm.size1]
    split_ifs with hzero
    · obtain ⟨hblank, -⟩ | ⟨-, hbuffered⟩ := hgathers.payload
      · rw [hzero, hblank.receivedPayloadLen] at hnot
        exact absurd rfl hnot
      · exact hbuffered.payloadLength.symm
    · rfl
  rw [CABlockData.setLength, hlength]

/-- What the server does with a block which it takes for one it has. -/
theorem CASetNextBlockOption1_again (hm : IsRequestBlock p num message) {data : CABlockData}
    (hdata : CACheckTheExistOfBlockData device message.code .block1 = data)
    (hgathers : Gathers p data) (hnot : data.receivedPayloadLen ≠ 1024 * num.toNat)
    (hnear : num.toNat ≤ data.block1.num.toNat + 1) :
    CASetNextBlockOption1 device message (blockAt p num) =
      (.ok, CAProcessNextStep device data message
        (if (blockAt p num).m then .option1RequestBlock else .option1RequestLastBlock)) := by
  have hsequence : sequenceError data (blockAt p num) .block1 = some .blockReceivedAlready := by
    show (if data.receivedPayloadLen = 1024 * num.toNat then none
      else if num.toNat > data.block1.num.toNat + 1 then _ else _) = _
    rw [if_neg hnot, if_neg (by omega)]
  rw [CASetNextBlockOption1, hdata, if_pos hm.code, setLength_of_gathers hm hgathers hnot,
    CACheckBlockErrorType_error hsequence]

/-- The entry after blocks have been lost. -/
def CABlockData.restarted (data : CABlockData) : CABlockData :=
  { data with
    payload := none
    payloadLength := 0
    receivedPayloadLen := 0
    block1 := { data.block1 with num := 0 }
    block2 := { data.block2 with num := 0 } }

theorem CASendErrorMessage_incomplete {data : CABlockData} {result : Nat}
    {payload : Option (List UInt8)} (hsent : data.sentData = .responseInfo result payload) :
    CASendErrorMessage device data .blockIncomplete caRequestEntityIncomplete =
      CAAddSendThreadQueue { device with blockData := some data.restarted }
        (.responseInfo caRequestEntityIncomplete payload) := by
  obtain ⟨block1, block2, type, sentData, buffer, total, count⟩ := data
  obtain rfl : sentData = _ := hsent
  rfl

theorem gathers_restarted {data : CABlockData} (h : Gathers p data) {block : CoapBlock}
    (hszx : block.szx = caDefaultBlockSize) :
    Gathers p ({ data with block1 := block } : CABlockData).restarted :=
  ⟨h.type, hszx, h.sentData, Or.inl ⟨⟨rfl, rfl, rfl⟩, rfl⟩⟩

/-- What the server does with a block for which others are missing. -/
theorem CASetNextBlockOption1_early (hm : IsRequestBlock p num message) {data : CABlockData}
    (hdata : CACheckTheExistOfBlockData device message.code .block1 = data)
    (hgathers : Gathers p data) (hnot : data.receivedPayloadLen ≠ 1024 * num.toNat)
    (hfar : data.block1.num.toNat + 1 < num.toNat) :
    CASetNextBlockOption1 device message (blockAt p num) =
      (.ok, CASendErrorMessage device { data with block1 := blockAt p num } .blockIncomplete
        caRequestEntityIncomplete) := by
  have hsequence : sequenceError data (blockAt p num) .block1 = some .blockIncomplete := by
    show (if data.receivedPayloadLen = 1024 * num.toNat then none
      else if num.toNat > data.block1.num.toNat + 1 then _ else _) = _
    rw [if_neg hnot, if_pos hfar]
  have herror := caResponseCode_of_isMethod hm.code
  have hitems : CAUpdateBlockOptionItems data message.code (blockAt p num) .block1
      .blockIncomplete = some (blockAt p num) := by
    unfold CAUpdateBlockOptionItems
    rw [if_neg (not_or.mpr herror)]
    rfl
  have hkept : CAUpdatePayloadData data message.payload .blockIncomplete message.size1.isSome
      .block1 = some data := by
    rw [hm.payload]
    rfl
  rw [CASetNextBlockOption1, hdata, if_pos hm.code, setLength_of_gathers hm hgathers hnot,
    CACheckBlockErrorType_error hsequence]
  dsimp only
  rw [hkept]
  dsimp only
  rw [hitems]
  rfl

/-- What may be handed up: the payload, or the second of two blocks for it. -/
def HandedUp (p : List UInt8) (data : CAData) : Prop :=
  ∀ payload, data.payload = some payload → payload = p ∨ (p.length ≤ 2048 ∧ payload = slice p 1)

/-- The server at any time. -/
structure ServerGood (p : List UInt8) (device : BlockDevice) : Prop where
  blockData : ∀ data, device.blockData = some data → Gathers p data
  sendQueue : ∀ data ∈ device.sendQueue, IsAnswer data
  received : ∀ data ∈ device.received, HandedUp p data
  overrun : device.overrun = false

/-- A message of the client: a block, or all of the payload, or no payload. -/
inductive GoodRequest (p : List UInt8) (message : BlockMessage) : Prop where
  | block (num : BitVec 20) (h : IsRequestBlock p num message)
  | plain (hcode : isMethod message.code = true) (hblock1 : message.block1 = none)
      (hblock2 : message.block2 = none)
      (hpayload : ∀ payload, message.payload = some payload → payload = p)

theorem ServerGood.answer (h : ServerGood p device) {after : CABlockData} (hafter : Gathers p after)
    {answer : CAData} (hanswer : IsAnswer answer) :
    ServerGood p (CAAddSendThreadQueue { device with blockData := some after } answer) where
  blockData _ hdata := Option.some.inj hdata ▸ hafter
  sendQueue := forall_mem_concat h.sendQueue hanswer
  received := h.received
  overrun := h.overrun

theorem isAnswer_incomplete (payload : Option (List UInt8)) :
    IsAnswer (.responseInfo caRequestEntityIncomplete payload) :=
  ⟨_, _, rfl, by decide⟩

theorem Gathers.setSent {data : CABlockData} (h : Gathers p data) (result : Nat)
    (payload : Option (List UInt8)) :
    Gathers p { data with sentData := .responseInfo result payload } := by
  obtain ⟨htype, hszx, -, hpayload⟩ := h
  refine ⟨htype, hszx, ⟨result, payload, rfl⟩, ?_⟩
  obtain ⟨⟨hnone, hzero, hcount⟩, hnum⟩ | ⟨hstart, hbuffer, htotal, hcount⟩ := hpayload
  · exact Or.inl ⟨⟨hnone, hzero, hcount⟩, hnum⟩
  · exact Or.inr ⟨hstart, hbuffer, htotal, hcount⟩

/-- The block is acknowledged. -/
theorem CAProcessNextStep_requestBlock {data : CABlockData} {result : Nat}
    {payload : Option (List UInt8)} (hcode : isMethod message.code = true)
    (hsent : data.sentData = .responseInfo result payload) :
    CAProcessNextStep device data message .option1RequestBlock =
      CAAddSendThreadQueue
        { device with blockData := some { data with sentData := .responseInfo caContinue payload } }
        (.responseInfo caContinue payload) := by
  show CASendBlockMessage device data message.code = _
  rw [CASendBlockMessage, hcode, hsent]

/-- What has been put together is handed up. -/
theorem CAProcessNextStep_lastBlock {data : CABlockData} {buffer : List UInt8}
    (hbuffer : data.payload = some buffer) :
    CAProcessNextStep device data message .option1RequestLastBlock =
      { device with
        blockData := some data
        received := device.received ++
          [message.data.withPayload (buffer.take data.receivedPayloadLen)] } := by
  show CAReceiveLastBlock device data message.data = _
  rw [CAReceiveLastBlock, hbuffer]

theorem withPayload_payload (data : CAData) (payload : List UInt8) :
    (data.withPayload payload).payload = some payload := by
  cases data <;> rfl

theorem ServerGood.handUp (h : ServerGood p device) {after : CABlockData} (hafter : Gathers p after)
    {given : CAData} (hgiven : HandedUp p given) :
    ServerGood p { device with
      blockData := some after
      received := device.received ++ [given] } where
  blockData _ hdata := Option.some.inj hdata ▸ hafter
  sendQueue := h.sendQueue
  received := forall_mem_concat h.received hgiven
  overrun := h.overrun

/-- Handing up all that has been put together. -/
theorem ServerGood.complete (h : ServerGood p device) {after : CABlockData}
    (hafter : Gathers p after) {n : Nat} (hbuffered : Buffered p n after) (hn : p.length ≤ n) :
    ServerGood p (CAProcessNextStep device after message .option1RequestLastBlock) := by
  obtain ⟨buffer, hbuffer, hwhole⟩ := hbuffered.whole hn
  rw [CAProcessNextStep_lastBlock hbuffer, hwhole]
  apply h.handUp hafter
  intro payload hpayload
  rw [withPayload_payload] at hpayload
  exact Or.inl (Option.some.inj hpayload).symm

/-- Acknowledging a block. -/
theorem ServerGood.acknowledge (h : ServerGood p device) {after : CABlockData}
    (hafter : Gathers p after) (hcode : isMethod message.code = true) :
    ServerGood p (CAProcessNextStep device after message .option1RequestBlock) := by
  obtain ⟨result, payload, hsent⟩ := hafter.sentData
  rw [CAProcessNextStep_requestBlock hcode hsent]
  exact h.answer (hafter.setSent _ _) ⟨_, _, rfl, by decide⟩

/-- The block is the next one if its bytes go behind the ones which are there. -/
theorem next_of_received (hm : IsRequestBlock p num message) {data : CABlockData}
    (hgathers : Gathers p data) (hturn : data.receivedPayloadLen = 1024 * num.toNat) :
    (Blank data ∧ num = 0) ∨
      (num.toNat = data.block1.num.toNat + 1 ∧ Buffered p (num.toNat * 1024) data) := by
  have hstart := hm.start
  obtain ⟨hblank, -⟩ | ⟨hless, hbuffered⟩ := hgathers.payload
  · refine Or.inl ⟨hblank, BitVec.eq_of_toNat_eq ?_⟩
    rw [hblank.receivedPayloadLen] at hturn
    show num.toNat = 0
    omega
  · have hcount := hbuffered.receivedPayloadLen
    have hnum : num.toNat = data.block1.num.toNat + 1 := by omega
    have hmin : min ((data.block1.num.toNat + 1) * 1024) p.length = num.toNat * 1024 := by omega
    rw [hmin] at hbuffered
    exact Or.inr ⟨hnum, hbuffered⟩

/-- **A block keeps the server good.** -/
theorem ServerGood.block (h : ServerGood p device) (hm : IsRequestBlock p num message) :
    ServerGood p (CASetNextBlockOption1 device message (blockAt p num)).2 ∧
      (CASetNextBlockOption1 device message (blockAt p num)).1 = .ok := by
  have hgathers := gathers_checkTheExist hm.code h.blockData
  obtain ⟨data, hdata⟩ : ∃ data, CACheckTheExistOfBlockData device message.code .block1 = data :=
    ⟨_, rfl⟩
  rw [hdata] at hgathers
  have hstart := hm.start
  by_cases hturn : data.receivedPayloadLen = 1024 * num.toNat
  · obtain ⟨after, hnext, -, hafter, -, hbuffered⟩ :=
      CASetNextBlockOption1_next hm hdata hgathers (next_of_received hm hgathers hturn)
    rw [hnext]
    refine ⟨?_, rfl⟩
    cases hmore : (blockAt p num).m with
    | true => exact h.acknowledge hafter hm.code
    | false =>
        have hlast := of_decide_eq_false hmore
        exact h.complete hafter hbuffered (by omega)
  · by_cases hfar : data.block1.num.toNat + 1 < num.toNat
    · rw [CASetNextBlockOption1_early hm hdata hgathers hturn hfar]
      refine ⟨?_, rfl⟩
      obtain ⟨result, payload, hsent⟩ := hgathers.sentData
      have herror := @CASendErrorMessage_incomplete device
        { data with block1 := blockAt p num } result payload hsent
      dsimp only
      rw [herror]
      exact h.answer (gathers_restarted hgathers rfl) (isAnswer_incomplete payload)
    · rw [CASetNextBlockOption1_again hm hdata hgathers hturn (Nat.not_lt.mp hfar)]
      refine ⟨?_, rfl⟩
      cases hmore : (blockAt p num).m with
      | true => exact h.acknowledge hgathers hm.code
      | false =>
          have hlast := of_decide_eq_false hmore
          obtain ⟨hblank, hzero⟩ | ⟨hless, hbuffered⟩ := hgathers.payload
          · -- nothing is there, and the second block is taken for one which is
            have hone : num.toNat = 1 := by
              rw [hblank.receivedPayloadLen] at hturn
              rw [hzero] at hfar
              have hzero' : (0 : BitVec 20).toNat = 0 := rfl
              omega
            show ServerGood p (CAReceiveLastBlock device data message.data)
            rw [CAReceiveLastBlock, hblank.payload]
            apply h.handUp hgathers
            intro payload hpayload
            rw [BlockMessage.data, if_pos hm.code] at hpayload
            have hpayload : message.payload = some payload := hpayload
            rw [hm.payload, hone] at hpayload
            exact Or.inr ⟨by omega, (Option.some.inj hpayload).symm⟩
          · have hcount := hbuffered.receivedPayloadLen
            exact h.complete hgathers hbuffered (by omega)

/-- A block which is received well is no business of the application. -/
theorem CAReceivedPacketCallback_block (hm : IsRequestBlock p num message) {next : BlockDevice}
    (hnext : CASetNextBlockOption1 device message (blockAt p num) = (.ok, next)) :
    CAReceivedPacketCallback device message = next := by
  have hreceive : CAReceiveBlockWiseData device message = (.ok, next) := by
    rw [CAReceiveBlockWiseData, if_neg (isMethod_ne_zero hm.code), hm.block1, hm.block2]
    exact hnext
  rw [CAReceivedPacketCallback, hreceive]

/-- What the client may send to the server. -/
theorem ServerGood.receive (h : ServerGood p device) (hm : GoodRequest p message) :
    ServerGood p (CAReceivedPacketCallback device message) := by
  cases hm with
  | block num hm =>
      obtain ⟨hgood, hok⟩ := h.block hm
      rw [CAReceivedPacketCallback_block hm (Prod.ext hok rfl)]
      exact hgood
  | plain hcode hblock1 hblock2 hpayload =>
      rw [CAReceivedPacketCallback_request hcode hblock1 hblock2]
      refine ⟨h.blockData, h.sendQueue, forall_mem_concat h.received ?_, h.overrun⟩
      intro payload hdata
      rw [BlockMessage.data, if_pos hcode] at hdata
      exact Or.inl (hpayload payload hdata)

/-- A message of the server. -/
structure GoodResponse (message : BlockMessage) : Prop where
  code : isMethod message.code = false
  block2 : message.block2 = none
  szx : ∀ block, message.block1 = some block → block.szx = caDefaultBlockSize

/-- What an answer is sent as, and what becomes of the entry. -/
theorem CAAddBlockOption_answer {data : CAData} (hanswer : IsAnswer data)
    (hentry : ∀ entry, device.blockData = some entry →
      entry.type = some .block1 ∧ entry.block1.szx = caDefaultBlockSize) (overhead : Nat) :
    ((CAAddBlockOption device data overhead).2 = device ∨
      (CAAddBlockOption device data overhead).2 = CARemoveBlockDataFromList device) ∧
    ∀ message, (CAAddBlockOption device data overhead).1 = some message → GoodResponse message := by
  obtain ⟨result, payload, rfl, hcode⟩ := hanswer
  have hcode : isMethod (CAData.responseInfo result payload).code = false := hcode
  have hplain : ((CAAddBlockOption.plain (.responseInfo result payload) overhead device
      (CAData.responseInfo result payload).code).2 = device) ∧
      ∀ message, (CAAddBlockOption.plain (.responseInfo result payload) overhead device
        (CAData.responseInfo result payload).code).1 = some message → GoodResponse message := by
    unfold CAAddBlockOption.plain
    split_ifs
    · refine ⟨rfl, fun message hmessage => ?_⟩
      cases hmessage
      exact ⟨hcode, rfl, nofun⟩
    · exact ⟨rfl, nofun⟩
  unfold CAAddBlockOption
  dsimp only
  split_ifs with hlong hincomplete
  · exact ⟨Or.inl rfl, nofun⟩
  · refine ⟨Or.inl rfl, fun message hmessage => ?_⟩
    cases hmessage
    exact ⟨hcode, rfl, nofun⟩
  · cases hdata : device.blockData with
    | none => exact ⟨Or.inl hplain.1, hplain.2⟩
    | some entry =>
        obtain ⟨htype, hszx⟩ := hentry entry hdata
        dsimp only
        rw [htype]
        dsimp only
        unfold CAAddBlockOption1
        simp only [hcode, Bool.false_eq_true, if_false]
        by_cases hbig : coapMaxPduSize < overhead
        · rw [if_pos hbig]
          exact ⟨Or.inr rfl, nofun⟩
        rw [if_neg hbig]
        by_cases hfits : hasRoom overhead
            ((CAData.responseInfo result payload).payload.getD []) = true
        · rw [if_pos hfits]
          constructor
          · cases entry.block1.m with
            | true => exact Or.inl rfl
            | false => exact Or.inr rfl
          · intro message hmessage
            cases hmessage
            refine ⟨hcode, rfl, fun block hblock => ?_⟩
            rw [← Option.some.inj hblock]
            exact hszx
        · rw [if_neg hfits]
          exact ⟨Or.inl rfl, nofun⟩

/-- What the server sends. -/
theorem ServerGood.send (h : ServerGood p device) {overhead : Nat} {sent : Option BlockMessage}
    {next : BlockDevice} (hsent : sendNext device overhead = some (sent, next)) :
    ServerGood p next ∧ ∀ message, sent = some message → GoodResponse message := by
  unfold sendNext at hsent
  cases hqueue : device.sendQueue with
  | nil =>
      rw [hqueue] at hsent
      cases hsent
  | cons data queue =>
      rw [hqueue] at hsent
      have hall := h.sendQueue
      rw [hqueue] at hall
      have hrest : ServerGood p { device with sendQueue := queue } :=
        ⟨h.blockData, fun later hlater => hall later (List.mem_cons_of_mem _ hlater), h.received,
          h.overrun⟩
      obtain ⟨hafter, hmessage⟩ := CAAddBlockOption_answer (hall data List.mem_cons_self)
        (fun entry hentry =>
          ⟨(hrest.blockData entry hentry).type, (hrest.blockData entry hentry).szx⟩)
        overhead
      have heq := Option.some.inj hsent
      rw [heq] at hafter hmessage
      refine ⟨?_, hmessage⟩
      obtain hafter | hafter := hafter
      · rw [show next = _ from hafter]
        exact hrest
      · rw [show next = _ from hafter]
        exact ⟨forall_of_none, hrest.sendQueue, hrest.received, hrest.overrun⟩

/-- The application answers, without blocks. -/
theorem ServerGood.respond (h : ServerGood p device) {result : Nat} {payload : Option (List UInt8)}
    (hresult : isMethod (coapResponseCode result) = false)
    (hshort : (payload.getD []).length ≤ 1024) :
    ServerGood p (CASendBlockWiseData device (.responseInfo result payload)) := by
  have hcheck : CACheckPayloadLength (.responseInfo result payload) = false :=
    decide_eq_false (Nat.not_lt.mpr hshort)
  have hanswer : IsAnswer (.responseInfo result payload) := ⟨result, payload, rfl, hresult⟩
  unfold CASendBlockWiseData
  cases hdata : device.blockData with
  | none =>
      simp only [hcheck, Bool.false_eq_true, if_false]
      exact ⟨h.blockData, forall_mem_concat h.sendQueue hanswer, h.received, h.overrun⟩
  | some data =>
      simp only [sendBlockData, hcheck, Bool.false_eq_true, if_false]
      exact h.answer ((h.blockData data hdata).setSent result payload) hanswer

end Server

/-! ## The client -/

/-- A request of the client: with the payload or without one. -/
def IsUpload (p : List UInt8) (data : CAData) : Prop :=
  ∃ method payload, data = .requestInfo method payload ∧
    isMethod (coapResponseCode method) = true ∧ ∀ q, payload = some q → q = p

/-- The entry of the client. -/
structure Uploads (p : List UInt8) (data : CABlockData) : Prop where
  type : data.type = some .block1
  szx : data.block1.szx = caDefaultBlockSize
  sentData : IsUpload p data.sentData

/-- The client at any time. -/
structure ClientGood (p : List UInt8) (device : BlockDevice) : Prop where
  blockData : ∀ data, device.blockData = some data → Uploads p data
  sendQueue : ∀ data ∈ device.sendQueue, IsUpload p data
  overrun : device.overrun = false

section Client

variable {p : List UInt8} {message : BlockMessage} {device : BlockDevice}

theorem uploads_checkTheExist (hcode : isMethod message.code = false)
    (h : ∀ data, device.blockData = some data → Uploads p data) :
    Uploads p (CACheckTheExistOfBlockData device message.code .block1) := by
  cases hdata : device.blockData with
  | none =>
      rw [CACheckTheExistOfBlockData, hdata]
      refine ⟨rfl, rfl, caGet, none, ?_, by decide, forall_of_none⟩
      show CACreateNewDataSet message.code = _
      rw [CACreateNewDataSet, hcode]
      rfl
  | some data =>
      rw [CACheckTheExistOfBlockData_some hdata (h data hdata).type]
      exact h data hdata

/-- The client goes on behind the block which has been acknowledged. -/
theorem CAUpdateBlockOptionItems_option1Response {data : CABlockData} {block : CoapBlock}
    (herror : ¬ (caResponseCode message.code = caRequestEntityIncomplete ∨
      caResponseCode message.code = caRequestEntityTooLarge))
    (hszx : block.szx = data.block1.szx) :
    CAUpdateBlockOptionItems data message.code block .block1 .option1Response =
      if data.block1.num > block.num then none else some { block with num := block.num + 1 } := by
  unfold CAUpdateBlockOptionItems
  rw [if_neg herror]
  show Option.map _ (if data.block1.num > block.num then none else _) = _
  by_cases hearly : data.block1.num > block.num
  · rewrite [if_pos hearly]
    rfl
  · rw [if_neg hearly]
    show some (CANegotiateBlockSize data { block with num := block.num + 1 } _ .block1) = _
    rw [CANegotiateBlockSize_same (show block.szx = data.block1.szx from hszx)]

/-- The number goes on, the size stays. -/
theorem szx_of_items {data : CABlockData} {block next : CoapBlock}
    (hblock : block.szx = caDefaultBlockSize) (hdata : data.block1.szx = caDefaultBlockSize)
    (hitems : CAUpdateBlockOptionItems data message.code block .block1 .option1Response =
      some next) : next.szx = caDefaultBlockSize := by
  by_cases herror : caResponseCode message.code = caRequestEntityIncomplete ∨
      caResponseCode message.code = caRequestEntityTooLarge
  · unfold CAUpdateBlockOptionItems at hitems
    rw [if_pos herror] at hitems
    rw [← Option.some.inj hitems, CAHandleBlockErrorResponse]
    split_ifs <;> exact hblock
  · rw [CAUpdateBlockOptionItems_option1Response herror (hblock.trans hdata.symm)] at hitems
    obtain ⟨-, hnext⟩ := Option.ite_none_left_eq_some.mp hitems
    rw [← Option.some.inj hnext]
    exact hblock

/-- A response lets the client send what it has sent before. -/
theorem CASendBlockMessage_response {data : CABlockData} {code : UInt8}
    (hcode : isMethod code = false) :
    CASendBlockMessage device data code =
      CAAddSendThreadQueue { device with blockData := some data } data.sentData := by
  obtain ⟨block1, block2, type, sentData, buffer, total, count⟩ := data
  rw [CASendBlockMessage, hcode]

/-- The client after a response which acknowledges a block. -/
theorem ClientGood.acknowledged (h : ClientGood p device) (hm : GoodResponse message)
    {block : CoapBlock} (hblock : block.szx = caDefaultBlockSize) :
    ClientGood p (CASetNextBlockOption1 device message block).2 := by
  have huploads := uploads_checkTheExist hm.code h.blockData
  obtain ⟨data, hdata⟩ : ∃ data, CACheckTheExistOfBlockData device message.code .block1 = data :=
    ⟨_, rfl⟩
  rw [hdata] at huploads
  have hentry (entry : CABlockData) (hentry : Uploads p entry) :
      ClientGood p { device with blockData := some entry } :=
    ⟨fun _ hsome => Option.some.inj hsome ▸ hentry, h.sendQueue, h.overrun⟩
  unfold CASetNextBlockOption1
  rw [hdata, hm.code]
  dsimp only
  rw [if_neg Bool.false_ne_true]
  split_ifs with hfinal
  · rw [hm.block2]
    exact ⟨forall_of_none, h.sendQueue, h.overrun⟩
  · cases hitems : CAUpdateBlockOptionItems data message.code block .block1 .option1Response with
    | none => exact hentry data huploads
    | some next =>
        have hszx := szx_of_items hblock huploads.szx hitems
        dsimp only
        rw [CAUpdateBlockData_default hszx]
        show ClientGood p (CASendBlockMessage device { data with block1 := next } message.code)
        rw [CASendBlockMessage_response hm.code]
        exact ⟨fun _ hsome => Option.some.inj hsome ▸ ⟨huploads.type, hszx, huploads.sentData⟩,
          forall_mem_concat h.sendQueue huploads.sentData, h.overrun⟩

/-- A response keeps the client good. -/
theorem ClientGood.receive (h : ClientGood p device) (hm : GoodResponse message) :
    ClientGood p (CAReceivedPacketCallback device message) := by
  have hremoved : ClientGood p (CARemoveBlockDataFromList device) :=
    ⟨forall_of_none, h.sendQueue, h.overrun⟩
  have hnext : ClientGood p (CAReceiveBlockWiseData device message).2 := by
    unfold CAReceiveBlockWiseData
    by_cases hempty : message.code = 0
    · rw [if_pos hempty]
      cases device.blockData with
      | none => exact h
      | some data =>
          dsimp only
          split_ifs
          · exact h
          · exact hremoved
    · rw [if_neg hempty, hm.block2]
      cases hblock : message.block1 with
      | some block => exact h.acknowledged hm (hm.szx block hblock)
      | none =>
          dsimp only
          split_ifs with hincomplete hmethod
          · cases hdata : device.blockData with
            | none => exact h
            | some data =>
                have huploads := h.blockData data hdata
                dsimp only
                rw [huploads.type]
                exact h.acknowledged hm huploads.szx
          · exact h
          · exact hremoved
  rw [CAReceivedPacketCallback]
  generalize CAReceiveBlockWiseData device message = received at hnext
  obtain ⟨result, next⟩ := received
  cases result with
  | ok => exact hnext
  | failed => exact hnext
  | notSupported => exact ⟨hnext.blockData, hnext.sendQueue, hnext.overrun⟩

/-- What the client sends is the block its entry stands at. -/
theorem CAAddBlockOption1_upload {data : CABlockData} (huploads : Uploads p data) {method : Nat}
    {payload : Option (List UInt8)} (hmethod : isMethod (coapResponseCode method) = true)
    (hpayload : ∀ q, payload = some q → q = p) (overhead : Nat) {message : BlockMessage}
    (hmessage : (CAAddBlockOption1 device data (coapResponseCode method) payload overhead).1 =
      some message) : IsRequestBlock p data.block1.num message := by
  unfold CAAddBlockOption1 at hmessage
  dsimp only at hmessage
  rw [if_pos hmethod] at hmessage
  by_cases hbig : coapMaxPduSize < overhead
  · rw [if_pos hbig] at hmessage
    cases hmessage
  rw [if_neg hbig] at hmessage
  cases payload with
  | none =>
      cases hmessage
  | some q =>
      obtain rfl := hpayload q rfl
      simp only [Option.getD_some, CASetMoreBitFromBlock_default huploads.szx] at hmessage
      cases hbytes : coapAddBlock overhead q (blockAt q data.block1.num) with
      | none =>
          rw [hbytes] at hmessage
          cases hmessage
      | some bytes =>
          obtain ⟨hstart, -, rfl⟩ := (coapAddBlock_eq_some_iff rfl).mp hbytes
          have hstart : data.block1.num.toNat * 1024 < q.length := hstart
          have hne : slice q data.block1.num.toNat ≠ [] := slice_ne_nil hstart
          rw [hbytes] at hmessage
          cases hmessage
          exact ⟨hstart, hmethod, rfl, rfl, rfl, if_neg hne⟩

/-- The entry of the client after a request has been sent. -/
theorem CAAddBlockOption1_entry (data : CABlockData) {code : UInt8} (hmethod : isMethod code = true)
    (payload : Option (List UInt8)) (overhead : Nat) :
    (CAAddBlockOption1 device data code payload overhead).2 = CARemoveBlockDataFromList device ∨
      (CAAddBlockOption1 device data code payload overhead).2 = { device with
        blockData := some { data with
          block1 := CASetMoreBitFromBlock (payload.getD []).length data.block1 } } := by
  unfold CAAddBlockOption1
  dsimp only
  rw [if_pos hmethod]
  by_cases hbig : coapMaxPduSize < overhead
  · rw [if_pos hbig]
    exact Or.inl rfl
  · rw [if_neg hbig]
    right
    cases coapAddBlock overhead (payload.getD [])
      (CASetMoreBitFromBlock (payload.getD []).length data.block1) <;> rfl

/-- What the client sends. -/
theorem ClientGood.send (h : ClientGood p device) {overhead : Nat} {sent : Option BlockMessage}
    {next : BlockDevice} (hsent : sendNext device overhead = some (sent, next)) :
    ClientGood p next ∧ ∀ message, sent = some message → GoodRequest p message := by
  unfold sendNext at hsent
  cases hqueue : device.sendQueue with
  | nil =>
      rw [hqueue] at hsent
      cases hsent
  | cons data queue =>
      rw [hqueue] at hsent
      have hall := h.sendQueue
      rw [hqueue] at hall
      have hrest : ClientGood p { device with sendQueue := queue } :=
        ⟨h.blockData, fun later hlater => hall later (List.mem_cons_of_mem _ hlater), h.overrun⟩
      obtain ⟨method, payload, rfl, hmethod, hpayload⟩ := hall data List.mem_cons_self
      have heq := Option.some.inj hsent
      generalize ({ device with sendQueue := queue } : BlockDevice) = device at hrest heq
      have hplain : ClientGood p (CAAddBlockOption.plain (.requestInfo method payload) overhead
          device (coapResponseCode method)).2 ∧
          ∀ message, (CAAddBlockOption.plain (.requestInfo method payload) overhead device
            (coapResponseCode method)).1 = some message → GoodRequest p message := by
        unfold CAAddBlockOption.plain
        split_ifs
        · refine ⟨hrest, fun message hmessage => ?_⟩
          cases hmessage
          refine .plain hmethod rfl rfl fun q hq => ?_
          have hq : payloadOption (payload.getD []) = some q := hq
          rw [payloadOption] at hq
          split_ifs at hq with hnil
          cases payload with
          | none => exact absurd rfl hnil
          | some bytes => rw [← Option.some.inj hq, Option.getD_some, hpayload bytes rfl]
        · exact ⟨hrest, nofun⟩
      have herror := caResponseCode_of_isMethod hmethod
      unfold CAAddBlockOption at heq
      dsimp only [CAData.code] at heq
      rw [if_neg herror.1] at heq
      split_ifs at heq with hlong
      · cases heq
        exact ⟨hrest, nofun⟩
      · cases hdata : device.blockData with
        | none =>
            rw [hdata] at heq
            rw [show next = _ from (congrArg Prod.snd heq).symm,
              show sent = _ from (congrArg Prod.fst heq).symm]
            exact hplain
        | some data =>
            have huploads := hrest.blockData data hdata
            rw [hdata] at heq
            dsimp only at heq
            rw [huploads.type] at heq
            dsimp only at heq
            rw [show next = _ from (congrArg Prod.snd heq).symm,
              show sent = _ from (congrArg Prod.fst heq).symm]
            refine ⟨?_, fun message hmessage => .block _
              (CAAddBlockOption1_upload huploads hmethod hpayload overhead hmessage)⟩
            obtain hafter | hafter := CAAddBlockOption1_entry data hmethod payload overhead
            · exact (congrArg (ClientGood p) hafter).mpr
                ⟨forall_of_none, hrest.sendQueue, hrest.overrun⟩
            · refine (congrArg (ClientGood p) hafter).mpr ⟨fun entry hentry => ?_, hrest.sendQueue,
                hrest.overrun⟩
              rw [← Option.some.inj hentry]
              exact ⟨huploads.type, huploads.szx, huploads.sentData⟩

end Client

end Coap
end FireEvacuation
