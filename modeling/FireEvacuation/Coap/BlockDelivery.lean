import FireEvacuation.Coap.BlockUpload

/-!
# Runs of a request in blocks

Both sides together.  Whatever is lost, doubled or late, the server is handed the payload or
nothing, unless there are two blocks only; and when nothing is lost the payload arrives and its
answer comes back.
-/

namespace FireEvacuation
namespace Coap

open FireEvacuation.Core

/-! ## What no run breaks -/

/-- The application answers with a code which is no method, and in one message. -/
def AnswersShortly (_ : BlockExchange) : BlockEvent → Prop
  | .serverResponds result payload =>
      isMethod (coapResponseCode result) = false ∧ (payload.getD []).length ≤ 1024
  | _ => True

/-- Both sides and all messages which are on the way. -/
def UploadGood (p : List UInt8) : BlockExchange → Prop :=
  BothSides (ClientGood p) (ServerGood p) (GoodRequest p) GoodResponse

section Runs

variable {p : List UInt8} {method : Nat}

/-- The entry with which the client starts. -/
theorem CASendBlockWiseData_long (hlong : 1024 < p.length) :
    CASendBlockWiseData .initial (.requestInfo method (some p)) =
      ⟨some { CACreateNewBlockData (.requestInfo method (some p)) with type := some .block1 },
        [.requestInfo method (some p)], [], false⟩ := by
  have hcheck : CACheckPayloadLength (.requestInfo method (some p)) = true := decide_eq_true hlong
  rw [CASendBlockWiseData, sendBlockData, if_pos hcheck]
  rfl

theorem uploadGood_initial (hlong : 1024 < p.length)
    (hmethod : isMethod (coapResponseCode method) = true) :
    UploadGood p (.initial method (some p)) := by
  have hupload : IsUpload p (.requestInfo method (some p)) :=
    ⟨method, some p, rfl, hmethod, fun q hq => (Option.some.inj hq).symm⟩
  rw [BlockExchange.initial, CASendBlockWiseData_long hlong]
  refine ⟨⟨?_, ?_, rfl⟩, ⟨forall_of_none, List.forall_mem_nil _, List.forall_mem_nil _, rfl⟩,
    List.forall_mem_nil _, List.forall_mem_nil _⟩
  · intro data hdata
    rw [← Option.some.inj hdata]
    exact ⟨rfl, rfl, hupload⟩
  · intro data hdata
    rw [List.mem_singleton.mp hdata]
    exact hupload

/-- One event keeps both sides good. -/
theorem uploadGood_step {s t : BlockExchange} {e : BlockEvent} (h : UploadGood p s)
    (hguard : AnswersShortly s e) (hstep : blockStep s e = some t) : UploadGood p t := by
  apply BothSides.step _ _ _ _ _ h hguard hstep
  · exact fun _ _ _ _ hclient hsent => hclient.send hsent
  · exact fun _ _ _ _ hserver hsent => hserver.send hsent
  · exact fun _ _ hserver hmessage => hserver.receive hmessage
  · exact fun _ _ _ _ hclient hmessage => hclient.receive hmessage
  · exact fun _ _ _ hanswer hserver => hserver.respond hanswer.1 hanswer.2

theorem uploadGood_of_reaches (hlong : 1024 < p.length)
    (hmethod : isMethod (coapResponseCode method) = true) {s : BlockExchange}
    (hs : GuardedReaches blockStep AnswersShortly (.initial method (some p)) s) :
    UploadGood p s :=
  hs.invariant (fun _ _ _ h hguard hstep => uploadGood_step h hguard hstep)
    (uploadGood_initial hlong hmethod)

end Runs

/-! ## A round in which nothing is lost -/

section Round

variable {p : List UInt8} {method : Nat} {num : BitVec 20} {message : BlockMessage}
  {device : BlockDevice} {data : CABlockData} {payload : Option (List UInt8)}

/-- The client sends the block at which its entry stands. -/
theorem sendNext_block (hdata : device.blockData = some data) (htype : data.type = some .block1)
    (hszx : data.block1.szx = caDefaultBlockSize)
    (hqueue : device.sendQueue = [.requestInfo method (some p)])
    (hmethod : isMethod (coapResponseCode method) = true)
    (hstart : data.block1.num.toNat * 1024 < p.length) (hmax : p.length ≤ 2 ^ 30)
    {overhead : Nat} (hroom : overhead + 1025 ≤ coapMaxPduSize) :
    ∃ message, IsRequestBlock p data.block1.num message ∧
      message.code = coapResponseCode method ∧
      sendNext device overhead = some (some message, { device with
        blockData := some { data with block1 := blockAt p data.block1.num }
        sendQueue := [] }) := by
  have hfits : hasRoom overhead (slice p data.block1.num.toNat) = true :=
    hasRoom_of_le hroom (by rw [slice_length]; exact Nat.min_le_left _ _)
  have hbytes := (@coapAddBlock_eq_some_iff overhead p (slice p data.block1.num.toNat)
    (blockAt p data.block1.num) rfl).mpr ⟨hstart, hfits, rfl⟩
  have herror := caResponseCode_of_isMethod hmethod
  have hne : slice p data.block1.num.toNat ≠ [] := slice_ne_nil hstart
  refine ⟨⟨coapResponseCode method, some (blockAt p data.block1.num), none,
    if data.block1.num = 0 then some p.length else none, none,
    some (slice p data.block1.num.toNat),
    overhead + (payloadText (slice p data.block1.num.toNat)).length⟩,
    ⟨hstart, hmethod, rfl, rfl, rfl, rfl⟩, rfl, ?_⟩
  have hshort : p.length < 2 ^ 32 := by omega
  rw [sendNext_entry hdata htype hqueue hshort herror.1]
  show some (CAAddBlockOption1 _ data (coapResponseCode method) (some p) _) = _
  unfold CAAddBlockOption1
  dsimp only [Option.getD_some]
  rw [if_neg (by omega), if_pos hmethod, CASetMoreBitFromBlock_default hszx, hbytes]
  dsimp only
  rw [payloadOption, if_neg hne]
  rfl

/-- The server answers with the block its entry stands at, and keeps the entry if more blocks are
to come. -/
theorem sendNext_answer {result : Nat} (hdata : device.blockData = some data)
    (htype : data.type = some .block1)
    (hqueue : device.sendQueue = [.responseInfo result payload])
    (hcode : isMethod (coapResponseCode result) = false)
    (hincomplete : caResponseCode (coapResponseCode result) ≠ caRequestEntityIncomplete)
    (hshort : (payload.getD []).length ≤ 1024) {overhead : Nat}
    (hroom : overhead + 1025 ≤ coapMaxPduSize) :
    sendNext device overhead =
      some (some ⟨coapResponseCode result, some data.block1, none, none, none, sentPayload payload,
          overhead + (payloadText (payload.getD [])).length⟩,
        if data.block1.m then { device with sendQueue := [] }
        else { device with sendQueue := [], blockData := none }) := by
  have hfits := hasRoom_of_le hroom hshort
  have hlimit : (payload.getD []).length < 2 ^ 32 := by omega
  rw [sendNext_entry hdata htype hqueue hlimit hincomplete]
  show some (CAAddBlockOption1 _ data (coapResponseCode result) payload _) = _
  unfold CAAddBlockOption1
  dsimp only
  rw [if_neg (by omega), hcode, if_neg Bool.false_ne_true, if_pos hfits]
  rfl

/-- The server takes the next block. -/
theorem receive_next (hm : IsRequestBlock p num message)
    (hserver : (num = 0 ∧ device.blockData = none) ∨
      ∃ data, device.blockData = some data ∧ Gathers p data ∧
        num.toNat = data.block1.num.toNat + 1 ∧ Buffered p (num.toNat * 1024) data) :
    ∃ after, CAReceivedPacketCallback device message = CAProcessNextStep device after message
        (if (blockAt p num).m then .option1RequestBlock else .option1RequestLastBlock) ∧
      Gathers p after ∧ after.block1 = blockAt p num ∧
      Buffered p (min ((num.toNat + 1) * 1024) p.length) after ∧
      after.sentData = (device.blockData.map CABlockData.sentData).getD (.responseInfo 0 none) := by
  obtain ⟨data, hdata⟩ : ∃ data, CACheckTheExistOfBlockData device message.code .block1 = data :=
    ⟨_, rfl⟩
  have hgathers : Gathers p data := by
    rw [← hdata]
    apply gathers_checkTheExist hm.code
    obtain ⟨-, hnone⟩ | ⟨entry, hentry, hgathers, -⟩ := hserver
    · rw [hnone]
      exact forall_of_none
    · rw [hentry]
      exact fun _ hsome => Option.some.inj hsome ▸ hgathers
  have hsent : data.sentData =
      (device.blockData.map CABlockData.sentData).getD (.responseInfo 0 none) := by
    rw [← hdata, CACheckTheExistOfBlockData, CACreateNewDataSet, if_pos hm.code]
    cases device.blockData <;> rfl
  have hnext : (Blank data ∧ num = 0) ∨
      (num.toNat = data.block1.num.toNat + 1 ∧ Buffered p (num.toNat * 1024) data) := by
    obtain ⟨hzero, hnone⟩ | ⟨entry, hentry, hold, hnumber, hbuffered⟩ := hserver
    · rw [CACheckTheExistOfBlockData, hnone] at hdata
      rw [← hdata]
      exact Or.inl ⟨⟨rfl, rfl, rfl⟩, hzero⟩
    · rw [CACheckTheExistOfBlockData_some hentry hold.type] at hdata
      rw [← hdata]
      exact Or.inr ⟨hnumber, hbuffered⟩
  obtain ⟨after, hafter, hsame, hgood, hblock, hbuffered⟩ :=
    CASetNextBlockOption1_next hm hdata hgathers hnext
  exact ⟨after, CAReceivedPacketCallback_block hm hafter, hgood, hblock, hbuffered,
    hsame.trans hsent⟩

/-- The client goes on with the next block. -/
theorem receive_acknowledged (hdata : device.blockData = some data)
    (htype : data.type = some .block1) (hblock : data.block1 = blockAt p num)
    (hm : message.block1 = some (blockAt p num)) (hblock2 : message.block2 = none)
    (hcode : message.code = coapResponseCode caContinue) (hmore : (blockAt p num).m = true) :
    CAReceivedPacketCallback device message = { device with
      blockData := some { data with block1 := { blockAt p num with num := num + 1 } }
      sendQueue := device.sendQueue ++ [data.sentData] } := by
  have hmethod : isMethod message.code = false := by rw [hcode]; decide
  have hzero : message.code ≠ 0 := by rw [hcode]; decide
  have herror : ¬ (caResponseCode message.code = caRequestEntityIncomplete ∨
      caResponseCode message.code = caRequestEntityTooLarge) := by rw [hcode]; decide
  have hentry := CACheckTheExistOfBlockData_some hdata htype message.code
  have hreceive : CAReceiveBlockWiseData device message = (.ok, { device with
      blockData := some { data with block1 := { blockAt p num with num := num + 1 } }
      sendQueue := device.sendQueue ++ [data.sentData] }) := by
    rw [CAReceiveBlockWiseData, if_neg hzero, hm, hblock2]
    dsimp only
    unfold CASetNextBlockOption1
    rw [hentry, hmethod]
    dsimp only
    rw [if_neg Bool.false_ne_true, hmore, if_neg (by simp),
      CAUpdateBlockOptionItems_option1Response herror (by rw [hblock]), hblock,
      if_neg (BitVec.lt_irrefl _)]
    dsimp only
    rw [CAUpdateBlockData_default rfl]
    show (CAResult.ok, CASendBlockMessage _ _ message.code) = _
    rw [CASendBlockMessage_response hmethod, ← hmore]
    rfl
  rw [CAReceivedPacketCallback, hreceive]

/-- The client takes the answer. -/
theorem receive_answer (hdata : device.blockData = some data) (htype : data.type = some .block1)
    (hnone : data.payload = none) (hm : message.block1 = some (blockAt p num))
    (hblock2 : message.block2 = none) (hmethod : isMethod message.code = false)
    (hzero : message.code ≠ 0)
    (herror : caResponseCode message.code ≠ caRequestEntityIncomplete ∧
      caResponseCode message.code ≠ caRequestEntityTooLarge)
    (hlast : (blockAt p num).m = false) :
    CAReceivedPacketCallback device message = { device with
      blockData := none
      received := device.received ++ [message.data] } := by
  have hentry := CACheckTheExistOfBlockData_some hdata htype message.code
  have hreceive : CAReceiveBlockWiseData device message = (.ok, { device with
      blockData := none
      received := device.received ++ [message.data] }) := by
    rw [CAReceiveBlockWiseData, if_neg hzero, hm, hblock2]
    dsimp only
    unfold CASetNextBlockOption1
    rw [hentry, hmethod]
    dsimp only
    rw [if_neg Bool.false_ne_true, if_pos ⟨hlast, herror⟩, hblock2]
    dsimp only
    rw [CAReceiveLastBlock, hnone]
    rfl
  rw [CAReceivedPacketCallback, hreceive]

/-- The client is about to send the block with this number, and the server has all before it. -/
structure Ready (p : List UInt8) (method : Nat) (num : BitVec 20) (s : BlockExchange) : Prop where
  entry : ∃ data, s.client.blockData = some data ∧ data.type = some .block1 ∧
    data.block1.num = num ∧ data.block1.szx = caDefaultBlockSize ∧
    data.sentData = .requestInfo method (some p) ∧ data.payload = none
  clientQueue : s.client.sendQueue = [.requestInfo method (some p)]
  clientReceived : s.client.received = []
  server : (num = 0 ∧ s.server.blockData = none) ∨
    ∃ data, s.server.blockData = some data ∧ Gathers p data ∧
      num.toNat = data.block1.num.toNat + 1 ∧ Buffered p (num.toNat * 1024) data
  sentData : ∃ result, (s.server.blockData.map CABlockData.sentData).getD (.responseInfo 0 none) =
    .responseInfo result none
  serverQueue : s.server.sendQueue = []
  serverReceived : s.server.received = []

/-- The client waits for the answer to the block with this number. -/
structure AwaitsAnswer (p : List UInt8) (method : Nat) (num : BitVec 20)
    (client : BlockDevice) : Prop where
  entry : ∃ data, client.blockData = some data ∧ data.type = some .block1 ∧
    data.block1 = blockAt p num ∧ data.sentData = .requestInfo method (some p) ∧
    data.payload = none
  sendQueue : client.sendQueue = []
  received : client.received = []

/-- The entry of the server with all bytes up to the end of the block with this number. -/
structure Holds (p : List UInt8) (num : BitVec 20) (data : CABlockData) : Prop where
  gathers : Gathers p data
  block1 : data.block1 = blockAt p num
  buffered : Buffered p (min ((num.toNat + 1) * 1024) p.length) data
  sentData : ∃ result, data.sentData = .responseInfo result none

theorem ready_initial (hlong : 1024 < p.length) : Ready p method 0 (.initial method (some p)) := by
  rw [BlockExchange.initial, CASendBlockWiseData_long hlong]
  exact ⟨⟨_, rfl, rfl, rfl, rfl, rfl, rfl⟩, rfl, rfl, Or.inl ⟨rfl, rfl⟩, ⟨0, rfl⟩, rfl, rfl⟩

/-- The block is sent and received. -/
theorem Ready.block {s : BlockExchange} (h : Ready p method num s)
    (hmethod : isMethod (coapResponseCode method) = true) (hstart : num.toNat * 1024 < p.length)
    (hmax : p.length ≤ 2 ^ 30)
    {overheads : Overheads} (hroom : overheads.Fit) :
    ∃ t message after, GuardedReaches blockStep (overheads.guard AnswersShortly) s t ∧
      AwaitsAnswer p method num t.client ∧ message ∈ t.requests ∧ IsRequestBlock p num message ∧
      message.code = coapResponseCode method ∧ Holds p num after ∧
      t.server = CAProcessNextStep s.server after message
        (if (blockAt p num).m then .option1RequestBlock else .option1RequestLastBlock) := by
  obtain ⟨⟨data, hdata, htype, rfl, hszx, hsent, hnone⟩, hqueue, hclient, hserver, hresult, -⟩ := h
  obtain ⟨message, hmessage, hcode, hnext⟩ :=
    sendNext_block hdata htype hszx hqueue hmethod hstart hmax (hroom s).1
  obtain ⟨after, hreceive, hgathers, hblock, hbuffered, hsame⟩ := receive_next hmessage hserver
  refine ⟨_, message, after, reaches_requested hnext ⟨trivial, rfl⟩ ⟨trivial, trivial⟩, ?_,
    List.mem_concat_self, hmessage, hcode, ⟨hgathers, hblock, hbuffered, ?_⟩, hreceive⟩
  · exact ⟨⟨_, rfl, htype, rfl, hsent, hnone⟩, rfl, hclient⟩
  · rw [hsame]
    exact hresult

/-- An answer of the server is sent and received. -/
theorem reaches_answered {s : BlockExchange} {result : Nat} (hdata : s.server.blockData = some data)
    (htype : data.type = some .block1)
    (hqueue : s.server.sendQueue = [.responseInfo result payload])
    (hcode : isMethod (coapResponseCode result) = false)
    (hincomplete : caResponseCode (coapResponseCode result) ≠ caRequestEntityIncomplete)
    (hshort : (payload.getD []).length ≤ 1024) {overheads : Overheads} (hroom : overheads.Fit) :
    ∃ t message, GuardedReaches blockStep (overheads.guard AnswersShortly) s t ∧
      message.code = coapResponseCode result ∧ message.block1 = some data.block1 ∧
      message.block2 = none ∧ message.payload = sentPayload payload ∧
      t.client = CAReceivedPacketCallback s.client message ∧
      t.server = (if data.block1.m then { s.server with sendQueue := [] }
        else { s.server with sendQueue := [], blockData := none }) ∧
      t.requests = s.requests := by
  have hnext := sendNext_answer hdata htype hqueue hcode hincomplete hshort (hroom s).2
  exact ⟨_, _, reaches_replied hnext ⟨trivial, rfl⟩ ⟨trivial, trivial⟩, rfl, rfl, rfl, rfl, rfl,
    rfl, rfl⟩

/-- **A round**: the block is acknowledged, and the client comes to the next one. -/
theorem Ready.round {s : BlockExchange} (h : Ready p method num s)
    (hmethod : isMethod (coapResponseCode method) = true)
    (hmore : (num.toNat + 1) * 1024 < p.length) (hmax : p.length ≤ 2 ^ 30)
    {overheads : Overheads} (hroom : overheads.Fit) :
    ∃ t, GuardedReaches blockStep (overheads.guard AnswersShortly) s t ∧
      Ready p method (num + 1) t := by
  have hm : (blockAt p num).m = true := decide_eq_true hmore
  have hstart : num.toNat * 1024 < p.length :=
    Nat.lt_of_le_of_lt (Nat.mul_le_mul_right _ (Nat.le_succ _)) hmore
  have hgrown : min ((num.toNat + 1) * 1024) p.length = (num.toNat + 1) * 1024 :=
    Nat.min_eq_left (Nat.le_of_lt hmore)
  have hnext := next_toNat hmore hmax
  obtain ⟨t, message, after, hfirst, hclient, -, hmessage, hcode, hholds, hserver⟩ :=
    h.block hmethod hstart hmax hroom
  obtain ⟨⟨data, hdata, htype, hblock, hsent, hnone⟩, hclientQueue, hclientReceived⟩ := hclient
  obtain ⟨hgathers, hblock1, hbuffered, result, hresult⟩ := hholds
  rw [if_pos hm, CAProcessNextStep_requestBlock hmessage.code hresult] at hserver
  have hentry : t.server.blockData =
      some { after with sentData := .responseInfo caContinue none } := by
    rw [hserver]
    rfl
  have hqueue : t.server.sendQueue = [.responseInfo caContinue none] := by
    rw [hserver]
    show s.server.sendQueue ++ _ = _
    rw [h.serverQueue, List.nil_append]
  obtain ⟨u, answer, hsecond, hcontinue, hanswer, hblock2, -, hreceive, hkept, -⟩ :=
    reaches_answered hentry hgathers.type hqueue (by decide) (by decide) (by decide) hroom
  rw [receive_acknowledged hdata htype hblock (hanswer.trans (congrArg some hblock1)) hblock2
    hcontinue hm, hclientQueue, hsent] at hreceive
  rw [if_pos (show after.block1.m = true from hblock1 ▸ hm)] at hkept
  rw [hgrown, ← hnext] at hbuffered
  refine ⟨u, hfirst.trans hsecond, ?_⟩
  constructor
  · rw [hreceive]
    exact ⟨_, rfl, htype, rfl, rfl, rfl, hnone⟩
  · rw [hreceive]
    rfl
  · rw [hreceive]
    exact hclientReceived
  · right
    rw [hkept]
    refine ⟨_, hentry, hgathers.setSent _ _, ?_, hbuffered.payload, hbuffered.payloadLength,
      hbuffered.receivedPayloadLen⟩
    rw [hnext]
    show _ = after.block1.num.toNat + 1
    rw [hblock1]
    rfl
  · rw [hkept]
    show ∃ result, (t.server.blockData.map _).getD _ = _
    rw [hentry]
    exact ⟨caContinue, rfl⟩
  · rw [hkept]
  · rw [hkept, hserver]
    exact h.serverReceived

/-- The client comes to the last block. -/
theorem Ready.last {s : BlockExchange} (h : Ready p method num s)
    (hmethod : isMethod (coapResponseCode method) = true)
    (hstart : num.toNat * 1024 < p.length) (hmax : p.length ≤ 2 ^ 30)
    {overheads : Overheads} (hroom : overheads.Fit) :
    ∃ t last, GuardedReaches blockStep (overheads.guard AnswersShortly) s t ∧
      Ready p method last t ∧ last.toNat * 1024 < p.length ∧ p.length ≤ (last.toNat + 1) * 1024 := by
  exact reaches_lastBlock (fun _ _ hready hmore => hready.round hmethod hmore hmax hroom) hmax h
    hstart

/-- The server has handed up the payload and the application has not answered yet. -/
structure Complete (p : List UInt8) (method : Nat) (num : BitVec 20) (s : BlockExchange) :
    Prop where
  client : AwaitsAnswer p method num s.client
  request : ∃ message ∈ s.requests, IsRequestBlock p num message ∧
    message.code = coapResponseCode method
  entry : ∃ data, s.server.blockData = some data ∧ Holds p num data
  last : (blockAt p num).m = false
  serverQueue : s.server.sendQueue = []
  serverReceived : s.server.received = [.requestInfo (coapResponseCode method).toNat (some p)]

/-- When nothing is lost the server hands up the payload. -/
theorem reaches_complete (hlong : 1024 < p.length) (hmax : p.length ≤ 2 ^ 30)
    (hmethod : isMethod (coapResponseCode method) = true) {overheads : Overheads} (hroom : overheads.Fit) :
    ∃ s num, GuardedReaches blockStep (overheads.guard AnswersShortly)
        (.initial method (some p)) s ∧ Complete p method num s := by
  have hfirst : (0 : BitVec 20).toNat * 1024 < p.length := by
    rw [show (0 : BitVec 20).toNat = 0 from rfl]
    omega
  obtain ⟨s, num, hs, hready, hstart, hend⟩ :=
    (ready_initial hlong).last hmethod hfirst hmax hroom
  obtain ⟨t, message, after, ht, hclient, hmem, hmessage, hcode, hholds, hserver⟩ :=
    hready.block hmethod hstart hmax hroom
  have hlast : (blockAt p num).m = false := decide_eq_false (Nat.not_lt.mpr hend)
  have hbuffered := hholds.buffered
  rw [Nat.min_eq_right hend] at hbuffered
  obtain ⟨buffer, hbuffer, hwhole⟩ := hbuffered.whole (Nat.le_refl _)
  have hrequest : message.data = .requestInfo message.code.toNat message.payload := by
    rw [BlockMessage.data, if_pos hmessage.code]
  rw [hlast, if_neg Bool.false_ne_true, CAProcessNextStep_lastBlock hbuffer, hwhole, hrequest,
    hcode] at hserver
  refine ⟨t, num, hs.trans ht, hclient, ⟨message, hmem, hmessage, hcode⟩, ⟨after, ?_, hholds⟩,
    hlast, ?_, ?_⟩
  · rw [hserver]
  · rw [hserver]
    exact hready.serverQueue
  · rw [hserver]
    show s.server.received ++ _ = _
    rw [hready.serverReceived]
    rfl

/-- The application answers, and the answer is sent and received. -/
theorem Complete.answer {s : BlockExchange} (h : Complete p method num s) {result : Nat}
    (hcode : isMethod (coapResponseCode result) = false) (hzero : coapResponseCode result ≠ 0)
    (herror : caResponseCode (coapResponseCode result) ≠ caRequestEntityIncomplete ∧
      caResponseCode (coapResponseCode result) ≠ caRequestEntityTooLarge)
    (hshort : (payload.getD []).length ≤ 1024) {overheads : Overheads} (hroom : overheads.Fit) :
    ∃ t, GuardedReaches blockStep (overheads.guard AnswersShortly) s t ∧
      t.requests = s.requests ∧
      t.server.blockData = none ∧ t.server.received = s.server.received ∧
      t.client.received =
        [.responseInfo (caResponseCode (coapResponseCode result)) (sentPayload payload)] := by
  obtain ⟨⟨data, hdata, htype, hblock, hsent, hnone⟩, hclientQueue, hclientReceived⟩ := h.client
  obtain ⟨entry, hentry, hgathers, hblock1, -, -⟩ := h.entry
  have hcheck : CACheckPayloadLength (.responseInfo result payload) = false :=
    decide_eq_false (Nat.not_lt.mpr hshort)
  have hresponds : CASendBlockWiseData s.server (.responseInfo result payload) = { s.server with
      blockData := some { entry with sentData := .responseInfo result payload }
      sendQueue := [.responseInfo result payload] } := by
    unfold CASendBlockWiseData
    rw [hentry]
    dsimp only
    rw [sendBlockData, hcheck, if_neg Bool.false_ne_true, CAAddSendThreadQueue, h.serverQueue]
    rfl
  obtain ⟨mid, hmid⟩ : ∃ mid, mid =
    { s with server := CASendBlockWiseData s.server (.responseInfo result payload) } := ⟨_, rfl⟩
  have hstep : blockStep s (.serverResponds result payload) = some mid := by
    rw [hmid]
    rfl
  have hguard : overheads.guard AnswersShortly s (.serverResponds result payload) :=
    ⟨⟨hcode, hshort⟩, trivial⟩
  rw [hresponds] at hmid
  have hmidEntry : mid.server.blockData =
      some { entry with sentData := .responseInfo result payload } := by rw [hmid]
  have hmidQueue : mid.server.sendQueue = [.responseInfo result payload] := by rw [hmid]
  obtain ⟨t, message, hrest, hmessageCode, hmessageBlock, hblock2, hpayload, hreceive, hkept,
    hrequests⟩ := reaches_answered hmidEntry hgathers.type hmidQueue hcode herror.1 hshort hroom
  rw [hmid] at hreceive hkept hrequests
  have hmethod : isMethod message.code = false := hmessageCode ▸ hcode
  have hmessage : message.data =
      .responseInfo (caResponseCode (coapResponseCode result)) (sentPayload payload) := by
    rw [BlockMessage.data, hmethod, if_neg Bool.false_ne_true, hmessageCode, hpayload]
  have hlast : entry.block1.m = false := hblock1 ▸ h.last
  rw [receive_answer hdata htype hnone (hmessageBlock.trans (congrArg some hblock1)) hblock2
    hmethod (hmessageCode ▸ hzero) (hmessageCode ▸ herror) h.last, hmessage, hclientReceived]
    at hreceive
  rw [show (CABlockData.block1 _).m = false from hlast, if_neg Bool.false_ne_true] at hkept
  refine ⟨t, ((GuardedReaches.refl s).tail hguard hstep).trans hrest, hrequests, ?_, ?_, ?_⟩
  · rw [hkept]
  · rw [hkept]
  · rw [hreceive]
    rfl

/-- The last of two blocks, when it comes after the entry has been removed, is handed up alone. -/
theorem receive_lastOfTwo (hm : IsRequestBlock p num message) (hone : num.toNat = 1)
    (hlast : (blockAt p num).m = false) (hnone : device.blockData = none) :
    (CAReceivedPacketCallback device message).received = device.received ++ [message.data] := by
  have hentry : CACheckTheExistOfBlockData device message.code .block1 =
      { CACreateNewBlockData (CACreateNewDataSet message.code) with type := some .block1 } := by
    rw [CACheckTheExistOfBlockData, hnone]
    rfl
  have hgathers : Gathers p
      { CACreateNewBlockData (CACreateNewDataSet message.code) with type := some .block1 } := by
    rw [← hentry]
    exact gathers_checkTheExist hm.code (by rw [hnone]; exact forall_of_none)
  have hnot : 0 ≠ 1024 * num.toNat := by
    rw [hone]
    decide
  have hnear : num.toNat ≤ (0 : BitVec 20).toNat + 1 := Nat.le_of_eq hone
  have hagain := CASetNextBlockOption1_again hm hentry hgathers hnot hnear
  rw [hlast, if_neg Bool.false_ne_true] at hagain
  rw [CAReceivedPacketCallback_block hm hagain]
  rfl

end Round

/-- **What is handed up is the payload in every run exactly if it has more than two blocks.**  With
two blocks the last one may come again when the answer has been sent; then it is handed up as if it
were the payload. -/
theorem upload_whole_iff {p : List UInt8} {method : Nat} (hlong : 1024 < p.length)
    (hmethod : isMethod (coapResponseCode method) = true) :
    (∀ s, GuardedReaches blockStep AnswersShortly (.initial method (some p)) s →
      ∀ data ∈ s.server.received, ∀ payload, data.payload = some payload → payload = p) ↔
    2048 < p.length := by
  constructor
  · intro h
    by_contra hshort
    have hshort := Nat.not_lt.mp hshort
    obtain ⟨s, num, hs, hcomplete⟩ :=
      reaches_complete hlong (by omega) hmethod sampleOverheads_fit
    obtain ⟨t, ht, hrequests, hnone, -, -⟩ := @Complete.answer p method num none s hcomplete 204
      (by decide) (by decide) (by decide) (by decide) sampleOverheads sampleOverheads_fit
    have hreaches := (hs.trans ht).imp fun _ _ h => h.1
    obtain ⟨message, hmem, hmessage, -⟩ := hcomplete.request
    obtain ⟨i, hi⟩ := List.mem_iff_getElem?.mp (hrequests ▸ hmem)
    have hstep : blockStep t (.serverReceives i) =
        some { t with server := CAReceivedPacketCallback t.server message } := by
      rw [blockStep, hi]
      rfl
    have hone : num.toNat = 1 := by
      have hstart := hmessage.start
      have hend := of_decide_eq_false hcomplete.last
      omega
    have hreceived := receive_lastOfTwo hmessage hone hcomplete.last hnone
    have hslice := h _ (hreaches.tail (by trivial) hstep) message.data
      (by rw [hreceived]; exact List.mem_concat_self) (slice p 1)
      (by rw [BlockMessage.data, if_pos hmessage.code, ← hone]; exact hmessage.payload)
    have hlength := slice_length p 1
    rw [hslice] at hlength
    omega
  · intro hmany s hs data hdata payload hpayload
    have hgood := uploadGood_of_reaches hlong hmethod hs
    obtain hwhole | ⟨hshort, -⟩ := hgood.server.received data hdata payload hpayload
    · exact hwhole
    · exact absurd hmany (Nat.not_lt.mpr hshort)

theorem upload_whole_iff_twoBlocks :
    ¬ ∀ s, GuardedReaches blockStep AnswersShortly (.initial 2 (some (List.replicate 2000 7))) s →
      ∀ data ∈ s.server.received, ∀ payload, data.payload = some payload →
        payload = List.replicate 2000 7 := by
  have hlong : 1024 < (List.replicate 2000 (7 : UInt8)).length := by
    rw [List.length_replicate]
    decide
  rw [upload_whole_iff hlong (by decide), List.length_replicate]
  decide

/-- **The payload can always be delivered**: whatever room the messages leave as long as a block
fits, there is a run in which it is handed up once and the answer comes back, for payloads of as
many blocks as there are numbers. -/
theorem upload_answered {p : List UInt8} {method result : Nat} {payload : Option (List UInt8)}
    (hlong : 1024 < p.length) (hmax : p.length ≤ 2 ^ 30)
    (hmethod : isMethod (coapResponseCode method) = true)
    (hcode : isMethod (coapResponseCode result) = false) (hzero : coapResponseCode result ≠ 0)
    (herror : caResponseCode (coapResponseCode result) ≠ caRequestEntityIncomplete ∧
      caResponseCode (coapResponseCode result) ≠ caRequestEntityTooLarge)
    (hshort : (payload.getD []).length ≤ 1024) {overheads : Overheads} (hroom : overheads.Fit) :
    ∃ s, GuardedReaches blockStep (overheads.guard AnswersShortly)
        (.initial method (some p)) s ∧
      s.server.received = [.requestInfo (coapResponseCode method).toNat (some p)] ∧
      s.client.received =
        [.responseInfo (caResponseCode (coapResponseCode result)) (sentPayload payload)] := by
  obtain ⟨s, num, hs, hcomplete⟩ := reaches_complete hlong hmax hmethod hroom
  obtain ⟨t, ht, -, -, hkept, hanswer⟩ := hcomplete.answer hcode hzero herror hshort hroom
  exact ⟨t, hs.trans ht, hkept.trans hcomplete.serverReceived, hanswer⟩

theorem upload_answered_post :
    ∃ s, GuardedReaches blockStep (sampleOverheads.guard AnswersShortly)
        (.initial 2 (some (List.replicate 5000 7))) s ∧
      s.server.received = [.requestInfo 2 (some (List.replicate 5000 7))] ∧
      s.client.received = [.responseInfo 204 none] :=
  @upload_answered (List.replicate 5000 7) 2 204 none (by rw [List.length_replicate]; decide)
    (by rw [List.length_replicate]; decide) (by decide) (by decide) (by decide) (by decide)
    (by decide) sampleOverheads sampleOverheads_fit

/-- **No copy goes past its buffer**, in any run and on either side. -/
theorem upload_inBuffers {p : List UInt8} {method : Nat} (hlong : 1024 < p.length)
    (hmethod : isMethod (coapResponseCode method) = true) {s : BlockExchange}
    (hs : GuardedReaches blockStep AnswersShortly (.initial method (some p)) s) :
    s.client.overrun = false ∧ s.server.overrun = false := by
  have hgood := uploadGood_of_reaches hlong hmethod hs
  exact ⟨hgood.client.overrun, hgood.server.overrun⟩

theorem upload_inBuffers_complete :
    ∃ s : BlockExchange, s.server.received = [.requestInfo 2 (some (List.replicate 5000 7))] ∧
      s.client.overrun = false ∧ s.server.overrun = false := by
  have hlong : 1024 < (List.replicate 5000 (7 : UInt8)).length := by
    rw [List.length_replicate]
    decide
  have hmax : (List.replicate 5000 (7 : UInt8)).length ≤ 2 ^ 30 := by
    rw [List.length_replicate]
    decide
  have hmethod : isMethod (coapResponseCode 2) = true := by decide
  obtain ⟨s, num, hs, hcomplete⟩ := reaches_complete hlong hmax hmethod sampleOverheads_fit
  have hreaches := hs.imp fun _ _ h => h.1
  exact ⟨s, hcomplete.serverReceived, upload_inBuffers hlong hmethod hreaches⟩

end Coap
end FireEvacuation
