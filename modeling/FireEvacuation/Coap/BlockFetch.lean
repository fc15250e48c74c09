import FireEvacuation.Coap.BlockDownload

/-!
# Runs of a response in blocks

Both sides together.  Whatever is lost, doubled or late, the client is handed the payload or
nothing; and when nothing is lost the payload arrives.
-/

namespace FireEvacuation
namespace Coap

open FireEvacuation.Core

/-! ## What no run breaks -/

/-- The client takes a message when it has nothing left to send, and the application answers with
the payload or with none. -/
def ClientInTurn (p : List UInt8) (s : BlockExchange) : BlockEvent → Prop
  | .clientReceives _ => s.client.sendQueue = []
  | .serverResponds result payload => IsReply p (.responseInfo result payload)
  | _ => True

/-- Both sides and all messages which are on the way. -/
def DownloadGood (p : List UInt8) : BlockExchange → Prop :=
  BothSides (ClientFetching p) (ServerServing p) GoodFetch (GoodReply p)

section Runs

variable {p : List UInt8} {method : Nat} {payload : Option (List UInt8)}

/-- The entry with which the client starts when its request is short. -/
theorem CASendBlockWiseData_short (hshort : (payload.getD []).length ≤ 1024) :
    CASendBlockWiseData .initial (.requestInfo method payload) =
      ⟨some (CACreateNewBlockData (.requestInfo method payload)), [.requestInfo method payload], [],
        false⟩ := by
  have hcheck : CACheckPayloadLength (.requestInfo method payload) = false :=
    decide_eq_false (Nat.not_lt.mpr hshort)
  rw [CASendBlockWiseData, sendBlockData, hcheck, if_neg Bool.false_ne_true]
  rfl

theorem downloadGood_initial (hshort : (payload.getD []).length ≤ 1024)
    (hmethod : isMethod (coapResponseCode method) = true) :
    DownloadGood p (.initial method payload) := by
  have hfetch : IsFetch (.requestInfo method payload) := ⟨method, payload, rfl, hmethod⟩
  rw [BlockExchange.initial, CASendBlockWiseData_short hshort]
  refine ⟨⟨?_, ?_, Nat.le_refl 1, List.forall_mem_nil _, rfl⟩,
    ⟨forall_of_none, List.forall_mem_nil _, rfl⟩, List.forall_mem_nil _, List.forall_mem_nil _⟩
  · intro data hdata
    rw [← Option.some.inj hdata]
    exact ⟨rfl, hfetch, Or.inl ⟨⟨rfl, rfl, rfl⟩, rfl⟩⟩
  · intro data hdata
    rw [← Option.some.inj hdata]
    refine Or.inl ⟨hfetch, fun current hcurrent => Or.inl ?_⟩
    rw [← Option.some.inj hcurrent]
    rfl

/-- One event keeps both sides good. -/
theorem downloadGood_step (hmax : p.length ≤ 2 ^ 30) {s t : BlockExchange} {e : BlockEvent}
    (h : DownloadGood p s) (hguard : ClientInTurn p s e) (hstep : blockStep s e = some t) :
    DownloadGood p t := by
  apply BothSides.step _ _ _ _ _ h hguard hstep
  · exact fun _ _ _ _ hclient hsent => hclient.send hsent
  · exact fun _ _ _ _ hserver hsent => hserver.send hsent
  · exact fun _ _ hserver hmessage => hserver.receive hmessage
  · exact fun _ _ _ hqueue hclient hmessage => hclient.receive hqueue hmax hmessage
  · exact fun _ _ _ hreply hserver => hserver.respond hreply

/-- **The client is handed all of the payload or none of it**, and no copy goes past its buffer,
whatever is lost, doubled or late. -/
theorem download_whole (hmax : p.length ≤ 2 ^ 30) (hshort : (payload.getD []).length ≤ 1024)
    (hmethod : isMethod (coapResponseCode method) = true) {s : BlockExchange}
    (hs : GuardedReaches blockStep (ClientInTurn p) (.initial method payload) s) :
    (∀ data ∈ s.client.received, ∀ q, data.payload = some q → q = p) ∧
      s.client.overrun = false ∧ s.server.overrun = false := by
  have hgood : DownloadGood p s :=
    hs.invariant (fun _ _ _ h hguard hstep => downloadGood_step hmax h hguard hstep)
      (downloadGood_initial hshort hmethod)
  exact ⟨hgood.client.received, hgood.client.overrun, hgood.server.overrun⟩

end Runs

/-! ## A round in which nothing is lost -/

section Round

variable {p : List UInt8} {method result : Nat} {num : BitVec 20} {message : BlockMessage}
  {device : BlockDevice} {data : CABlockData} {payload : Option (List UInt8)}

/-- The client asks for the block at which its entry stands. -/
theorem sendNext_fetch (hdata : device.blockData = some data) (htype : data.type = some .block2)
    (hqueue : device.sendQueue = [.requestInfo method payload])
    (hmethod : isMethod (coapResponseCode method) = true)
    (hshort : (payload.getD []).length ≤ 1024)
    {overhead : Nat} (hroom : overhead + 1025 ≤ coapMaxPduSize) :
    sendNext device overhead =
      some (some ⟨coapResponseCode method, none, some data.block2, none, none, none, overhead⟩,
        { device with sendQueue := [] }) := by
  have hshort : (payload.getD []).length < 2 ^ 32 := by omega
  rw [sendNext_entry hdata htype hqueue hshort (caResponseCode_of_isMethod hmethod).1]
  show some (CAAddBlockOption2 _ data (coapResponseCode method) payload _) = _
  unfold CAAddBlockOption2
  dsimp only
  rw [if_neg (by omega), if_pos hmethod]

/-- The server sends the block at which its entry stands. -/
theorem sendNext_block2 (hdata : device.blockData = some data) (hserves : Serves p data)
    (hqueue : device.sendQueue = [.responseInfo result (some p)])
    (hreply : IsReply p (.responseInfo result (some p)))
    (hstart : data.block2.num.toNat * 1024 < p.length) (hmax : p.length ≤ 2 ^ 30)
    {overhead : Nat} (hroom : overhead + 1025 ≤ coapMaxPduSize) :
    ∃ message next, sendNext device overhead = some (some message, next) ∧
      IsResponseBlock p data.block2.num message ∧ message.code = coapResponseCode result ∧
      next.received = device.received ∧
      ((blockAt p data.block2.num).m = true → next = { device with
        blockData := some { data with
          block1 := { data.block1 with num := 0 }
          block2 := blockAt p data.block2.num }
        sendQueue := [] }) := by
  obtain ⟨result, payload, heq, hcode, herror, hlarge, hwhole⟩ := hreply
  cases heq
  have hfits : hasRoom overhead (slice p data.block2.num.toNat) = true :=
    hasRoom_of_le hroom (by rw [slice_length]; exact Nat.min_le_left _ _)
  have hbytes := (@coapAddBlock_eq_some_iff overhead p (slice p data.block2.num.toNat)
    (blockAt p data.block2.num) rfl).mpr ⟨hstart, hfits, rfl⟩
  have hne : slice p data.block2.num.toNat ≠ [] := slice_ne_nil hstart
  have hshort : p.length < 2 ^ 32 := by omega
  rw [sendNext_entry hdata hserves.type hqueue hshort herror]
  show ∃ message next, some (CAAddBlockOption2 _ data (coapResponseCode result) (some p) _) = _ ∧ _
  unfold CAAddBlockOption2
  dsimp only [Option.getD_some]
  rw [if_neg (by omega), hcode, if_neg Bool.false_ne_true,
    CASetMoreBitFromBlock_default hserves.szx, hbytes]
  refine ⟨_, _, rfl, ⟨hstart, hcode, (hwhole p rfl).2, ⟨herror, hlarge⟩, if_pos hserves.block1, rfl,
    rfl, if_neg hne⟩, rfl, ?_, fun hmore => ?_⟩
  · cases (blockAt p data.block2.num).m <;> rfl
  · rw [hmore, if_pos rfl]

/-- The request is sent as it is. -/
theorem sendNext_request (hmethod : isMethod (coapResponseCode method) = true)
    (hshort : (payload.getD []).length ≤ 1024)
    {overhead : Nat} (hroom : overhead + 1025 ≤ coapMaxPduSize) :
    sendNext ⟨some (CACreateNewBlockData (.requestInfo method payload)),
        [.requestInfo method payload], [], false⟩ overhead =
      some (some ⟨coapResponseCode method, none, none, none, none, sentPayload payload,
          overhead + (payloadText (payload.getD [])).length⟩,
        ⟨some (CACreateNewBlockData (.requestInfo method payload)), [], [], false⟩) := by
  have hfits := hasRoom_of_le hroom hshort
  have hlimit : ¬ 2 ^ 32 ≤ ((CAData.requestInfo method payload).payload.getD []).length := by
    show ¬ 2 ^ 32 ≤ (payload.getD []).length
    omega
  unfold sendNext CAAddBlockOption
  dsimp only [CAData.code]
  rw [if_neg hlimit, if_neg (caResponseCode_of_isMethod hmethod).1]
  show some (CAAddBlockOption.plain _ _ _ _) = _
  unfold CAAddBlockOption.plain
  rw [if_pos (show hasRoom overhead ((CAData.requestInfo method payload).payload.getD []) = true
    from hfits)]
  rfl

/-- The server goes on with the block which is asked for. -/
theorem CAReceivedPacketCallback_fetch {block : CoapBlock} (hcode : isMethod message.code = true)
    (hblock1 : message.block1 = none) (hblock2 : message.block2 = some block)
    (hdata : device.blockData = some data) (hserves : Serves p data)
    (hsent : data.sentData = .responseInfo result payload) (hpos : 0 < block.num.toNat)
    (hszx : block.szx = caDefaultBlockSize) :
    CAReceivedPacketCallback device message = CAAddSendThreadQueue
      { device with blockData := some { data with block2 := { block with m := false } } }
      data.sentData := by
  have hentry := CACheckTheExistOfBlockData_some hdata hserves.type message.code
  rw [CAReceivedPacketCallback, CAReceiveBlockWiseData_fetch hcode hblock1 hblock2,
    CASetNextBlockOption2_request hcode hentry hserves.szx hsent hpos hszx]

/-- The block for which the client waits. -/
theorem CAReceiveBlockWiseData_inTurn (hm : IsResponseBlock p num message)
    (hdata : device.blockData = some data) (hfetches : Fetches p data)
    (hnum : data.block2.num = num) :
    ∃ after, after.type = some .block2 ∧ after.sentData = data.sentData ∧
      Buffered p (min ((num.toNat + 1) * 1024) p.length) after ∧
      CAReceiveBlockWiseData device message =
        if (blockAt p num).m then
          (.ok, CAAddSendThreadQueue { device with
            blockData := some { after with block2 := { blockAt p num with
              num := num + 1
              m := false } } } data.sentData)
        else (.ok, CARemoveBlockDataFromList (CAReceiveLastBlock device after message.data)) := by
  have hentry : CACheckTheExistOfBlockData device message.code .block2 =
      { data with type := some .block2 } := by
    rw [CACheckTheExistOfBlockData, hdata]
    rfl
  have hgood := fetches_checkTheExist hm.code fun _ hsome =>
    Option.some.inj (hdata.symm.trans hsome) ▸ hfetches
  rw [hentry] at hgood
  obtain ⟨after, -, -, htype, hsent, hbuffered, hnext⟩ :=
    CASetNextBlockOption2_next hm hentry hgood hnum
  exact ⟨after, htype, hsent, hbuffered,
    (CAReceiveBlockWiseData_responseBlock hm).trans hnext⟩

/-- The client asks for the next block. -/
theorem receive_inTurn (hm : IsResponseBlock p num message) (hdata : device.blockData = some data)
    (hfetches : Fetches p data) (hnum : data.block2.num = num)
    (hmore : (num.toNat + 1) * 1024 < p.length) (hmax : p.length ≤ 2 ^ 30) :
    ∃ after, CAReceivedPacketCallback device message =
        CAAddSendThreadQueue { device with blockData := some after } data.sentData ∧
      Fetches p after ∧ after.type = some .block2 ∧ after.block2.num = num + 1 ∧
      after.sentData = data.sentData ∧ 0 < (num + 1).toNat := by
  obtain ⟨after, htype, hsent, hbuffered, hreceive⟩ :=
    CAReceiveBlockWiseData_inTurn hm hdata hfetches hnum
  obtain ⟨hafter, hpos⟩ := hfetches.next hsent hbuffered hmore hmax
  rw [if_pos (show (blockAt p num).m = true from decide_eq_true hmore)] at hreceive
  refine ⟨_, ?_, hafter, htype, rfl, hsent, hpos⟩
  rw [CAReceivedPacketCallback, hreceive]

/-- The client hands up the payload. -/
theorem receive_lastInTurn (hm : IsResponseBlock p num message)
    (hdata : device.blockData = some data) (hfetches : Fetches p data)
    (hnum : data.block2.num = num) (hlast : p.length ≤ (num.toNat + 1) * 1024) :
    (CAReceivedPacketCallback device message).received =
      device.received ++ [.responseInfo (caResponseCode message.code) (some p)] := by
  obtain ⟨after, -, -, hbuffered, hreceive⟩ := CAReceiveBlockWiseData_inTurn hm hdata hfetches hnum
  rw [Nat.min_eq_right hlast] at hbuffered
  obtain ⟨buffer, hbuffer, hwhole⟩ := hbuffered.whole (Nat.le_refl _)
  have hno : (blockAt p num).m = false := decide_eq_false (Nat.not_lt.mpr hlast)
  have hresponse : message.data =
      .responseInfo (caResponseCode message.code) message.payload := by
    rw [BlockMessage.data, hm.code, if_neg Bool.false_ne_true]
  rw [hno, if_neg Bool.false_ne_true, CAReceiveLastBlock, hbuffer] at hreceive
  dsimp only at hreceive
  rw [hwhole, hresponse] at hreceive
  rw [CAReceivedPacketCallback, hreceive]
  rfl

/-- The server is about to send the block with this number, and the client has all before it. -/
structure Serving (p : List UInt8) (method : Nat) (payload : Option (List UInt8)) (result : Nat)
    (num : BitVec 20) (s : BlockExchange) : Prop where
  client : ∃ data, s.client.blockData = some data ∧ Fetches p data ∧ data.block2.num = num ∧
    data.sentData = .requestInfo method payload
  clientQueue : s.client.sendQueue = []
  clientReceived : s.client.received = []
  server : ∃ data, s.server.blockData = some data ∧ Serves p data ∧ data.block2.num = num ∧
    data.sentData = .responseInfo result (some p)
  serverQueue : s.server.sendQueue = [.responseInfo result (some p)]
  serverReceived : s.server.received =
    [.requestInfo (coapResponseCode method).toNat (sentPayload payload)]

/-- The block is sent and received. -/
theorem Serving.block {s : BlockExchange} (h : Serving p method payload result num s)
    (hreply : IsReply p (.responseInfo result (some p))) (hstart : num.toNat * 1024 < p.length)
    (hmax : p.length ≤ 2 ^ 30)
    {overheads : Overheads} (hroom : overheads.Fit) :
    ∃ message next, GuardedReaches blockStep (overheads.guard (ClientInTurn p)) s
        ⟨CAReceivedPacketCallback s.client message, next, s.requests, s.responses ++ [message]⟩ ∧
      IsResponseBlock p num message ∧ message.code = coapResponseCode result ∧
      next.received = s.server.received ∧
      ((blockAt p num).m = true → next.sendQueue = [] ∧
        ∃ data, next.blockData = some data ∧ Serves p data ∧
          data.sentData = .responseInfo result (some p)) := by
  obtain ⟨-, hclientQueue, -, ⟨data, hdata, hserves, rfl, hsent⟩, hqueue, -⟩ := h
  obtain ⟨message, next, hnext, hmessage, hcode, hreceived, hkept⟩ :=
    sendNext_block2 hdata hserves hqueue hreply hstart hmax (hroom s).2
  refine ⟨message, next, reaches_replied hnext ⟨trivial, rfl⟩ ⟨hclientQueue, trivial⟩, hmessage, hcode,
    hreceived, fun hmore => ?_⟩
  rw [hkept hmore]
  exact ⟨rfl, _, rfl, ⟨hserves.type, rfl, rfl, hserves.sentData⟩, hsent⟩

/-- **A round**: the client takes the block, and the server comes to the next one. -/
theorem Serving.round {s : BlockExchange} (h : Serving p method payload result num s)
    (hmethod : isMethod (coapResponseCode method) = true)
    (hshort : (payload.getD []).length ≤ 1024)
    (hreply : IsReply p (.responseInfo result (some p)))
    (hmore : (num.toNat + 1) * 1024 < p.length) (hmax : p.length ≤ 2 ^ 30)
    {overheads : Overheads} (hroom : overheads.Fit) :
    ∃ t, GuardedReaches blockStep (overheads.guard (ClientInTurn p)) s t ∧
      Serving p method payload result (num + 1) t := by
  have hstart : num.toNat * 1024 < p.length :=
    Nat.lt_of_le_of_lt (Nat.mul_le_mul_right _ (Nat.le_succ _)) hmore
  obtain ⟨message, next, hfirst, hmessage, -, hreceived, hkept⟩ :=
    h.block hreply hstart hmax hroom
  obtain ⟨hqueue, served, hserved, hserves, hservedSent⟩ := hkept (decide_eq_true hmore)
  obtain ⟨⟨data, hdata, hfetches, hnum, hsent⟩, hclientQueue, hclientReceived, -, -,
    hserverReceived⟩ := h
  obtain ⟨after, hclient, hafter, htype, hnext, hafterSent, hpos⟩ :=
    receive_inTurn hmessage hdata hfetches hnum hmore hmax
  rw [hsent] at hclient hafterSent
  rw [hclient] at hfirst
  have hasked : (CAAddSendThreadQueue { s.client with blockData := some after }
      (.requestInfo method payload)).sendQueue = [.requestInfo method payload] := by
    show s.client.sendQueue ++ _ = _
    rw [hclientQueue, List.nil_append]
  have hfit := hroom ⟨CAAddSendThreadQueue { s.client with blockData := some after }
    (.requestInfo method payload), next, s.requests, s.responses ++ [message]⟩
  have hask := sendNext_fetch rfl htype hasked hmethod hshort hfit.1
  have hsecond := @reaches_requested (overheads.guard (ClientInTurn p))
    ⟨_, next, s.requests, s.responses ++ [message]⟩ _ _ _ hask ⟨trivial, rfl⟩ ⟨trivial, trivial⟩
  rw [CAReceivedPacketCallback_fetch hmethod rfl rfl hserved hserves hservedSent
    (hnext ▸ hpos) hafter.szx] at hsecond
  refine ⟨_, hfirst.trans hsecond, ?_⟩
  constructor
  · exact ⟨after, rfl, hafter, hnext, hafterSent⟩
  · rfl
  · exact hclientReceived
  · exact ⟨_, rfl, ⟨hserves.type, hafter.szx, hserves.block1, hserves.sentData⟩, hnext,
      hservedSent⟩
  · show next.sendQueue ++ _ = _
    rw [hqueue, hservedSent, List.nil_append]
  · exact hreceived.trans hserverReceived

/-- The server comes to the last block. -/
theorem Serving.last {s : BlockExchange} (h : Serving p method payload result num s)
    (hmethod : isMethod (coapResponseCode method) = true)
    (hshort : (payload.getD []).length ≤ 1024)
    (hreply : IsReply p (.responseInfo result (some p)))
    (hstart : num.toNat * 1024 < p.length) (hmax : p.length ≤ 2 ^ 30)
    {overheads : Overheads} (hroom : overheads.Fit) :
    ∃ t last, GuardedReaches blockStep (overheads.guard (ClientInTurn p)) s t ∧
      Serving p method payload result last t ∧
      last.toNat * 1024 < p.length ∧ p.length ≤ (last.toNat + 1) * 1024 := by
  refine reaches_lastBlock (fun _ _ hserving hmore => ?_) hmax h hstart
  exact hserving.round hmethod hshort hreply hmore hmax hroom

/-- The application answers, and the response needs blocks. -/
theorem blockStep_responds {s : BlockExchange} (hlong : 1024 < p.length)
    (hnone : s.server.blockData = none) :
    blockStep s (.serverResponds result (some p)) = some { s with server := { s.server with
      blockData := some { CACreateNewBlockData (.responseInfo result (some p)) with
        type := some .block2 }
      sendQueue := s.server.sendQueue ++ [.responseInfo result (some p)] } } := by
  have hcheck : CACheckPayloadLength (.responseInfo result (some p)) = true := decide_eq_true hlong
  unfold blockStep CASendBlockWiseData
  dsimp only
  rw [hnone]
  dsimp only
  rw [if_pos hcheck, sendBlockData, if_pos hcheck]
  rfl

/-- The request arrives, and the application answers. -/
theorem reaches_serving (hlong : 1024 < p.length) (hshort : (payload.getD []).length ≤ 1024)
    (hmethod : isMethod (coapResponseCode method) = true)
    (hreply : IsReply p (.responseInfo result (some p)))
    {overheads : Overheads} (hroom : overheads.Fit) :
    ∃ s, GuardedReaches blockStep (overheads.guard (ClientInTurn p))
        (.initial method payload) s ∧
      Serving p method payload result 0 s := by
  have hfetch : IsFetch (.requestInfo method payload) := ⟨method, payload, rfl, hmethod⟩
  have hsent := @sendNext_request method payload hmethod hshort _
    (hroom (.initial method payload)).1
  have hfirst := @reaches_requested (overheads.guard (ClientInTurn p)) (.initial method payload)
    _ _ _ ((congrArg (sendNext · _) (CASendBlockWiseData_short hshort)).trans hsent)
    ⟨trivial, rfl⟩ ⟨trivial, trivial⟩
  rw [CAReceivedPacketCallback_request hmethod rfl rfl] at hfirst
  have hguard {t : BlockExchange} :
      overheads.guard (ClientInTurn p) t (.serverResponds result (some p)) := ⟨hreply, trivial⟩
  refine ⟨_, hfirst.tail hguard (blockStep_responds hlong rfl), ?_⟩
  constructor
  · exact ⟨_, rfl, ⟨rfl, hfetch, Or.inl ⟨⟨rfl, rfl, rfl⟩, rfl⟩⟩, rfl, rfl⟩
  · rfl
  · rfl
  · exact ⟨_, rfl, ⟨rfl, rfl, rfl, hreply⟩, rfl, rfl⟩
  · rfl
  · show [BlockMessage.data _] = _
    rw [BlockMessage.data, if_pos hmethod]

/-- The server comes to the last block. -/
theorem reaches_lastServing (hlong : 1024 < p.length) (hmax : p.length ≤ 2 ^ 30)
    (hshort : (payload.getD []).length ≤ 1024)
    (hmethod : isMethod (coapResponseCode method) = true)
    (hreply : IsReply p (.responseInfo result (some p)))
    {overheads : Overheads} (hroom : overheads.Fit) :
    ∃ s num, GuardedReaches blockStep (overheads.guard (ClientInTurn p))
        (.initial method payload) s ∧
      Serving p method payload result num s ∧
      num.toNat * 1024 < p.length ∧ p.length ≤ (num.toNat + 1) * 1024 := by
  obtain ⟨s, hs, hserving⟩ := reaches_serving hlong hshort hmethod hreply hroom
  have hfirst : (0 : BitVec 20).toNat * 1024 < p.length := by
    rw [show (0 : BitVec 20).toNat = 0 from rfl]
    omega
  obtain ⟨t, num, ht, hlast⟩ := hserving.last hmethod hshort hreply hfirst hmax hroom
  exact ⟨t, num, hs.trans ht, hlast⟩

/-- The last block is sent, and the client hands up the payload. -/
theorem Serving.handed {s : BlockExchange} (h : Serving p method payload result num s)
    (hreply : IsReply p (.responseInfo result (some p))) (hstart : num.toNat * 1024 < p.length)
    (hend : p.length ≤ (num.toNat + 1) * 1024) (hmax : p.length ≤ 2 ^ 30)
    {overheads : Overheads} (hroom : overheads.Fit) :
    ∃ t, GuardedReaches blockStep (overheads.guard (ClientInTurn p)) s t ∧
      t.server.received = [.requestInfo (coapResponseCode method).toNat (sentPayload payload)] ∧
      t.client.received = [.responseInfo (caResponseCode (coapResponseCode result)) (some p)] := by
  obtain ⟨message, next, hblock, hmessage, hcode, hreceived, -⟩ := h.block hreply hstart hmax hroom
  obtain ⟨data, hdata, hfetches, hnum, -⟩ := h.client
  refine ⟨_, hblock, hreceived.trans h.serverReceived, ?_⟩
  rw [receive_lastInTurn hmessage hdata hfetches hnum hend, h.clientReceived, hcode]
  rfl

end Round

/-- **The payload can always be fetched**: whatever room the messages leave as long as a block
fits, there is a run in which it arrives once and as it is. -/
theorem download_answered {p : List UInt8} {method result : Nat} {payload : Option (List UInt8)}
    (hlong : 1024 < p.length) (hmax : p.length ≤ 2 ^ 30)
    (hshort : (payload.getD []).length ≤ 1024)
    (hmethod : isMethod (coapResponseCode method) = true)
    (hreply : IsReply p (.responseInfo result (some p)))
    {overheads : Overheads} (hroom : overheads.Fit) :
    ∃ s, GuardedReaches blockStep (overheads.guard (ClientInTurn p))
        (.initial method payload) s ∧
      s.server.received = [.requestInfo (coapResponseCode method).toNat (sentPayload payload)] ∧
      s.client.received = [.responseInfo (caResponseCode (coapResponseCode result)) (some p)] := by
  obtain ⟨s, num, hs, hserving, hstart, hend⟩ :=
    reaches_lastServing hlong hmax hshort hmethod hreply hroom
  obtain ⟨t, ht, hreceived⟩ := hserving.handed hreply hstart hend hmax hroom
  exact ⟨t, hs.trans ht, hreceived⟩

/-- A payload of five blocks. -/
def fiveBlocks : List UInt8 := List.replicate 5000 7

theorem fiveBlocks_length : fiveBlocks.length = 5000 := List.length_replicate

theorem isReply_fiveBlocks : IsReply fiveBlocks (.responseInfo 205 (some fiveBlocks)) := by
  refine ⟨205, some fiveBlocks, rfl, by decide, by decide, by decide, fun q hq => ?_⟩
  exact ⟨(Option.some.inj hq).symm, by decide⟩

theorem download_answered_get :
    ∃ s, GuardedReaches blockStep (sampleOverheads.guard (ClientInTurn fiveBlocks))
        (.initial 1 none) s ∧
      s.server.received = [.requestInfo 1 none] ∧
      s.client.received = [.responseInfo 205 (some fiveBlocks)] :=
  @download_answered fiveBlocks 1 205 none (by rw [fiveBlocks_length]; decide)
    (by rw [fiveBlocks_length]; decide) (by decide) (by decide) isReply_fiveBlocks sampleOverheads
    sampleOverheads_fit

/-- The whole payload has been received in blocks. -/
theorem download_whole_received :
    ∃ s : BlockExchange, s.client.received = [.responseInfo 205 (some fiveBlocks)] ∧
      (∀ data ∈ s.client.received, ∀ q, data.payload = some q → q = fiveBlocks) ∧
      s.client.overrun = false ∧ s.server.overrun = false := by
  have hmax : fiveBlocks.length ≤ 2 ^ 30 := by
    rw [fiveBlocks_length]
    decide
  obtain ⟨s, num, hs, hserving, hstart, hend⟩ := @reaches_lastServing fiveBlocks 1 205 none
    (by rw [fiveBlocks_length]; decide) hmax (by decide) (by decide) isReply_fiveBlocks
    sampleOverheads sampleOverheads_fit
  obtain ⟨t, ht, -, hreceived⟩ :=
    hserving.handed isReply_fiveBlocks hstart hend hmax sampleOverheads_fit
  have hreaches := (hs.trans ht).imp fun _ _ h => h.1
  exact ⟨t, hreceived, @download_whole fiveBlocks 1 none hmax (by decide) (by decide) t hreaches⟩

end Coap
end FireEvacuation
