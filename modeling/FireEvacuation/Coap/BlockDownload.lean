import FireEvacuation.Coap.BlockUpload

/-!
# A response in blocks

The server sends a long payload with the option `BLOCK2`, and the client asks for each block when
it has the one before.  Messages may be lost, doubled and overtake each other, but the client sends
what it has to send before it takes the next message.
-/

namespace FireEvacuation
namespace Coap

open FireEvacuation.Core

/-! ## The client -/

/-- What the application has been handed is all of the payload. -/
def IsWhole (p : List UInt8) (data : CAData) : Prop := ∀ q, data.payload = some q → q = p

/-- A response which is no error of the transfer: all of the payload, or none. -/
def IsReply (p : List UInt8) (data : CAData) : Prop :=
  ∃ result payload, data = .responseInfo result payload ∧
    isMethod (coapResponseCode result) = false ∧
    caResponseCode (coapResponseCode result) ≠ caRequestEntityIncomplete ∧
    caResponseCode (coapResponseCode result) ≠ caRequestEntityTooLarge ∧
    ∀ q, payload = some q → q = p ∧ coapResponseCode result ≠ 0

/-- The block with this number as a message of the server. -/
structure IsResponseBlock (p : List UInt8) (num : BitVec 20) (message : BlockMessage) : Prop where
  start : num.toNat * 1024 < p.length
  code : isMethod message.code = false
  code_ne_zero : message.code ≠ 0
  error : caResponseCode message.code ≠ caRequestEntityIncomplete ∧
    caResponseCode message.code ≠ caRequestEntityTooLarge
  block1 : message.block1 = none
  block2 : message.block2 = some (blockAt p num)
  size2 : message.size2 = if num = 0 then some p.length else none
  payload : message.payload = some (slice p num.toNat)

/-- A message of the server: a block, or all of the payload, or no payload. -/
inductive GoodReply (p : List UInt8) (message : BlockMessage) : Prop where
  | block (num : BitVec 20) (h : IsResponseBlock p num message)
  | plain (hcode : isMethod message.code = false)
      (herror : caResponseCode message.code ≠ caRequestEntityIncomplete)
      (hblock1 : message.block1 = none) (hblock2 : message.block2 = none)
      (hpayload : ∀ q, message.payload = some q → q = p)

/-- A message of the client: the request, the request for a further block, or the news that blocks
are missing. -/
inductive GoodFetch (message : BlockMessage) : Prop where
  | plain (hcode : isMethod message.code = true) (hblock1 : message.block1 = none)
      (hblock2 : message.block2 = none)
  | next (block : CoapBlock) (hcode : isMethod message.code = true)
      (hblock1 : message.block1 = none) (hblock2 : message.block2 = some block)
      (hpos : 0 < block.num.toNat) (hszx : block.szx = caDefaultBlockSize)
  | incomplete (hcode : message.code = coapResponseCode caRequestEntityIncomplete)
      (hblock1 : message.block1 = none) (hblock2 : message.block2 = none)
      (hpayload : message.payload = none)

/-- A request, with any payload. -/
def IsFetch (data : CAData) : Prop :=
  ∃ method payload, data = .requestInfo method payload ∧
    isMethod (coapResponseCode method) = true

/-- The entry of the client: nothing, or all bytes before the block which it asks for. -/
structure Fetches (p : List UInt8) (data : CABlockData) : Prop where
  szx : data.block2.szx = caDefaultBlockSize
  sentData : IsFetch data.sentData
  payload : (Blank data ∧ data.block2.num = 0) ∨
    (0 < data.block2.num.toNat ∧ data.block2.num.toNat * 1024 < p.length ∧
      Buffered p (data.block2.num.toNat * 1024) data)

/-- What the client is about to send: a request for the block at which the entry stands, which is
not the first one, or the news that blocks are missing. -/
def Asks (entry : Option CABlockData) (data : CAData) : Prop :=
  (IsFetch data ∧ ∀ current, entry = some current →
    current.type = none ∨ (current.type = some .block2 ∧ 0 < current.block2.num.toNat)) ∨
  data = .responseInfo caRequestEntityIncomplete none

/-- The client at any time. -/
structure ClientFetching (p : List UInt8) (device : BlockDevice) : Prop where
  blockData : ∀ data, device.blockData = some data → Fetches p data
  sendQueue : ∀ data, device.sendQueue.head? = some data → Asks device.blockData data
  atMostOne : device.sendQueue.length ≤ 1
  received : ∀ data ∈ device.received, IsWhole p data
  overrun : device.overrun = false

section Client

variable {p : List UInt8} {num : BitVec 20} {message : BlockMessage} {device : BlockDevice}
  {data : CABlockData}

/-- The entry with which the client goes on. -/
theorem fetches_checkTheExist (hcode : isMethod message.code = false)
    (h : ∀ data, device.blockData = some data → Fetches p data) :
    Fetches p (CACheckTheExistOfBlockData device message.code .block2) := by
  cases hdata : device.blockData with
  | none =>
      rw [CACheckTheExistOfBlockData, hdata]
      refine ⟨rfl, ⟨caGet, none, ?_, by decide⟩, Or.inl ⟨⟨rfl, rfl, rfl⟩, rfl⟩⟩
      show CACreateNewDataSet message.code = _
      rw [CACreateNewDataSet, hcode]
      rfl
  | some data =>
      obtain ⟨hszx, hsent, hpayload⟩ := h data hdata
      rw [CACheckTheExistOfBlockData, hdata, Option.getD_some]
      refine ⟨hszx, hsent, ?_⟩
      obtain ⟨⟨hnone, hzero, hcount⟩, hnum⟩ | ⟨hpos, hstart, hbuffer, htotal, hcount⟩ := hpayload
      · exact Or.inl ⟨⟨hnone, hzero, hcount⟩, hnum⟩
      · exact Or.inr ⟨hpos, hstart, hbuffer, htotal, hcount⟩

/-- The client goes on behind a block which it has. -/
theorem CAUpdateBlockOptionItems_option2Response {block : CoapBlock}
    (herror : caResponseCode message.code ≠ caRequestEntityIncomplete ∧
      caResponseCode message.code ≠ caRequestEntityTooLarge)
    (hszx : block.szx = data.block2.szx) :
    CAUpdateBlockOptionItems data message.code block .block2 .option2Response =
      if data.block2.num > block.num then none
      else some { block with num := block.num + 1, m := false } := by
  unfold CAUpdateBlockOptionItems
  rw [if_neg (not_or.mpr herror)]
  show Option.map _ (if data.block2.num > block.num then none else _) = _
  by_cases hearly : data.block2.num > block.num
  · rewrite [if_pos hearly]
    rfl
  · rw [if_neg hearly]
    show some (CANegotiateBlockSize data { block with num := block.num + 1, m := false } _ .block2)
      = _
    rw [CANegotiateBlockSize_same (show block.szx = data.block2.szx from hszx)]

/-- Only a request can ask for the first block. -/
theorem not_firstBlock {code : UInt8} (hcode : isMethod code = false) (block : CoapBlock) :
    ¬ (block.num = 0 ∧ code = 1 ∧ block.m = false) := by
  rintro ⟨-, rfl, -⟩
  cases hcode

/-- What the client does with the block it waits for. -/
theorem CASetNextBlockOption2_next (hm : IsResponseBlock p num message)
    (hdata : CACheckTheExistOfBlockData device message.code .block2 = data)
    (hfetches : Fetches p data) (hnum : data.block2.num = num) :
    ∃ after, after.block1 = data.block1 ∧ after.block2 = data.block2 ∧ after.type = data.type ∧
      after.sentData = data.sentData ∧
      Buffered p (min ((num.toNat + 1) * 1024) p.length) after ∧
      CASetNextBlockOption2 device message (blockAt p num) =
        if (blockAt p num).m then
          (.ok, CAAddSendThreadQueue { device with
            blockData := some { after with block2 := { blockAt p num with
              num := num + 1
              m := false } } } data.sentData)
        else (.ok, CARemoveBlockDataFromList (CAReceiveLastBlock device after message.data)) := by
  obtain ⟨hstart, hcode, -, herror, -, -, hsize, hpayload⟩ := hm
  obtain ⟨hszx, hsent, hstored⟩ := hfetches
  have hmore : (blockAt p num).m = true → (slice p num.toNat).length = 1024 := by
    intro hm
    have hm := of_decide_eq_true hm
    rw [slice_length]
    omega
  have hstored : (Blank data ∧ num.toNat = 0 ∧ message.size2 = some p.length) ∨
      (Buffered p (num.toNat * 1024) data ∧ message.size2 = none) := by
    rw [hsize]
    obtain ⟨hblank, hzero⟩ | ⟨hpos, -, hbuffered⟩ := hstored
    · obtain rfl : num = 0 := hnum.symm.trans hzero
      exact Or.inl ⟨hblank, rfl, rfl⟩
    · rw [hnum] at hpos hbuffered
      refine Or.inr ⟨hbuffered, if_neg ?_⟩
      rintro rfl
      exact absurd hpos (Nat.lt_irrefl 0)
  obtain ⟨buffer, hupdate, hlength, htake⟩ := CAUpdatePayloadData_inTurn hstart hstored .block2
  have hchecked : CACheckBlockErrorType (data.setLength message.size2) (blockAt p num)
      message.payload .block2 message.dataLen = (.unknown, data.setLength message.size2) := by
    rw [hpayload]
    apply CACheckBlockErrorType_inTurn
    · show (if num = data.block2.num then none else _) = none
      rw [hnum, if_pos rfl]
    · exact hmore
    · intro hm
      have hm := of_decide_eq_false hm
      show data.receivedPayloadLen + _ = message.size2.getD data.payloadLength
      rw [slice_length]
      obtain ⟨hblank, hzero, hsome⟩ | ⟨hbuffered, hnone⟩ := hstored
      · rw [hsome, Option.getD_some, hblank.receivedPayloadLen]
        omega
      · rw [hnone, Option.getD_none, hbuffered.payloadLength, hbuffered.receivedPayloadLen]
        omega
  generalize hgrown : ({ data with
    payload := some buffer
    payloadLength := p.length
    receivedPayloadLen := min ((num.toNat + 1) * 1024) p.length } : CABlockData) = grown at hupdate
  have hsame : grown.block1 = data.block1 ∧ grown.block2 = data.block2 ∧ grown.type = data.type ∧
      grown.sentData = data.sentData := by
    subst hgrown
    exact ⟨rfl, rfl, rfl, rfl⟩
  obtain ⟨hblock1, hblock2, htype, hsame⟩ := hsame
  refine ⟨grown, hblock1, hblock2, htype, hsame, ?_, ?_⟩
  · subst hgrown
    exact ⟨⟨buffer, rfl, hlength, htake⟩, rfl, rfl⟩
  · have hneither : ¬ (caResponseCode message.code = caRequestEntityIncomplete ∨
        caResponseCode message.code = caRequestEntityTooLarge) := not_or.mpr herror
    have hitems : CAUpdateBlockOptionItems grown message.code (blockAt p num) .block2
        .option2Response = some { blockAt p num with num := num + 1, m := false } := by
      rw [CAUpdateBlockOptionItems_option2Response herror (by rw [hblock2, hszx]; rfl), hblock2,
        hnum, if_neg (show ¬ num > (blockAt p num).num from BitVec.lt_irrefl num)]
      rfl
    unfold CASetNextBlockOption2
    dsimp only
    rw [if_neg (not_firstBlock hcode _), hcode, if_neg Bool.false_ne_true, if_neg hneither, hdata,
      hchecked]
    dsimp only
    rw [hpayload, hupdate]
    dsimp only
    rw [if_pos rfl, hitems]
    cases hm : (blockAt p num).m with
    | false =>
        rw [if_pos rfl, if_neg Bool.false_ne_true]
        rfl
    | true =>
        rw [if_neg (by decide), if_pos rfl, Option.bind_some, CAUpdateBlockData_default rfl]
        show (CAResult.ok, CASendBlockMessage _ _ message.code) = _
        rw [CASendBlockMessage_response hcode, ← hsame]
        rfl

/-- What the client does with a block it has already: it gives up. -/
theorem CASetNextBlockOption2_again (hm : IsResponseBlock p num message)
    (hdata : CACheckTheExistOfBlockData device message.code .block2 = data)
    (hfetches : Fetches p data) (hbefore : num < data.block2.num) :
    CASetNextBlockOption2 device message (blockAt p num) =
      (.failed, CARemoveBlockDataFromList device) := by
  have hcode := hm.code
  have hneither : ¬ (caResponseCode message.code = caRequestEntityIncomplete ∨
      caResponseCode message.code = caRequestEntityTooLarge) := not_or.mpr hm.error
  have hsequence : sequenceError (data.setLength message.size2) (blockAt p num) .block2 =
      some .blockReceivedAlready := by
    show (if num = data.block2.num then none else if num > data.block2.num then _ else _) = _
    rw [if_neg (BitVec.ne_of_lt hbefore), if_neg (BitVec.lt_asymm hbefore)]
  have hitems : CAUpdateBlockOptionItems (data.setLength message.size2) message.code
      (blockAt p num) .block2 .option2Response = none := by
    rw [CAUpdateBlockOptionItems_option2Response hm.error hfetches.szx.symm]
    exact if_pos hbefore
  unfold CASetNextBlockOption2
  dsimp only
  rw [if_neg (not_firstBlock hcode _), hcode, if_neg Bool.false_ne_true, if_neg hneither, hdata,
    CACheckBlockErrorType_error hsequence]
  dsimp only
  rw [hitems]
  rfl

/-- What the client does with a block for which others are missing: it tells the server, and
starts again. -/
theorem CASetNextBlockOption2_early (hm : IsResponseBlock p num message)
    (hdata : CACheckTheExistOfBlockData device message.code .block2 = data)
    (hfetches : Fetches p data) (hbehind : data.block2.num < num) :
    CASetNextBlockOption2 device message (blockAt p num) =
      (.ok, CAAddSendThreadQueue
        { device with blockData := some { data with block2 := blockAt p num }.restarted }
        (.responseInfo caRequestEntityIncomplete none)) := by
  have hcode := hm.code
  have hneither : ¬ (caResponseCode message.code = caRequestEntityIncomplete ∨
      caResponseCode message.code = caRequestEntityTooLarge) := not_or.mpr hm.error
  have hsequence : sequenceError (data.setLength message.size2) (blockAt p num) .block2 =
      some .blockIncomplete := by
    show (if num = data.block2.num then none else if num > data.block2.num then _ else _) = _
    rw [if_neg (Ne.symm (BitVec.ne_of_lt hbehind)), if_pos hbehind]
  have hitems : CAUpdateBlockOptionItems (data.setLength message.size2) message.code
      (blockAt p num) .block2 .blockIncomplete = some (blockAt p num) := by
    unfold CAUpdateBlockOptionItems
    rw [if_neg hneither]
    rfl
  have hkept : CAUpdatePayloadData (data.setLength message.size2) message.payload .blockIncomplete
      message.size2.isSome .block2 = some (data.setLength message.size2) := by
    rw [hm.payload]
    rfl
  obtain ⟨method, payload, hsent, -⟩ := hfetches.sentData
  unfold CASetNextBlockOption2
  dsimp only
  rw [if_neg (not_firstBlock hcode _), hcode, if_neg Bool.false_ne_true, if_neg hneither, hdata,
    CACheckBlockErrorType_error hsequence]
  dsimp only
  rw [hkept]
  dsimp only
  rw [if_neg (by decide), hitems, Option.bind_some, CAUpdateBlockData_default rfl]
  obtain ⟨block1, block2, type, sentData, buffer, total, count⟩ := data
  obtain rfl : sentData = _ := hsent
  rfl

/-- What is no block is handed up. -/
theorem CAReceiveBlockWiseData_plain (hcode : isMethod message.code = false)
    (herror : caResponseCode message.code ≠ caRequestEntityIncomplete)
    (hblock1 : message.block1 = none) (hblock2 : message.block2 = none) :
    CAReceiveBlockWiseData device message = (.ok, device) ∨
      CAReceiveBlockWiseData device message = (.notSupported, device) ∨
      CAReceiveBlockWiseData device message = (.notSupported, CARemoveBlockDataFromList device) := by
  unfold CAReceiveBlockWiseData
  by_cases hempty : message.code = 0
  · rw [if_pos hempty]
    cases device.blockData with
    | none => exact Or.inr (Or.inl rfl)
    | some data =>
        dsimp only
        split_ifs
        · exact Or.inl rfl
        · exact Or.inr (Or.inr rfl)
  · rw [if_neg hempty, hblock1, hblock2]
    dsimp only
    rw [if_neg herror, hcode, if_neg Bool.false_ne_true]
    exact Or.inr (Or.inr rfl)

theorem ClientFetching.removed (h : ClientFetching p device) (hqueue : device.sendQueue = []) :
    ClientFetching p (CARemoveBlockDataFromList device) where
  blockData := forall_of_none
  sendQueue := by
    rw [show (CARemoveBlockDataFromList device).sendQueue = [] from hqueue]
    exact forall_of_none
  atMostOne := h.atMostOne
  received := h.received
  overrun := h.overrun

theorem ClientFetching.handedUp (h : ClientFetching p device) {given : CAData}
    (hgiven : IsWhole p given) :
    ClientFetching p { device with received := device.received ++ [given] } :=
  ⟨h.blockData, h.sendQueue, h.atMostOne, forall_mem_concat h.received hgiven, h.overrun⟩

theorem ClientFetching.asks (h : ClientFetching p device) (hqueue : device.sendQueue = [])
    {after : CABlockData} (hafter : Fetches p after) {asked : CAData}
    (hasks : Asks (some after) asked) :
    ClientFetching p (CAAddSendThreadQueue { device with blockData := some after } asked) := by
  have hone : (CAAddSendThreadQueue { device with blockData := some after } asked).sendQueue =
      [asked] := by
    show device.sendQueue ++ [asked] = _
    rw [hqueue, List.nil_append]
  refine ⟨fun _ hdata => Option.some.inj hdata ▸ hafter, ?_, ?_, h.received, h.overrun⟩
  · rw [hone]
    exact fun _ hdata => Option.some.inj hdata ▸ hasks
  · rw [hone]
    exact Nat.le_refl 1

/-- The entry which asks for the next block. -/
theorem Fetches.next (h : Fetches p data) {after : CABlockData}
    (hsent : after.sentData = data.sentData)
    (hbuffered : Buffered p (min ((num.toNat + 1) * 1024) p.length) after)
    (hmore : (num.toNat + 1) * 1024 < p.length) (hmax : p.length ≤ 2 ^ 30) :
    Fetches p { after with block2 := { blockAt p num with num := num + 1, m := false } } ∧
      0 < (num + 1).toNat := by
  have hnext := next_toNat hmore hmax
  have hpos : 0 < (num + 1).toNat := hnext ▸ Nat.succ_pos _
  rw [Nat.min_eq_left (Nat.le_of_lt hmore), ← hnext] at hbuffered
  rw [← hnext] at hmore
  exact ⟨⟨rfl, hsent ▸ h.sentData, Or.inr ⟨hpos, hmore, hbuffered.payload,
    hbuffered.payloadLength, hbuffered.receivedPayloadLen⟩⟩, hpos⟩

theorem CAReceiveBlockWiseData_responseBlock (hm : IsResponseBlock p num message) :
    CAReceiveBlockWiseData device message =
      CASetNextBlockOption2 device message (blockAt p num) := by
  rw [CAReceiveBlockWiseData, if_neg hm.code_ne_zero, hm.block1, hm.block2]

/-- **A block keeps the client good** when it has nothing left to send. -/
theorem ClientFetching.block (h : ClientFetching p device) (hqueue : device.sendQueue = [])
    (hmax : p.length ≤ 2 ^ 30) (hm : IsResponseBlock p num message) :
    ClientFetching p (CASetNextBlockOption2 device message (blockAt p num)).2 ∧
      (CASetNextBlockOption2 device message (blockAt p num)).1 ≠ .notSupported := by
  have hfetches := fetches_checkTheExist hm.code h.blockData
  have htype : (CACheckTheExistOfBlockData device message.code .block2).type = some .block2 := rfl
  obtain ⟨data, hdata⟩ : ∃ data, CACheckTheExistOfBlockData device message.code .block2 = data :=
    ⟨_, rfl⟩
  rw [hdata] at hfetches htype
  obtain hbefore | hnum | hbehind := BitVec.lt_trichotomy num data.block2.num
  · rw [CASetNextBlockOption2_again hm hdata hfetches hbefore]
    exact ⟨h.removed hqueue, show CAResult.failed ≠ .notSupported by decide⟩
  · obtain ⟨after, -, -, haftertype, hsent, hbuffered, hnext⟩ :=
      CASetNextBlockOption2_next hm hdata hfetches hnum.symm
    rw [hnext]
    cases hmore : (blockAt p num).m with
    | true =>
        rw [if_pos rfl]
        refine ⟨?_, show CAResult.ok ≠ .notSupported by decide⟩
        obtain ⟨hafter, hpos⟩ :=
          hfetches.next hsent hbuffered (of_decide_eq_true hmore) hmax
        apply h.asks hqueue
        · exact hafter
        · refine Or.inl ⟨hfetches.sentData, fun current hcurrent => Or.inr ?_⟩
          rw [← Option.some.inj hcurrent]
          exact ⟨haftertype.trans htype, hpos⟩
    | false =>
        rw [if_neg Bool.false_ne_true]
        refine ⟨?_, show CAResult.ok ≠ .notSupported by decide⟩
        have hlast := of_decide_eq_false hmore
        obtain ⟨buffer, hbuffer, hwhole⟩ := hbuffered.whole (by omega)
        rw [CAReceiveLastBlock, hbuffer]
        dsimp only
        rw [hwhole]
        refine ClientFetching.handedUp (h.removed hqueue) fun q hq => ?_
        rw [withPayload_payload] at hq
        exact (Option.some.inj hq).symm
  · rw [CASetNextBlockOption2_early hm hdata hfetches hbehind]
    refine ⟨h.asks hqueue ?_ (Or.inr rfl), show CAResult.ok ≠ .notSupported by decide⟩
    exact ⟨rfl, hfetches.sentData, Or.inl ⟨⟨rfl, rfl, rfl⟩, rfl⟩⟩

/-- What the server may send to the client. -/
theorem ClientFetching.receive (h : ClientFetching p device) (hqueue : device.sendQueue = [])
    (hmax : p.length ≤ 2 ^ 30) (hm : GoodReply p message) :
    ClientFetching p (CAReceivedPacketCallback device message) := by
  cases hm with
  | block num hm =>
      obtain ⟨hgood, hhandled⟩ := h.block hqueue hmax hm
      rw [CAReceivedPacketCallback, CAReceiveBlockWiseData_responseBlock hm]
      generalize CASetNextBlockOption2 device message (blockAt p num) = next at hgood hhandled
      obtain ⟨result, next⟩ := next
      cases result with
      | ok => exact hgood
      | failed => exact hgood
      | notSupported => exact absurd rfl hhandled
  | plain hcode herror hblock1 hblock2 hpayload =>
      have hwhole : IsWhole p message.data := by
        rw [BlockMessage.data, hcode, if_neg Bool.false_ne_true]
        exact hpayload
      rw [CAReceivedPacketCallback]
      obtain hreceive | hreceive | hreceive :=
        @CAReceiveBlockWiseData_plain message device hcode herror hblock1 hblock2
      · rw [hreceive]
        exact h
      · rw [hreceive]
        exact h.handedUp hwhole
      · rw [hreceive]
        exact (h.removed hqueue).handedUp hwhole

/-- The request as a message without a block. -/
theorem goodFetch_plain {method : Nat} (payload : Option (List UInt8))
    (hmethod : isMethod (coapResponseCode method) = true) (overhead : Nat) :
    (CAAddBlockOption.plain (.requestInfo method payload) overhead device
      (coapResponseCode method)).2 = device ∧
    ∀ message, (CAAddBlockOption.plain (.requestInfo method payload) overhead device
      (coapResponseCode method)).1 = some message → GoodFetch message := by
  unfold CAAddBlockOption.plain
  split_ifs
  · refine ⟨rfl, fun message hmessage => ?_⟩
    cases hmessage
    exact .plain hmethod rfl rfl
  · exact ⟨rfl, nofun⟩

/-- What the request is sent as, and what becomes of the entry. -/
theorem CAAddBlockOption_fetch {method : Nat} (payload : Option (List UInt8))
    (hmethod : isMethod (coapResponseCode method) = true)
    (hentry : ∀ current, device.blockData = some current → current.block2.szx = caDefaultBlockSize ∧
      (current.type = none ∨ (current.type = some .block2 ∧ 0 < current.block2.num.toNat)))
    (overhead : Nat) :
    ((CAAddBlockOption device (.requestInfo method payload) overhead).2 = device ∨
      (CAAddBlockOption device (.requestInfo method payload) overhead).2 =
        CARemoveBlockDataFromList device) ∧
    ∀ message, (CAAddBlockOption device (.requestInfo method payload) overhead).1 = some message →
      GoodFetch message := by
  have herror := caResponseCode_of_isMethod hmethod
  have hplain := @goodFetch_plain device method payload hmethod overhead
  unfold CAAddBlockOption
  dsimp only [CAData.code]
  rw [if_neg herror.1]
  split_ifs with hlong
  · exact ⟨Or.inl rfl, nofun⟩
  · cases hdata : device.blockData with
    | none => exact ⟨Or.inl hplain.1, hplain.2⟩
    | some current =>
        obtain ⟨hszx, htype⟩ := hentry current hdata
        dsimp only
        obtain htype | ⟨htype, hpos⟩ := htype
        · rw [htype]
          exact ⟨Or.inl hplain.1, hplain.2⟩
        · rw [htype]
          dsimp only
          unfold CAAddBlockOption2
          dsimp only
          rw [if_pos hmethod]
          split_ifs
          · exact ⟨Or.inr rfl, nofun⟩
          · refine ⟨Or.inl rfl, fun message hmessage => ?_⟩
            cases hmessage
            exact .next current.block2 hmethod rfl rfl hpos hszx

/-- What the client sends. -/
theorem ClientFetching.send (h : ClientFetching p device) {overhead : Nat}
    {sent : Option BlockMessage} {next : BlockDevice}
    (hsent : sendNext device overhead = some (sent, next)) :
    ClientFetching p next ∧ ∀ message, sent = some message → GoodFetch message := by
  unfold sendNext at hsent
  cases hqueue : device.sendQueue with
  | nil =>
      rw [hqueue] at hsent
      cases hsent
  | cons data queue =>
      rw [hqueue] at hsent
      have hone := h.atMostOne
      rw [hqueue, List.length_cons] at hone
      obtain rfl : queue = [] := List.length_eq_zero_iff.mp (by omega)
      have hrest : ClientFetching p { device with sendQueue := [] } :=
        ⟨h.blockData, forall_of_none, Nat.zero_le _, h.received, h.overrun⟩
      have hasks := h.sendQueue data (by rw [hqueue]; rfl)
      have heq := Option.some.inj hsent
      obtain ⟨⟨method, payload, rfl, hmethod⟩, hentry⟩ | rfl := hasks
      · obtain ⟨hafter, hmessage⟩ := @CAAddBlockOption_fetch { device with sendQueue := [] } method
          payload hmethod (fun current hcurrent => ⟨(h.blockData current hcurrent).szx,
            hentry current hcurrent⟩) overhead
        rw [heq] at hafter hmessage
        refine ⟨?_, hmessage⟩
        obtain hafter | hafter := hafter
        · rw [show next = _ from hafter]
          exact hrest
        · rw [show next = _ from hafter]
          exact hrest.removed rfl
      · have hincomplete : CAAddBlockOption { device with sendQueue := [] }
            (.responseInfo caRequestEntityIncomplete none) overhead =
            (some ⟨coapResponseCode caRequestEntityIncomplete, none, none, none, none, none,
              overhead⟩, { device with sendQueue := [] }) := rfl
        rw [hincomplete] at heq
        cases heq
        refine ⟨hrest, fun message hmessage => ?_⟩
        cases hmessage
        exact .incomplete rfl rfl rfl rfl

end Client

/-! ## The server -/

/-- The entry of the server. -/
structure Serves (p : List UInt8) (data : CABlockData) : Prop where
  type : data.type = some .block2
  szx : data.block2.szx = caDefaultBlockSize
  block1 : data.block1.num = 0
  sentData : IsReply p data.sentData

/-- The server at any time. -/
structure ServerServing (p : List UInt8) (device : BlockDevice) : Prop where
  blockData : ∀ data, device.blockData = some data → Serves p data
  sendQueue : ∀ data ∈ device.sendQueue, IsReply p data
  overrun : device.overrun = false

section Server

variable {p : List UInt8} {message : BlockMessage} {device : BlockDevice} {data : CABlockData}

theorem ServerServing.removed (h : ServerServing p device) :
    ServerServing p (CARemoveBlockDataFromList device) :=
  ⟨forall_of_none, h.sendQueue, h.overrun⟩

theorem ServerServing.sends (h : ServerServing p device) (hdata : Serves p data) {reply : CAData}
    (hreply : IsReply p reply) :
    ServerServing p (CAAddSendThreadQueue { device with blockData := some data } reply) :=
  ⟨fun _ hsome => Option.some.inj hsome ▸ hdata, forall_mem_concat h.sendQueue hreply, h.overrun⟩

/-- What the server does with a request for a block which is not the first one. -/
theorem CASetNextBlockOption2_request (hcode : isMethod message.code = true)
    (hdata : CACheckTheExistOfBlockData device message.code .block2 = data)
    (hdataSzx : data.block2.szx = caDefaultBlockSize) {result : Nat}
    {payload : Option (List UInt8)} (hsent : data.sentData = .responseInfo result payload)
    {block : CoapBlock} (hpos : 0 < block.num.toNat) (hszx : block.szx = caDefaultBlockSize) :
    CASetNextBlockOption2 device message block = (.ok, CAAddSendThreadQueue
      { device with blockData := some { data with block2 := { block with m := false } } }
      data.sentData) := by
  have hneither : ¬ (caResponseCode message.code = caRequestEntityIncomplete ∨
      caResponseCode message.code = caRequestEntityTooLarge) :=
    not_or.mpr (caResponseCode_of_isMethod hcode)
  have hnotFirst : ¬ (block.num = 0 ∧ message.code = 1 ∧ block.m = false) := by
    rintro ⟨hzero, -⟩
    rw [hzero] at hpos
    exact absurd hpos (Nat.lt_irrefl 0)
  have hitems : CAUpdateBlockOptionItems data message.code block .block2 .option2Request =
      some { block with m := false } := by
    unfold CAUpdateBlockOptionItems
    rw [if_neg hneither]
    show some (CANegotiateBlockSize data { block with m := false } _ .block2) = _
    rw [CANegotiateBlockSize_same (show block.szx = data.block2.szx by rw [hszx, hdataSzx])]
  have hnextSzx : ({ block with m := false } : CoapBlock).szx = caDefaultBlockSize := hszx
  unfold CASetNextBlockOption2
  dsimp only
  rw [if_neg hnotFirst, hcode, if_pos rfl, hdata, hitems, Option.bind_some,
    CAUpdateBlockData_default hnextSzx]
  obtain ⟨block1, block2, type, sentData, buffer, total, count⟩ := data
  obtain rfl : sentData = _ := hsent
  rfl

/-- A request for a block keeps the server good. -/
theorem ServerServing.next (h : ServerServing p device) (hcode : isMethod message.code = true)
    {block : CoapBlock} (hpos : 0 < block.num.toNat) (hszx : block.szx = caDefaultBlockSize) :
    ServerServing p (CASetNextBlockOption2 device message block).2 ∧
      (CASetNextBlockOption2 device message block).1 = .ok := by
  have hserves : Serves p (CACheckTheExistOfBlockData device message.code .block2) := by
    cases hentry : device.blockData with
    | none =>
        rw [CACheckTheExistOfBlockData, hentry]
        refine ⟨rfl, rfl, rfl, ⟨0, none, ?_, by decide, by decide, by decide, forall_of_none⟩⟩
        show CACreateNewDataSet message.code = _
        rw [CACreateNewDataSet, if_pos hcode]
    | some data =>
        rw [CACheckTheExistOfBlockData_some hentry (h.blockData data hentry).type]
        exact h.blockData data hentry
  obtain ⟨data, hdata⟩ : ∃ data, CACheckTheExistOfBlockData device message.code .block2 = data :=
    ⟨_, rfl⟩
  rw [hdata] at hserves
  obtain ⟨htype, hdataSzx, hblock1, hreply⟩ := hserves
  obtain ⟨result, payload, hsent, -⟩ := id hreply
  rw [CASetNextBlockOption2_request hcode hdata hdataSzx hsent hpos hszx]
  refine ⟨h.sends ?_ hreply, rfl⟩
  exact ⟨htype, hszx, hblock1, hreply⟩

/-- The news that blocks are missing lets the server start again. -/
theorem ServerServing.restart (h : ServerServing p device) (hserves : Serves p data)
    (hentry : device.blockData = some data)
    (hcode : message.code = coapResponseCode caRequestEntityIncomplete)
    (hpayload : message.payload = none) :
    ServerServing p (CASetNextBlockOption2 device message data.block2).2 ∧
      (CASetNextBlockOption2 device message data.block2).1 = .ok := by
  have hdata := CACheckTheExistOfBlockData_some hentry hserves.type message.code
  have herror : caResponseCode message.code = caRequestEntityIncomplete := by
    rw [hcode]
    rfl
  have hmethod : isMethod message.code = false := by
    rw [hcode]
    rfl
  have hitems : CAUpdateBlockOptionItems (data.setLength message.size2) message.code data.block2
      .block2 .option2Response = some { data.block2 with num := 0 } := by
    unfold CAUpdateBlockOptionItems
    rw [if_pos (Or.inl herror), CAHandleBlockErrorResponse, if_pos herror]
  unfold CASetNextBlockOption2
  dsimp only
  rw [if_neg (not_firstBlock hmethod _), hmethod, if_neg Bool.false_ne_true,
    if_pos (Or.inl herror), hdata]
  dsimp only
  rw [hpayload]
  show ServerServing p (if _ then _ else _ : CAResult × BlockDevice).2 ∧
    (if _ then _ else _ : CAResult × BlockDevice).1 = _
  rw [if_pos rfl, hitems]
  split_ifs with hlast
  · refine ⟨?_, rfl⟩
    exact ⟨forall_of_none, h.sendQueue, h.overrun⟩
  · have hszx : ({ data.block2 with num := 0 } : CoapBlock).szx = caDefaultBlockSize := hserves.szx
    rw [Option.bind_some, CAUpdateBlockData_default hszx]
    refine ⟨?_, rfl⟩
    show ServerServing p (CASendBlockMessage _ _ message.code)
    rw [CASendBlockMessage_response hmethod]
    refine h.sends ?_ hserves.sentData
    exact ⟨hserves.type, hserves.szx, hserves.block1, hserves.sentData⟩

/-- A request for a further block. -/
theorem CAReceiveBlockWiseData_fetch (hcode : isMethod message.code = true) {block : CoapBlock}
    (hblock1 : message.block1 = none) (hblock2 : message.block2 = some block) :
    CAReceiveBlockWiseData device message = CASetNextBlockOption2 device message block := by
  rw [CAReceiveBlockWiseData, if_neg (isMethod_ne_zero hcode), hblock1, hblock2]

/-- What the client may send to the server. -/
theorem ServerServing.receive (h : ServerServing p device) (hm : GoodFetch message) :
    ServerServing p (CAReceivedPacketCallback device message) := by
  cases hm with
  | plain hcode hblock1 hblock2 =>
      rw [CAReceivedPacketCallback_request hcode hblock1 hblock2]
      exact ⟨h.blockData, h.sendQueue, h.overrun⟩
  | next block hcode hblock1 hblock2 hpos hszx =>
      obtain ⟨hgood, hok⟩ := h.next hcode hpos hszx
      rw [CAReceivedPacketCallback, CAReceiveBlockWiseData_fetch hcode hblock1 hblock2]
      generalize CASetNextBlockOption2 device message block = next at hgood hok
      obtain ⟨result, next⟩ := next
      obtain rfl : result = .ok := hok
      exact hgood
  | incomplete hcode hblock1 hblock2 hpayload =>
      have hzero : message.code ≠ 0 := by
        rw [hcode]
        decide
      have herror : caResponseCode message.code = caRequestEntityIncomplete := by
        rw [hcode]
        rfl
      rw [CAReceivedPacketCallback, CAReceiveBlockWiseData, if_neg hzero, hblock1, hblock2]
      dsimp only
      rw [if_pos herror]
      cases hentry : device.blockData with
      | none => exact h
      | some data =>
          have hserves := h.blockData data hentry
          obtain ⟨hgood, hok⟩ := h.restart hserves hentry hcode hpayload
          dsimp only
          rw [hserves.type]
          dsimp only
          generalize CASetNextBlockOption2 device message data.block2 = next at hgood hok
          obtain ⟨result, next⟩ := next
          obtain rfl : result = .ok := hok
          exact hgood

/-- The application answers. -/
theorem ServerServing.respond (h : ServerServing p device) {result : Nat}
    {payload : Option (List UInt8)} (hreply : IsReply p (.responseInfo result payload)) :
    ServerServing p (CASendBlockWiseData device (.responseInfo result payload)) := by
  unfold CASendBlockWiseData
  cases hdata : device.blockData with
  | none =>
      dsimp only
      unfold sendBlockData
      split_ifs
      · exact h.sends ⟨rfl, rfl, rfl, hreply⟩ hreply
      · exact ⟨h.blockData, forall_mem_concat h.sendQueue hreply, h.overrun⟩
  | some data =>
      obtain ⟨htype, hszx, hblock1, -⟩ := h.blockData data hdata
      dsimp only
      unfold sendBlockData
      split_ifs
      · refine h.sends ?_ hreply
        exact ⟨rfl, hszx, hblock1, hreply⟩
      · refine h.sends ?_ hreply
        exact ⟨htype, hszx, hblock1, hreply⟩

/-- A response without a block. -/
theorem goodReply_plain {result : Nat} {payload : Option (List UInt8)}
    (hreply : IsReply p (.responseInfo result payload)) (overhead : Nat) :
    (CAAddBlockOption.plain (.responseInfo result payload) overhead device
      (coapResponseCode result)).2 = device ∧
    ∀ message, (CAAddBlockOption.plain (.responseInfo result payload) overhead device
      (coapResponseCode result)).1 = some message → GoodReply p message := by
  obtain ⟨result, payload, heq, hcode, herror, -, hwhole⟩ := hreply
  cases heq
  unfold CAAddBlockOption.plain
  split_ifs
  · refine ⟨rfl, fun message hmessage => ?_⟩
    cases hmessage
    refine .plain hcode herror rfl rfl fun q hq => ?_
    have hq : payloadOption (payload.getD []) = some q := hq
    rw [payloadOption] at hq
    split_ifs at hq with hnil
    cases payload with
    | none => exact absurd rfl hnil
    | some bytes => rw [← Option.some.inj hq, Option.getD_some, (hwhole bytes rfl).1]
  · exact ⟨rfl, fun _ hmessage => hmessage.elim⟩

/-- A response which belongs to an entry: the block at which the entry stands. -/
theorem goodReply_block (hserves : Serves p data) {result : Nat} {payload : Option (List UInt8)}
    (hreply : IsReply p (.responseInfo result payload)) {overhead : Nat}
    (hmessage : (CAAddBlockOption2 device data (coapResponseCode result) payload overhead).1 =
      some message) : GoodReply p message := by
  obtain ⟨result, payload, heq, hcode, herror, hlarge, hwhole⟩ := hreply
  cases heq
  unfold CAAddBlockOption2 at hmessage
  dsimp only at hmessage
  rw [hcode, if_neg Bool.false_ne_true] at hmessage
  by_cases hbig : coapMaxPduSize < overhead
  · rw [if_pos hbig] at hmessage
    cases hmessage
  rw [if_neg hbig] at hmessage
  cases hbytes : coapAddBlock overhead (payload.getD [])
      (CASetMoreBitFromBlock (payload.getD []).length data.block2) with
  | none =>
      rw [hbytes] at hmessage
      cases hmessage
  | some bytes =>
      rw [CASetMoreBitFromBlock_default hserves.szx] at hbytes hmessage
      obtain ⟨hstart, -, rfl⟩ := (coapAddBlock_eq_some_iff rfl).mp hbytes
      rw [hbytes] at hmessage
      cases payload with
      | none => exact absurd hstart (Nat.not_lt_zero _)
      | some q =>
          obtain ⟨rfl, hne⟩ := hwhole q rfl
          rw [Option.getD_some] at hstart
          have hstart : data.block2.num.toNat * 1024 < q.length := hstart
          have hslice : slice q data.block2.num.toNat ≠ [] := slice_ne_nil hstart
          cases hmessage
          exact .block data.block2.num
            ⟨hstart, hcode, hne, ⟨herror, hlarge⟩, if_pos hserves.block1, rfl, rfl,
              if_neg hslice⟩

/-- The entry of the server after a response has been sent. -/
theorem CAAddBlockOption2_entry (hserves : Serves p data) {code : UInt8}
    (hcode : isMethod code = false) (payload : Option (List UInt8)) (overhead : Nat) :
    (CAAddBlockOption2 device data code payload overhead).2 = CARemoveBlockDataFromList device ∨
      ∃ after, Serves p after ∧
        (CAAddBlockOption2 device data code payload overhead).2 =
          { device with blockData := some after } := by
  have hafter : Serves p { data with
      block1 := { data.block1 with num := 0 }
      block2 := CASetMoreBitFromBlock (payload.getD []).length data.block2 } :=
    ⟨hserves.type, hserves.szx, rfl, hserves.sentData⟩
  unfold CAAddBlockOption2
  dsimp only
  rw [hcode, if_neg Bool.false_ne_true]
  by_cases hbig : coapMaxPduSize < overhead
  · rw [if_pos hbig]
    exact Or.inl rfl
  rw [if_neg hbig]
  cases coapAddBlock overhead (payload.getD [])
      (CASetMoreBitFromBlock (payload.getD []).length data.block2) with
  | none => exact Or.inr ⟨_, hafter, rfl⟩
  | some bytes =>
      dsimp only
      split_ifs
      · exact Or.inr ⟨_, hafter, rfl⟩
      · exact Or.inl rfl

/-- What the server sends. -/
theorem ServerServing.send (h : ServerServing p device) {overhead : Nat} {sent : Option BlockMessage}
    {next : BlockDevice} (hsent : sendNext device overhead = some (sent, next)) :
    ServerServing p next ∧ ∀ message, sent = some message → GoodReply p message := by
  unfold sendNext at hsent
  cases hqueue : device.sendQueue with
  | nil =>
      rw [hqueue] at hsent
      cases hsent
  | cons data queue =>
      rw [hqueue] at hsent
      have hall := h.sendQueue
      rw [hqueue] at hall
      have hrest : ServerServing p { device with sendQueue := queue } :=
        ⟨h.blockData, fun later hlater => hall later (List.mem_cons_of_mem _ hlater), h.overrun⟩
      have hreply := hall data List.mem_cons_self
      obtain ⟨result, payload, rfl, hcode, herror, -⟩ := id hreply
      have heq := Option.some.inj hsent
      generalize ({ device with sendQueue := queue } : BlockDevice) = device at hrest heq
      have hplain := @goodReply_plain p device result payload hreply overhead
      unfold CAAddBlockOption at heq
      dsimp only [CAData.code] at heq
      rw [if_neg herror] at heq
      split_ifs at heq with hlong
      · cases heq
        exact ⟨hrest, nofun⟩
      · cases hdata : device.blockData with
        | none =>
            rw [hdata] at heq
            rw [show next = _ from (congrArg Prod.snd heq).symm,
              show sent = _ from (congrArg Prod.fst heq).symm]
            exact ⟨(congrArg (ServerServing p) hplain.1).mpr hrest, hplain.2⟩
        | some data =>
            have hserves := hrest.blockData data hdata
            rw [hdata] at heq
            dsimp only at heq
            rw [hserves.type] at heq
            dsimp only at heq
            rw [show next = _ from (congrArg Prod.snd heq).symm,
              show sent = _ from (congrArg Prod.fst heq).symm]
            refine ⟨?_, fun message hmessage => goodReply_block hserves hreply hmessage⟩
            obtain hafter | ⟨after, hafter, hentry⟩ :=
              CAAddBlockOption2_entry hserves hcode payload overhead
            · exact (congrArg (ServerServing p) hafter).mpr hrest.removed
            · refine (congrArg (ServerServing p) hentry).mpr ⟨fun entry hsome => ?_,
                hrest.sendQueue, hrest.overrun⟩
              rw [← Option.some.inj hsome]
              exact hafter

end Server

end Coap
end FireEvacuation
