import FireEvacuation.Coap.RoundTrip
import FireEvacuation.Coap.BlockOption

/-!
# Block-wise transfer

`cablockwisetransfer.c`.  A payload which is too long for one message is sent as a sequence of
blocks, with the option `BLOCK1` for requests and `BLOCK2` for responses.  Each side keeps a
`CABlockData_t` per token and endpoint; here it is the one of the messages looked at.

A message is taken as the functions of `BlockOption` read it.  Its type, its identifier and its
token, the address and the other options are left out, and so are allocations which fail.  The
bytes which header, token and options take are the `overhead` of a message: what does not fit
behind them is not sent.
-/

namespace FireEvacuation
namespace Coap

/-! ## Data -/

/-- `CAData_t`: a request or a response, with its method or result and its payload. -/
inductive CAData where
  | requestInfo (method : Nat) (payload : Option (List UInt8))
  | responseInfo (result : Nat) (payload : Option (List UInt8))
  deriving DecidableEq, Repr

/-- `CAGetPayloadInfo`. -/
def CAData.payload : CAData → Option (List UInt8)
  | requestInfo _ payload => payload
  | responseInfo _ payload => payload

/-- `CAUpdatePayloadToCAData`. -/
def CAData.withPayload (payload : List UInt8) : CAData → CAData
  | requestInfo method _ => requestInfo method (some payload)
  | responseInfo result _ => responseInfo result (some payload)

/-- The code in the header of the message. -/
def CAData.code : CAData → UInt8
  | requestInfo method _ => coapResponseCode method
  | responseInfo result _ => coapResponseCode result

/-- The codes of `CA_GET`, `CA_POST`, `CA_PUT` and `CA_DELETE`. -/
def isMethod (code : UInt8) : Bool := code = 1 ∨ code = 2 ∨ code = 3 ∨ code = 4

/-- `CA_GET`. -/
def caGet : Nat := 1

/-- `CA_CONTINUE`. -/
def caContinue : Nat := 231

/-- `CA_REQUEST_ENTITY_INCOMPLETE`. -/
def caRequestEntityIncomplete : Nat := 408

/-- `CA_REQUEST_ENTITY_TOO_LARGE`. -/
def caRequestEntityTooLarge : Nat := 413

/-- `CABlockState_t`. -/
inductive CABlockState where
  | unknown
  | option1Response
  | option1RequestLastBlock
  | option1RequestBlock
  | option2FirstBlock
  | option2LastBlock
  | option2Response
  | option2Request
  | blockIncomplete
  | blockTooLarge
  | blockReceivedAlready
  deriving DecidableEq, Repr

/-- The results of `CAResult_t` which the callers tell apart. -/
inductive CAResult where
  | ok
  | failed
  | notSupported
  deriving DecidableEq, Repr

/-- `CABlockData_t`.  The buffer for the payload is as long as the memory which was allocated. -/
structure CABlockData where
  block1 : CoapBlock
  block2 : CoapBlock
  type : Option BlockType
  sentData : CAData
  payload : Option (List UInt8)
  payloadLength : Nat
  receivedPayloadLen : Nat
  deriving DecidableEq, Repr

/-- The block of one option, as `CAGetBlockOption` finds it. -/
def CABlockData.block (data : CABlockData) : BlockType → CoapBlock
  | .block1 => data.block1
  | .block2 => data.block2

def CABlockData.setBlock (data : CABlockData) (block : CoapBlock) : BlockType → CABlockData
  | .block1 => { data with block1 := block }
  | .block2 => { data with block2 := block }

/-- A message as block-wise transfer reads it; `dataLen` is the length of all of it. -/
structure BlockMessage where
  code : UInt8
  block1 : Option CoapBlock
  block2 : Option CoapBlock
  size1 : Option Nat
  size2 : Option Nat
  payload : Option (List UInt8)
  dataLen : Nat
  deriving DecidableEq, Repr

/-- What `CAGenerateHandlerData` makes of a message. -/
def BlockMessage.data (message : BlockMessage) : CAData :=
  if isMethod message.code then .requestInfo message.code.toNat message.payload
  else .responseInfo (caResponseCode message.code) message.payload

/-- One side of the transfer: its entry in the list, the queue of the send thread, what has been
handed to the receive thread so far, and whether a copy has gone past its buffer. -/
structure BlockDevice where
  blockData : Option CABlockData
  sendQueue : List CAData
  received : List CAData
  overrun : Bool
  deriving DecidableEq, Repr

def BlockDevice.initial : BlockDevice := ⟨none, [], [], false⟩

/-- `CAAddSendThreadQueue`. -/
def CAAddSendThreadQueue (device : BlockDevice) (sendData : CAData) : BlockDevice :=
  { device with sendQueue := device.sendQueue ++ [sendData] }

/-- `CARemoveBlockDataFromList`. -/
def CARemoveBlockDataFromList (device : BlockDevice) : BlockDevice :=
  { device with blockData := none }

/-! ## Sizes of blocks -/

/-- `BLOCK_SIZE`. -/
def blockSize (szx : BitVec 3) : Nat := 1 <<< (szx.toNat + 4)

/-- `CA_DEFAULT_BLOCK_SIZE`. -/
def caDefaultBlockSize : BitVec 3 := 6

/-- `CASetMoreBitFromBlock`. -/
def CASetMoreBitFromBlock (payloadLen : Nat) (block : CoapBlock) : CoapBlock :=
  { block with m := (block.num.toNat + 1) <<< (block.szx.toNat + 4) < payloadLen }

/-- `coap_add_data` behind so many bytes: whether there is room for the payload and its marker. -/
def hasRoom (overhead : Nat) (data : List UInt8) : Bool :=
  overhead + (payloadText data).length ≤ coapMaxPduSize

/-- `coap_add_block`, with the bytes it adds. -/
def coapAddBlock (overhead : Nat) (data : List UInt8) (block : CoapBlock) : Option (List UInt8) :=
  let start := block.num.toNat <<< (block.szx.toNat + 4)
  if data.length ≤ start then none
  else
    let bytes := (data.drop start).take (min (data.length - start) (1 <<< (block.szx.toNat + 4)))
    if hasRoom overhead bytes then some bytes else none

/-- `CANegotiateBlockSize`. -/
def CANegotiateBlockSize (currData : CABlockData) (block : CoapBlock) (isReqMsg : Bool) :
    BlockType → CoapBlock
  | .block2 =>
      if block.szx > currData.block2.szx then
        if isReqMsg then { block with szx := currData.block2.szx }
        else
          { block with
            num := block.num +
              BitVec.ofNat 20 (blockSize block.szx / blockSize currData.block2.szx - 1)
            szx := currData.block2.szx }
      else block
  | .block1 =>
      if isReqMsg then
        if block.szx > currData.block1.szx then { block with szx := currData.block1.szx } else block
      else if block.szx < currData.block1.szx then
        { block with
          num := block.num +
            BitVec.ofNat 20 (blockSize currData.block1.szx / blockSize block.szx - 1) }
      else block

/-! ## A block which has arrived -/

/-- The size which replaces one for which there is no room. -/
def smallerSize (optionLen : Nat) : Option (BitVec 3) :=
  [6, 5, 4, 3, 2, 1, 0].find? fun size => blockSize size + optionLen ≤ coapMaxPduSize

/-- The second step of `CACheckBlockErrorType`: whether the block is the next one. -/
def sequenceError (currData : CABlockData) (receivedBlock : CoapBlock) :
    BlockType → Option CABlockState
  | .block1 =>
      if currData.receivedPayloadLen = blockSize receivedBlock.szx * receivedBlock.num.toNat then none
      else if receivedBlock.num.toNat > currData.block1.num.toNat + 1 then some .blockIncomplete
      else some .blockReceivedAlready
  | .block2 =>
      if receivedBlock.num = currData.block2.num then none
      else if receivedBlock.num > currData.block2.num then some .blockIncomplete
      else some .blockReceivedAlready

/-- `CACheckBlockErrorType`. -/
def CACheckBlockErrorType (currData : CABlockData) (receivedBlock : CoapBlock)
    (payload : Option (List UInt8)) (blockType : BlockType) (dataLen : Nat) :
    CABlockState × CABlockData :=
  let blockPayloadLen := (payload.getD []).length
  match sequenceError currData receivedBlock blockType with
  | some state => (state, currData)
  | none =>
      let optionLen := dataLen - blockPayloadLen
      if receivedBlock.m ∧ blockPayloadLen ≠ blockSize receivedBlock.szx then
        if coapMaxPduSize < blockSize receivedBlock.szx + optionLen then
          match smallerSize optionLen with
          | none => (.blockTooLarge, currData)
          | some size =>
              (.blockTooLarge, { currData with
                block1 := { currData.block1 with szx := size }
                block2 := { currData.block2 with szx := size } })
        else (.blockIncomplete, currData)
      else if receivedBlock.m = false ∧ currData.payloadLength ≠ 0 ∧
          currData.receivedPayloadLen + blockPayloadLen ≠ currData.payloadLength then
        (.blockIncomplete, currData)
      else (.unknown, currData)

/-- `CAUpdatePayloadData`; `none` when a copy would go past a buffer. -/
def CAUpdatePayloadData (currData : CABlockData) (payload : Option (List UInt8))
    (status : CABlockState) (isSizeOption : Bool) (blockType : BlockType) : Option CABlockData :=
  match payload with
  | none => some currData
  | some blockPayload =>
      if status = .blockIncomplete then some currData
      else
        let blockPayloadLen :=
          if status = .blockTooLarge then blockSize (currData.block blockType).szx
          else blockPayload.length
        let prePayloadLen := currData.receivedPayloadLen
        let prePayload := currData.payload.getD []
        let buffer : Option (List UInt8) :=
          if currData.payloadLength ≠ 0 then
            if isSizeOption then
              if currData.payloadLength < prePayloadLen ∨ prePayload.length < prePayloadLen then none
              else
                some (prePayload.take prePayloadLen ++
                  List.replicate (currData.payloadLength - prePayloadLen) 0)
            else currData.payload
          else if prePayload.length < prePayloadLen then none
          else some (prePayload.take prePayloadLen ++ List.replicate blockPayloadLen 0)
        match buffer with
        | none => none
        | some buffer =>
            if blockPayload.length < blockPayloadLen ∨
                buffer.length < prePayloadLen + blockPayloadLen then none
            else
              some { currData with
                payload := some (buffer.take prePayloadLen ++ blockPayload.take blockPayloadLen ++
                  buffer.drop (prePayloadLen + blockPayloadLen))
                receivedPayloadLen := prePayloadLen + blockPayloadLen }

/-- `CAHandleBlockErrorResponse`. -/
def CAHandleBlockErrorResponse (block : CoapBlock) (blockType : BlockType) (responseResult : Nat) :
    CoapBlock :=
  if responseResult = caRequestEntityIncomplete then { block with num := 0 }
  else
    match blockType with
    | .block1 => { block with num := block.num + 1, m := false }
    | .block2 => { block with m := false }

/-- `CAUpdateBlockOptionItems`. -/
def CAUpdateBlockOptionItems (currData : CABlockData) (code : UInt8) (block : CoapBlock)
    (blockType : BlockType) (status : CABlockState) : Option CoapBlock :=
  if caResponseCode code = caRequestEntityIncomplete ∨
      caResponseCode code = caRequestEntityTooLarge then
    some (CAHandleBlockErrorResponse block blockType (caResponseCode code))
  else
    let items : Option CoapBlock :=
      match status with
      | .option1Response =>
          if currData.block1.num > block.num then none else some { block with num := block.num + 1 }
      | .option2Request => some { block with m := false }
      | .option2Response =>
          if currData.block2.num > block.num then none
          else some { block with num := block.num + 1, m := false }
      | .blockTooLarge =>
          match blockType with
          | .block2 =>
              some { num := block.num + 1, m := false, szx := currData.block2.szx }
          | .block1 => some { block with szx := currData.block1.szx }
      | _ => some block
    items.map fun block =>
      if status = .blockIncomplete ∨ status = .blockTooLarge then block
      else CANegotiateBlockSize currData block (isMethod code) blockType

/-- `CAUpdateBlockData`. -/
def CAUpdateBlockData (currData : CABlockData) (block : CoapBlock) (blockType : BlockType) :
    Option CABlockData :=
  if block.szx > caDefaultBlockSize then none else some (currData.setBlock block blockType)

/-- `CASendBlockMessage`. -/
def CASendBlockMessage (device : BlockDevice) (data : CABlockData) (code : UInt8) : BlockDevice :=
  let sentData :=
    match isMethod code, data.sentData with
    | true, .responseInfo _ payload => .responseInfo caContinue payload
    | _, sentData => sentData
  CAAddSendThreadQueue { device with blockData := some { data with sentData := sentData } } sentData

/-- `CASendErrorMessage`. -/
def CASendErrorMessage (device : BlockDevice) (data : CABlockData) (status : CABlockState)
    (responseResult : Nat) : BlockDevice :=
  let cloneData : CAData :=
    match data.sentData with
    | .responseInfo _ payload => .responseInfo responseResult payload
    | .requestInfo _ _ => .responseInfo responseResult none
  let data :=
    if status = .blockIncomplete then
      { data with
        payload := none
        payloadLength := 0
        receivedPayloadLen := 0
        block1 := { data.block1 with num := 0 }
        block2 := { data.block2 with num := 0 } }
    else data
  CAAddSendThreadQueue { device with blockData := some data } cloneData

/-- `CAReceiveLastBlock`. -/
def CAReceiveLastBlock (device : BlockDevice) (data : CABlockData) (receivedData : CAData) :
    BlockDevice :=
  let cloneData :=
    match data.payload with
    | none => receivedData
    | some fullPayload => receivedData.withPayload (fullPayload.take data.receivedPayloadLen)
  { device with blockData := some data, received := device.received ++ [cloneData] }

/-- `CAProcessNextStep`, with the entry as it is now. -/
def CAProcessNextStep (device : BlockDevice) (data : CABlockData) (message : BlockMessage)
    (blockWiseStatus : CABlockState) : BlockDevice :=
  match blockWiseStatus with
  | .option2FirstBlock => CAAddSendThreadQueue { device with blockData := some data } message.data
  | .option2Request =>
      match data.sentData with
      | .responseInfo _ _ =>
          CAAddSendThreadQueue { device with blockData := some data } data.sentData
      | .requestInfo _ _ => { device with blockData := some data }
  | .option1Response => CASendBlockMessage device data message.code
  | .option2Response => CASendBlockMessage device data message.code
  | .option1RequestBlock => CASendBlockMessage device data message.code
  | .option2LastBlock => CARemoveBlockDataFromList (CAReceiveLastBlock device data message.data)
  | .option1RequestLastBlock => CAReceiveLastBlock device data message.data
  | .blockIncomplete => CASendErrorMessage device data .blockIncomplete caRequestEntityIncomplete
  | .blockTooLarge =>
      if isMethod message.code then
        CASendErrorMessage device data .blockTooLarge caRequestEntityTooLarge
      else CASendBlockMessage device data message.code
  | .unknown => { device with blockData := some data }
  | .blockReceivedAlready => { device with blockData := some data }

/-- `CACreateNewDataSet`. -/
def CACreateNewDataSet (code : UInt8) : CAData :=
  if isMethod code then .responseInfo 0 none else .requestInfo caGet none

/-- `CACreateNewBlockData`. -/
def CACreateNewBlockData (sendData : CAData) : CABlockData :=
  ⟨⟨0, false, caDefaultBlockSize⟩, ⟨0, false, caDefaultBlockSize⟩, none, sendData, none, 0, 0⟩

/-- `CACheckTheExistOfBlockData`. -/
def CACheckTheExistOfBlockData (device : BlockDevice) (code : UInt8) (blockType : BlockType) :
    CABlockData :=
  { device.blockData.getD (CACreateNewBlockData (CACreateNewDataSet code)) with
    type := some blockType }

/-- The total length which a size option brings. -/
def CABlockData.setLength (data : CABlockData) (size : Option Nat) : CABlockData :=
  { data with payloadLength := size.getD data.payloadLength }

/-- `CASetNextBlockOption1`. -/
def CASetNextBlockOption1 (device : BlockDevice) (message : BlockMessage) (block : CoapBlock) :
    CAResult × BlockDevice :=
  let data := CACheckTheExistOfBlockData device message.code .block1
  if isMethod message.code then
    match CACheckBlockErrorType (data.setLength message.size1) block message.payload .block1
        message.dataLen with
    | (.blockReceivedAlready, data) =>
        (.ok, CAProcessNextStep device data message
          (if block.m then .option1RequestBlock else .option1RequestLastBlock))
    | (status, data) =>
        match CAUpdatePayloadData data message.payload status message.size1.isSome .block1 with
        | none => (.failed, { device with overrun := true })
        | some data =>
            match (CAUpdateBlockOptionItems data message.code block .block1 status).bind
                fun block => CAUpdateBlockData data block .block1 with
            | none => (.failed, CARemoveBlockDataFromList device)
            | some data =>
                (.ok, CAProcessNextStep device data message
                  (if status = .unknown then
                    (if data.block1.m then .option1RequestBlock else .option1RequestLastBlock)
                  else status))
  else if block.m = false ∧ caResponseCode message.code ≠ caRequestEntityIncomplete ∧
      caResponseCode message.code ≠ caRequestEntityTooLarge then
    match message.block2 with
    | some _ =>
        (.ok, { device with
          blockData := some { data with block1 := { data.block1 with num := 0 } } })
    | none => (.ok, CARemoveBlockDataFromList (CAReceiveLastBlock device data message.data))
  else
    match CAUpdateBlockOptionItems data message.code block .block1 .option1Response with
    | none => (.failed, { device with blockData := some data })
    | some block =>
        match CAUpdateBlockData data block .block1 with
        | none => (.failed, CARemoveBlockDataFromList device)
        | some data => (.ok, CAProcessNextStep device data message .option1Response)

/-- `CASetNextBlockOption2`. -/
def CASetNextBlockOption2 (device : BlockDevice) (message : BlockMessage) (block : CoapBlock) :
    CAResult × BlockDevice :=
  let data := CACheckTheExistOfBlockData device message.code .block2
  let next (data : CABlockData) (status after : CABlockState) : CAResult × BlockDevice :=
    match (CAUpdateBlockOptionItems data message.code block .block2 status).bind
        fun block => CAUpdateBlockData data block .block2 with
    | none => (.failed, CARemoveBlockDataFromList device)
    | some data => (.ok, CAProcessNextStep device data message after)
  if block.num = 0 ∧ message.code = 1 ∧ block.m = false then next data .unknown .option2FirstBlock
  else if isMethod message.code then next data .option2Request .option2Request
  else
    let checked :=
      if caResponseCode message.code = caRequestEntityIncomplete ∨
          caResponseCode message.code = caRequestEntityTooLarge then
        (CABlockState.unknown, data.setLength message.size2)
      else
        CACheckBlockErrorType (data.setLength message.size2) block message.payload .block2
          message.dataLen
    match checked with
    | (.blockReceivedAlready, data) => next data .option2Response .option2Response
    | (status, data) =>
        match CAUpdatePayloadData data message.payload status message.size2.isSome .block2 with
        | none => (.failed, { device with overrun := true })
        | some data =>
            if status = .unknown then
              if block.m = false then (.ok, CAProcessNextStep device data message .option2LastBlock)
              else next data .option2Response .option2Response
            else next data status status

/-- `CAReceiveBlockWiseData`, for an empty message with the entry which belongs to its token. -/
def CAReceiveBlockWiseData (device : BlockDevice) (message : BlockMessage) :
    CAResult × BlockDevice :=
  if message.code = 0 then
    match device.blockData with
    | none => (.notSupported, device)
    | some data =>
        if data.block1.m ∨ data.block2.m then (.ok, device)
        else (.notSupported, CARemoveBlockDataFromList device)
  else
    match message.block1, message.block2 with
    | none, none =>
        if caResponseCode message.code = caRequestEntityIncomplete then
          match device.blockData with
          | none => (.failed, device)
          | some data =>
              match data.type with
              | none => (.failed, device)
              | some .block2 => CASetNextBlockOption2 device message data.block2
              | some .block1 => CASetNextBlockOption1 device message data.block1
        else if isMethod message.code then (.notSupported, device)
        else (.notSupported, CARemoveBlockDataFromList device)
    | some block1, none => CASetNextBlockOption1 device message block1
    | none, some block2 => CASetNextBlockOption2 device message block2
    | some block1, some block2 =>
        match CASetNextBlockOption1 device message block1 with
        | (.ok, device) => CASetNextBlockOption2 device message block2
        | refused => refused

/-- What `CAReceivedPacketCallback` does with a message: what is no part of a transfer is handed to
the receive thread as it is. -/
def CAReceivedPacketCallback (device : BlockDevice) (message : BlockMessage) : BlockDevice :=
  match CAReceiveBlockWiseData device message with
  | (.notSupported, device) => { device with received := device.received ++ [message.data] }
  | (_, device) => device

/-! ## Sending -/

/-- `CACheckPayloadLength`. -/
def CACheckPayloadLength (sendData : CAData) : Bool :=
  blockSize caDefaultBlockSize < (sendData.payload.getD []).length

/-- `CACheckBlockOptionType` of a message which needs blocks. -/
def CAData.blockType : CAData → BlockType
  | requestInfo _ _ => .block1
  | responseInfo _ _ => .block2

/-- What is sent of an entry which has been found or created; a message which needs no blocks is
put into the queue as it is. -/
def sendBlockData (device : BlockDevice) (currData : CABlockData) (sendData : CAData) :
    BlockDevice :=
  if CACheckPayloadLength sendData then
    CAAddSendThreadQueue
      { device with blockData := some { currData with type := some sendData.blockType } } sendData
  else CAAddSendThreadQueue { device with blockData := some currData } sendData

/-- `CASendBlockWiseData`, with what its caller does with a message which needs no blocks.  A
response belongs to the entry of its request if there is one, a request gets an entry in any
case. -/
def CASendBlockWiseData (device : BlockDevice) (sendData : CAData) : BlockDevice :=
  match sendData, device.blockData with
  | .responseInfo _ _, some currData =>
      sendBlockData device { currData with sentData := sendData } sendData
  | .responseInfo _ _, none =>
      if CACheckPayloadLength sendData then
        sendBlockData device (CACreateNewBlockData sendData) sendData
      else CAAddSendThreadQueue device sendData
  | .requestInfo _ _, _ => sendBlockData device (CACreateNewBlockData sendData) sendData

/-- The payload as the receiver gets it: no payload if there are no bytes. -/
def sentPayload (payload : Option (List UInt8)) : Option (List UInt8) :=
  payloadOption (payload.getD [])

/-- `CAAddBlockOption1`.  Without room for the options the entry is removed. -/
def CAAddBlockOption1 (device : BlockDevice) (currData : CABlockData) (code : UInt8)
    (payload : Option (List UInt8)) (overhead : Nat) : Option BlockMessage × BlockDevice :=
  let data := payload.getD []
  if coapMaxPduSize < overhead then (none, CARemoveBlockDataFromList device)
  else if isMethod code then
    let block1 := CASetMoreBitFromBlock data.length currData.block1
    let after := { device with blockData := some { currData with block1 := block1 } }
    match coapAddBlock overhead data block1 with
    | none => (none, after)
    | some bytes =>
        (some ⟨code, some block1, none, if block1.num = 0 then some data.length else none, none,
          payloadOption bytes, overhead + (payloadText bytes).length⟩, after)
  else if hasRoom overhead data then
    (some ⟨code, some currData.block1, none, none, none, sentPayload payload,
        overhead + (payloadText data).length⟩,
      if currData.block1.m then device else CARemoveBlockDataFromList device)
  else (none, device)

/-- `CAAddBlockOption2`. -/
def CAAddBlockOption2 (device : BlockDevice) (currData : CABlockData) (code : UInt8)
    (payload : Option (List UInt8)) (overhead : Nat) : Option BlockMessage × BlockDevice :=
  let data := payload.getD []
  if coapMaxPduSize < overhead then (none, CARemoveBlockDataFromList device)
  else if isMethod code then
    (some ⟨code, none, some currData.block2, none, none, none, overhead⟩, device)
  else
    let block2 := CASetMoreBitFromBlock data.length currData.block2
    let block1 := if currData.block1.num = 0 then none else some currData.block1
    let after := { device with
      blockData := some { currData with
        block1 := { currData.block1 with num := 0 }
        block2 := block2 } }
    match coapAddBlock overhead data block2 with
    | none => (none, after)
    | some bytes =>
        (some ⟨code, block1, some block2, none, if block2.num = 0 then some data.length else none,
            payloadOption bytes, overhead + (payloadText bytes).length⟩,
          if block2.m then after else CARemoveBlockDataFromList after)

/-- `CAAddBlockOption`: the message which the send thread makes of a request or a response. -/
def CAAddBlockOption (device : BlockDevice) (sendData : CAData) (overhead : Nat) :
    Option BlockMessage × BlockDevice :=
  let code := sendData.code
  if 2 ^ 32 ≤ (sendData.payload.getD []).length then (none, device)
  else if caResponseCode code = caRequestEntityIncomplete then
    -- the options are not added
    (some ⟨code, none, none, none, none, none, overhead⟩, device)
  else
    match device.blockData with
    | none => plain device code
    | some currData =>
        match currData.type with
        | none => plain device code
        | some .block1 => CAAddBlockOption1 device currData code sendData.payload overhead
        | some .block2 => CAAddBlockOption2 device currData code sendData.payload overhead
where
  /-- The message without a block option. -/
  plain (device : BlockDevice) (code : UInt8) : Option BlockMessage × BlockDevice :=
    if hasRoom overhead (sendData.payload.getD []) then
      (some ⟨code, none, none, none, none, sentPayload sendData.payload,
        overhead + (payloadText (sendData.payload.getD [])).length⟩, device)
    else (none, device)

/-- One turn of the send thread; `none` if nothing is to be sent. -/
def sendNext (device : BlockDevice) (overhead : Nat) :
    Option (Option BlockMessage × BlockDevice) :=
  match device.sendQueue with
  | [] => none
  | sendData :: queue => some (CAAddBlockOption { device with sendQueue := queue } sendData overhead)

/-! ## Both sides -/

/-- Both sides of an exchange, and all messages sent so far.  Any of them may still arrive, any
number of times and in any order. -/
structure BlockExchange where
  client : BlockDevice
  server : BlockDevice
  requests : List BlockMessage
  responses : List BlockMessage
  deriving DecidableEq, Repr

/-- What can happen next. -/
inductive BlockEvent where
  | clientSends (overhead : Nat)
  | serverSends (overhead : Nat)
  | serverReceives (i : Nat)
  | clientReceives (i : Nat)
  | serverResponds (result : Nat) (payload : Option (List UInt8))
  deriving DecidableEq, Repr

/-- The client has been given a request to send. -/
def BlockExchange.initial (method : Nat) (payload : Option (List UInt8)) : BlockExchange :=
  ⟨CASendBlockWiseData .initial (.requestInfo method payload), .initial, [], []⟩

def blockStep (s : BlockExchange) : BlockEvent → Option BlockExchange
  | .clientSends overhead =>
      (sendNext s.client overhead).map fun sent =>
        { s with client := sent.2, requests := s.requests ++ sent.1.toList }
  | .serverSends overhead =>
      (sendNext s.server overhead).map fun sent =>
        { s with server := sent.2, responses := s.responses ++ sent.1.toList }
  | .serverReceives i =>
      s.requests[i]?.map fun message =>
        { s with server := CAReceivedPacketCallback s.server message }
  | .clientReceives i =>
      s.responses[i]?.map fun message =>
        { s with client := CAReceivedPacketCallback s.client message }
  | .serverResponds result payload =>
      some { s with server := CASendBlockWiseData s.server (.responseInfo result payload) }

end Coap
end FireEvacuation
