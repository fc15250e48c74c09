import FireEvacuation.Core.Effects
import FireEvacuation.Core.Transition
import FireEvacuation.Core.Threads
import FireEvacuation.Core.Overlay
import FireEvacuation.Core.Chunks
import FireEvacuation.Core.PrefixCode
import FireEvacuation.Core.Framing
import FireEvacuation.Core.BinaryFormat
import FireEvacuation.Core.StepByStep
import FireEvacuation.Platform.StackResult
import FireEvacuation.Platform.ResourceRequest
import FireEvacuation.Platform.CText
import FireEvacuation.Redis.Format
import FireEvacuation.Redis.Store
import FireEvacuation.Redis.RedisDb
import FireEvacuation.Redis.WriteReadBack
import FireEvacuation.Redis.EntriesSnapshot
import FireEvacuation.Redis.ErrorReplies
import FireEvacuation.DevMgmt.Json
import FireEvacuation.DevMgmt.JsonReference
import FireEvacuation.DevMgmt.JsonAccuracy
import FireEvacuation.DevMgmt.Location
import FireEvacuation.DevMgmt.Room
import FireEvacuation.DevMgmt.DeviceClass
import FireEvacuation.DevMgmt.Device
import FireEvacuation.DevMgmt.DeviceObjects
import FireEvacuation.DevMgmt.DeviceCopies
import FireEvacuation.DevMgmt.ParseAccuracy
import FireEvacuation.DevMgmt.RoomObjects
import FireEvacuation.DevMgmt.RoomBuilder
import FireEvacuation.DevMgmt.BuiltRooms
import FireEvacuation.DevMgmt.DeviceMaps
import FireEvacuation.Server.GenericResource
import FireEvacuation.Server.PostedEntries
import FireEvacuation.Server.RequestHandling
import FireEvacuation.Server.PostAtomicity
import FireEvacuation.Server.Robustness
import FireEvacuation.Server.CleanDevices
import FireEvacuation.Server.WrittenFields
import FireEvacuation.Server.StoreRefinement
import FireEvacuation.Server.AliveTracking
import FireEvacuation.Stack.Observe
import FireEvacuation.Stack.ListNotification
import FireEvacuation.Stack.SetHost
import FireEvacuation.Stack.ObserverQos
import FireEvacuation.Server.ObserverAgreement
import FireEvacuation.Server.NotifierRound
import FireEvacuation.Server.NotifierThreads
import FireEvacuation.Speaker.Client
import FireEvacuation.Speaker.AlarmLatch
import FireEvacuation.Speaker.AlarmFailSafe
import FireEvacuation.Speaker.ProbeFiles
import FireEvacuation.Speaker.ProbeText
import FireEvacuation.Clients.LockDiscipline
import FireEvacuation.Clients.CallbackThreads
import FireEvacuation.Clients.RedisConnection
import FireEvacuation.Clients.CallAlone
import FireEvacuation.Clients.StatusAlone
import FireEvacuation.Clients.LatchThreads
import FireEvacuation.Clients.ServerSelection
import FireEvacuation.Clients.DeviceIdentity
import FireEvacuation.Clients.Ping
import FireEvacuation.Clients.BluetoothSettings
import FireEvacuation.Clients.EndpointChoice
import FireEvacuation.Clients.HeaderOptions
import FireEvacuation.SmartLed.AlarmMonotonicity
import FireEvacuation.Audio.Player
import FireEvacuation.Audio.SongHandover
import FireEvacuation.Audio.OutputDevices
import FireEvacuation.Compress.Zlib
import FireEvacuation.Compress.Execute
import FireEvacuation.Compress.StoredBlocks
import FireEvacuation.Compress.RoundTrip
import FireEvacuation.Coap.Options
import FireEvacuation.Coap.OptionCode
import FireEvacuation.Coap.Pdu
import FireEvacuation.Coap.Parsing
import FireEvacuation.Coap.Message
import FireEvacuation.Coap.RoundTrip
import FireEvacuation.Coap.TcpStream
import FireEvacuation.Coap.Retransmission
import FireEvacuation.Coap.BlockOption
import FireEvacuation.Coap.Blockwise
import FireEvacuation.Coap.BlockTransfer
import FireEvacuation.Coap.BlockUpload
import FireEvacuation.Coap.BlockDelivery
import FireEvacuation.Coap.BlockDownload
import FireEvacuation.Coap.BlockFetch
