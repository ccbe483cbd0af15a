import EspHosted.GuardedRun
import EspHosted.SlotTable
import EspHosted.RpcTables
import EspHosted.RpcCore
import EspHosted.RpcSteps
import EspHosted.SyncRspTable
import EspHosted.TransmitFailure
import EspHosted.UidNumbering
import EspHosted.ResponseMatching
import EspHosted.QueuedRequests
import EspHosted.RequestLifetime
import EspHosted.AsyncRequests
import EspHosted.AsyncTimers
import EspHosted.Segments
import EspHosted.SerialFragments
import EspHosted.SerialLoss
import EspHosted.BitWords
import EspHosted.StationConfig
import EspHosted.RpcResponses
import EspHosted.HostFrames
import EspHosted.SlaveFrames
import EspHosted.QueueBank
import EspHosted.SlaveDriver
import EspHosted.DataReady
import EspHosted.SerialReceiver
import EspHosted.SpiDriver
import EspHosted.BufferOwnership
import EspHosted.HostWakeup
import EspHosted.SpiQuiescence
import EspHosted.SpiLink
import EspHosted.Throttling
import EspHosted.SerialHandover
import EspHosted.ConfigReadback
import EspHosted.ApRecords
import EspHosted.OtaUpdate
import EspHosted.OwnedParts
import EspHosted.SlaveRequests
import EspHosted.RequestSafety
import EspHosted.TxScheduling
import EspHosted.SlaveScheduler
import EspHosted.ByteCursor
import EspHosted.SerialTlv
import EspHosted.SerialSend
import EspHosted.ResourceTrace
import EspHosted.RxBuffers
import EspHosted.RxOwnership
import EspHosted.RxDraining
import EspHosted.RpcLifecycle
import EspHosted.RpcRestart
import EspHosted.ChannelPools
import EspHosted.InitEvent
import EspHosted.WlanScan
import EspHosted.WrapCount
import EspHosted.WriteCredits
import EspHosted.ReadCounters
import EspHosted.SlaveCredits
import EspHosted.SerialRead
import EspHosted.RequestRecords
import EspHosted.OutgoingLength
import EspHosted.FrameCorruption
import EspHosted.AccumulatorBlocks
import EspHosted.RdataGrowth
import EspHosted.TransmitBounds
import EspHosted.AccessTrace
import EspHosted.ParseBounds
import EspHosted.ScanFetch
import EspHosted.SyncGetters
import EspHosted.EventForwarding
import EspHosted.ByteRing
import EspHosted.VhciStream
import EspHosted.TimeoutTicks
import EspHosted.Hysteresis
import EspHosted.ThrottleHysteresis
import EspHosted.OtaProgress
import EspHosted.Numerals
import EspHosted.Ipv4Parser
import EspHosted.Ipv4Text
import EspHosted.RxPackets
import EspHosted.UartReceive
import EspHosted.SdioStream
import EspHosted.SdioDoubleBuffer
import EspHosted.RxPoolOwnership
import EspHosted.TxFrames
import EspHosted.WriteTasks
import EspHosted.BlockShelf
import EspHosted.MempoolBlocks
import EspHosted.EventMirror
import EspHosted.LinkOrder
import EspHosted.RpcChannel
import EspHosted.RpcConversation
import EspHosted.SlaveMempool
import EspHosted.UartLink
import EspHosted.Dialogue
import EspHosted.SlaveTxBuffers
import EspHosted.WlanDriver
import EspHosted.WlanHistory
import EspHosted.OtaHistory
import EspHosted.RemoteCalls
import EspHosted.SdioUplink
import EspHosted.WifiCalls
import EspHosted.WifiProxy
import EspHosted.SlotOwners
import EspHosted.SlotRuns
import EspHosted.SlotSafety
