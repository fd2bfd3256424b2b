import LowLatencyBlocks.Library.Machine
import LowLatencyBlocks.Library.Progress
import LowLatencyBlocks.Library.Members
import LowLatencyBlocks.Library.CyclicStore
import LowLatencyBlocks.Library.WrappingCounter
import LowLatencyBlocks.Library.Fifo
import LowLatencyBlocks.Library.Lossy
import LowLatencyBlocks.Library.ListedSet
import LowLatencyBlocks.Library.Allocator
import LowLatencyBlocks.Library.BumpAllocator
import LowLatencyBlocks.Library.Buffer
import LowLatencyBlocks.Library.CString
import LowLatencyBlocks.Library.Records
import LowLatencyBlocks.Library.TornWrite
import LowLatencyBlocks.Library.Loop
import LowLatencyBlocks.Library.Checks
import LowLatencyBlocks.Library.Ownership
import LowLatencyBlocks.Macros
import LowLatencyBlocks.LockFreeQueue.Queue
import LowLatencyBlocks.LockFreeQueue.Sequential
import LowLatencyBlocks.LockFreeQueue.Interleaving
import LowLatencyBlocks.LockFreeQueue.Delivery
import LowLatencyBlocks.LockFreeQueue.SizeBounds
import LowLatencyBlocks.LockFreeQueue.PointerOnly
import LowLatencyBlocks.LockFreeQueue.ReadAfterRelease
import LowLatencyBlocks.LockFreeQueue.ConsumeFunction
import LowLatencyBlocks.LockFreeQueue.ThreadUtils
import LowLatencyBlocks.LockFreeQueue.ThreadStart
import LowLatencyBlocks.Logger.LogElement
import LowLatencyBlocks.Logger.Shutdown
import LowLatencyBlocks.Logger.Closing
import LowLatencyBlocks.Logger.EndlessWait
import LowLatencyBlocks.Logger.Format
import LowLatencyBlocks.Logger.Escape
import LowLatencyBlocks.Logger.LogFile
import LowLatencyBlocks.BinaryLoggerRingBuffer.BinaryLogger
import LowLatencyBlocks.BinaryLoggerRingBuffer.FileImage
import LowLatencyBlocks.BinaryLoggerRingBuffer.CrashImages
import LowLatencyBlocks.BinaryLoggerRingBuffer.Sessions
import LowLatencyBlocks.BinaryLoggerRingBuffer.LongStrings
import LowLatencyBlocks.BinaryLoggerRingBuffer.FailedConstruction
import LowLatencyBlocks.BinaryLoggerRingBuffer.RingBuffer
import LowLatencyBlocks.BinaryLoggerRingBuffer.RingInterleaving
import LowLatencyBlocks.BinaryLoggerRingBuffer.RingOverrun
import LowLatencyBlocks.BinaryLoggerRingBuffer.RingCounter
import LowLatencyBlocks.MemoryPool.MemPool
import LowLatencyBlocks.MemoryPool.Handing
import LowLatencyBlocks.MemoryPool.Availability
import LowLatencyBlocks.MemoryPool.BumpPool
import LowLatencyBlocks.MemoryPool.CyclicSearch
import LowLatencyBlocks.MemoryPool.Lifetimes
import LowLatencyBlocks.Sockets.TCPSocket
import LowLatencyBlocks.Sockets.OutgoingStream
import LowLatencyBlocks.Sockets.SendLoop
import LowLatencyBlocks.Sockets.IncomingStream
import LowLatencyBlocks.Sockets.SendBounds
import LowLatencyBlocks.Sockets.Endpoint
import LowLatencyBlocks.Sockets.Echo
import LowLatencyBlocks.Sockets.LogLines
import LowLatencyBlocks.Sockets.ConversationLog
import LowLatencyBlocks.Sockets.ReceiveTime
import LowLatencyBlocks.Sockets.SocketUtils
import LowLatencyBlocks.Sockets.OpenedDescriptors
import LowLatencyBlocks.Sockets.ReportedFailures
import LowLatencyBlocks.Sockets.TimeToLive
import LowLatencyBlocks.Sockets.TCPServer
import LowLatencyBlocks.Sockets.DescriptorOwners
import LowLatencyBlocks.Sockets.Reconnecting
import LowLatencyBlocks.Sockets.Connections
import LowLatencyBlocks.Sockets.Service
import LowLatencyBlocks.Sockets.Cleanup
import LowLatencyBlocks.Sockets.Registry
import LowLatencyBlocks.Sockets.AcceptDrain
import LowLatencyBlocks.UdpSockets.Datagrams
import LowLatencyBlocks.UdpSockets.UdpServer
import LowLatencyBlocks.UdpSockets.UdpMulticastSubscriber
import LowLatencyBlocks.UdpSockets.UdpMulticastSender
