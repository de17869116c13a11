import Schedulers.Support.InterruptibleProgram
import Schedulers.Support.TransitionSystem
import Schedulers.Support.Progress
import Schedulers.Support.Projection
import Schedulers.Support.Tally
import Schedulers.Support.WorkPool
import Schedulers.Support.HandlerService
import Schedulers.Support.BroadcastMonitor
import Schedulers.Support.FifoHistory
import Schedulers.Support.ThreadCounting
import Schedulers.Support.NotifyMonitor
import Schedulers.Support.LockedObjects
import Schedulers.Support.LockedCode
import Schedulers.Support.CodeMonitors
import Schedulers.Support.HandLockedMonitors
import Schedulers.Support.DelayLine
import Schedulers.Support.SleepCalls
import Schedulers.Support.CIntegers
import Schedulers.TimeTriggered.Sch51Model
import Schedulers.TimeTriggered.Sch51Specifications
import Schedulers.TimeTriggered.Sch51Timing
import Schedulers.TimeTriggered.Sch51Activations
import Schedulers.TimeTriggered.Sch51NullCalls
import Schedulers.TimeTriggered.Sch51Ledger
import Schedulers.TimeTriggered.Sch51Displacement
import Schedulers.TimeTriggered.Sch51Handles
import Schedulers.TimeTriggered.Sch51Reentry
import Schedulers.TimeTriggered.Sch51DispatchPass
import Schedulers.TimeTriggered.Sch51OneShot
import Schedulers.TimeTriggered.Sch51CallTables
import Schedulers.TimeTriggered.Sch51Bounds
import Schedulers.TimeTriggered.Sch51AddAtomicity
import Schedulers.Sequencer.SequencerModel
import Schedulers.Sequencer.SequencerShutdown
import Schedulers.Sequencer.SequencerReleases
import Schedulers.Sequencer.DriftControl
import Schedulers.Sequencer.SequencerDelay
import Schedulers.RtClock.DelayTest
import Schedulers.RtClock.DeltaT
import Schedulers.RtTimer.PosixRtTimer
import Schedulers.Queues.BoundedBlockedQueueModel
import Schedulers.Queues.BoundedBlockedQueueWakeups
import Schedulers.Queues.BoundedBlockedQueueOrder
import Schedulers.Queues.BlockedQueue
import Schedulers.Queues.MessageQueue
import Schedulers.Queues.BoundedTryQueue
import Schedulers.Queues.QueuePthread
import Schedulers.Queues.BlockingTryQueueModel
import Schedulers.Queues.BlockingTryQueueThrows
import Schedulers.Queues.BlockingTryQueueCounter
import Schedulers.Queues.BlockingTryQueueStop
import Schedulers.Queues.PthreadQueueThrows
import Schedulers.Queues.QueueCapacity
import Schedulers.Threading.ExecutorsModel
import Schedulers.Threading.ExecutorsSteps
import Schedulers.Threading.ExecutorsShutdown
import Schedulers.Threading.QtExecutorsModel
import Schedulers.Threading.QtExecutorsCounts
import Schedulers.Threading.QtExecutorsSteps
import Schedulers.Threading.QtExecutorsChain
import Schedulers.Threading.QtExecutorsProgram
import Schedulers.CsExecutors.ScopeModel
import Schedulers.CsExecutors.ScopeSteps
import Schedulers.CsExecutors.ScopeOrder
import Schedulers.CsExecutors.ScopeDispose
import Schedulers.Actors.ActorsModel
import Schedulers.Actors.ActorsDrain
import Schedulers.Actors.AsioThreadPool
import Schedulers.Actors.AsioThreadPoolShutdown
import Schedulers.Pipeline.CyclicalBufferModel
import Schedulers.Pipeline.CyclicalBufferDelay
import Schedulers.Pipeline.RnnStream
import Schedulers.Pipeline.RecognitionFlowModel
import Schedulers.Pipeline.RecognitionFlow
import Schedulers.Stlab.SerialQueueModel
import Schedulers.Stlab.SerialQueueDrain
import Schedulers.Stlab.CopyOnWriteModel
import Schedulers.Stlab.CopyOnWriteSharing
import Schedulers.Stlab.CopyOnWriteValues
import Schedulers.Stlab.TaskSystemModel
import Schedulers.Stlab.TaskSystemDelivery
import Schedulers.Stlab.TaskSystemWakeups
import Schedulers.Stlab.SystemTimerModel
import Schedulers.Stlab.SystemTimerTasks
import Schedulers.Stlab.WhenContextModel
import Schedulers.Stlab.WhenContextSteps
import Schedulers.Stlab.WhenContextValues
import Schedulers.Stlab.WhenContextResults
import Schedulers.Futures.FuturesModel
import Schedulers.Futures.FuturesSteps
import Schedulers.Futures.FuturesOwners
import Schedulers.Futures.FuturesValues
import Schedulers.Futures.FuturesRest
import Schedulers.Futures.FuturesHeld
import Schedulers.Futures.FuturesBroken
