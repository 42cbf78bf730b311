import CmsisCpp.Library.CallScript
import CmsisCpp.Library.ActionSystem
import CmsisCpp.Semaphore
import CmsisCpp.ConditionVariable.Exits
import CmsisCpp.ConditionVariable.Notification
import CmsisCpp.ConditionVariable.UntimedWait
import CmsisCpp.ConditionVariable.Order
import CmsisCpp.Mutex
import CmsisCpp.EventFlag
import CmsisCpp.MessageQueue
import CmsisCpp.MessageQueue.Objects
import CmsisCpp.MessageQueue.Custody
import CmsisCpp.MessageQueue.Clear
import CmsisCpp.EventFlag.Objects
import CmsisCpp.Memory.Steps
import CmsisCpp.Memory.Ownership
import CmsisCpp.Memory.SmartPointers
import CmsisCpp.ThisThread
import CmsisCpp.ThreadFlag
import CmsisCpp.WaitFlag.Programs
import CmsisCpp.TimedOperations
import CmsisCpp.Chrono
import CmsisCpp.Chrono.WallClock
import CmsisCpp.Timer.Model
import CmsisCpp.Timer.Steps
import CmsisCpp.Timer.OneShot
import CmsisCpp.Timer.Stale
import CmsisCpp.Timer.Dangling
import CmsisCpp.Thread.Impl
import CmsisCpp.Thread.Model
import CmsisCpp.Thread.Steps
import CmsisCpp.Thread.Lifetime
import CmsisCpp.Thread.Ownership
import CmsisCpp.Thread.Identifier
import CmsisCpp.Library.Nesting
import CmsisCpp.Dispatch
import CmsisCpp.Semaphore.Release
import CmsisCpp.ExpiredTimes
import CmsisCpp.MessageQueue.TimedGet
import CmsisCpp.EventFlag.Construction
import CmsisCpp.Timer.Handler
import CmsisCpp.Memory.Construction
import CmsisCpp.ThisThread.SleepUntil
import CmsisCpp.ConditionVariable.Monitor
import CmsisCpp.ConditionVariable.Progress
import CmsisCpp.ConditionVariable.Predicate
import CmsisCpp.Library.Clients
import CmsisCpp.Semaphore.Tokens
import CmsisCpp.ClientCalls
import CmsisCpp.Mutex.Exclusion
import CmsisCpp.Library.PriorityQueue
import CmsisCpp.MessageQueue.Delivery
import CmsisCpp.EventFlag.Waiters
import CmsisCpp.ThreadFlag.Waiters
import CmsisCpp.Library.LifeCycle
import CmsisCpp.Thread.Phases
import CmsisCpp.Thread.Control
import CmsisCpp.Library.Interference
import CmsisCpp.Threads
import CmsisCpp.Timer.Ownership
import CmsisCpp.Timer.Service
import CmsisCpp.Memory.Accounting
import CmsisCpp.Kernel
