import ScfLog.Basic
import ScfLog.Config
import ScfLog.Entry
import ScfLog.Payload
import ScfLog.SendChunk
import ScfLog.SendBatch
import ScfLog.Producer.Machine
import ScfLog.Producer.Buffer
import ScfLog.Producer.Accounting
import ScfLog.Producer.Exceptions
import ScfLog.Producer.Dispatch
import ScfLog.Producer.Progress
import ScfLog.Handler
import ScfLog.Loading
