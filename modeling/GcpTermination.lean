import GcpTermination.Condition
import GcpTermination.Calls
import GcpTermination.Run.Step
import GcpTermination.Run.Signal
import GcpTermination.Run.Marking
import GcpTermination.Run.Outcome
import GcpTermination.Handler.System
import GcpTermination.Handler.Handshake
import GcpTermination.Handler.Guarantees
