import SocketBridge.Config
import SocketBridge.Address
import SocketBridge.Text.Quoted

/-!
# Rules for settings

Every broken rule is reported, in one fixed order, and not only the first.
-/

namespace SocketBridge

/-- A rule that settings break: the path of the setting and what is wrong with it. -/
structure Violation where
  field : String
  message : String
deriving DecidableEq

def Violation.text (v : Violation) : String := s!"{v.field}: {v.message}"

/-- The smallest read buffer, with room for any character and some more. -/
def minReadBuffer : UInt64 := 64

def logLevels : List String := ["trace", "debug", "info", "warn", "error"]

/-- One violation if a condition holds. -/
def violationIf (broken : Bool) (field message : String) : List Violation :=
  if broken then [⟨field, message⟩] else []

/-- The rules the bridge itself depends on. -/
def IoConfig.violations (c : IoConfig) : List Violation :=
  violationIf (c.workerThreads == 0) "io.worker_threads" "must be at least 1" ++
  violationIf (c.threadName == "") "io.thread_name" "must not be empty" ++
  violationIf (c.readBufferSize < minReadBuffer) "io.read_buffer_size"
    s!"must be at least {minReadBuffer.toNat} bytes" ++
  violationIf (c.listenBacklog == 0) "io.listen_backlog" "must be positive"

def ServerConfig.violations (c : ServerConfig) : List Violation :=
  violationIf (c.bindHost == some "") "server.bind_host"
    "must not be empty; omit it to bind every family"

def ObservabilityConfig.violations (c : ObservabilityConfig) : List Violation :=
  violationIf (!logLevels.contains c.lowerLevel) "observability.log_level"
    ("unknown level " ++ Text.quoted c.logLevel) ++
  violationIf (SocketAddr.ofText? c.metricsAddress.toList).isNone "observability.metrics_address"
    (Text.quoted c.metricsAddress ++ " is not a socket address")

def BridgeConfig.violations (c : BridgeConfig) : List Violation :=
  c.io.violations ++ c.server.violations ++ c.observability.violations

end SocketBridge
