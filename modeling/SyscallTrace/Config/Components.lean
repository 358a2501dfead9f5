import SyscallTrace.Capture.Settings
import SyscallTrace.Config.Basic
import SyscallTrace.Suppression.Builder

/-!
# Configured components

How the settings of a producer and the start of a suppression engine are read from a configuration.
Fields that are not there leave the defaults; of several faults the first one in the order of
reading is reported (specification §11.3).
-/

namespace SyscallTrace

/-- The ports from `first` to `last`, none if `last` is zero. -/
def PortRange.ofFields (first last : UInt16) : Except ConfigError (Option PortRange) :=
  if last = 0 then .ok none
  else if first ≤ last then .ok (some { first, last })
  else
    .error (.invalid "fullcapture_port_range_start" (toString first.toNat) (.aboveRangeEnd last))

/-- The settings of a configuration. -/
def CaptureSettings.ofConfig (c : Config) : Except ConfigError CaptureSettings := do
  let defaults : CaptureSettings := {}
  let first ← c.withDefault .uint16 "fullcapture_port_range_start" 0
  let last ← c.withDefault .uint16 "fullcapture_port_range_end" 0
  let fullCapture ← PortRange.ofFields first last
  let snaplen ← c.withDefault .uint32 "snaplen" defaults.snaplen
  let dynamic ← c.withDefault .truth "dynamic_snaplen" defaults.dynamic
  let statsdPort ← c.withDefault .uint16 "statsd_port" defaults.statsdPort
  return { snaplen, dynamic, fullCapture, statsdPort }

/-- The commands and threads that a configuration names. -/
def SuppressionConfig.ofConfig (c : Config) : Except ConfigError SuppressionConfig := do
  let commands ← c.list .text "suppressed_comms"
  let tids ← c.list (FieldType.uint64.map Tid.mk) "suppressed_tids"
  return { commands, tids }

end SyscallTrace
