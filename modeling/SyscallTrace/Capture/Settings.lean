/-!
# Capture settings

What a producer has to know while it records events: how many bytes of a payload to keep, and for
which ports to keep more (specification §6, §11.3).
-/

namespace SyscallTrace

/-- The ports from `first` to `last`. There are none if `last` is below `first`. -/
structure PortRange where
  first : UInt16
  last : UInt16
  deriving DecidableEq, Repr

/-- Whether a port belongs to a range. -/
def PortRange.contains (range : PortRange) (port : UInt16) : Bool :=
  range.first ≤ port && port ≤ range.last

/-- The settings of a producer. -/
structure CaptureSettings where
  /-- The bytes that are kept of every payload. -/
  snaplen : UInt32 := 80
  /-- Whether ports and contents may raise that number. -/
  dynamic : Bool := false
  /-- Ports whose payloads are kept as far as possible. -/
  fullCapture : Option PortRange := none
  /-- The port of the metrics service. -/
  statsdPort : UInt16 := 8125
  deriving DecidableEq, Repr, Inhabited

/-- Whether payloads of a port are kept as far as possible. -/
def CaptureSettings.isFullCapture (settings : CaptureSettings) (port : UInt16) : Bool :=
  settings.fullCapture.any (·.contains port)

end SyscallTrace
