import SyscallTrace.Bytes.LittleEndian
import SyscallTrace.Capture.Settings

/-!
# Snap lengths

How many bytes of a payload are kept. Requests of well-known protocols are worth more than the usual
number; they are recognised by the ports of the connection and by the first bytes of the payload. A
payload that is too short for a rule does not match it (specification §4.4, §12).

- `classify`: the number of bytes for a payload, never below a given base.
- `CaptureSettings.snaplenFor`: the same under settings that may switch the rules off.
-/

namespace SyscallTrace

namespace Snaplen

/-- The number of bytes at the front of a payload that the rules look at. -/
def lookaheadSize : Nat := 16

/-- Kept of requests of a known protocol. -/
def extended : UInt32 := 2000

/-- Kept for ports of full capture. -/
def fullCapture : UInt32 := 16000

/-- Kept of questions to a name server. -/
def dns : UInt32 := 512

def dnsPort : UInt16 := 53
def mysqlPort : UInt16 := 3306
def postgresPort : UInt16 := 5432
def mongoPort : UInt16 := 27017

/-- A command packet: a short one of type 3, or one whose length fits in two bytes. -/
def isMysql : Bytes → Bool
  | b0 :: b1 :: b2 :: b3 :: b4 :: _ => [b0, b1, b2, b3, b4].contains 3 || (b2 == 0 && b3 == 0)
  | _ => false

/-- A query, parse or execute message, or the start of a session in version 3 of the protocol. -/
def isPostgres : Bytes → Bool
  | b0 :: b1 :: _ :: _ :: b4 :: b5 :: b6 :: _ =>
    ([0x51, 0x50, 0x45].contains b0 && b1 == 0) || (b4 == 0 && b5 == 3 && b6 == 0)
  | _ => false

/-- The operation of a request: 1, or 2001 to 2007. -/
def isMongoOperation (n : Nat) : Bool := n == 1 || (2001 ≤ n && n ≤ 2007)

/-- A header of sixteen bytes that ends with the operation of a request. -/
def isMongo (payload : Bytes) : Bool :=
  16 ≤ payload.length && isMongoOperation (LittleEndian.decode ((payload.drop 12).take 4))

/-- The words that a request starts with, cut to four bytes. -/
def httpMethods : List Bytes :=
  [[0x47, 0x45, 0x54, 0x20], [0x50, 0x4F, 0x53, 0x54], [0x50, 0x55, 0x54, 0x20],
    [0x44, 0x45, 0x4C, 0x45], [0x54, 0x52, 0x41, 0x43], [0x43, 0x4F, 0x4E, 0x4E],
    [0x4F, 0x50, 0x54, 0x49]]

/-- The word that an answer starts with. -/
def httpAnswer : Bytes := [0x48, 0x54, 0x54, 0x50]

/-- A request, or an answer with a slash before its version. -/
def isHttp : Bytes → Bool
  | b0 :: b1 :: b2 :: b3 :: b4 :: _ =>
    httpMethods.contains [b0, b1, b2, b3] || ([b0, b1, b2, b3] == httpAnswer && b4 == 0x2F)
  | _ => false

end Snaplen

/-- The ports of the connection that a payload belongs to. -/
structure PortPair where
  localPort : UInt16 := 0
  remotePort : UInt16 := 0
  deriving DecidableEq, Repr

namespace PortPair

/-- Takes the remote port from an address that the caller passed, if the socket has none. -/
def orUserPort (ports : PortPair) (user : Option UInt16) : PortPair :=
  if ports.remotePort = 0 then { ports with remotePort := user.getD 0 } else ports

/-- Whether one of the two ports is the given one. -/
def either (ports : PortPair) (port : UInt16) : Bool :=
  ports.localPort == port || ports.remotePort == port

end PortPair

open Snaplen in
/-- The number of bytes to keep of a payload, at least `base`. Rules that look at ports alone come
first. -/
def Snaplen.classify (settings : CaptureSettings) (base : UInt32) (payload : Bytes)
    (ports : PortPair) : UInt32 :=
  let front := payload.take lookaheadSize
  if settings.isFullCapture ports.localPort || settings.isFullCapture ports.remotePort then
    max base fullCapture
  else if ports.remotePort = settings.statsdPort then max base extended
  else if ports.remotePort = dnsPort then max base dns
  else if (ports.either mysqlPort && isMysql front) ||
      (ports.either postgresPort && isPostgres front) || ports.either mongoPort ||
      isMongo front || isHttp front then
    max base extended
  else base

/-- The number of bytes to keep of a payload under some settings. -/
def CaptureSettings.snaplenFor (settings : CaptureSettings) (ports : PortPair)
    (payload : Bytes) : UInt32 :=
  if settings.dynamic then Snaplen.classify settings settings.snaplen payload ports
  else settings.snaplen

end SyscallTrace
