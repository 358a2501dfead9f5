import SyscallTrace.Record.Decode

/-!
# Describing records

One line of text for a record: `name=value` for every decoded parameter, in the order of the schema.
A value is written as its type suggests. A long one is cut, an absent one is `<NA>`, and one that
cannot be read is replaced by the reason (specification §10).
-/

namespace SyscallTrace

namespace Describe

/-- The most bytes of a value that are shown. -/
def maxBytes : Nat := 48

/-- Stands for a value that is absent. -/
def absent : String := "<NA>"

/-- The longest front of a text that takes at most `limit` bytes of UTF-8. -/
def cut : Nat → List Char → List Char
  | _, [] => []
  | limit, c :: cs => if c.utf8Size ≤ limit then c :: cut (limit - c.utf8Size) cs else []

/-- A value as it is shown: whole, or cut and marked by three dots. -/
def shorten (value : String) : String :=
  if value.utf8ByteSize > maxBytes then String.ofList (cut maxBytes value.toList) ++ "..."
  else value

/-- The text of an address. -/
def addressText : Option SocketAddress → String
  | none => "None"
  | some (.inet s) => s!"Some(Inet({s.text}))"
  | some (.inet6 s) => s!"Some(Inet6({s.text}))"
  | some (.unix path) => s!"Some(Unix({byteListText path}))"

/-- The text of a connection. -/
def connectionText : Option Connection → String
  | none => absent
  | some (.inet source dest) => s!"{source.text}->{dest.text}"
  | some (.inet6 source dest) => s!"{source.text}->{dest.text}"
  | some (.unix source dest path) =>
    s!"{hexDigits source.toNat}->{hexDigits dest.toNat} {Utf8.lossyText path}"

/-- The text of a list of descriptors. -/
def descriptorsText (ds : List Descriptor) : String :=
  ",".intercalate (ds.map fun d => s!"{d.fd.toInt}:{hexText d.flags.toNat}")

/-- The whole text of a parameter that is present. -/
def value (p : Param) : Except ParamError String :=
  if p.type.isString then p.text
  else
    match p.type with
    | .socktuple => p.connection?.map connectionText
    | .sockaddr => p.address?.map addressText
    | .fdlist => p.descriptors.map descriptorsText
    | type =>
      if type.isVariable then .ok s!"<{p.data.length} bytes>"
      else p.signed?.map fun value =>
        match value with
        | some n => toString n.toInt
        | none => ""

/-- The text of a parameter. -/
def param (p : Param) : String :=
  if p.isEmpty then absent
  else
    match value p with
    | .ok text => shorten text
    | .error e => s!"<invalid: {e.message}>"

end Describe

/-- The line that describes a record. -/
def Record.describe (r : Record) : String :=
  " ".intercalate
    ((r.event.schema.fields.zip r.params).map fun (field, param) =>
      s!"{field.name}={Describe.param param}")

end SyscallTrace
