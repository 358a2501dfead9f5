import SyscallTrace.Bytes.LittleEndian

/-!
# Parameter types

Every parameter of a record has a type, and the type says how many bytes the parameter may take:
integers always take the same number, everything else is bounded only by the length prefix in front
of the payload. A prefix has two or four bytes (specification §4.1, §13).

- `PrefixWidth`: the two widths of a length prefix.
- `ParamType`: the types, with their tags, names and sizes.
- `ParamType.bounds`: the least and the greatest length of a parameter that is present.
-/

namespace SyscallTrace

/-- A tag or a width that stands for nothing. -/
inductive SchemaError where
  | unknownTag (tag : UInt16)
  | invalidPrefixWidth (size : Nat)
  deriving DecidableEq, Repr

/-- Names the offending number. -/
def SchemaError.message : SchemaError → String
  | .unknownTag tag => s!"unknown parameter type tag {tag.toNat}"
  | .invalidPrefixWidth size => s!"invalid length prefix width {size}"

/-- The width of a length prefix. -/
inductive PrefixWidth where
  | short
  | large
  deriving DecidableEq, Repr

namespace PrefixWidth

/-- The width of a prefix of `size` bytes. -/
def ofSize : Nat → Except SchemaError PrefixWidth
  | 2 => .ok .short
  | 4 => .ok .large
  | size => .error (.invalidPrefixWidth size)

/-- The number of bytes of a prefix. -/
def size : PrefixWidth → Nat
  | .short => 2
  | .large => 4

/-- The greatest length that a prefix can hold. -/
def maxLength : PrefixWidth → UInt32
  | .short => 0xFFFF
  | .large => 0xFFFFFFFF

@[simp] theorem ofSize_size (w : PrefixWidth) : ofSize w.size = .ok w := by cases w <;> rfl

theorem toNat_maxLength (w : PrefixWidth) :
    w.maxLength.toNat + 1 = LittleEndian.count w.size := by
  cases w <;> rfl

end PrefixWidth

/-- The type of a parameter. -/
inductive ParamType where
  | int8 | int16 | int32 | int64
  | uint8 | uint16 | uint32 | uint64
  /-- A terminated string. -/
  | charbuf
  /-- Opaque bytes. -/
  | bytebuf
  /-- The result of a call: a value, or an error number below zero. -/
  | errno
  | sockaddr
  /-- The two ends of a connection. -/
  | socktuple
  /-- A file descriptor. -/
  | fd
  | pid
  /-- File descriptors with flags. -/
  | fdlist
  /-- A path in the file system. -/
  | fspath
  | syscallid
  | sigtype
  | reltime
  | abstime
  /-- A value of one of several types: a byte that says which, and the value. -/
  | dyn
  | flags8 | flags16 | flags32
  | uid
  | gid
  | sigset
  /-- Terminated strings, one after the other. -/
  | charbufarray
  | mode
  /-- A path relative to a directory. -/
  | fsrelpath
  | enumflags8 | enumflags16 | enumflags32
  deriving DecidableEq, Repr

namespace ParamType

/-- All types, in the order of their tags. -/
def all : List ParamType :=
  [int8, int16, int32, int64, uint8, uint16, uint32, uint64, charbuf, bytebuf, errno, sockaddr,
    socktuple, fd, pid, fdlist, fspath, syscallid, sigtype, reltime, abstime, dyn, flags8, flags16,
    flags32, uid, gid, sigset, charbufarray, mode, fsrelpath, enumflags8, enumflags16,
    enumflags32]

/-- The number that stands for a type. -/
def tag : ParamType → UInt16
  | int8 => 1 | int16 => 2 | int32 => 3 | int64 => 4
  | uint8 => 5 | uint16 => 6 | uint32 => 7 | uint64 => 8
  | charbuf => 9 | bytebuf => 10 | errno => 11 | sockaddr => 12 | socktuple => 13 | fd => 14
  | pid => 15 | fdlist => 16 | fspath => 17 | syscallid => 18 | sigtype => 19 | reltime => 20
  | abstime => 21 | dyn => 27 | flags8 => 28 | flags16 => 29 | flags32 => 30 | uid => 31
  | gid => 32 | sigset => 34 | charbufarray => 35 | mode => 42 | fsrelpath => 43
  | enumflags8 => 44 | enumflags16 => 45 | enumflags32 => 46

/-- The name of a type. -/
def name : ParamType → String
  | int8 => "INT8" | int16 => "INT16" | int32 => "INT32" | int64 => "INT64"
  | uint8 => "UINT8" | uint16 => "UINT16" | uint32 => "UINT32" | uint64 => "UINT64"
  | charbuf => "CHARBUF" | bytebuf => "BYTEBUF" | errno => "ERRNO" | sockaddr => "SOCKADDR"
  | socktuple => "SOCKTUPLE" | fd => "FD" | pid => "PID" | fdlist => "FDLIST"
  | fspath => "FSPATH" | syscallid => "SYSCALLID" | sigtype => "SIGTYPE" | reltime => "RELTIME"
  | abstime => "ABSTIME" | dyn => "DYN" | flags8 => "FLAGS8" | flags16 => "FLAGS16"
  | flags32 => "FLAGS32" | uid => "UID" | gid => "GID" | sigset => "SIGSET"
  | charbufarray => "CHARBUFARRAY" | mode => "MODE" | fsrelpath => "FSRELPATH"
  | enumflags8 => "ENUMFLAGS8" | enumflags16 => "ENUMFLAGS16" | enumflags32 => "ENUMFLAGS32"

/-- The type that a number stands for. -/
def ofTag (tag : UInt16) : Except SchemaError ParamType :=
  match all.find? (·.tag == tag) with
  | some ty => .ok ty
  | none => .error (.unknownTag tag)

@[simp] theorem ofTag_tag (ty : ParamType) : ofTag ty.tag = .ok ty := by cases ty <;> rfl

/-- The number of bytes of an integer type, none for a type of variable size. -/
def fixedSize? : ParamType → Option UInt32
  | int8 | uint8 | flags8 | enumflags8 | sigtype => some 1
  | int16 | uint16 | flags16 | enumflags16 | syscallid => some 2
  | int32 | uint32 | flags32 | enumflags32 | uid | gid | mode | sigset => some 4
  | int64 | uint64 | reltime | abstime | errno | fd | pid => some 8
  | charbuf | bytebuf | sockaddr | socktuple | fdlist | fspath | fsrelpath | charbufarray
  | dyn => none

/-- Whether parameters of the type may differ in size. -/
def isVariable (ty : ParamType) : Bool := ty.fixedSize?.isNone

/-- Whether a parameter of the type holds one string. -/
def isString : ParamType → Bool
  | charbuf | fspath | fsrelpath => true
  | _ => false

/-- The least and the greatest length of a parameter that is present. -/
def bounds (ty : ParamType) (width : PrefixWidth) : UInt32 × UInt32 :=
  match ty.fixedSize? with
  | some size => (size, size)
  | none => (0, width.maxLength)

/-- The bounds for a type and a width that are given as numbers. A bad width is reported before a
bad tag. -/
def boundsOf (tag : UInt16) (prefixSize : Nat) : Except SchemaError (UInt32 × UInt32) := do
  let width ← PrefixWidth.ofSize prefixSize
  let ty ← ofTag tag
  return ty.bounds width

end ParamType

end SyscallTrace
