import SyscallTrace.Bytes.Terminated

/-!
# Names of UNIX sockets

A UNIX socket is bound to a path in the file system, or to a name in a namespace of its own, or to
nothing. The kernel keeps all three in one array of 108 bytes: a name follows a NUL, and two NULs in
front say that there is no name (specification §4.5).

- `UnixPath.ofRaw`: what such an array holds.
- `UnixPath.wireName`: the bytes that a record keeps of it.
- `BoundName.resolve`: the path of a socket that is to be bound, if the system allows it.
-/

namespace SyscallTrace

/-- What a UNIX socket is bound to. -/
inductive UnixPath where
  /-- A path in the file system. -/
  | pathname (path : Bytes)
  /-- A name, without the NUL in front of it. -/
  | abstract (name : Bytes)
  /-- Nothing, as an unnamed peer. -/
  | unavailable
  deriving DecidableEq, Repr

namespace UnixPath

/-- The size of the array that holds a path. -/
def maxSize : Nat := 108

/-- What an array holds, or as much of it as the kernel keeps. -/
def ofRaw (raw : Bytes) : UnixPath :=
  match raw.take maxSize with
  | [] | [0] | 0 :: 0 :: _ => .unavailable
  | 0 :: name => .abstract (Bytes.beforeNul name)
  | path => .pathname (Bytes.beforeNul path)

/-- Whether there is no name. -/
def isUnavailable : UnixPath → Bool
  | .unavailable => true
  | _ => false

/-- The bytes that a record keeps, without the NUL that ends them. A path leaves room for that
NUL in the array, a name for the one in front of it too. -/
def wireName : UnixPath → Bytes
  | .pathname path => Bytes.beforeNul (path.take (maxSize - 1))
  | .abstract name => Bytes.beforeNul (name.take (maxSize - 2))
  | .unavailable => []

/-- The bytes that a record keeps. -/
def toBytes (path : UnixPath) : Bytes := path.wireName ++ [0]

end UnixPath

/-- The name that a socket is to be bound to. -/
inductive BoundName where
  | path (path : Bytes)
  | abstract (name : Bytes)
  | unnamed
  deriving DecidableEq, Repr

/-- Why the system refuses a name. -/
inductive BoundNameError where
  /-- A path that holds a NUL. -/
  | invalid
  | tooLong
  deriving DecidableEq, Repr

/-- The system's word for the error. -/
def BoundNameError.message : BoundNameError → String
  | .invalid => "EINVAL"
  | .tooLong => "ENAMETOOLONG"

/-- The path of a socket bound to a name. An empty path leaves the socket unnamed; a NUL is
refused in a path, whatever its length, and is part of an abstract name. -/
def BoundName.resolve : BoundName → Except BoundNameError UnixPath
  | .path bytes =>
    if bytes.contains 0 then .error .invalid
    else if bytes.length ≥ UnixPath.maxSize then .error .tooLong
    else if bytes.isEmpty then .ok .unavailable
    else .ok (.pathname bytes)
  | .abstract name =>
    if name.length ≥ UnixPath.maxSize then .error .tooLong else .ok (.abstract name)
  | .unnamed => .ok .unavailable

end SyscallTrace
