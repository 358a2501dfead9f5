import SyscallTrace.Schema.ParamType

/-!
# Event types

The type of an event fixes the number, the order and the types of its parameters. Most system calls
have two events, one when the call is entered and one when it returns; the tag of the second is odd
(specification §14).

- `EventType`: the known events, with their tags.
- `EventType.schema`: the parameters of an event and the width of their length prefixes.
- `EventType.isLineage`: the events that tell who started a thread, and as which command.
-/

namespace SyscallTrace

/-- A parameter of an event. -/
structure Field where
  name : String
  type : ParamType
  deriving DecidableEq, Repr

/-- The parameters of an event. -/
structure Schema where
  name : String
  fields : List Field
  /-- The width of the length prefixes. -/
  width : PrefixWidth := .short
  deriving DecidableEq, Repr

/-- The number of parameters. -/
def Schema.size (s : Schema) : Nat := s.fields.length

/-- The most parameters that a record may declare. -/
def maxParams : Nat := 32

/-- A kind of event. -/
inductive EventType where
  | genericEnter | genericExit
  | bindEnter | bindExit
  | connectEnter | connectExit
  | sendtoEnter | sendtoExit
  | recvfromEnter | recvfromExit
  | pollEnter | pollExit
  | ptraceEnter | ptraceExit
  /-- A thread has ended. -/
  | procexitEnter | procexitExit
  | cloneEnter | cloneExit
  | forkEnter | forkExit
  | vforkEnter | vforkExit
  | execveEnter | execveExit
  | execveatEnter | execveatExit
  | clone3Enter | clone3Exit
  /-- Something that a plugin has to tell. -/
  | async
  deriving DecidableEq, Repr

namespace EventType

/-- All events, in the order of their tags. -/
def all : List EventType :=
  [genericEnter, genericExit, bindEnter, bindExit, connectEnter, connectExit, sendtoEnter,
    sendtoExit, recvfromEnter, recvfromExit, pollEnter, pollExit, ptraceEnter, ptraceExit,
    procexitEnter, procexitExit, cloneEnter, cloneExit, forkEnter, forkExit, vforkEnter,
    vforkExit, execveEnter, execveExit, execveatEnter, execveatExit, clone3Enter, clone3Exit,
    async]

/-- The number that stands for an event. -/
def tag : EventType → UInt16
  | genericEnter => 0 | genericExit => 1
  | bindEnter => 20 | bindExit => 21
  | connectEnter => 22 | connectExit => 23
  | sendtoEnter => 30 | sendtoExit => 31
  | recvfromEnter => 34 | recvfromExit => 35
  | pollEnter => 80 | pollExit => 81
  | ptraceEnter => 146 | ptraceExit => 147
  | procexitEnter => 182 | procexitExit => 183
  | cloneEnter => 222 | cloneExit => 223
  | forkEnter => 224 | forkExit => 225
  | vforkEnter => 226 | vforkExit => 227
  | execveEnter => 292 | execveExit => 293
  | execveatEnter => 330 | execveatExit => 331
  | clone3Enter => 334 | clone3Exit => 335
  | async => 402

/-- The name of an event. -/
def name : EventType → String
  | genericEnter => "GENERIC_E" | genericExit => "GENERIC_X"
  | bindEnter => "SOCKET_BIND_E" | bindExit => "SOCKET_BIND_X"
  | connectEnter => "SOCKET_CONNECT_E" | connectExit => "SOCKET_CONNECT_X"
  | sendtoEnter => "SOCKET_SENDTO_E" | sendtoExit => "SOCKET_SENDTO_X"
  | recvfromEnter => "SOCKET_RECVFROM_E" | recvfromExit => "SOCKET_RECVFROM_X"
  | pollEnter => "SYSCALL_POLL_E" | pollExit => "SYSCALL_POLL_X"
  | ptraceEnter => "SYSCALL_PTRACE_E" | ptraceExit => "SYSCALL_PTRACE_X"
  | procexitEnter => "PROCEXIT_1_E" | procexitExit => "PROCEXIT_1_X"
  | cloneEnter => "SYSCALL_CLONE_20_E" | cloneExit => "SYSCALL_CLONE_20_X"
  | forkEnter => "SYSCALL_FORK_20_E" | forkExit => "SYSCALL_FORK_20_X"
  | vforkEnter => "SYSCALL_VFORK_20_E" | vforkExit => "SYSCALL_VFORK_20_X"
  | execveEnter => "SYSCALL_EXECVE_19_E" | execveExit => "SYSCALL_EXECVE_19_X"
  | execveatEnter => "SYSCALL_EXECVEAT_E" | execveatExit => "SYSCALL_EXECVEAT_X"
  | clone3Enter => "SYSCALL_CLONE3_E" | clone3Exit => "SYSCALL_CLONE3_X"
  | async => "ASYNCEVENT_E"

/-- The event that a number stands for. -/
def ofTag? (tag : UInt16) : Option EventType := all.find? (·.tag == tag)

@[simp] theorem ofTag?_tag (event : EventType) : ofTag? event.tag = some event := by
  cases event <;> rfl

theorem tag_of_ofTag? {tag : UInt16} {event : EventType} (h : ofTag? tag = some event) :
    event.tag = tag := by
  simpa using List.find?_some h

/-- Whether the call returns with this event. -/
def isExit (event : EventType) : Bool := event.tag.toNat % 2 == 1

/-- Whether the event tells the parent and the command of its thread. -/
def isLineage : EventType → Bool
  | cloneExit | forkExit | vforkExit | execveExit | execveatExit | clone3Exit => true
  | _ => false

/-! ## Schemas -/

/-- The parameters of a call that this library knows only by number. -/
def genericFields : List Field := [⟨"id", .syscallid⟩, ⟨"nativeid", .uint16⟩]

/-- What is known of a thread once it was started: its result, its place among the threads, its
command and its resources. -/
def cloneFields : List Field :=
  [⟨"res", .errno⟩, ⟨"exe", .charbuf⟩, ⟨"args", .bytebuf⟩, ⟨"tid", .pid⟩, ⟨"pid", .pid⟩,
    ⟨"ptid", .pid⟩, ⟨"cwd", .charbuf⟩, ⟨"fdlimit", .int64⟩, ⟨"pgft_maj", .uint64⟩,
    ⟨"pgft_min", .uint64⟩, ⟨"vm_size", .uint32⟩, ⟨"vm_rss", .uint32⟩, ⟨"vm_swap", .uint32⟩,
    ⟨"comm", .charbuf⟩, ⟨"cgroups", .bytebuf⟩, ⟨"flags", .flags32⟩, ⟨"uid", .uint32⟩,
    ⟨"gid", .uint32⟩, ⟨"vtid", .pid⟩, ⟨"vpid", .pid⟩, ⟨"pidns_init_start_ts", .uint64⟩]

/-- What is known of a thread once it runs another program. -/
def execFields : List Field :=
  [⟨"res", .errno⟩, ⟨"exe", .charbuf⟩, ⟨"args", .bytebuf⟩, ⟨"tid", .pid⟩, ⟨"pid", .pid⟩,
    ⟨"ptid", .pid⟩, ⟨"cwd", .charbuf⟩, ⟨"fdlimit", .uint64⟩, ⟨"pgft_maj", .uint64⟩,
    ⟨"pgft_min", .uint64⟩, ⟨"vm_size", .uint32⟩, ⟨"vm_rss", .uint32⟩, ⟨"vm_swap", .uint32⟩,
    ⟨"comm", .charbuf⟩, ⟨"cgroups", .bytebuf⟩, ⟨"env", .bytebuf⟩, ⟨"tty", .uint32⟩,
    ⟨"vpgid", .pid⟩, ⟨"loginuid", .uint32⟩, ⟨"flags", .flags32⟩, ⟨"cap_inheritable", .uint64⟩,
    ⟨"cap_permitted", .uint64⟩, ⟨"cap_effective", .uint64⟩, ⟨"exe_ino", .uint64⟩,
    ⟨"exe_ino_ctime", .abstime⟩, ⟨"exe_ino_mtime", .abstime⟩, ⟨"uid", .uint32⟩,
    ⟨"trusted_exepath", .fspath⟩, ⟨"pgid", .pid⟩, ⟨"gid", .uint32⟩]

/-- The parameters of an event. -/
def schema : EventType → Schema
  | genericEnter => ⟨"syscall", genericFields, .short⟩
  | genericExit => ⟨"syscall", genericFields, .short⟩
  | bindEnter => ⟨"bind", [⟨"fd", .fd⟩], .short⟩
  | bindExit => ⟨"bind", [⟨"res", .errno⟩, ⟨"addr", .sockaddr⟩, ⟨"fd", .fd⟩], .short⟩
  | connectEnter => ⟨"connect", [⟨"fd", .fd⟩, ⟨"addr", .sockaddr⟩], .short⟩
  | connectExit => ⟨"connect", [⟨"res", .errno⟩, ⟨"tuple", .socktuple⟩, ⟨"fd", .fd⟩], .short⟩
  | sendtoEnter => ⟨"sendto", [⟨"fd", .fd⟩, ⟨"size", .uint32⟩, ⟨"tuple", .socktuple⟩], .short⟩
  | sendtoExit => ⟨"sendto", [⟨"res", .errno⟩, ⟨"data", .bytebuf⟩], .short⟩
  | recvfromEnter => ⟨"recvfrom", [⟨"fd", .fd⟩, ⟨"size", .uint32⟩], .short⟩
  | recvfromExit =>
    ⟨"recvfrom", [⟨"res", .errno⟩, ⟨"data", .bytebuf⟩, ⟨"tuple", .socktuple⟩], .short⟩
  | pollEnter => ⟨"poll", [⟨"fds", .fdlist⟩, ⟨"timeout", .int64⟩], .short⟩
  | pollExit => ⟨"poll", [⟨"res", .errno⟩, ⟨"fds", .fdlist⟩], .short⟩
  | ptraceEnter => ⟨"ptrace", [⟨"request", .flags16⟩, ⟨"pid", .pid⟩], .short⟩
  | ptraceExit =>
    ⟨"ptrace", [⟨"res", .errno⟩, ⟨"addr", .dyn⟩, ⟨"data", .dyn⟩, ⟨"request", .flags16⟩,
      ⟨"pid", .pid⟩], .short⟩
  | procexitEnter =>
    ⟨"procexit", [⟨"status", .errno⟩, ⟨"ret", .errno⟩, ⟨"sig", .sigtype⟩, ⟨"core", .uint8⟩,
      ⟨"reaper_tid", .pid⟩], .short⟩
  | procexitExit => ⟨"procexit", [], .short⟩
  | cloneEnter => ⟨"clone", [], .short⟩
  | cloneExit => ⟨"clone", cloneFields, .short⟩
  | forkEnter => ⟨"fork", [], .short⟩
  | forkExit => ⟨"fork", cloneFields, .short⟩
  | vforkEnter => ⟨"vfork", [], .short⟩
  | vforkExit => ⟨"vfork", cloneFields, .short⟩
  | execveEnter => ⟨"execve", [⟨"filename", .fspath⟩], .short⟩
  | execveExit => ⟨"execve", execFields, .short⟩
  | execveatEnter =>
    ⟨"execveat", [⟨"dirfd", .fd⟩, ⟨"pathname", .fsrelpath⟩, ⟨"flags", .flags32⟩], .short⟩
  | execveatExit => ⟨"execveat", execFields, .short⟩
  | clone3Enter => ⟨"clone3", [], .short⟩
  | clone3Exit => ⟨"clone3", cloneFields, .short⟩
  | async =>
    ⟨"asyncevent", [⟨"plugin_id", .uint32⟩, ⟨"name", .charbuf⟩, ⟨"data", .bytebuf⟩], .large⟩

/-- The position of the parent's id among the parameters of a lineage event. -/
def parentIndex : Nat := 5

/-- The position of the command among the parameters of a lineage event. -/
def commandIndex : Nat := 13

theorem schema_size_le (event : EventType) : event.schema.size ≤ maxParams := by
  cases event <;> decide

theorem parent_of_isLineage {event : EventType} (h : event.isLineage) :
    event.schema.fields[parentIndex]? = some ⟨"ptid", .pid⟩ := by
  cases event <;> first | rfl | cases h

theorem command_of_isLineage {event : EventType} (h : event.isLineage) :
    event.schema.fields[commandIndex]? = some ⟨"comm", .charbuf⟩ := by
  cases event <;> first | rfl | cases h

end EventType

end SyscallTrace
