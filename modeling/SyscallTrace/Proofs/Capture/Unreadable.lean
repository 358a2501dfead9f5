import SyscallTrace.Proofs.Capture.Buffers
import SyscallTrace.Proofs.Capture.Strings

/-!
# Values that cannot be read

A value that cannot be read is recorded as an empty one, as long as there is room for what is asked
for before it turns out to be unreadable: the bytes that are wanted of a byte string, or two bytes
for a string, of which a NUL alone would fill a smaller window. With less room than that the event
is given up, as if the value were there (specification §7, §9).

- `Value.Unreadable`: the values that cannot be read.
- `Value.roomAsked`: the room that is asked for before a value is read.
- `Encoder.push_unreadable`: **what becomes of a value that cannot be read**.
- `Encoder.unreadable_text_gives_up`: it may cost the event.
-/

namespace SyscallTrace

/-- Memory that refuses every read of some bytes at an address. -/
def Memory.Refuses (memory : Memory) (space : AddressSpace) (address : UInt64) : Prop :=
  ∀ length, 0 < length → ∃ error, memory.read space address length = .error error

/-- Of a string that cannot be read, only the room for a NUL is ever used. -/
theorem Memory.length_readString_of_refuses {memory : Memory} {space : AddressSpace}
    {address : UInt64} (h : memory.Refuses space address) (size : Nat) :
    (Source.readOrNothing (memory.readString space address size)).length =
      if size < 2 then size else 0 := by
  rw [readString]
  by_cases hempty : size = 0
  · rw [if_pos hempty, hempty]
    rfl
  · rw [if_neg hempty, readPages]
    by_cases hone : size - 1 = 0
    · rw [if_pos hone, if_pos (by omega)]
      show 1 = size
      omega
    · -- the first page is refused
      have hpage : 0 < min (pageSize - address.toNat % pageSize) (size - 1) := by
        have : address.toNat % pageSize < pageSize := Nat.mod_lt _ (by decide)
        omega
      obtain ⟨error, hread⟩ := h _ hpage
      rw [if_neg hone, if_neg (Nat.not_le.mpr address.toNat_lt), if_neg (by omega)]
      dsimp only
      rw [UInt64.ofNat_toNat, hread]
      rfl

namespace Value

/-- A string or a byte string that cannot be read: its source points nowhere, or to an address
that refuses every read, or it is a slice that is too short for the bytes that are wanted, or for
the front that says how many they are. -/
inductive Unreadable (settings : CaptureSettings) (memory : Memory) : Value → Prop
  | noText {source : Source} (h : source.isNull = true) : Unreadable settings memory (.text source)
  | text {space : AddressSpace} {address : UInt64} (h : memory.Refuses space address) :
      Unreadable settings memory (.text (.memory space address))
  | noBytes {source : Source} (h : source.isNull = true) (length : UInt32)
      (ports : Option PortPair) : Unreadable settings memory (.bytes source length ports)
  | bytes {space : AddressSpace} {address : UInt64} (h : memory.Refuses space address)
      (length : UInt32) (ports : Option PortPair) :
      Unreadable settings memory (.bytes (.memory space address) length ports)
  | short {bs : Bytes} {length : UInt32} {ports : Option PortPair}
      (h : bs.length < wanted settings memory (.slice bs) length ports) :
      Unreadable settings memory (.bytes (.slice bs) length ports)
  | shortFront {bs : Bytes} {length : UInt32} {ports : PortPair}
      (h : bs.length < min length.toNat Snaplen.lookaheadSize) :
      Unreadable settings memory (.bytes (.slice bs) length (some ports))

/-- The room that is asked for before a value is read. -/
def roomAsked (settings : CaptureSettings) (memory : Memory) : Value → Nat
  | .text source => if source.isNull then 0 else 2
  | .bytes source length ports => wanted settings memory source length ports
  | _ => 0

/-- What is wanted of a byte string that cannot be read is nothing, or it is not given. -/
theorem read_wanted_of_unreadable {settings : CaptureSettings} {memory : Memory} {source : Source}
    {length : UInt32} {ports : Option PortPair}
    (h : Unreadable settings memory (.bytes source length ports)) :
    wanted settings memory source length ports = 0 ∨
      ∃ error, source.read memory (wanted settings memory source length ports) = .error error := by
  generalize hcount : wanted settings memory source length ports = count
  cases h with
  | noBytes hnull =>
    rw [wanted.eq_def, hnull] at hcount
    exact .inl hcount.symm
  | bytes hrefuses =>
    by_cases hzero : count = 0
    · exact .inl hzero
    · obtain ⟨error, hread⟩ := hrefuses count (Nat.pos_of_ne_zero hzero)
      rw [Source.read, hread]
      exact .inr ⟨error, rfl⟩
  | short hshort =>
    rw [hcount] at hshort
    rw [Source.read, if_neg (Nat.not_le.mpr hshort)]
    exact .inr ⟨_, rfl⟩
  | shortFront hshort =>
    left
    rw [← hcount, wanted.eq_def]
    split
    · rfl
    · dsimp only
      rw [Source.read, if_neg (Nat.not_le.mpr hshort)]

end Value

namespace Encoder

variable {e : Encoder} {field : Field}

/-- Bytes that are not given are not recorded, if there would be room for them. -/
theorem recordsIf_copying {source : Source} {count : Nat}
    (h : count = 0 ∨ ∃ error, source.read e.memory count = .error error) :
    e.RecordsIf (count ≤ e.scratch.remaining) [] (e.copying source count) := by
  rcases h with rfl | ⟨error, hread⟩
  · rw [copying_zero, ← recording_nil]
    exact .of_fits (Nat.zero_le _)
  · rw [copying, hread]
    constructor
    · intro hroom
      rw [if_neg (Nat.not_lt.mpr hroom), recording_nil]
    · intro hfull
      rw [if_pos (Nat.lt_of_not_le hfull)]
      exact ⟨_, rfl⟩

/-- Nothing is recorded for a string that points nowhere. -/
theorem push_text_of_isNull (he : e.Reachable) (hvariant : e.variant = none) {source : Source}
    (htarget : e.target? (.text source) = some field) (hnull : source.isNull = true) :
    e.push (.text source) = e.recording [] := by
  have hwrite : (Value.text source).write e.settings e.memory e.scratch =
      if False then (.error (e.scratch.full 0), e.scratch)
      else (.ok (), e.scratch.extend []) := by
    rw [Value.write, Value.writeText.eq_def, if_pos hnull, if_neg not_false, Scratch.extend_nil]
    rfl
  exact (he.push_eq_of_none hvariant htarget hwrite).trans (if_neg not_false)

/-- A string that cannot be read needs room for two bytes. A smaller window is full with the NUL, or
from the start. -/
theorem push_text_of_refuses (he : e.Reachable) (hvariant : e.variant = none)
    {space : AddressSpace} {address : UInt64} (hnull : (address == 0) = false)
    (htarget : e.target? (.text (.memory space address)) = some field)
    (h : e.memory.Refuses space address) :
    e.RecordsIf (2 ≤ e.scratch.remaining) [] (e.push (.text (.memory space address))) := by
  have hpush := push_text_memory he hnull htarget
  have hmax : 2 < maxParamSize := by decide
  have hdata := Memory.length_readString_of_refuses h (min maxParamSize e.scratch.remaining)
  rw [hvariant] at hpush
  dsimp only [Option.toList_none, List.length_nil, Nat.sub_zero, List.nil_append] at hpush
  refine hpush.congr ?_ fun hloose => ?_
  · rw [hdata]
    split
    · omega
    · omega
  · rw [hdata] at hloose
    refine List.eq_nil_of_length_eq_zero (hdata.trans (if_neg fun hless => hloose ?_))
    rw [if_pos hless]
    exact ⟨Nat.lt_trans hless hmax, rfl⟩

/-- Nothing is recorded for a string that cannot be read, if there is the room that is asked for. -/
theorem push_text_of_unreadable (he : e.Reachable) (hvariant : e.variant = none) {source : Source}
    (htarget : e.target? (.text source) = some field)
    (h : (Value.text source).Unreadable e.settings e.memory) :
    e.RecordsIf ((Value.text source).roomAsked e.settings e.memory ≤ e.scratch.remaining) []
      (e.push (.text source)) := by
  rw [Value.roomAsked]
  cases hnull : source.isNull with
  | true =>
    rw [if_pos rfl, push_text_of_isNull he hvariant htarget hnull]
    exact .of_fits (Nat.zero_le _)
  | false =>
    rw [if_neg Bool.false_ne_true]
    cases h with
    | noText hsource =>
      rw [hsource] at hnull
      cases hnull
    | text hrefuses => exact push_text_of_refuses he hvariant hnull htarget hrefuses

/-- Nothing is recorded for a byte string that cannot be read, if there would be room for it. -/
theorem push_bytes_of_unreadable (he : e.Reachable) (hvariant : e.variant = none) {source : Source}
    {length : UInt32} {ports : Option PortPair}
    (htarget : e.target? (.bytes source length ports) = some field)
    (h : (Value.bytes source length ports).Unreadable e.settings e.memory) :
    e.RecordsIf
      ((Value.bytes source length ports).roomAsked e.settings e.memory ≤ e.scratch.remaining) []
      (e.push (.bytes source length ports)) := by
  have hcopied := recordsIf_copying (Value.read_wanted_of_unreadable h)
  rw [Value.roomAsked, push_bytes_eq_copying he hvariant htarget]
  by_cases hnull : (source.isNull || length == 0) = true
  · -- no bytes are wanted
    have hzero : Value.wanted e.settings e.memory source length ports = 0 := by
      rw [Value.wanted.eq_def, if_pos hnull]
    rw [hzero, copying_zero] at hcopied
    rw [if_pos hnull, hzero]
    exact hcopied
  · rw [if_neg hnull]
    exact hcopied

/-- **What becomes of a value that cannot be read.** It is recorded as an empty one if there is the
room that is asked for before it is read. Otherwise the event is given up. -/
theorem push_unreadable (he : e.Reachable) (hopen : e.aborted = false) (hvariant : e.variant = none)
    (hfield : e.event.schema.fields[e.pushed]? = some field) {value : Value}
    (haccepts : field.type = .dyn ∨ value.accepts field.type = true)
    (hunreadable : value.Unreadable e.settings e.memory) :
    (if e.scratch.remaining < value.roomAsked e.settings e.memory then
      ∃ full, e.push value = (.error (.bufferFull full), e.givenUp)
    else e.push value = (.ok 0, e.taking [])) ∧
      (e.taking []).scratch = e.scratch := by
  have htarget : e.target? value = some field :=
    target?_eq_some_iff.mpr ⟨hopen, hfield, haccepts⟩
  have hrecords : e.RecordsIf (value.roomAsked e.settings e.memory ≤ e.scratch.remaining) []
      (e.push value) := by
    cases value with
    | text source => exact push_text_of_unreadable he hvariant htarget hunreadable
    | bytes source length ports => exact push_bytes_of_unreadable he hvariant htarget hunreadable
    | i8 _ | i16 _ | i32 _ | i64 _ | u8 _ | u16 _ | u32 _ | u64 _ | empty | address _
    | connection _ _ _ | descriptors _ => cases hunreadable
  refine ⟨?_, he.scratch_skipping htarget⟩
  by_cases hroom : e.scratch.remaining < value.roomAsked e.settings e.memory
  · rw [if_pos hroom]
    exact hrecords.full (Nat.not_le.mpr hroom)
  · rw [if_neg hroom, hrecords.recorded (Nat.le_of_not_lt hroom), recording_nil]

/-- A path that cannot be read, with room for two bytes and no more: it is recorded as an empty
one. -/
theorem push_unreadable_path :
    ∃ e : Encoder,
      e.Reachable ∧ e.aborted = false ∧ e.variant = none ∧
        e.event.schema.fields[e.pushed]? = some ⟨"filename", .fspath⟩ ∧
        (Value.text (.memory .user 4096)).Unreadable e.settings e.memory ∧
        e.scratch.remaining = 2 ∧
        e.push (.text (.memory .user 4096)) = (.ok 0, e.taking []) ∧
        (e.taking []).scratch = e.scratch := by
  let e : Encoder :=
    { scratch := { bytes := List.replicate 28 0, capacity := 30 }
      settings := {}
      memory := Memory.none
      event := .execveEnter
      time := ⟨1⟩
      tid := ⟨7⟩ }
  have hstart : Encoder.begin { capacity := 30 } {} Memory.none .execveEnter ⟨1⟩ ⟨7⟩ = .ok e := rfl
  have hfield : e.event.schema.fields[e.pushed]? = some ⟨"filename", .fspath⟩ := rfl
  have hunreadable : (Value.text (.memory .user 4096)).Unreadable e.settings e.memory :=
    .text fun _ _ => ⟨_, rfl⟩
  obtain ⟨hpush, hscratch⟩ :=
    push_unreadable (.begin hstart) rfl rfl hfield (.inr rfl) hunreadable
  exact ⟨e, .begin hstart, rfl, rfl, hfield, hunreadable, rfl, hpush, hscratch⟩

/-- A value that cannot be read may cost the event: a path in memory that refuses every read, in a
buffer that has room for nothing but the header and the prefix. -/
theorem unreadable_text_gives_up :
    ¬ ∀ (e : Encoder) (field : Field) (value : Value),
      e.Reachable → e.aborted = false → e.variant = none →
        e.event.schema.fields[e.pushed]? = some field →
        field.type = .dyn ∨ value.accepts field.type = true →
        value.Unreadable e.settings e.memory →
        e.push value = (.ok 0, e.taking []) ∧ (e.taking []).scratch = e.scratch ∧
          (e.push value).2.aborted = false := by
  intro h
  let e : Encoder :=
    { scratch := { bytes := List.replicate 28 0, capacity := 28 }
      settings := {}
      memory := Memory.none
      event := .execveEnter
      time := ⟨1⟩
      tid := ⟨7⟩ }
  have hstart : Encoder.begin { capacity := 28 } {} Memory.none .execveEnter ⟨1⟩ ⟨7⟩ = .ok e := rfl
  have hfield : e.event.schema.fields[e.pushed]? = some ⟨"filename", .fspath⟩ := rfl
  have hunreadable : (Value.text (.memory .user 4096)).Unreadable e.settings e.memory :=
    .text fun _ _ => ⟨_, rfl⟩
  obtain ⟨-, -, hopen⟩ := h e _ _ (.begin hstart) rfl rfl hfield (.inr rfl) hunreadable
  -- not even an empty window is left, which counts as a full one
  have haborted : (e.push (.text (.memory .user 4096))).2.aborted = true := rfl
  rw [haborted] at hopen
  cases hopen

end Encoder

end SyscallTrace
