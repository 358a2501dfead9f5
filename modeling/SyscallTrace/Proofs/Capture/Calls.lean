import SyscallTrace.Proofs.Capture.Reachable

/-!
# Sequences of calls

A caller may push values and set bytes in front of them in any order, and go on after a failure.
Whatever it does, the buffer is laid out as a record: zeros for the header, the lengths of the
values that were taken, zeros for the lengths of the others, and then the values themselves. A push
that fails leaves all this as it was, although it may have written a part of its value before it
noticed (specification §7, §15.1).

- `Encoder.Call`, `Encoder.perform`: what a caller does, and what it is answered.
- `Encoder.LaidOut`, `Encoder.Stages.laidOut`: the layout of the buffer.
- `Encoder.Failed`, `Encoder.failed_of_push`: what a failed push leaves behind.
- `Encoder.perform_of_aborted`: an event that was given up takes nothing more.
- `Encoder.layout_of_calls`: **all of this after every sequence of calls**.
-/

namespace SyscallTrace

namespace Encoder

/-! ## Calls -/

/-- What is done with an encoder between its start and its end. -/
inductive Call where
  /-- Sets the byte in front of the next value. -/
  | variant (byte : UInt8)
  | push (value : Value)
  deriving DecidableEq, Repr

/-- Some calls, one after the other, with the results of the pushes among them. -/
def perform : Encoder → List Call → List (Except EncodeError Nat) × Encoder
  | e, [] => ([], e)
  | e, .variant byte :: calls => (e.withVariant byte).perform calls
  | e, .push value :: calls =>
    ((e.push value).1 :: ((e.push value).2.perform calls).1, ((e.push value).2.perform calls).2)

/-- **The values of a sequence of calls.** One more is staged for every push that succeeds, and its
result is the length of that value. -/
theorem Stages.perform {start : Encoder} (calls : List Call) :
    ∀ {e : Encoder} {parts : List Bytes}, Stages start parts e →
      ∃ more : List Bytes, Stages start (parts ++ more) (e.perform calls).2 ∧
        (e.perform calls).1.filterMap Except.toOption = more.map List.length := by
  induction calls with
  | nil =>
    intro e parts h
    refine ⟨[], ?_, rfl⟩
    rw [List.append_nil]
    exact h
  | cons call calls ih =>
    intro e parts h
    cases call with
    | variant byte => exact ih (h.withVariant byte)
    | push value =>
      rw [Encoder.perform]
      -- a push that fails stages nothing, and counts for nothing
      rcases h.push value with ⟨error, hresult, hkept⟩ | ⟨field, -, -, hresult, -, htaken⟩
      · obtain ⟨more, hstages, hlengths⟩ := ih hkept
        refine ⟨more, hstages, ?_⟩
        rw [hresult]
        exact hlengths
      · obtain ⟨more, hstages, hlengths⟩ := ih htaken
        refine ⟨e.bytesOf value :: more, ?_, ?_⟩
        · rw [List.append_assoc] at hstages
          exact hstages
        · rw [hresult]
          exact congrArg _ hlengths

/-! ## The layout of the buffer -/

/-- The length prefixes that stand in the buffer, read as those of a record are. -/
def prefixes (e : Encoder) : List UInt32 :=
  Record.readPrefixes e.event.schema.width e.expected (e.scratch.bytes.drop Header.size)

/-- The layout of the buffer of an encoder that has taken values of the given lengths. -/
structure LaidOut (event : EventType) (capacity : Nat) (lengths : List Nat) (e : Encoder) :
    Prop where
  /-- The event and the room for it stay. -/
  sameEvent : e.event = event
  sameCapacity : e.scratch.capacity = capacity
  /-- There are as many values as there were successful pushes. -/
  count : e.pushed = lengths.length
  count_le : e.pushed ≤ event.schema.size
  small : ∀ length ∈ lengths, length ≤ maxParamSize
  /-- The first bytes are left for the header. -/
  header : e.scratch.bytes.take Header.size = List.replicate Header.size 0
  /-- The prefixes are the lengths of the values, and zero for those that are missing. -/
  prefixes : e.prefixes.map UInt32.toNat =
    lengths ++ List.replicate (event.schema.size - e.pushed) 0
  /-- Behind the prefixes there is room for what they count, and nothing else. -/
  length : e.scratch.length =
    Header.size + event.schema.size * event.schema.width.size + Record.sumLengths e.prefixes
  room : e.scratch.length ≤ capacity
  /-- An event is given up only while a value is missing. -/
  missing : e.aborted = true → e.pushed < event.schema.size

/-- The prefixes of staged values are their lengths. -/
theorem prefixes_holding {start : Encoder} {parts : List Bytes} (h : start.HasRoomFor parts)
    (variant : Option UInt8) (aborted : Bool) :
    (start.holding parts variant aborted).prefixes =
      (padded start.event parts).map Record.wordLength := by
  show Record.readPrefixes start.event.schema.width start.event.schema.size
    ((staged start.event parts).drop Header.size) = _
  rw [staged, List.drop_left' List.length_replicate, Record.body, ← length_padded h.count_le,
    Record.readPrefixes_append h.encodable]

/-- Nothing is lost when the lengths of staged values are held in 32 bits. -/
theorem toNat_prefixes {start : Encoder} {parts : List Bytes} (h : start.HasRoomFor parts) :
    ((padded start.event parts).map Record.wordLength).map UInt32.toNat =
      parts.map List.length ++ List.replicate (start.event.schema.size - parts.length) 0 := by
  have hword : ∀ part ∈ padded start.event parts,
      (UInt32.toNat ∘ Record.wordLength) part = part.length := fun part hpart =>
    UInt32.toNat_ofNat_of_lt' (Nat.lt_of_lt_of_le (h.encodable part hpart)
      (Record.count_size_le _))
  rw [List.map_map, List.map_congr_left hword, padded, List.map_append, List.map_replicate]
  rfl

/-- **The layout of staged values.** -/
theorem Stages.laidOut {start e : Encoder} {parts : List Bytes} (h : Stages start parts e) :
    LaidOut start.event start.scratch.capacity (parts.map List.length) e := by
  have hroom := h.room
  obtain ⟨variant, aborted, hparts, hmissing⟩ := h
  have hprefixes := prefixes_holding hparts variant aborted
  refine { sameEvent := rfl, sameCapacity := rfl, count := ?_, count_le := hparts.count_le,
           small := ?_, header := ?_, prefixes := ?_, length := ?_, room := hroom,
           missing := hmissing }
  · exact (List.length_map _).symm
  · intro length hlength
    obtain ⟨part, hpart, rfl⟩ := List.mem_map.mp hlength
    exact hparts.small part hpart
  · exact List.take_left' List.length_replicate
  · rw [hprefixes]
    exact toNat_prefixes hparts
  · -- the prefixes of missing values add nothing
    have hflat : (padded start.event parts).flatten.length < UInt32.size := by
      have := hparts.length_lt
      rw [flatten_padded]
      omega
    rw [hprefixes, Record.sumLengths_map hflat, flatten_padded]
    exact length_staged hparts.count_le

/-! ## Failed pushes -/

/-- Why a push failed, and what it leaves behind. The event is given up if there is no room for a
value that it would take, or if that value is too long. It goes on, with the byte for the next value,
if it refuses the value. -/
inductive Failed (e : Encoder) (value : Value) : EncodeError → Encoder → Prop
  | bufferFull {field : Field} (h : e.target? value = some field) (full : BufferFull) :
      Failed e value (.bufferFull full) e.givenUp
  | frameFull {field : Field} (h : e.target? value = some field)
      (hlarge : maxParamSize < (e.bytesOf value).length) :
      Failed e value (.frameFull (e.bytesOf value).length) e.givenUp
  | mismatch (h : e.aborted = false) (hrefused : e.target? value = none)
      (reason : SchemaMismatch) : Failed e value (.mismatch reason) e
  | aborted (h : e.aborted = true) : Failed e value .aborted e

/-- Each push that fails does so in one of these ways. -/
theorem failed_of_push {e e' : Encoder} (hroom : e.scratch.length ≤ e.scratch.capacity)
    (hhead : headSize e.event ≤ e.scratch.length) {value : Value} {error : EncodeError}
    (h : e.push value = (.error error, e')) : Failed e value error e' := by
  cases htarget : e.target? value with
  | none =>
    rcases push_of_target?_eq_none htarget with ⟨haborted, hpush⟩ | ⟨hopen, reason, hpush⟩
    · rw [hpush] at h
      cases h
      exact .aborted haborted
    · rw [hpush] at h
      cases h
      exact .mismatch hopen htarget reason
  | some field =>
    -- what was written is too long for a parameter, or the buffer had no room
    rcases push_of_target?_eq_some hroom hhead htarget with ⟨-, hpush⟩ | ⟨full, hpush⟩
    · rw [hpush, recording] at h
      by_cases hlarge : maxParamSize < (e.bytesOf value).length
      · rw [if_pos hlarge] at h
        cases h
        exact .frameFull htarget hlarge
      · rw [if_neg hlarge] at h
        cases h
    · rw [hpush] at h
      cases h
      exact .bufferFull htarget full

/-- A failed push leaves the buffer as it was, and takes no value. -/
theorem Failed.kept {e e' : Encoder} {value : Value} {error : EncodeError}
    (h : Failed e value error e') : e'.scratch = e.scratch ∧ e'.pushed = e.pushed := by
  cases h <;> exact ⟨rfl, rfl⟩

/-- An event that was given up takes no value. -/
theorem push_of_aborted {e : Encoder} (h : e.aborted = true) (value : Value) :
    e.push value = (.error .aborted, e) := by
  rw [push, if_pos h]

/-- **An event that was given up takes nothing more**, whatever is done with its encoder. -/
theorem perform_of_aborted (calls : List Call) :
    ∀ {e : Encoder}, e.aborted = true →
      (∀ result ∈ (e.perform calls).1, result = .error .aborted) ∧
        (e.perform calls).2.scratch = e.scratch ∧ (e.perform calls).2.pushed = e.pushed := by
  induction calls with
  | nil => exact fun _ => ⟨fun _ hresult => (nomatch hresult), rfl, rfl⟩
  | cons call calls ih =>
    intro e h
    cases call with
    | variant byte => exact ih (e := e.withVariant byte) h
    | push value =>
      rw [perform, push_of_aborted h]
      obtain ⟨hresults, hkept⟩ := ih h
      refine ⟨fun result hresult => ?_, hkept⟩
      rcases List.mem_cons.mp hresult with rfl | hlater
      · rfl
      · exact hresults result hlater

/-! ## All calls -/

/-- **The layout of the buffer after every sequence of calls.** The buffer holds the values of the
pushes that succeeded, and nothing of the others. A push that fails leaves the buffer and the number
of values as they were. After one that gives the event up, all others fail. -/
theorem layout_of_calls {scratch : Scratch} {settings : CaptureSettings} {memory : Memory}
    {event : EventType} {time : Timestamp} {tid : Tid} {start : Encoder}
    (h : begin scratch settings memory event time tid = .ok start) (calls : List Call) :
    let results := (start.perform calls).1
    let e := (start.perform calls).2
    LaidOut event scratch.capacity (results.filterMap Except.toOption) e ∧
      (∀ value error e', e.push value = (.error error, e') →
        e'.scratch = e.scratch ∧ e'.pushed = e.pushed ∧ Failed e value error e') ∧
      (e.aborted = true → ∀ later,
        (∀ result ∈ (e.perform later).1, result = .error .aborted) ∧
          (e.perform later).2.scratch = e.scratch ∧ (e.perform later).2.pushed = e.pushed) := by
  intro results e
  obtain ⟨parts, hstages, hlengths⟩ := (stages_begin h).perform calls
  refine ⟨?_, ?_, ?_⟩
  · rw [hlengths]
    exact hstages.laidOut
  · intro value error e' hpush
    have hfailed := failed_of_push hstages.room hstages.head hpush
    exact ⟨hfailed.kept.1, hfailed.kept.2, hfailed⟩
  · exact fun haborted later => perform_of_aborted later haborted

/-- A value that is refused, two that are taken, and one for which the byte in front of it takes the
last byte of the buffer. The prefixes are those of the two, and nothing more is taken. -/
theorem layout_of_ptrace_calls :
    let calls : List Call :=
      [.push (.u8 1), .push (.i64 (-3)), .variant 2, .push (.u32 7), .variant 1, .push (.u64 9),
        .push (.u16 4)]
    ∃ start,
      begin { capacity := 50 } {} Memory.none .ptraceExit ⟨1⟩ ⟨7⟩ = .ok start ∧
        (start.perform calls).1.filterMap Except.toOption = [8, 5] ∧
        (start.perform calls).2.prefixes.map UInt32.toNat = [8, 5, 0, 0, 0] ∧
        (start.perform calls).2.scratch.length ≤ 50 ∧
        (start.perform calls).2.aborted = true ∧
        ∀ later, ∀ result ∈ ((start.perform calls).2.perform later).1, result = .error .aborted := by
  intro calls
  let start : Encoder :=
    { scratch := { bytes := List.replicate 36 0, capacity := 50 }
      settings := {}
      memory := Memory.none
      event := .ptraceExit
      time := ⟨1⟩
      tid := ⟨7⟩ }
  have hstart : begin { capacity := 50 } {} Memory.none .ptraceExit ⟨1⟩ ⟨7⟩ = .ok start := rfl
  have hlengths : (start.perform calls).1.filterMap Except.toOption = [8, 5] := by decide +kernel
  have haborted : (start.perform calls).2.aborted = true := by decide +kernel
  obtain ⟨hlaid, -, hlater⟩ := layout_of_calls hstart calls
  have hprefixes := hlaid.prefixes
  rw [hlaid.count, hlengths] at hprefixes
  exact ⟨start, hstart, hlengths, hprefixes, hlaid.room, haborted,
    fun later => (hlater haborted later).1⟩

end Encoder

end SyscallTrace
