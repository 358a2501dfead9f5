import SyscallTrace.Proofs.Capture.Staging

/-!
# Pushing a value

A push does one of three things: the value is refused and nothing changes, or the event is given up
with the values that it has, or the value is taken. Which of them is decided by what can be written:
the event is given up where there is no room for a value, or if the value is too long for a
parameter (specification §4.3, §15.1).

- `Push`: a value and the byte in front of it, and the bytes that they are recorded as.
- `Encoder.push_of_unwritten`, `Encoder.push_of_written`: a push by what is written for it.
- `Encoder.push_cases`: **what a push does**.
- `Encoder.Stages`, `Encoder.Stages.push`: what every push keeps.
-/

namespace SyscallTrace

/-- A value, and the byte in front of it if there is one. -/
structure Push where
  value : Value
  variant : Option UInt8 := none
  deriving DecidableEq, Repr

/-- The bytes that are recorded, if there is room for `room` of them. -/
def Push.bytes (settings : CaptureSettings) (memory : Memory) (room : Nat) (p : Push) : Bytes :=
  p.variant.toList ++ p.value.content settings memory (room - p.variant.toList.length)

theorem Push.bytes_of_none {p : Push} (h : p.variant = none) (settings : CaptureSettings)
    (memory : Memory) (room : Nat) :
    p.bytes settings memory room = p.value.content settings memory room := by
  rw [bytes, h]
  rfl

theorem Push.bytes_of_some {p : Push} {variant : UInt8} (h : p.variant = some variant)
    (settings : CaptureSettings) (memory : Memory) (room : Nat) :
    p.bytes settings memory room = variant :: p.value.content settings memory (room - 1) := by
  rw [bytes, h]
  rfl

/-- A parameter of variable size has room for every value. -/
theorem ParamType.fits_of_isVariable {type : ParamType} (h : type.isVariable = true)
    {width : PrefixWidth} {length : Nat} (hsmall : length ≤ maxParamSize) :
    type.Fits width length := by
  have hbounds : type.bounds width = (0, width.maxLength) := by
    rw [bounds, Option.isNone_iff_eq_none.mp h]
  have hmax : maxParamSize ≤ width.maxLength.toNat := by cases width <;> decide
  rw [Fits, hbounds]
  exact .inr ⟨Nat.zero_le _, Nat.le_trans hsmall hmax⟩

/-- What is recorded fits the parameter that it is recorded for. -/
theorem Push.fits_bytes {p : Push} {type : ParamType}
    (haccepts : type = .dyn ∨ p.value.accepts type = true)
    (hvariant : p.variant.isSome → type.isVariable = true) {settings : CaptureSettings}
    {memory : Memory} {room : Nat} {width : PrefixWidth}
    (hsmall : (p.bytes settings memory room).length ≤ maxParamSize) :
    type.Fits width (p.bytes settings memory room).length := by
  by_cases hvariable : type.isVariable = true
  · exact ParamType.fits_of_isVariable hvariable hsmall
  · have hnone : p.variant = none := by
      by_cases hsome : p.variant.isSome
      · exact absurd (hvariant hsome) hvariable
      · simpa using hsome
    rw [Bool.not_eq_true] at hvariable
    rw [Push.bytes_of_none hnone]
    rcases Value.fits_content haccepts hvariable settings memory room with
      hzero | ⟨size, hsize, hlength⟩
    · exact .inl hzero
    · have hbounds : type.bounds width = (size, size) := by rw [ParamType.bounds, hsize]
      rw [ParamType.Fits, hbounds, hlength]
      exact .inr ⟨Nat.le_refl _, Nat.le_refl _⟩

namespace Encoder

/-! ## One push -/

/-- The field that a value is taken for, if it is not refused. -/
def target? (e : Encoder) (value : Value) : Option Field :=
  if e.aborted then none
  else
    e.event.schema.fields[e.pushed]?.filter fun field =>
      field.type = .dyn || value.accepts field.type

theorem target?_eq_some_iff {e : Encoder} {value : Value} {field : Field} :
    e.target? value = some field ↔
      e.aborted = false ∧ e.event.schema.fields[e.pushed]? = some field ∧
        (field.type = .dyn ∨ value.accepts field.type = true) := by
  rw [target?]
  by_cases haborted : e.aborted = true
  · simp [haborted]
  · rw [if_neg haborted, Option.filter_eq_some_iff, Bool.or_eq_true, decide_eq_true_iff]
    simp [haborted]

/-- What a value is recorded as by an encoder. -/
def bytesOf (e : Encoder) (value : Value) : Bytes :=
  Push.bytes e.settings e.memory e.scratch.remaining ⟨value, e.variant⟩

/-- An encoder that takes bytes as its next value. -/
def taking (e : Encoder) (data : Bytes) : Encoder :=
  { e with
    scratch := { e.scratch with
      bytes := Scratch.overwrite (e.scratch.bytes ++ data) (e.prefixOffset e.pushed)
        (LittleEndian.encode e.event.schema.width.size data.length) }
    pushed := e.pushed + 1
    variant := none }

/-- What a push may do: it refuses the value, gives the event up, or takes the value. -/
inductive Pushed (e : Encoder) (value : Value) : Except EncodeError Nat × Encoder → Prop
  | refused (error : EncodeError) (h : e.target? value = none) :
      Pushed e value (.error error, e)
  | abandoned (error : EncodeError) (field : Field) (h : e.target? value = some field) :
      Pushed e value (.error error, { e with variant := none, aborted := true })
  | taken (field : Field) (h : e.target? value = some field)
      (hsmall : (e.bytesOf value).length ≤ maxParamSize)
      (hroom : e.scratch.length + (e.bytesOf value).length ≤ e.scratch.capacity) :
      Pushed e value (.ok (e.bytesOf value).length, e.taking (e.bytesOf value))

/-- The byte is written if there is room for it, and then the value behind it. -/
theorem writeParam_eq {e : Encoder} (h : e.scratch.length ≤ e.scratch.capacity) (value : Value) :
    e.writeParam value =
      if e.scratch.remaining < e.variant.toList.length then
        (.error (e.scratch.full (e.scratch.length + e.variant.toList.length)), e.scratch)
      else value.write e.settings e.memory (e.scratch.extend e.variant.toList) := by
  rw [writeParam]
  cases e.variant with
  | none =>
    show value.write e.settings e.memory e.scratch =
      if e.scratch.remaining < 0 then _ else value.write e.settings e.memory (e.scratch.extend [])
    rw [if_neg (Nat.not_lt_zero _), Scratch.extend_nil]
  | some variant =>
    show _ = if e.scratch.remaining < [variant].length then
        (.error (e.scratch.full (e.scratch.length + [variant].length)), e.scratch)
      else value.write e.settings e.memory (e.scratch.extend [variant])
    dsimp only
    rw [Scratch.append_eq]
    by_cases hbyte : e.scratch.remaining < [variant].length
    · have hfull : e.scratch.capacity < e.scratch.length + [variant].length := by
        rw [Scratch.remaining] at hbyte
        omega
      rw [if_pos hbyte, if_pos hfull]
    · have hroom : ¬ e.scratch.capacity < e.scratch.length + [variant].length := by
        rw [Scratch.remaining] at hbyte
        rw [List.length_singleton] at hbyte ⊢
        omega
      rw [if_neg hbyte, if_neg hroom]

/-- The byte and the value are both written, or what was written can be cut off. -/
theorem writeParam_cases (e : Encoder) (h : e.scratch.length ≤ e.scratch.capacity)
    (value : Value) :
    (e.scratch.length + (e.bytesOf value).length ≤ e.scratch.capacity ∧
      e.writeParam value = (.ok (), e.scratch.extend (e.bytesOf value))) ∨
    ∃ full scratch, e.writeParam value = (.error full, scratch) ∧
      scratch.truncate e.scratch.length = e.scratch := by
  rw [writeParam_eq h]
  by_cases hbyte : e.scratch.remaining < e.variant.toList.length
  · rw [if_pos hbyte]
    exact .inr ⟨_, _, rfl, Scratch.truncate_length _⟩
  · rw [if_neg hbyte]
    have hroom : (e.scratch.extend e.variant.toList).length ≤ e.scratch.capacity := by
      rw [Scratch.remaining] at hbyte
      rw [Scratch.length_extend]
      omega
    -- behind the byte the value is added, or refused with the byte still there
    have hadds := value.write_adds hroom e.settings e.memory
    rw [Scratch.remaining_extend] at hadds
    generalize value.write e.settings e.memory (e.scratch.extend e.variant.toList) = result
      at hadds ⊢
    cases hadds with
    | added _ hfits =>
      refine .inl ⟨?_, ?_⟩
      · rw [Scratch.length_extend, Scratch.capacity_extend] at hfits
        rw [bytesOf, Push.bytes, List.length_append, ← Nat.add_assoc]
        exact hfits
      · rw [Scratch.extend_extend]
        rfl
    | refused full => exact .inr ⟨full, _, rfl, Scratch.truncate_extend _ _⟩

/-- There always is room for the prefix of a value, since it was reserved. -/
theorem write_prefix (e : Encoder) (hindex : e.pushed < e.event.schema.size)
    (hhead : headSize e.event ≤ e.scratch.length) {data : Bytes}
    (hfits : e.scratch.length + data.length ≤ e.scratch.capacity) :
    (e.scratch.extend data).write (e.prefixOffset e.pushed)
        (LittleEndian.encode e.event.schema.width.size data.length) =
      (.ok (), (e.taking data).scratch) := by
  -- the slot of this value ends where the next one starts, or where the values start
  have hslot : (e.pushed + 1) * e.event.schema.width.size ≤
      e.event.schema.size * e.event.schema.width.size := Nat.mul_le_mul_right _ hindex
  rw [Nat.add_mul, Nat.one_mul] at hslot
  refine Scratch.write_of_le ?_ ?_
  · rw [LittleEndian.length_encode, Scratch.length_extend, prefixOffset]
    rw [headSize] at hhead
    omega
  · rw [Scratch.length_extend]
    exact hfits

/-- A value without a field changes nothing. The answer tells an encoder that was given up from one
that refuses the value. -/
theorem push_of_target?_eq_none {e : Encoder} {value : Value} (h : e.target? value = none) :
    (e.aborted = true ∧ e.push value = (.error .aborted, e)) ∨
      (e.aborted = false ∧ ∃ reason, e.push value = (.error (.mismatch reason), e)) := by
  rw [push]
  by_cases haborted : e.aborted = true
  · rw [if_pos haborted]
    exact .inl ⟨haborted, rfl⟩
  · rw [if_neg haborted]
    refine .inr ⟨Bool.eq_false_iff.mpr haborted, ?_⟩
    cases hfield : e.event.schema.fields[e.pushed]? with
    | none => exact ⟨_, rfl⟩
    | some field =>
      dsimp only
      by_cases hmismatch : field.type ≠ .dyn ∧ value.accepts field.type = false
      · rw [if_pos hmismatch]
        exact ⟨_, rfl⟩
      · -- the field would take the value
        have htarget : e.target? value = some field := by
          refine target?_eq_some_iff.mpr ⟨Bool.eq_false_iff.mpr haborted, hfield, ?_⟩
          simpa [Decidable.or_iff_not_imp_left] using hmismatch
        rw [h] at htarget
        cases htarget

/-- An encoder that gives its event up. The values that it has stay. -/
def givenUp (e : Encoder) : Encoder := { e with variant := none, aborted := true }

/-- What becomes of bytes that are written for a value: they are taken, unless they are too many for
a parameter. -/
def recording (e : Encoder) (data : Bytes) : Except EncodeError Nat × Encoder :=
  if maxParamSize < data.length then (.error (.frameFull data.length), e.givenUp)
  else (.ok data.length, e.taking data)

theorem recording_of_le {e : Encoder} {data : Bytes} (h : data.length ≤ maxParamSize) :
    e.recording data = (.ok data.length, e.taking data) := by
  rw [recording, if_neg (Nat.not_lt.mpr h)]

theorem recording_nil (e : Encoder) : e.recording [] = (.ok 0, e.taking []) :=
  recording_of_le (Nat.zero_le _)

/-- The field that a value is taken for can hold it. -/
theorem not_mismatch_of_target? {e : Encoder} {value : Value} {field : Field}
    (h : e.target? value = some field) :
    ¬ (field.type ≠ .dyn ∧ value.accepts field.type = false) := by
  obtain ⟨-, -, haccepts⟩ := target?_eq_some_iff.mp h
  rintro ⟨hdyn, hrefused⟩
  rcases haccepts with haccepts | haccepts
  · exact hdyn haccepts
  · rw [haccepts] at hrefused
    cases hrefused

/-- If a value is not written, the event is given up, and the buffer is as it was. -/
theorem push_of_unwritten {e : Encoder} {value : Value} {field : Field}
    (h : e.target? value = some field) {full : BufferFull} {scratch : Scratch}
    (hwrite : e.writeParam value = (.error full, scratch))
    (hcut : scratch.truncate e.scratch.length = e.scratch) :
    e.push value = (.error (.bufferFull full), e.givenUp) := by
  obtain ⟨haborted, hfield, -⟩ := target?_eq_some_iff.mp h
  rw [push, if_neg (Bool.eq_false_iff.mp haborted), hfield]
  dsimp only
  rw [if_neg (not_mismatch_of_target? h), hwrite]
  dsimp only
  rw [abort, hcut]
  rfl

/-- If a value is written, its bytes are recorded. -/
theorem push_of_written {e : Encoder} (hhead : headSize e.event ≤ e.scratch.length)
    {value : Value} {field : Field} (h : e.target? value = some field) {data : Bytes}
    (hfits : e.scratch.length + data.length ≤ e.scratch.capacity)
    (hwrite : e.writeParam value = (.ok (), e.scratch.extend data)) :
    e.push value = e.recording data := by
  obtain ⟨haborted, hfield, -⟩ := target?_eq_some_iff.mp h
  have hindex : e.pushed < e.event.schema.size := (List.getElem?_eq_some_iff.mp hfield).1
  have hlength : (e.scratch.extend data).length - e.scratch.length = data.length := by
    rw [Scratch.length_extend, Nat.add_sub_cancel_left]
  rw [push, if_neg (Bool.eq_false_iff.mp haborted), hfield]
  dsimp only
  rw [if_neg (not_mismatch_of_target? h), hwrite]
  dsimp only
  rw [hlength, e.write_prefix hindex hhead hfits, abort, Scratch.truncate_extend]
  rfl

/-- A value that has a field is recorded, or there is no room for it. -/
theorem push_of_target?_eq_some {e : Encoder} (hroom : e.scratch.length ≤ e.scratch.capacity)
    (hhead : headSize e.event ≤ e.scratch.length) {value : Value} {field : Field}
    (h : e.target? value = some field) :
    (e.scratch.length + (e.bytesOf value).length ≤ e.scratch.capacity ∧
      e.push value = e.recording (e.bytesOf value)) ∨
    ∃ full, e.push value = (.error (.bufferFull full), e.givenUp) := by
  rcases e.writeParam_cases hroom value with ⟨hfits, hwrite⟩ | ⟨full, scratch, hwrite, hcut⟩
  · exact .inl ⟨hfits, push_of_written hhead h hfits hwrite⟩
  · exact .inr ⟨full, push_of_unwritten h hwrite hcut⟩

/-- **What a push does.** -/
theorem push_cases {e : Encoder} (hroom : e.scratch.length ≤ e.scratch.capacity)
    (hhead : headSize e.event ≤ e.scratch.length) (value : Value) :
    Pushed e value (e.push value) := by
  cases htarget : e.target? value with
  | none =>
    rcases push_of_target?_eq_none htarget with ⟨-, hpush⟩ | ⟨-, reason, hpush⟩
    · rw [hpush]
      exact .refused _ htarget
    · rw [hpush]
      exact .refused _ htarget
  | some field =>
    rcases push_of_target?_eq_some hroom hhead htarget with ⟨hfits, hpush⟩ | ⟨full, hpush⟩
    · rw [hpush, recording]
      by_cases hlarge : maxParamSize < (e.bytesOf value).length
      · rw [if_pos hlarge]
        exact .abandoned _ field htarget
      · rw [if_neg hlarge]
        exact .taken field htarget (Nat.le_of_not_lt hlarge) hfits
    · rw [hpush]
      exact .abandoned _ field htarget

/-! ## What a push keeps -/

/-- An encoder that has taken some values. There is room for them, and the event is given up only
while others are missing. -/
inductive Stages (start : Encoder) (parts : List Bytes) : Encoder → Prop
  | mk (variant : Option UInt8) (aborted : Bool) (hparts : start.HasRoomFor parts)
      (hmissing : aborted = true → parts.length < start.event.schema.size) :
      Stages start parts (start.holding parts variant aborted)

/-- An encoder starts without values, and there is room for it. -/
theorem stages_begin {scratch : Scratch} {settings : CaptureSettings} {memory : Memory}
    {event : EventType} {time : Timestamp} {tid : Tid} {e : Encoder}
    (h : begin scratch settings memory event time tid = .ok e) :
    Stages { scratch, settings, memory, event, time, tid } [] e := by
  obtain ⟨rfl, hroom⟩ := begin_eq_ok h
  refine .mk none false { count_le := Nat.zero_le _, room := hroom, small := ?_ } ?_
  · intro part hpart
    cases hpart
  · intro haborted
    cases haborted

/-- An encoder with one more value. -/
theorem taking_holding {start : Encoder} {parts : List Bytes}
    (h : parts.length < start.event.schema.size) (variant : Option UInt8) (aborted : Bool)
    (data : Bytes) :
    (start.holding parts variant aborted).taking data =
      start.holding (parts ++ [data]) none aborted := by
  have hbytes := overwrite_staged h data
  rw [taking, holding, holding]
  dsimp only [prefixOffset]
  rw [hbytes, List.length_append, List.length_singleton]

/-- The event of an encoder stays, and the values that are staged are counted. -/
theorem Stages.started {start e : Encoder} {parts : List Bytes} (h : Stages start parts e) :
    e.event = start.event ∧ e.pushed = parts.length := by
  obtain ⟨variant, aborted, -, -⟩ := h
  exact ⟨rfl, rfl⟩

/-- There always is room for what is staged. -/
theorem Stages.room {start e : Encoder} {parts : List Bytes} (h : Stages start parts e) :
    e.scratch.length ≤ e.scratch.capacity := by
  obtain ⟨variant, aborted, hparts, -⟩ := h
  show (staged start.event parts).length ≤ start.scratch.capacity
  rw [length_staged hparts.count_le]
  exact hparts.room

/-- What is staged begins with the header and the prefixes. -/
theorem Stages.head {start e : Encoder} {parts : List Bytes} (h : Stages start parts e) :
    headSize e.event ≤ e.scratch.length := by
  obtain ⟨variant, aborted, hparts, -⟩ := h
  show headSize start.event ≤ (staged start.event parts).length
  rw [length_staged hparts.count_le]
  exact Nat.le_add_right _ _

/-- **What a push keeps.** It fails and the encoder has the values that it had, or it succeeds and
the encoder has one more. -/
theorem Stages.push {start e : Encoder} {parts : List Bytes} (h : Stages start parts e)
    (value : Value) :
    (∃ error, (e.push value).1 = .error error ∧ Stages start parts (e.push value).2) ∨
      ∃ field, e.target? value = some field ∧ (e.bytesOf value).length ≤ maxParamSize ∧
        (e.push value).1 = .ok (e.bytesOf value).length ∧ (e.push value).2.variant = none ∧
        Stages start (parts ++ [e.bytesOf value]) (e.push value).2 := by
  have hcases : Pushed e value _ := push_cases h.room h.head value
  obtain ⟨variant, aborted, hparts, hmissing⟩ := h
  generalize (start.holding parts variant aborted).push value = result at hcases ⊢
  cases hcases with
  | refused error _ => exact .inl ⟨error, rfl, .mk variant aborted hparts hmissing⟩
  | abandoned error field htarget =>
    -- a value that has a field was missing
    obtain ⟨-, hfield, -⟩ := target?_eq_some_iff.mp htarget
    have hindex : parts.length < start.event.schema.size := (List.getElem?_eq_some_iff.mp hfield).1
    exact .inl ⟨error, rfl, .mk none true hparts fun _ => hindex⟩
  | taken field htarget hsmall hroom =>
    obtain ⟨haborted, hfield, -⟩ := target?_eq_some_iff.mp htarget
    have hindex : parts.length < start.event.schema.size := (List.getElem?_eq_some_iff.mp hfield).1
    have hlength : (start.holding parts variant aborted).scratch.length =
        headSize start.event + parts.flatten.length := length_staged hparts.count_le
    rw [hlength] at hroom
    refine .inr ⟨field, htarget, hsmall, rfl, rfl, ?_⟩
    dsimp only
    rw [taking_holding hindex]
    refine .mk none aborted (hparts.concat hindex hroom hsmall) fun htrue => ?_
    exact absurd htrue (Bool.eq_false_iff.mp haborted)

end Encoder

end SyscallTrace
