import SyscallTrace.Proofs.Capture.Emitted
import SyscallTrace.Proofs.Capture.Payloads

/-!
# Lists of descriptors that are recorded

Three limits stand in the way of a long list: its count has to be told in two bytes, a parameter has
a greatest size, and the buffer has a capacity. Only the first of them cuts a list instead of
refusing it. But a list that is cut still has far more bytes than a parameter may have, so no buffer
lets one through, however large it is (specification §4.3, §15.2).

- `Value.length_descriptorBytes_le_iff`: which lists a parameter has room for.
- `Encoder.push_descriptors`: what becomes of a list.
- `Encoder.descriptors_of_pushed_list`: **a list is read back as it was pushed, or not recorded**.
-/

namespace SyscallTrace

/-! ## The bytes of a list -/

/-- The most descriptors that a parameter has room for. -/
def Descriptor.maxCount : Nat := 6499

namespace Value

theorem length_descriptorBytes (list : List Descriptor) :
    (descriptorBytes list).length = 2 + min 0xFFFF list.length * Descriptor.size := by
  show (Descriptor.encodeList (list.take 0xFFFF)).length = _
  rw [Descriptor.length_encodeList, List.length_take]

/-- What is left of a list that is cut is too long for a parameter, and so is every list with more
entries than a parameter has room for. -/
theorem length_descriptorBytes_le_iff (list : List Descriptor) :
    (descriptorBytes list).length ≤ maxParamSize ↔ list.length ≤ Descriptor.maxCount := by
  rw [length_descriptorBytes, maxParamSize, Descriptor.size, Descriptor.maxCount]
  omega

end Value

namespace Encoder

/-! ## Pushing a list -/

/-- An encoder that takes a list of descriptors next, without a byte in front of it. -/
structure TakesDescriptors (e : Encoder) : Prop where
  isOpen : e.aborted = false
  plain : e.variant = none
  field : ∃ name, e.event.schema.fields[e.pushed]? = some ⟨name, .fdlist⟩

/-- A list is recorded if there is room for it in its parameter and in the buffer. -/
def HasRoomForList (e : Encoder) (list : List Descriptor) : Prop :=
  list.length ≤ Descriptor.maxCount ∧ (Descriptor.encodeList list).length ≤ e.scratch.remaining

/-- **What becomes of a list.** The buffer has to have room for what is written of it, and then a
parameter too. -/
theorem push_descriptors {e : Encoder} (he : e.Reachable) (h : e.TakesDescriptors)
    (list : List Descriptor) :
    e.push (.descriptors (some list)) =
      if e.scratch.capacity < e.scratch.length + (Value.descriptorBytes list).length then
        (.error (.bufferFull
          (e.scratch.full (e.scratch.length + (Value.descriptorBytes list).length))), e.givenUp)
      else e.recording (Value.descriptorBytes list) := by
  obtain ⟨name, hfield⟩ := h.field
  have htarget : e.target? (.descriptors (some list)) = some ⟨name, .fdlist⟩ :=
    target?_eq_some_iff.mpr ⟨h.isOpen, hfield, .inr rfl⟩
  refine he.push_eq_of_none h.plain htarget ?_
  rw [Value.write, Scratch.append_eq]
  split
  · rfl
  · rfl

/-- A list that there is room for is taken as it is. -/
theorem push_of_hasRoomForList {e : Encoder} (he : e.Reachable) (h : e.TakesDescriptors)
    {list : List Descriptor} (hroom : e.HasRoomForList list) :
    e.push (.descriptors (some list)) =
      (.ok (Descriptor.encodeList list).length, e.taking (Descriptor.encodeList list)) := by
  obtain ⟨hcount, hfits⟩ := hroom
  have hbytes : Value.descriptorBytes list = Descriptor.encodeList list :=
    Value.descriptorBytes_of_le (Nat.le_trans hcount (by decide))
  have hsmall := (Value.length_descriptorBytes_le_iff list).mpr hcount
  have hfull : ¬ e.scratch.capacity <
      e.scratch.length + (Value.descriptorBytes list).length := by
    have hlength := he.room
    rw [Scratch.remaining, ← hbytes] at hfits
    omega
  rw [push_descriptors he h, if_neg hfull, recording_of_le hsmall, hbytes]

/-- The errors that say that there is no room for a value. -/
inductive LacksRoom : EncodeError → Prop
  | bufferFull (full : BufferFull) : LacksRoom (.bufferFull full)
  | frameFull (length : Nat) : LacksRoom (.frameFull length)

/-- For any other list the event is given up, and the buffer is as it was. -/
theorem push_of_not_hasRoomForList {e : Encoder} (he : e.Reachable) (h : e.TakesDescriptors)
    {list : List Descriptor} (hroom : ¬ e.HasRoomForList list) :
    ∃ error, LacksRoom error ∧ e.push (.descriptors (some list)) = (.error error, e.givenUp) := by
  rw [push_descriptors he h]
  by_cases hfull : e.scratch.capacity < e.scratch.length + (Value.descriptorBytes list).length
  · rw [if_pos hfull]
    exact ⟨_, .bufferFull _, rfl⟩
  · -- the buffer has room for what is written, so it is too long for a parameter
    have hlarge : maxParamSize < (Value.descriptorBytes list).length := by
      refine Nat.lt_of_not_le fun hsmall => hroom ?_
      have hcount := (Value.length_descriptorBytes_le_iff list).mp hsmall
      have hbytes : Value.descriptorBytes list = Descriptor.encodeList list :=
        Value.descriptorBytes_of_le (Nat.le_trans hcount (by decide))
      rw [hbytes] at hfull
      refine ⟨hcount, ?_⟩
      rw [Scratch.remaining]
      omega
    rw [if_neg hfull, recording, if_pos hlarge]
    exact ⟨_, .frameFull _, rfl⟩

/-! ## A list of a run -/

variable {scratch : Scratch} {settings : CaptureSettings} {memory : Memory} {event : EventType}
  {time : Timestamp} {tid : Tid} {e : Encoder} {list : List Descriptor}

/-- What is read back of a list that there is room for. -/
theorem descriptors_of_hasRoomForList (he : e.Reachable) (h : e.TakesDescriptors)
    (hroom : e.HasRoomForList list) {start : Encoder} {parts : List Bytes}
    (hstages : Stages start parts e) {after : List Push} {bytes : Bytes}
    (hgiven : ((e.push (.descriptors (some list))).2.run after).2.GivesAway bytes) {r : Record}
    (hdecode : Record.decode bytes = .ok r) :
    ∃ param, r.param e.pushed = .ok param ∧ param.descriptors = .ok list := by
  obtain ⟨name, hfield⟩ := h.field
  obtain ⟨hevent, hpushed⟩ := hstages.started
  rw [hevent] at hfield
  have hbytes : e.bytesOf (.descriptors (some list)) = Descriptor.encodeList list := by
    rw [bytesOf, Push.bytes_of_none h.plain]
    exact Value.descriptorBytes_of_le (Nat.le_trans hroom.1 (by decide))
  obtain ⟨more, hlast⟩ := hstages.run_of_taken
    (congrArg Prod.fst (push_of_hasRoomForList he h hroom)) after
  have hparam := hlast.param_of_givesAway hgiven hdecode hfield
  rw [hpushed, List.getElem?_append_right (Nat.le_refl _), Nat.sub_self, hbytes] at hparam
  rw [hpushed]
  exact ⟨_, hparam, Param.descriptors_encodeList rfl (Nat.lt_of_le_of_lt hroom.1 (by decide))⟩

/-- Nothing is recorded of any other list. -/
theorem absent_of_not_hasRoomForList (he : e.Reachable) (h : e.TakesDescriptors)
    (hroom : ¬ e.HasRoomForList list) {start : Encoder} {parts : List Bytes}
    (hstages : Stages start parts e) {after : List Push} {bytes : Bytes}
    (hgiven : ((e.push (.descriptors (some list))).2.run after).2.GivesAway bytes) {r : Record}
    (hdecode : Record.decode bytes = .ok r) :
    r.param e.pushed = .ok { type := .fdlist, data := [] } := by
  obtain ⟨name, hfield⟩ := h.field
  obtain ⟨hevent, hpushed⟩ := hstages.started
  rw [hevent] at hfield
  obtain ⟨error, -, hpush⟩ := push_of_not_hasRoomForList he h hroom
  have hparam := (hstages.run_of_givenUp hpush after).param_of_givesAway hgiven hdecode hfield
  rw [hpushed, List.getElem?_eq_none (Nat.le_refl _)] at hparam
  rw [hpushed]
  exact hparam

/-- **A list is read back as it was pushed, or not recorded.** If it has no more entries than a
parameter has room for, and there is room for them in the buffer, it is taken, and what is given away
in the end has the list as its parameter: every descriptor with its sign and its flags, in their
order. Any other list, with more entries than a parameter or than the count can tell, is refused for
lack of room; the buffer stays as it was, and the parameter is absent. There may be other values
before and behind the list. If each byte in front of one of them is written for a parameter of
variable size, what is given away is a record. Bytes that are not empty are decoded to a list if and
only if they are what is written for it. -/
theorem descriptors_of_pushed_list (h : begin scratch settings memory event time tid = .ok e)
    {before : List Push} (htakes : (e.run before).2.TakesDescriptors) (list : List Descriptor)
    (after : List Push) :
    let here := (e.run before).2
    let pushed := here.push (.descriptors (some list))
    let last := (e.run (before ++ { value := .descriptors (some list) } :: after)).2
    (list.length ≤ 6499 ∧ (Descriptor.encodeList list).length ≤ here.scratch.remaining →
      pushed.1 = .ok (Descriptor.encodeList list).length ∧
        ∀ bytes r, last.GivesAway bytes → Record.decode bytes = .ok r →
          ∃ param, r.param here.pushed = .ok param ∧ param.descriptors = .ok list) ∧
    (¬ (list.length ≤ 6499 ∧ (Descriptor.encodeList list).length ≤ here.scratch.remaining) →
      (∃ error, LacksRoom error ∧ pushed.1 = .error error) ∧
        pushed.2.scratch = here.scratch ∧
        ∀ bytes r, last.GivesAway bytes → Record.decode bytes = .ok r →
          r.param here.pushed = .ok { type := .fdlist, data := [] }) ∧
    (e.VariantsFit (before ++ { value := .descriptors (some list) } :: after) →
      ∃ bytes r,
        (last.finishWith .emitPartial).1 =
            .ok (some { bytes, truncated := decide (last.pushed < event.schema.size) }) ∧
          (¬ last.pushed < event.schema.size → last.finish.1 = .ok bytes) ∧
          Record.decode bytes = .ok r) ∧
    ∀ bytes found, bytes ≠ [] →
      (Descriptor.decodeList bytes = .ok found ↔
        found.length < UInt16.size ∧ bytes = Descriptor.encodeList found) := by
  intro here pushed last
  have hreached : here.Reachable := (Reachable.begin h).run before
  obtain ⟨parts, hstages⟩ := (stages_begin h).run before
  rw [List.nil_append] at hstages
  have hlast : last = (pushed.2.run after).2 := run_append e before _
  refine ⟨fun hroom => ?_, fun hroom => ?_, fun hvariants => ?_, fun bytes found hbytes => ?_⟩
  · refine ⟨congrArg Prod.fst (push_of_hasRoomForList hreached htakes hroom), ?_⟩
    intro bytes r hgiven hdecode
    rw [hlast] at hgiven
    exact descriptors_of_hasRoomForList hreached htakes hroom hstages hgiven hdecode
  · obtain ⟨error, hlacks, hpush⟩ := push_of_not_hasRoomForList hreached htakes hroom
    refine ⟨⟨error, hlacks, congrArg Prod.fst hpush⟩, ?_, ?_⟩
    · exact congrArg (fun result => result.2.scratch) hpush
    · intro bytes r hgiven hdecode
      rw [hlast] at hgiven
      exact absent_of_not_hasRoomForList hreached htakes hroom hstages hgiven hdecode
  · -- a record is given away in the end, whatever became of the list
    obtain ⟨bytes, r, hpartial, -, hdecode, -, -, -, -, -, -, -, -, -, -, hfinish⟩ :=
      truncated_record h hvariants
    refine ⟨bytes, r, hpartial, fun hall => ?_, hdecode⟩
    rwa [if_neg hall] at hfinish
  · exact Descriptor.decodeList_eq_ok_iff hbytes

/-- Two descriptors behind a number, one of them negative, and in their place more descriptors than
a count can tell. -/
theorem descriptors_of_poll :
    let before : List Push := [{ value := .i64 2 }]
    let two : List Descriptor := [⟨-1, 0x19⟩, ⟨7, 0x4⟩]
    let many : List Descriptor := List.replicate 70000 ⟨3, 0x1⟩
    ∃ e bytes r param error,
      begin {} {} Memory.none .pollExit ⟨1⟩ ⟨7⟩ = .ok e ∧
        (e.run before).2.TakesDescriptors ∧
        ((e.run before).2.push (.descriptors (some two))).1 = .ok 22 ∧
        (e.run (before ++ [{ value := .descriptors (some two) }])).2.finish.1 = .ok bytes ∧
        Record.decode bytes = .ok r ∧ r.param 1 = .ok param ∧ param.descriptors = .ok two ∧
        LacksRoom error ∧
        ((e.run before).2.push (.descriptors (some many))).1 = .error error ∧
        ((e.run before).2.push (.descriptors (some many))).2.scratch = (e.run before).2.scratch := by
  intro before two many
  let e : Encoder :=
    { scratch := { bytes := List.replicate 30 0 }
      settings := {}
      memory := Memory.none
      event := .pollExit
      time := ⟨1⟩
      tid := ⟨7⟩ }
  have h : begin {} {} Memory.none .pollExit ⟨1⟩ ⟨7⟩ = .ok e := rfl
  have htakes : (e.run before).2.TakesDescriptors :=
    { isOpen := rfl
      plain := rfl
      field := ⟨"fds", rfl⟩ }
  have hfew : two.length ≤ 6499 ∧
      (Descriptor.encodeList two).length ≤ (e.run before).2.scratch.remaining := by
    decide +kernel
  have hmany : ¬ many.length ≤ 6499 := by
    rw [List.length_replicate]
    decide
  have hvariants : e.VariantsFit (before ++ { value := .descriptors (some two) } :: []) := by
    decide +kernel
  have hall : ¬ (e.run (before ++ { value := .descriptors (some two) } :: [])).2.pushed < 2 := by
    decide +kernel
  obtain ⟨hread, -, hrecord, -⟩ := descriptors_of_pushed_list h htakes two []
  obtain ⟨-, hrefused, -⟩ := descriptors_of_pushed_list h htakes many []
  obtain ⟨hpush, hparam⟩ := hread hfew
  obtain ⟨bytes, r, -, hfinish, hdecode⟩ := hrecord hvariants
  obtain ⟨param, hat, hlist⟩ := hparam bytes r (.finished (hfinish hall)) hdecode
  obtain ⟨⟨error, hlacks, hfailed⟩, hkept, -⟩ := hrefused fun hroom => hmany hroom.1
  exact ⟨e, bytes, r, param, error, h, htakes, hpush, hfinish hall, hdecode, hat, hlist, hlacks,
    hfailed, hkept⟩

end Encoder

end SyscallTrace
