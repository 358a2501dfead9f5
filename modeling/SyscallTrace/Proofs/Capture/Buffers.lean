import SyscallTrace.Proofs.Capture.Pages
import SyscallTrace.Proofs.Capture.Reachable

/-!
# Byte strings are copied whole

How many bytes of a byte string are wanted is known before it is copied: as many as its length says,
and no more than a parameter may have or than the snap length allows. There has to be room for all
of them, and all of them have to be readable. If there is no room the event is given up, and if they
cannot be read nothing is recorded, but no part of them ever is (specification §4.3).

- `Encoder.copying`: what becomes of the first bytes of a source.
- `Encoder.push_bytes`: **byte strings are copied whole or not at all**, and it makes no difference
  whether the producer has the bytes or memory does.
-/

namespace SyscallTrace

/-! ## Sources that agree -/

/-- Two answers that agree are the same, or both tell a failure, if not the same one. -/
theorem cases_of_toOption_eq {α ε : Type} {x y : Except ε α} (h : x.toOption = y.toOption) :
    (∃ a, x = .ok a ∧ y = .ok a) ∨ ∃ e e', x = .error e ∧ y = .error e' := by
  cases x with
  | ok a =>
    cases y with
    | ok b => exact .inl ⟨a, rfl, congrArg Except.ok (Option.some.inj h).symm⟩
    | error e => cases h
  | error e =>
    cases y with
    | ok b => cases h
    | error e' => exact .inr ⟨e, e', rfl, rfl⟩

/-- Memory that has exactly the bytes of a slice answers like the slice. -/
theorem Memory.Shows.read_eq {memory : Memory} {r : Region} (h : memory.Shows r.space r.contents)
    (hend : r.base.toNat + r.bytes.length ≤ UInt64.size) {length : Nat} (hlength : 0 < length) :
    ((Source.memory r.space r.base).read memory length).toOption =
      ((Source.slice r.bytes).read memory length).toOption := by
  have hread := h r.base length hlength
  rw [Region.read_base hend] at hread
  rw [Source.read, Source.read]
  cases hanswer : memory.read r.space r.base length with
  | error e =>
    rw [hanswer] at hread
    by_cases hle : length ≤ r.bytes.length
    · rw [if_pos hle] at hread
      cases hread
    · rw [if_neg hle]
      rfl
  | ok answer =>
    rw [hanswer] at hread
    by_cases hle : length ≤ r.bytes.length
    · rw [if_pos hle] at hread ⊢
      exact hread
    · rw [if_neg hle] at hread
      cases hread

/-- As many bytes are wanted of sources that agree on what is read of them. -/
theorem Value.wanted_congr (settings : CaptureSettings) {memory : Memory} {source other : Source}
    (hnull : source.isNull = other.isNull)
    (hread : ∀ count, 0 < count →
      (source.read memory count).toOption = (other.read memory count).toOption)
    {length : UInt32} {ports : Option PortPair} :
    wanted settings memory source length ports = wanted settings memory other length ports := by
  unfold wanted
  rw [← hnull]
  by_cases hnone : (source.isNull || length == 0) = true
  · rw [if_pos hnone, if_pos hnone]
  · rw [if_neg hnone, if_neg hnone]
    cases ports with
    | none => rfl
    | some ports =>
      have hlength : 0 < min length.toNat Snaplen.lookaheadSize := by
        have hpositive : 0 < length.toNat := by
          refine Nat.pos_of_ne_zero fun hzero => hnone ?_
          have hempty : length = 0 := UInt32.toNat_inj.mp hzero
          rw [hempty, beq_self_eq_true, Bool.or_true]
        exact Nat.lt_min.mpr ⟨hpositive, by decide⟩
      dsimp only
      rcases cases_of_toOption_eq (hread _ hlength) with
        ⟨front, hsource, hother⟩ | ⟨e, e', hsource, hother⟩
      · rw [hsource, hother]
      · rw [hsource, hother]

namespace Encoder

/-- What becomes of the first `count` bytes of a source: without room for them the event is given
up, and if they cannot all be read nothing is recorded. -/
def copying (e : Encoder) (source : Source) (count : Nat) : Except EncodeError Nat × Encoder :=
  if e.scratch.remaining < count then
    (.error (.bufferFull (e.scratch.full (e.scratch.length + count))), e.givenUp)
  else
    match source.read e.memory count with
    | .ok bs => (.ok count, e.taking bs)
    | .error _ => (.ok 0, e.taking [])

variable {e : Encoder} {source : Source} {length : UInt32} {ports : Option PortPair}

/-- There always is room for nothing. -/
theorem copying_zero (e : Encoder) (source : Source) :
    e.copying source 0 = (.ok 0, e.taking []) := by
  rw [copying, if_neg (Nat.not_lt_zero _)]
  cases hread : source.read e.memory 0 with
  | error error => rfl
  | ok bs =>
    have hnone : bs = [] := List.eq_nil_of_length_eq_zero (Value.length_of_read hread)
    rw [hnone]

/-- Sources that agree on what is read of them are copied alike. -/
theorem copying_congr {other : Source} {count : Nat}
    (h : 0 < count →
      (source.read e.memory count).toOption = (other.read e.memory count).toOption) :
    e.copying source count = e.copying other count := by
  by_cases hcount : count = 0
  · rw [hcount, copying_zero, copying_zero]
  · rw [copying, copying]
    rcases cases_of_toOption_eq (h (Nat.pos_of_ne_zero hcount)) with
      ⟨bs, hsource, hother⟩ | ⟨error, error', hsource, hother⟩
    · rw [hsource, hother]
    · rw [hsource, hother]

/-- The bytes that are wanted of a byte string are copied. -/
theorem push_bytes_eq_copying (he : e.Reachable) (hvariant : e.variant = none) {field : Field}
    (htarget : e.target? (.bytes source length ports) = some field) :
    e.push (.bytes source length ports) =
      if source.isNull || length == 0 then (.ok 0, e.taking [])
      else e.copying source (Value.wanted e.settings e.memory source length ports) := by
  have hwrite : (Value.bytes source length ports).write e.settings e.memory e.scratch =
      Value.ignoreSize (Value.writeBytes e.settings e.memory source length ports e.scratch) := rfl
  rw [Value.writeBytes_eq, apply_ite Value.ignoreSize] at hwrite
  have hlength := Value.length_content_bytes_le e.settings e.memory source length ports
    e.scratch.remaining
  have hsmall := Value.wanted_le e.settings e.memory source length ports
  rw [he.push_eq_of_none hvariant htarget hwrite, recording_of_le (Nat.le_trans hlength hsmall),
    Value.content]
  by_cases hnull : (source.isNull || length == 0) = true
  · rw [if_pos hnull, if_pos hnull, Value.wanted.eq_def, if_pos hnull, if_neg (Nat.not_lt_zero _)]
    rfl
  · rw [if_neg hnull, if_neg hnull, copying]
    cases hread : source.read e.memory
        (Value.wanted e.settings e.memory source length ports) with
    | error error => rfl
    | ok bs =>
      show _ = if _ then _ else (Except.ok _, e.taking bs)
      rw [← Value.length_of_read hread]
      rfl

/-- Sources that agree on what is read of them are recorded alike. -/
theorem push_bytes_congr (he : e.Reachable) (hvariant : e.variant = none) {field : Field}
    (htarget : e.target? (.bytes source length ports) = some field) {other : Source}
    (hnull : source.isNull = other.isNull)
    (hread : ∀ count, 0 < count →
      (source.read e.memory count).toOption = (other.read e.memory count).toOption) :
    e.push (.bytes source length ports) = e.push (.bytes other length ports) := by
  have hother : e.target? (.bytes other length ports) = some field := htarget
  rw [push_bytes_eq_copying he hvariant htarget, push_bytes_eq_copying he hvariant hother, ← hnull]
  by_cases hnone : (source.isNull || length == 0) = true
  · rw [if_pos hnone, if_pos hnone]
  · rw [if_neg hnone, if_neg hnone, Value.wanted_congr e.settings hnull hread]
    exact copying_congr (hread _)

/-- **Byte strings are copied whole or not at all.** Nothing is recorded if the source points
nowhere, if no byte is wanted, or if the ports of a connection are given and the front cannot be
read. Otherwise as many bytes are copied as the length says, a parameter may have, and the snap
length allows. Memory that has exactly the bytes of a slice is copied like the slice. -/
theorem push_bytes (he : e.Reachable) (hopen : e.aborted = false) (hvariant : e.variant = none)
    {field : Field} (hfield : e.event.schema.fields[e.pushed]? = some field)
    (haccepts : field.type = .dyn ∨ (Value.bytes source length ports).accepts field.type = true) :
    e.push (.bytes source length ports) =
        (if source.isNull || length == 0 then (.ok 0, e.taking [])
        else
          match ports with
          | none => e.copying source (min length.toNat maxParamSize)
          | some ports =>
            match source.read e.memory (min length.toNat Snaplen.lookaheadSize) with
            | .error _ => (.ok 0, e.taking [])
            | .ok front =>
              e.copying source
                (min (min length.toNat maxParamSize) (e.settings.snaplenFor ports front).toNat)) ∧
      (e.taking []).scratch = e.scratch ∧
      ∀ r : Region, source = .memory r.space r.base → r.base ≠ 0 →
        r.base.toNat + r.bytes.length ≤ UInt64.size → e.memory.Shows r.space r.contents →
        e.push (.bytes source length ports) = e.push (.bytes (.slice r.bytes) length ports) := by
  have htarget : e.target? (.bytes source length ports) = some field :=
    target?_eq_some_iff.mpr ⟨hopen, hfield, haccepts⟩
  refine ⟨?_, he.scratch_skipping htarget, ?_⟩
  · rw [push_bytes_eq_copying he hvariant htarget]
    by_cases hnull : (source.isNull || length == 0) = true
    · rw [if_pos hnull, if_pos hnull]
    · rw [if_neg hnull, if_neg hnull, Value.wanted.eq_def, if_neg hnull]
      cases ports with
      | none => rfl
      | some ports =>
        dsimp only
        cases hfront : source.read e.memory (min length.toNat Snaplen.lookaheadSize) with
        | error error => exact copying_zero e source
        | ok front =>
          dsimp only
          -- the two limits are taken in the other order
          rw [Nat.min_right_comm]
  · rintro r rfl hbase hend hshows
    refine push_bytes_congr he hvariant htarget ?_ fun count => hshows.read_eq hend
    exact beq_eq_false_iff_ne.mpr hbase

/-- A datagram of which memory shows twenty bytes: the front can be read, and the snap length allows
twelve. -/
theorem push_bytes_of_datagram :
    let datagram : Region := ⟨.user, 4096, List.replicate 20 7⟩
    let value (source : Source) : Value := .bytes source 600 (some { remotePort := 53 })
    ∃ e : Encoder,
      e.Reachable ∧ e.aborted = false ∧ e.variant = none ∧
        e.event.schema.fields[e.pushed]? = some ⟨"data", .bytebuf⟩ ∧
        e.memory.Shows .user datagram.contents ∧
        e.push (value (.memory .user 4096)) = (.ok 12, e.taking (List.replicate 12 7)) ∧
        (e.taking []).scratch = e.scratch ∧
        e.push (value (.memory .user 4096)) = e.push (value (.slice datagram.bytes)) := by
  intro datagram value
  let start : Encoder :=
    { scratch := { bytes := List.replicate 30 0, capacity := 60 }
      settings := { snaplen := 12 }
      memory := Memory.ofRegions [datagram]
      event := .sendtoExit
      time := ⟨1⟩
      tid := ⟨7⟩ }
  have hstart : Encoder.begin { capacity := 60 } { snaplen := 12 } (Memory.ofRegions [datagram])
      .sendtoExit ⟨1⟩ ⟨7⟩ = .ok start := rfl
  have hshows : (Memory.ofRegions [datagram]).Shows .user datagram.contents :=
    Memory.shows_ofRegions (r := datagram) (by decide)
  let e : Encoder := (start.push (.i64 20)).2
  have he : e.Reachable := .push (.begin hstart) (.i64 20)
  have hfield : e.event.schema.fields[e.pushed]? = some ⟨"data", .bytebuf⟩ := rfl
  have haccepts : ParamType.bytebuf = .dyn ∨
      (value (.memory .user 4096)).accepts .bytebuf = true := .inr rfl
  obtain ⟨hcopied, hskipped, hsame⟩ := push_bytes he rfl rfl hfield haccepts
  refine ⟨e, he, rfl, rfl, hfield, hshows, ?_, hskipped, ?_⟩
  · exact hcopied
  · exact hsame datagram rfl (by decide) (by decide) hshows

end Encoder

end SyscallTrace
