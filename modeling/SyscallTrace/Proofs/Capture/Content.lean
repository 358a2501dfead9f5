import SyscallTrace.Capture.Value

/-!
# The bytes of a value

What a value is recorded as, said without the buffer that it is written to. All writes follow one
pattern: they put the bytes of the value at the end of the buffer, or they fail because it is full
and leave it as it was. A value that cannot be read has no bytes (specification §4.3).

Only a string in memory depends on the room that is left: the window that is handed out for it is
what the memory is asked to fill.

- `Scratch.Adds`: a write that puts given bytes at the end, or fails and leaves the buffer.
- `Scratch.fill_eq_ite`, `Scratch.fill_eq`: what becomes of a window, and of one that reports what was
  put into it.
- `Value.content`: the bytes of a value.
- `Value.writeText_memory`, `Value.writeBytes_eq`: when there is room for a string in memory, and for
  a byte string.
- `Value.write_adds`: **writing a value adds its bytes or nothing**.
-/

namespace SyscallTrace

namespace Scratch

/-- The buffer with more bytes at its end. -/
def extend (s : Scratch) (bs : Bytes) : Scratch := { s with bytes := s.bytes ++ bs }

@[simp] theorem capacity_extend (s : Scratch) (bs : Bytes) :
    (s.extend bs).capacity = s.capacity := rfl

@[simp] theorem length_extend (s : Scratch) (bs : Bytes) :
    (s.extend bs).length = s.length + bs.length := List.length_append

@[simp] theorem extend_nil (s : Scratch) : s.extend [] = s := by simp [extend]

theorem extend_extend (s : Scratch) (bs cs : Bytes) :
    (s.extend bs).extend cs = s.extend (bs ++ cs) := by simp [extend]

/-- What was added leaves less room. -/
theorem remaining_extend (s : Scratch) (bs : Bytes) :
    (s.extend bs).remaining = s.remaining - bs.length := by
  rw [remaining, remaining, length_extend, capacity_extend, Nat.sub_sub]

/-- What was added can be taken back. -/
@[simp] theorem truncate_extend (s : Scratch) (bs : Bytes) :
    (s.extend bs).truncate s.length = s := by
  simp [extend, truncate, length]

@[simp] theorem truncate_length (s : Scratch) : s.truncate s.length = s := by
  simp [truncate, length]

/-- A write that puts bytes at the end of a buffer, or fails and leaves the buffer alone. -/
inductive Adds {α : Type} (s : Scratch) (bs : Bytes) : Except BufferFull α × Scratch → Prop
  | added (a : α) (h : s.length + bs.length ≤ s.capacity) : Adds s bs (.ok a, s.extend bs)
  | refused (e : BufferFull) : Adds s bs (.error e, s)

/-- Writing nothing adds nothing. -/
theorem Adds.nothing {α : Type} {s : Scratch} (a : α) (h : s.length ≤ s.capacity) :
    Adds s [] (.ok a, s) := by
  have hadded : Adds s [] (.ok a, s.extend []) := .added a h
  rwa [extend_nil] at hadded

/-- A write that fails under a condition, and adds its bytes otherwise. -/
theorem Adds.of_ite {α : Type} {s : Scratch} {bs : Bytes} {full : Prop} [Decidable full]
    (e : BufferFull) (a : α) (h : ¬ full → s.length + bs.length ≤ s.capacity) :
    Adds s bs (if full then (.error e, s) else (.ok a, s.extend bs)) := by
  by_cases hfull : full
  · rw [if_pos hfull]
    exact .refused e
  · rw [if_neg hfull]
    exact .added a (h hfull)

/-- An append succeeds if there is room for its bytes, and leaves the buffer alone otherwise. -/
theorem append_eq (s : Scratch) (bs : Bytes) :
    s.append bs =
      if s.capacity < s.length + bs.length then
        (.error (s.full (s.length + bs.length)), s)
      else (.ok bs.length, s.extend bs) := by
  have hlength : (s.extend bs).length = s.length + bs.length := length_extend s bs
  have htruncate : (s.extend bs).truncate s.length = s := truncate_extend s bs
  unfold extend at hlength htruncate
  simp only [append, hlength, htruncate, Nat.add_sub_cancel_left]
  rfl

/-- Appending adds the bytes, as long as there is room for them. -/
theorem append_adds (s : Scratch) (bs : Bytes) : Adds s bs (s.append bs) := by
  rw [append_eq]
  exact .of_ite _ _ Nat.le_of_not_lt

@[simp] theorem length_window (s : Scratch) (max : Nat) :
    (s.window max).length = min max s.remaining := List.length_replicate

/-- What is in a window after bytes were put into it. -/
def laidOver (window bs : Bytes) : Bytes :=
  bs.take window.length ++ window.drop bs.length

theorem length_laidOver (window bs : Bytes) : (laidOver window bs).length = window.length := by
  simp only [laidOver, List.length_append, List.length_take, List.length_drop]
  omega

/-- As many bytes of a window are kept as are reported and are there, unless it is smaller than it
should be, and reported full. -/
theorem fill_eq_ite (s : Scratch) (max : Nat) (put : Bytes → Filled) :
    let window := s.window max
    let filled := put window
    s.fill max put =
      if window.length < max ∧ window.length ≤ filled.reported then
        (.error (s.full (addSizes s.length max)), s)
      else
        (.ok (min filled.reported window.length),
          s.extend ((laidOver window filled.bytes).take (min filled.reported window.length))) := by
  intro window filled
  have hkept : ((⟨s.bytes ++ laidOver window filled.bytes, s.capacity⟩ : Scratch).truncate
      (s.length + min filled.reported window.length)) =
        s.extend ((laidOver window filled.bytes).take (min filled.reported window.length)) := by
    rw [truncate, extend, length, List.take_length_add_append]
  have hreported : (min filled.reported window.length = window.length) ↔
      window.length ≤ filled.reported := by omega
  rw [fill]
  rw [← laidOver, hkept, truncate_extend]
  exact ite_congr (propext (and_congr_right fun _ => hreported)) (fun _ => rfl) fun _ => rfl

/-- A window that reports what was put into it keeps exactly that, unless it is smaller than it
should be, and full. -/
theorem fill_eq {s : Scratch} {max : Nat} {put : Bytes → Filled} {bs : Bytes}
    (hput : put (s.window max) = ⟨bs, bs.length⟩) (hfits : bs.length ≤ min max s.remaining) :
    s.fill max put =
      if min max s.remaining < max ∧ bs.length = min max s.remaining then
        (.error (s.full (addSizes s.length max)), s)
      else (.ok bs.length, s.extend bs) := by
  rw [← length_window] at hfits ⊢
  have hkept : (laidOver (s.window max) bs).take bs.length = bs := by
    rw [laidOver, List.take_of_length_le hfits, List.take_left]
  have hfull : (s.window max).length ≤ bs.length ↔ bs.length = (s.window max).length :=
    ⟨Nat.le_antisymm hfits, fun h => Nat.le_of_eq h.symm⟩
  have hfill := s.fill_eq_ite max put
  simp only [hput, Nat.min_eq_left hfits, hkept, hfull] at hfill
  exact hfill

end Scratch

/-- A string that was read fits into the bytes that it was asked for. -/
theorem Memory.length_readString_le {memory : Memory} {space : AddressSpace} {address : UInt64}
    {size : Nat} {bs : Bytes} (h : memory.readString space address size = .ok bs) :
    bs.length ≤ size := by
  have hpages : ∀ (left start : Nat) (bs : Bytes),
      memory.readPages space start left = .ok bs → bs.length ≤ left + 1 := by
    intro left
    induction left using Nat.strongRecOn with
    | _ left ih =>
      intro start bs h
      rw [readPages] at h
      split at h
      · cases h
        simp
      · rename_i hleft
        split at h
        · cases h
        · -- one page, and the pages behind it if the string goes on
          dsimp only at h
          split at h
          · cases h
          · rename_i page hpage _
            have hmin : page.length ≤ left := hpage ▸ Nat.min_le_right _ _
            split at h
            · cases h
              have hcut := (List.takeWhile_sublist (· != 0) (l := page)).length_le
              simp only [List.length_append, List.length_singleton, Bytes.beforeNul]
              omega
            · cases hrest : memory.readPages space (start + min (pageSize - start % pageSize) left)
                  (left - min (pageSize - start % pageSize) left) with
              | error e =>
                rw [hrest] at h
                cases h
              | ok rest =>
                rw [hrest] at h
                cases h
                have hpos : 0 < min (pageSize - start % pageSize) left := by
                  have : start % pageSize < pageSize := Nat.mod_lt _ (by decide)
                  omega
                have hlt := ih _ (by omega) _ _ hrest
                rw [List.length_append]
                omega
  rw [readString] at h
  split at h
  · cases h
    exact Nat.zero_le _
  · have := hpages _ _ _ h
    omega

/-! ## Content -/

/-- What an attempt to read gives, nothing if it fails. -/
def Source.readOrNothing : Except ReadError Bytes → Bytes
  | .ok bs => bs
  | .error _ => []

theorem Source.length_readOrNothing_le {size : Nat} (r : Except ReadError Bytes)
    (h : ∀ bs, r = .ok bs → bs.length ≤ size) : (readOrNothing r).length ≤ size := by
  cases r with
  | ok bs => exact h bs rfl
  | error e => exact Nat.zero_le _

namespace Value

/-- The number of bytes that are wanted of a byte string: none of a source that points nowhere, and
with the ports of a connection none of a source whose front cannot be read, else no more than the
snap length. No parameter has more bytes than `maxParamSize`. -/
def wanted (settings : CaptureSettings) (memory : Memory) (source : Source) (length : UInt32)
    (ports : Option PortPair) : Nat :=
  if source.isNull || length == 0 then 0
  else
    match ports with
    | none => min length.toNat maxParamSize
    | some ports =>
      match source.read memory (min length.toNat Snaplen.lookaheadSize) with
      | .error _ => 0
      | .ok front =>
        min (min length.toNat (settings.snaplenFor ports front).toNat) maxParamSize

/-- No more is wanted than a parameter may have. -/
theorem wanted_le (settings : CaptureSettings) (memory : Memory) (source : Source)
    (length : UInt32) (ports : Option PortPair) :
    wanted settings memory source length ports ≤ maxParamSize := by
  unfold wanted
  split
  · exact Nat.zero_le _
  · split
    · exact Nat.min_le_right _ _
    · split
      · exact Nat.zero_le _
      · exact Nat.min_le_right _ _

/-- The bytes that a value is recorded as, if there is room for `room` of them. -/
def content (settings : CaptureSettings) (memory : Memory) (room : Nat) : Value → Bytes
  | .i8 n => [n.toUInt8]
  | .i16 n => Bytes.ofUInt16 n.toUInt16
  | .i32 n => Bytes.ofUInt32 n.toUInt32
  | .i64 n => Bytes.ofUInt64 n.toUInt64
  | .u8 n => [n]
  | .u16 n => Bytes.ofUInt16 n
  | .u32 n => Bytes.ofUInt32 n
  | .u64 n => Bytes.ofUInt64 n
  | .text (.slice bs) => (Bytes.beforeNul bs).take (maxParamSize - 1) ++ [0]
  | .text (.memory space start) =>
    if start == 0 then []
    else Source.readOrNothing (memory.readString space start (min maxParamSize room))
  | .text .null => []
  | .bytes source length ports =>
    if source.isNull || length == 0 then []
    else Source.readOrNothing
      (source.read memory (wanted settings memory source length ports))
  | .empty => []
  | .address endpoint => (endpoint.map fun endpoint => (endpoint.pack []).2).getD []
  | .connection socket user inbound =>
    (socket.map fun socket => (socket.pack user inbound []).2).getD []
  | .descriptors list => (list.map descriptorBytes).getD []

/-! ## Writing -/

theorem ignoreSize_adds {s : Scratch} {bs : Bytes} {r : Except BufferFull Nat × Scratch}
    (h : Scratch.Adds s bs r) : Scratch.Adds s bs (ignoreSize r) := by
  cases h with
  | added n hroom => exact .added () hroom
  | refused e => exact .refused e

/-- What is read has the length that was asked for. -/
theorem length_of_read {source : Source} {memory : Memory} {length : Nat} {bs : Bytes}
    (h : source.read memory length = .ok bs) : bs.length = length := by
  cases source with
  | slice data =>
    rw [Source.read] at h
    split at h
    · rename_i hle
      cases h
      rw [List.length_take, Nat.min_eq_left hle]
    · cases h
  | memory space start =>
    rw [Source.read] at h
    cases hread : memory.read space start length with
    | error e =>
      rw [hread] at h
      cases h
    | ok data =>
      rw [hread] at h
      cases h
      exact data.2
  | null => cases h

/-- A string in memory is read into a window of the size that there is room for. If that is too
small and the string fills it, the string may be longer. -/
theorem writeText_memory (memory : Memory) (space : AddressSpace) {start : UInt64}
    (hnull : (start == 0) = false) (s : Scratch) :
    let size := min maxParamSize s.remaining
    let data := Source.readOrNothing (memory.readString space start size)
    writeText memory (.memory space start) s =
      if size < maxParamSize ∧ data.length = size then
        (.error (s.full (Scratch.addSizes s.length maxParamSize)), s)
      else (.ok data.length, s.extend data) := by
  intro size data
  have hwindow : (s.window maxParamSize).length = size := s.length_window maxParamSize
  rw [writeText, Source.isNull, hnull, if_neg Bool.false_ne_true]
  cases hread : memory.readString space start size with
  | error e =>
    have hdata : data = [] := congrArg Source.readOrNothing hread
    rw [hdata]
    exact Scratch.fill_eq (by rw [hwindow, hread]; rfl) (Nat.zero_le _)
  | ok bs =>
    have hdata : data = bs := congrArg Source.readOrNothing hread
    rw [hdata]
    exact Scratch.fill_eq (by rw [hwindow, hread]) (Memory.length_readString_le hread)

/-- Writing a text adds its content, or fails for lack of room. -/
theorem writeText_adds {memory : Memory} {source : Source} {s : Scratch}
    (h : s.length ≤ s.capacity) (settings : CaptureSettings) :
    Scratch.Adds s ((Value.text source).content settings memory s.remaining)
      (writeText memory source s) := by
  cases source with
  | slice bs => exact Scratch.append_adds s _
  | null => exact .nothing 0 h
  | memory space start =>
    rw [content]
    cases hnull : start == 0 with
    | true =>
      rw [writeText, Source.isNull, hnull, if_pos rfl, if_pos rfl]
      exact .nothing 0 h
    | false =>
      rw [writeText_memory memory space hnull, if_neg Bool.false_ne_true]
      refine .of_ite _ _ fun _ => ?_
      have hsize := Source.length_readOrNothing_le (memory.readString space start
        (min maxParamSize s.remaining)) fun bs hread => Memory.length_readString_le hread
      rw [Scratch.remaining] at hsize ⊢
      omega

/-- The bytes that are wanted are written if there is room for them, all of them or none. -/
theorem writeWanted_eq (memory : Memory) (source : Source) (wanted : Nat) (s : Scratch) :
    let count := min wanted maxParamSize
    let data := Source.readOrNothing (source.read memory count)
    writeWanted memory source wanted s =
      if s.remaining < count then (.error (s.full (s.length + count)), s)
      else (.ok data.length, s.extend data) := by
  intro count data
  rw [writeWanted]
  by_cases hroom : s.remaining < count
  · rw [if_pos hroom, if_pos hroom]
  · have hcount : min count s.remaining = count := Nat.min_eq_left (Nat.le_of_not_lt hroom)
    have hwindow : (s.window count).length = count := (s.length_window count).trans hcount
    -- the window is as large as it should be, so what fills it was not cut
    have hwhole : ¬ (min count s.remaining < count ∧ data.length = min count s.remaining) := by
      rw [hcount]
      exact fun h => Nat.lt_irrefl _ h.1
    rw [if_neg hroom, if_neg hroom]
    refine (Scratch.fill_eq ?_ ?_).trans (if_neg hwhole)
    · rw [hwindow]
      show _ = (⟨data, data.length⟩ : Filled)
      cases hread : source.read memory count with
      | error e =>
        have hdata : data = [] := congrArg Source.readOrNothing hread
        rw [hdata]
        rfl
      | ok bs =>
        have hdata : data = bs := congrArg Source.readOrNothing hread
        rw [hdata, length_of_read hread]
    · rw [hcount]
      exact Source.length_readOrNothing_le _ fun bs hread => Nat.le_of_eq (length_of_read hread)

/-- A byte string is written if there is room for the bytes that are wanted of it. -/
theorem writeBytes_eq (settings : CaptureSettings) (memory : Memory) (source : Source)
    (length : UInt32) (ports : Option PortPair) (s : Scratch) :
    let count := wanted settings memory source length ports
    let data := (Value.bytes source length ports).content settings memory s.remaining
    writeBytes settings memory source length ports s =
      if s.remaining < count then (.error (s.full (s.length + count)), s)
      else (.ok data.length, s.extend data) := by
  intro count data
  have hcount : count = wanted settings memory source length ports := rfl
  have hdata : data = (Value.bytes source length ports).content settings memory s.remaining := rfl
  rw [content] at hdata
  rw [wanted.eq_def] at hcount
  unfold writeBytes
  by_cases hnull : (source.isNull || length == 0) = true
  · rw [if_pos hnull] at hcount hdata ⊢
    rw [hcount, hdata, if_neg (Nat.not_lt_zero _), Scratch.extend_nil]
    rfl
  · rw [if_neg hnull] at hcount hdata ⊢
    change data = Source.readOrNothing (source.read memory count) at hdata
    cases ports with
    | none =>
      rw [hdata, hcount]
      exact writeWanted_eq memory source _ s
    | some ports =>
      dsimp only at hcount ⊢
      cases hfront : source.read memory (min length.toNat Snaplen.lookaheadSize) with
      | ok front =>
        rw [hfront] at hcount
        rw [hdata, hcount]
        exact writeWanted_eq memory source _ s
      | error e =>
        -- no byte is wanted, so none is read, whatever the source answers
        rw [hfront] at hcount
        have hnone : data = [] := by
          have hzero := Source.length_readOrNothing_le (source.read memory count)
            fun bs hread => Nat.le_of_eq (length_of_read hread)
          rw [← hdata, hcount] at hzero
          exact List.eq_nil_of_length_eq_zero (Nat.le_zero.mp hzero)
        rw [hcount, hnone, if_neg (Nat.not_lt_zero _), Scratch.extend_nil]
        rfl

/-- No more bytes of a byte string are recorded than are wanted. -/
theorem length_content_bytes_le (settings : CaptureSettings) (memory : Memory) (source : Source)
    (length : UInt32) (ports : Option PortPair) (room : Nat) :
    ((Value.bytes source length ports).content settings memory room).length ≤
      wanted settings memory source length ports := by
  rw [content]
  split
  · exact Nat.zero_le _
  · exact Source.length_readOrNothing_le _ fun bs hread => Nat.le_of_eq (length_of_read hread)

/-- Writing bytes adds their content, or fails for lack of room. -/
theorem writeBytes_adds {memory : Memory} {source : Source} {s : Scratch}
    (h : s.length ≤ s.capacity) (settings : CaptureSettings) (length : UInt32)
    (ports : Option PortPair) :
    Scratch.Adds s ((Value.bytes source length ports).content settings memory s.remaining)
      (writeBytes settings memory source length ports s) := by
  rw [writeBytes_eq]
  refine .of_ite _ _ fun hroom => ?_
  have hcount := length_content_bytes_le settings memory source length ports s.remaining
  rw [Scratch.remaining] at hroom hcount ⊢
  omega

/-- **Writing a value adds its bytes or nothing.** -/
theorem write_adds {s : Scratch} (h : s.length ≤ s.capacity) (settings : CaptureSettings)
    (memory : Memory) (value : Value) :
    Scratch.Adds s (value.content settings memory s.remaining)
      (value.write settings memory s) := by
  cases value with
  | text source => exact ignoreSize_adds (writeText_adds h settings)
  | bytes source length ports => exact ignoreSize_adds (writeBytes_adds h settings length ports)
  | empty => exact .nothing () h
  | address endpoint =>
    cases endpoint with
    | none => exact .nothing () h
    | some endpoint => exact ignoreSize_adds (Scratch.append_adds s _)
  | connection socket user inbound =>
    cases socket with
    | none => exact .nothing () h
    | some socket => exact ignoreSize_adds (Scratch.append_adds s _)
  | descriptors list =>
    cases list with
    | none => exact .nothing () h
    | some list => exact ignoreSize_adds (Scratch.append_adds s _)
  | i8 _ | i16 _ | i32 _ | i64 _ | u8 _ | u16 _ | u32 _ | u64 _ =>
    exact ignoreSize_adds (Scratch.append_adds s _)

/-! ## Sizes -/

/-- The number of bytes of an integer, none for a value of another kind. -/
def integerSize? : Value → Option UInt32
  | .i8 _ | .u8 _ => some 1
  | .i16 _ | .u16 _ => some 2
  | .i32 _ | .u32 _ => some 4
  | .i64 _ | .u64 _ => some 8
  | _ => none

/-- A parameter of fixed size that can hold a value is absent or holds an integer of its size. -/
theorem integerSize?_of_accepts {value : Value} {type : ParamType} {size : UInt32}
    (h : value.accepts type = true) (hsize : type.fixedSize? = some size) :
    value = .empty ∨ value.integerSize? = some size := by
  cases value with
  | empty => exact .inl rfl
  | i8 _ | i16 _ | i32 _ | i64 _ | u8 _ | u16 _ | u32 _ | u64 _ | text _ | bytes _ _ _
  | address _ | connection _ _ _ | descriptors _ =>
    right
    cases type <;> cases h <;> cases hsize <;> rfl

/-- An integer has the size of its kind, wherever it is written. -/
theorem length_content_of_integerSize? {value : Value} {size : UInt32}
    (h : value.integerSize? = some size) (settings : CaptureSettings) (memory : Memory)
    (room : Nat) : (value.content settings memory room).length = size.toNat := by
  cases value <;> cases h <;> simp [content]

/-- The content of a value fits every parameter that can hold the value. -/
theorem fits_content {value : Value} {type : ParamType}
    (h : type = .dyn ∨ value.accepts type = true) (hvariable : type.isVariable = false)
    (settings : CaptureSettings) (memory : Memory) (room : Nat) :
    (value.content settings memory room).length = 0 ∨
      ∃ size, type.fixedSize? = some size ∧
        (value.content settings memory room).length = size.toNat := by
  rcases h with rfl | h
  · cases hvariable
  · rw [ParamType.isVariable, Option.isNone_eq_false_iff, Option.isSome_iff_exists] at hvariable
    obtain ⟨size, hsize⟩ := hvariable
    rcases integerSize?_of_accepts h hsize with rfl | hinteger
    · exact .inl rfl
    · exact .inr ⟨size, hsize, length_content_of_integerSize? hinteger settings memory room⟩

end Value

end SyscallTrace
