import Mathlib.Control.Monad.Basic
import SyscallTrace.Proofs.Capture.Payloads
import SyscallTrace.Proofs.Capture.Truncation
import SyscallTrace.Proofs.Record.Integer
import SyscallTrace.Proofs.Text.Utf8

/-!
# Decoding what was encoded

If every value of an event is taken, the bytes that are given away decode to the event: its time,
its thread, and for each value a parameter with the byte in front of the value, if there is one,
and the bytes of the value. A value that stands alone in its parameter is given back by the
accessor of its type (specification §4.3, §4.6, §8).

- `Push.recorded`: the bytes of some values, each with the room that the others leave.
- `Value.ReadsBack`: when a parameter gives a value back.
- `Value.readsBack_content`: the bytes of a value give it back.
- `Encoder.written_of_succeeded`: what is written if every push succeeds.
- `Encoder.decode_encoded`: **decoding undoes encoding**.
-/

namespace SyscallTrace

/-- The bytes that some values are recorded as. Each leaves less room for the next. -/
def Push.recorded (settings : CaptureSettings) (memory : Memory) : Nat → List Push → List Bytes
  | _, [] => []
  | room, p :: pushes =>
    p.bytes settings memory room ::
      recorded settings memory (room - (p.bytes settings memory room).length) pushes

/-! ## Reading a value -/

namespace Value

/-- A signed integer, extended with its sign. -/
def signed? : Value → Option Int64
  | .i8 n => some n.toInt64
  | .i16 n => some n.toInt64
  | .i32 n => some n.toInt64
  | .i64 n => some n
  | _ => none

/-- An unsigned integer, extended with zeros. -/
def unsigned? : Value → Option UInt64
  | .u8 n => some n.toUInt64
  | .u16 n => some n.toUInt64
  | .u32 n => some n.toUInt64
  | .u64 n => some n
  | _ => none

/-- A value is given back by the accessor of the type of a parameter: an integer extended to 64
bits, nothing for an absent one, a text without NUL, and the bytes of a byte string. A text has
to leave room for a NUL. An address is given back as far as it is packed, a connection as what its
socket is to tell of, and a list of descriptors if the count can tell its length. -/
structure ReadsBack (value : Value) (param : Param) : Prop where
  signed : param.type.isVariable = false → ∀ n, value.signed? = some n →
    param.signed? = .ok (some n)
  unsigned : param.type.isVariable = false → ∀ n, value.unsigned? = some n →
    param.unsigned? = .ok (some n)
  absent : param.type.isVariable = false → value = .empty →
    param.signed? = .ok none ∧ param.unsigned? = .ok none
  text : param.type.isString = true → ∀ s, value = .ofText (Utf8.encode s) →
    0 ∉ Utf8.encode s → (Utf8.encode s).length < maxParamSize → param.text = .ok s
  bytes : ∀ bs, value = .ofBytes bs → bs.length ≤ maxParamSize → param.data = bs
  address : param.type = .sockaddr → ∀ endpoint, value = .address endpoint →
    param.address? = .ok (endpoint.map Endpoint.address)
  connection : param.type = .socktuple → ∀ socket user inbound,
    value = .connection (some socket) user inbound → socket.OneFamily user →
      ∃ told, socket.Tells user inbound told ∧ param.connection? = .ok (some told)
  noConnection : param.type = .socktuple → ∀ socket user inbound,
    value = .connection socket user inbound → (∀ s ∈ socket, ¬ s.OneFamily user) →
      param.connection? = .ok none
  descriptors : param.type = .fdlist → ∀ list, value = .descriptors list →
    (∀ l ∈ list, l.length < UInt16.size) → param.descriptors = .ok (list.getD [])

/-- A byte is an integer of one byte. -/
theorem singleton_eq_encode (b : UInt8) : [b] = LittleEndian.encode 1 b.toNat := by
  rw [LittleEndian.encode, LittleEndian.encode_zero, UInt8.ofNat_toNat]

/-- A signed integer is recorded in two's complement. -/
theorem content_of_signed? {value : Value} {n : Int64} (h : value.signed? = some n)
    (settings : CaptureSettings) (memory : Memory) (room : Nat) :
    ∃ w m, (w = 1 ∨ w = 2 ∨ w = 4 ∨ w = 8) ∧ m < LittleEndian.count w ∧
      value.content settings memory room = LittleEndian.encode w m ∧
      Int64.ofInt (Int.bmod m (LittleEndian.count w)) = n := by
  cases value <;> cases h
  case i8 n =>
    refine ⟨1, n.toUInt8.toNat, by decide, n.toUInt8.toNat_lt, singleton_eq_encode _, ?_⟩
    exact congrArg Int64.ofInt n.toBitVec.toInt_eq_toNat_bmod.symm
  case i16 n =>
    refine ⟨2, n.toUInt16.toNat, by decide, n.toUInt16.toNat_lt, rfl, ?_⟩
    exact congrArg Int64.ofInt n.toBitVec.toInt_eq_toNat_bmod.symm
  case i32 n =>
    refine ⟨4, n.toUInt32.toNat, by decide, n.toUInt32.toNat_lt, rfl, ?_⟩
    exact congrArg Int64.ofInt n.toBitVec.toInt_eq_toNat_bmod.symm
  case i64 =>
    refine ⟨8, n.toUInt64.toNat, by decide, n.toUInt64.toNat_lt, rfl, ?_⟩
    have hword : Int.bmod n.toUInt64.toNat (LittleEndian.count 8) = n.toInt :=
      n.toBitVec.toInt_eq_toNat_bmod.symm
    rw [hword, Int64.ofInt_toInt]

/-- An unsigned integer is recorded as it is. -/
theorem content_of_unsigned? {value : Value} {n : UInt64} (h : value.unsigned? = some n)
    (settings : CaptureSettings) (memory : Memory) (room : Nat) :
    ∃ w m, (w = 1 ∨ w = 2 ∨ w = 4 ∨ w = 8) ∧ m < LittleEndian.count w ∧
      value.content settings memory room = LittleEndian.encode w m ∧ UInt64.ofNat m = n := by
  cases value <;> cases h
  case u8 n =>
    exact ⟨1, n.toNat, by decide, n.toNat_lt, singleton_eq_encode n, UInt64.ofNat_uInt8ToNat n⟩
  case u16 n => exact ⟨2, n.toNat, by decide, n.toNat_lt, rfl, UInt64.ofNat_uInt16ToNat n⟩
  case u32 n => exact ⟨4, n.toNat, by decide, n.toNat_lt, rfl, UInt64.ofNat_uInt32ToNat n⟩
  case u64 => exact ⟨8, n.toNat, by decide, n.toNat_lt, rfl, UInt64.ofNat_toNat⟩

/-- A text without NUL is recorded with a NUL behind it. -/
theorem content_ofText {bs : Bytes} (hnul : 0 ∉ bs) (hlength : bs.length < maxParamSize)
    (settings : CaptureSettings) (memory : Memory) (room : Nat) :
    (ofText bs).content settings memory room = bs ++ [0] := by
  rw [ofText, content, Bytes.beforeNul_of_not_mem hnul, List.take_of_length_le]
  exact Nat.le_sub_one_of_lt hlength

/-- Bytes that the producer has are recorded as they are. -/
theorem content_ofBytes {bs : Bytes} (hlength : bs.length ≤ maxParamSize)
    (settings : CaptureSettings) (memory : Memory) (room : Nat) :
    (ofBytes bs).content settings memory room = bs := by
  have hword : (UInt32.ofNat (min bs.length 0xFFFFFFFF)).toNat = bs.length := by
    rw [maxParamSize] at hlength
    rw [Nat.min_eq_left (by omega)]
    exact UInt32.toNat_ofNat_of_lt' (Nat.lt_of_le_of_lt hlength (by decide))
  rw [ofBytes, content, wanted, hword]
  by_cases hnull : (Source.isNull (.slice bs) ||
      UInt32.ofNat (min bs.length 0xFFFFFFFF) == 0) = true
  · -- nothing is written for no bytes
    have hzero : UInt32.ofNat (min bs.length 0xFFFFFFFF) = 0 := by simpa [Source.isNull] using hnull
    rw [hzero] at hword
    rw [if_pos hnull]
    exact (List.eq_nil_of_length_eq_zero hword.symm).symm
  · rw [if_neg hnull, if_neg hnull]
    show Source.readOrNothing (Source.read memory (min bs.length maxParamSize) (.slice bs)) = bs
    rw [Nat.min_eq_left hlength, Source.read, if_pos (Nat.le_refl _), List.take_length]
    rfl

/-- The bytes of a value give it back. -/
theorem readsBack_content (value : Value) (type : ParamType) (settings : CaptureSettings)
    (memory : Memory) (room : Nat) :
    value.ReadsBack { type, data := value.content settings memory room } where
  signed hfixed n h := by
    obtain ⟨w, m, hw, hm, hcontent, rfl⟩ := content_of_signed? h settings memory room
    rw [hcontent]
    exact Param.signed?_encode hfixed hw hm
  unsigned hfixed n h := by
    obtain ⟨w, m, hw, hm, hcontent, rfl⟩ := content_of_unsigned? h settings memory room
    rw [hcontent]
    exact Param.unsigned?_encode hfixed hw hm
  absent hfixed h := by
    have hread : Param.unsigned? { type, data := [] } = .ok none := Param.unsigned?_nil hfixed
    rw [h, content, Param.signed?, hread]
    exact ⟨rfl, rfl⟩
  text hstring s h hnul hlength := by
    rw [h, content_ofText hnul hlength, Param.text, Param.expect]
    dsimp only
    rw [hstring, Bytes.beforeNul_append_nul hnul, Utf8.decode_encode]
    show Except.ok (String.ofList s.toList) = _
    rw [String.ofList_toList]
  bytes bs h hlength := by
    rw [h]
    exact content_ofBytes hlength settings memory room
  address htype endpoint h := by
    rw [h]
    exact address?_content htype endpoint
  connection htype socket user inbound h hfamily := by
    rw [h]
    exact connection?_content htype hfamily inbound
  noConnection htype socket user inbound h hfamily := by
    rw [h]
    exact connection?_content_absent htype hfamily inbound
  descriptors htype list h hlength := by
    rw [h]
    exact descriptors_content htype hlength

end Value

/-! ## Runs without failures -/

theorem Push.length_recorded (settings : CaptureSettings) (memory : Memory) (room : Nat)
    (pushes : List Push) : (recorded settings memory room pushes).length = pushes.length := by
  induction pushes generalizing room with
  | nil => rfl
  | cons p pushes ih => rw [recorded, List.length_cons, ih, List.length_cons]

/-- Where a value stands decides how much room there is for it. -/
theorem Push.getElem?_recorded (settings : CaptureSettings) (memory : Memory)
    {pushes : List Push} :
    ∀ {i : Nat} {p : Push} (room : Nat), pushes[i]? = some p →
      (recorded settings memory room pushes)[i]? = some (p.bytes settings memory
        (room - ((recorded settings memory room pushes).take i).flatten.length)) := by
  induction pushes with
  | nil =>
    intro i p room h
    cases h
  | cons q pushes ih =>
    intro i p room h
    cases i with
    | zero =>
      cases h
      rfl
    | succ i =>
      rw [recorded, List.getElem?_cons_succ, ih _ h, List.take_succ_cons, List.flatten_cons,
        List.length_append, Nat.sub_sub]

namespace Encoder

/-- What is asked of an encoder without a pending byte: which field it would take a value for, and
what it would write. -/
theorem Holds.prepare {start e : Encoder} {parts : List Bytes} (h : Holds start parts e)
    (hnone : e.variant = none) (p : Push) :
    (e.prepare p).variant = p.variant ∧
      (∀ field ∈ (e.prepare p).target? p.value,
        start.event.schema.fields[parts.length]? = some field) ∧
      (e.prepare p).bytesOf p.value = p.bytes start.settings start.memory
        (start.scratch.capacity - (headSize start.event + parts.flatten.length)) := by
  obtain ⟨variant, aborted, hparts, -⟩ := h
  cases hnone
  rw [prepare_holding, Option.or_none]
  refine ⟨rfl, ?_, ?_⟩
  · intro field htarget
    exact (target?_eq_some_iff.mp htarget).2.1
  · rw [bytesOf, ← length_staged hparts.count_le]
    rfl

/-- If every push succeeds, each value is written for the parameter at its own position. -/
theorem written_of_succeeded {start : Encoder} {pushes : List Push} :
    ∀ {e : Encoder} {parts : List Bytes} {lengths : List Nat}, Holds start parts e →
      e.variant = none →
      (∀ (i : Nat) (p : Push) (field : Field), pushes[i]? = some p →
        start.event.schema.fields[parts.length + i]? = some field → p.variant.isSome →
          field.type.isVariable = true) →
      (e.run pushes).1 = lengths.map .ok →
        e.VariantsFit pushes ∧
          e.written pushes = Push.recorded start.settings start.memory
            (start.scratch.capacity - (headSize start.event + parts.flatten.length)) pushes := by
  induction pushes with
  | nil => exact fun _ _ _ _ => ⟨trivial, rfl⟩
  | cons p pushes ih =>
    intro e parts lengths h hnone hvariants hpushes
    obtain ⟨hprepared, htarget, hbytes⟩ := h.prepare hnone p
    -- no value was refused, so the field at hand is the one at the position of the push
    have hvariant : ∀ field ∈ (e.prepare p).target? p.value,
        (e.prepare p).variant.isSome → field.type.isVariable = true := by
      intro field hfield hsome
      rw [hprepared] at hsome
      exact hvariants 0 p field rfl (htarget field hfield) hsome
    rw [run] at hpushes
    cases lengths with
    | nil => cases hpushes
    | cons length lengths =>
      rw [List.map_cons, List.cons.injEq] at hpushes
      obtain ⟨hfirst, hrest⟩ := hpushes
      rcases h.step hvariant with ⟨error, hresult, -⟩ | ⟨hresult, hnext, hheld⟩
      · rw [hresult] at hfirst
        cases hfirst
      · obtain ⟨hfits, hwritten⟩ := ih hheld hnext (fun i q field hq hfield => by
          rw [List.length_append, List.length_singleton, Nat.add_assoc, Nat.add_comm 1 i] at hfield
          exact hvariants (i + 1) q field hq hfield) hrest
        refine ⟨⟨hvariant, hfits⟩, ?_⟩
        rw [List.flatten_append, List.flatten_singleton, List.length_append, ← Nat.add_assoc,
          ← Nat.sub_sub] at hwritten
        rw [written, hresult]
        dsimp only
        rw [hwritten, Push.recorded, hbytes]

/-- **Decoding undoes encoding.** If every push succeeds and the event is complete, the bytes that
are given away decode to the event, and its parameters are the values: the byte in front of each,
if there is one, and the bytes of the value. A string in memory is what the memory gives for the
room that there is. -/
theorem decode_encoded {scratch : Scratch} {settings : CaptureSettings} {memory : Memory}
    {event : EventType} {time : Timestamp} {tid : Tid} {e : Encoder}
    (h : begin scratch settings memory event time tid = .ok e) {pushes : List Push}
    (hvariants : ∀ (i : Nat) (p : Push) (field : Field), pushes[i]? = some p →
      event.schema.fields[i]? = some field → p.variant.isSome → field.type.isVariable = true)
    {lengths : List Nat} (hpushes : (e.run pushes).1 = lengths.map .ok) {bytes : Bytes}
    (hfinish : (e.run pushes).2.finish.1 = .ok bytes) :
    let parts := Push.recorded settings memory (scratch.capacity - headSize event) pushes
    ∃ r, Record.decode bytes = .ok r ∧
      r.header.length.toNat = bytes.length ∧
      r.time = time ∧ r.tid = tid ∧ r.event = event ∧
      r.header.count.toNat = event.schema.size ∧ r.size = event.schema.size ∧
      pushes.length = event.schema.size ∧ lengths = parts.map List.length ∧
      ∀ i p field, pushes[i]? = some p → event.schema.fields[i]? = some field →
        let room := scratch.capacity - headSize event - (parts.take i).flatten.length
        let param : Param := { type := field.type, data := p.bytes settings memory room }
        r.param i = .ok param ∧ lengths[i]? = some param.data.length ∧
          (p.variant = none → p.value.ReadsBack param) ∧
          ∀ variant, p.variant = some variant → field.type = .dyn →
            param.variant? = .ok (some (variant, p.value.content settings memory (room - 1))) := by
  intro parts
  have hheld := holds_begin h
  have hnone : e.variant = none := by
    obtain ⟨rfl, -⟩ := begin_eq_ok h
    rfl
  -- no push failed, so what was written is what the pushes are recorded as
  obtain ⟨hfits, hwritten⟩ := written_of_succeeded hheld hnone (fun i p field hp hfield => by
    rw [List.length_nil, Nat.zero_add] at hfield
    exact hvariants i p field hp hfield) hpushes
  change e.written pushes = parts at hwritten
  have hlengths : lengths = parts.map List.length := by
    rw [← hwritten, ← toOption_run hheld hfits, hpushes, List.filterMap_map]
    exact List.filterMap_some.symm
  have hlast : Holds _ parts _ := hwritten ▸ holds_run hheld hfits
  generalize (e.run pushes).2 = last at hlast hfinish
  obtain ⟨variant, aborted, hparts, hmissing⟩ := hlast
  -- the event is complete, so what is given away is the record that the values make
  obtain ⟨-, hall, hsealed⟩ := finish_eq_ok_iff.mp hfinish
  obtain ⟨sealed, r, hbytes, -, hdecode, hlength, hcount, htime, htid, hevent, hsize, hparam⟩ :=
    hparts.exists_record variant aborted
  rw [hbytes] at hsealed
  cases hsealed
  refine ⟨r, hdecode, hlength, htime, htid, hevent, hcount, hsize, ?_, hlengths, ?_⟩
  · rw [← Push.length_recorded settings memory]
    exact hall
  · intro i p field hp hfield room param
    have hpart : parts[i]? = some param.data := Push.getElem?_recorded settings memory _ hp
    refine ⟨?_, ?_, ?_, ?_⟩
    · rw [hparam i field hfield, hpart]
      rfl
    · rw [hlengths, List.getElem?_map, hpart]
      rfl
    · intro halone
      show p.value.ReadsBack { type := field.type, data := p.bytes settings memory room }
      rw [Push.bytes_of_none halone]
      exact p.value.readsBack_content field.type settings memory room
    · intro variant hvariant hdyn
      show Param.variant? { type := field.type, data := p.bytes settings memory room } = _
      rw [Push.bytes_of_some hvariant, hdyn]
      rfl

/-- Three numbers, and two parameters of several types, the second of them without a value. -/
theorem decode_ptrace :
    let pushes : List Push :=
      [⟨.i64 (-3), none⟩, ⟨.u32 7, some 2⟩, ⟨.empty, some 1⟩, ⟨.u16 4, none⟩, ⟨.i64 9, none⟩]
    ∃ e bytes r param,
      begin {} {} Memory.none .ptraceExit ⟨1⟩ ⟨7⟩ = .ok e ∧
        (e.run pushes).1 = [8, 5, 1, 2, 8].map .ok ∧
        (e.run pushes).2.finish.1 = .ok bytes ∧ Record.decode bytes = .ok r ∧
        r.header.length.toNat = bytes.length ∧ r.tid = ⟨7⟩ ∧ r.size = 5 ∧
        r.param 0 = .ok param ∧ param.signed? = .ok (some (-3)) ∧
        r.param 1 = .ok { type := .dyn, data := [2, 7, 0, 0, 0] } ∧
        r.param 2 = .ok { type := .dyn, data := [1] } := by
  intro pushes
  let e : Encoder :=
    { scratch := { bytes := List.replicate 36 0 }
      settings := {}
      memory := Memory.none
      event := .ptraceExit
      time := ⟨1⟩
      tid := ⟨7⟩ }
  have h : begin {} {} Memory.none .ptraceExit ⟨1⟩ ⟨7⟩ = .ok e := rfl
  have hvariants : ∀ (i : Nat) (p : Push) (field : Field), pushes[i]? = some p →
      EventType.ptraceExit.schema.fields[i]? = some field → p.variant.isSome →
        field.type.isVariable = true := by
    intro i p field hp hfield hsome
    rcases i with _ | _ | _ | _ | _ | i
    · cases hp
      cases hsome
    · cases hfield
      rfl
    · cases hfield
      rfl
    · cases hp
      cases hsome
    · cases hp
      cases hsome
    · cases hp
  have hpushes : (e.run pushes).1 = [8, 5, 1, 2, 8].map .ok := by decide +kernel
  obtain ⟨bytes, hfinish⟩ : ∃ bytes, (e.run pushes).2.finish.1 = .ok bytes := by
    generalize hended : (e.run pushes).2.finish.1 = ended
    cases ended with
    | ok bytes => exact ⟨bytes, rfl⟩
    | error error =>
      have hsome : (e.run pushes).2.finish.1.toOption.isSome = true := by decide +kernel
      rw [hended] at hsome
      cases hsome
  obtain ⟨r, hdecode, hlength, -, htid, -, -, hsize, -, -, hparams⟩ :=
    decode_encoded h hvariants hpushes hfinish
  obtain ⟨hfirst, -, hreads, -⟩ := hparams 0 _ _ rfl rfl
  obtain ⟨hsecond, -⟩ := hparams 1 _ _ rfl rfl
  obtain ⟨hthird, -⟩ := hparams 2 _ _ rfl rfl
  exact ⟨e, bytes, r, _, h, hpushes, hfinish, hdecode, hlength, htid, hsize, hfirst,
    (hreads rfl).signed rfl _ rfl, hsecond, hthird⟩

end Encoder

end SyscallTrace
