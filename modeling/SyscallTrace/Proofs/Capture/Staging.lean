import SyscallTrace.Capture.Encoder
import SyscallTrace.Proofs.Capture.Content
import SyscallTrace.Proofs.Record.Grammar

/-!
# The staging of an event

At every moment the buffer of an encoder holds a record without its header: zeros where the header
will be, the length prefixes, with zeros for the values that are still missing, and the values. So
the state of an encoder is told by the values that it has taken, and the record that it gives away
in the end has these values and nothing for the others (specification §3, §15.1).

- `Encoder.staged`: the content of the buffer.
- `Encoder.holding`: an encoder that has taken given values.
- `Encoder.CanHold`: the values that an event can have, and that there is room for.
- `Encoder.begin_eq_ok`: an encoder starts without values.
- `Encoder.CanHold.exists_record`: **what is given away is a record of the values**.
-/

namespace SyscallTrace

/-! ## Writing inside of a buffer -/

namespace Scratch

/-- Bytes that are replaced by as many others. -/
theorem overwrite_middle (front back : Bytes) {old new : Bytes} (h : old.length = new.length) :
    overwrite (front ++ (old ++ back)) front.length new = front ++ (new ++ back) := by
  have hpadding : front.length + new.length - (front ++ (old ++ back)).length = 0 := by
    simp only [List.length_append]
    omega
  have hdrop : (front ++ (old ++ back)).drop (front.length + new.length) = back := by
    rw [← List.append_assoc, ← h, ← List.length_append, List.drop_left]
  rw [overwrite]
  simp only [hpadding, List.replicate_zero, List.append_nil]
  rw [hdrop, List.take_left, List.append_assoc]

/-- A write that ends inside of the buffer never fails. -/
theorem write_of_le {s : Scratch} {offset : Nat} {bs : Bytes}
    (h : offset + bs.length ≤ s.length) (hroom : s.length ≤ s.capacity) :
    s.write offset bs = (.ok (), { s with bytes := overwrite s.bytes offset bs }) := by
  have hstop : ¬ addSizes offset bs.length > s.capacity := by
    have : addSizes offset bs.length ≤ offset + bs.length := Nat.min_le_left _ _
    omega
  rw [write]
  exact if_neg hstop

end Scratch

namespace Encoder

/-! ## The content of the buffer -/

/-- The values of an event, with nothing for those that are missing. -/
def padded (event : EventType) (parts : List Bytes) : List Bytes :=
  parts ++ List.replicate (event.schema.size - parts.length) []

/-- A record without its header. -/
def staged (event : EventType) (parts : List Bytes) : Bytes :=
  List.replicate Header.size 0 ++ Record.body event.schema.width (padded event parts)

theorem length_padded {event : EventType} {parts : List Bytes}
    (h : parts.length ≤ event.schema.size) :
    (padded event parts).length = event.schema.size := by
  rw [padded, List.length_append, List.length_replicate]
  omega

theorem flatten_padded (event : EventType) (parts : List Bytes) :
    (padded event parts).flatten = parts.flatten := by
  rw [padded, List.flatten_append, List.flatten_replicate_nil, List.append_nil]

/-- A value that is missing is empty. -/
theorem getElem?_padded {event : EventType} {parts : List Bytes}
    (h : parts.length ≤ event.schema.size) {i : Nat} {field : Field}
    (hfield : event.schema.fields[i]? = some field) :
    (padded event parts)[i]? = some (parts[i]?.getD []) := by
  have hindex : i < event.schema.size := (List.getElem?_eq_some_iff.mp hfield).1
  rw [padded]
  by_cases hi : i < parts.length
  · rw [List.getElem?_append_left hi, List.getElem?_eq_getElem hi]
    rfl
  · -- as many empty values follow as the schema has fields left
    have hmissing : i - parts.length < event.schema.size - parts.length := by omega
    rw [List.getElem?_append_right (Nat.le_of_not_lt hi), List.getElem?_replicate,
      if_pos hmissing, List.getElem?_eq_none (Nat.le_of_not_lt hi)]
    rfl

theorem length_staged {event : EventType} {parts : List Bytes}
    (h : parts.length ≤ event.schema.size) :
    (staged event parts).length = headSize event + parts.flatten.length := by
  rw [staged, List.length_append, List.length_replicate, Record.length_body, length_padded h,
    flatten_padded, headSize, Nat.add_assoc]

/-- The prefix of a missing value is zero. -/
theorem encode_zero_eq (w : Nat) : LittleEndian.encode w 0 = List.replicate w 0 := by
  induction w with
  | zero => rfl
  | succ w ih => rw [LittleEndian.encode, Nat.zero_div, ih, List.replicate_succ]; rfl

/-- A value that is empty looks like one that is missing. -/
theorem padded_concat_nil {event : EventType} {parts : List Bytes}
    (h : parts.length < event.schema.size) : padded event (parts ++ [[]]) = padded event parts := by
  obtain ⟨missing, hmissing⟩ : ∃ missing, event.schema.size - parts.length = missing + 1 :=
    ⟨event.schema.size - parts.length - 1, by omega⟩
  have hless : event.schema.size - (parts ++ [([] : Bytes)]).length = missing := by
    rw [List.length_append, List.length_singleton]
    omega
  rw [padded, padded, hless, hmissing, List.replicate_succ, List.append_assoc]
  rfl

/-- Without values the buffer is all zeros. -/
theorem staged_nil (event : EventType) :
    staged event [] = List.replicate (headSize event) 0 := by
  have hprefixes : ∀ n : Nat, (List.replicate n ([] : Bytes)).flatMap
      (fun part => LittleEndian.encode event.schema.width.size part.length) =
        List.replicate (n * event.schema.width.size) 0 := by
    intro n
    induction n with
    | zero => rw [Nat.zero_mul]; rfl
    | succ n ih =>
      rw [List.replicate_succ, List.flatMap_cons, ih, List.length_nil, encode_zero_eq,
        List.replicate_append_replicate, Nat.add_mul, Nat.one_mul, Nat.add_comm]
  rw [staged, Record.body, flatten_padded, List.flatten_nil, List.append_nil, padded,
    List.nil_append, hprefixes, List.replicate_append_replicate]
  rfl

/-- **A value and its prefix.** Putting a value behind the others and its length into the next
prefix gives the buffer with one more value. -/
theorem overwrite_staged {event : EventType} {parts : List Bytes}
    (h : parts.length < event.schema.size) (data : Bytes) :
    Scratch.overwrite (staged event parts ++ data)
      (Header.size + parts.length * event.schema.width.size)
      (LittleEndian.encode event.schema.width.size data.length) =
        staged event (parts ++ [data]) := by
  obtain ⟨missing, hmissing⟩ : ∃ missing, event.schema.size - parts.length = missing + 1 :=
    ⟨event.schema.size - parts.length - 1, by omega⟩
  have hless : event.schema.size - (parts ++ [data]).length = missing := by
    rw [List.length_append, List.length_singleton]
    omega
  -- the buffer is what stands before the prefix, the prefix, and what stands behind it
  generalize hfront : List.replicate Header.size (0 : UInt8) ++ parts.flatMap
    (fun part => LittleEndian.encode event.schema.width.size part.length) = front
  generalize hback : (List.replicate missing ([] : Bytes)).flatMap
    (fun part => LittleEndian.encode event.schema.width.size part.length) = back
  have hoffset : Header.size + parts.length * event.schema.width.size = front.length := by
    have hbody := Record.length_body event.schema.width parts
    rw [Record.body, List.length_append] at hbody
    rw [← hfront, List.length_append, List.length_replicate]
    omega
  have hbefore : staged event parts ++ data =
      front ++ (LittleEndian.encode event.schema.width.size 0 ++
        (back ++ (parts.flatten ++ data))) := by
    rw [staged, Record.body, flatten_padded, padded, hmissing, List.replicate_succ,
      List.flatMap_append, List.flatMap_cons, hback, ← hfront]
    simp only [List.append_assoc, List.length_nil]
  have hafter : staged event (parts ++ [data]) =
      front ++ (LittleEndian.encode event.schema.width.size data.length ++
        (back ++ (parts.flatten ++ data))) := by
    rw [staged, Record.body, flatten_padded, padded, hless, List.flatMap_append,
      List.flatMap_append, hback, ← hfront, List.flatten_append, List.flatten_singleton]
    simp only [List.append_assoc, List.flatMap_cons, List.flatMap_nil, List.append_nil]
  rw [hbefore, hafter, hoffset]
  exact Scratch.overwrite_middle front _ (by simp)

/-! ## The state of an encoder -/

/-- An encoder that has taken some values since it was started. -/
def holding (start : Encoder) (parts : List Bytes) (variant : Option UInt8) (aborted : Bool) :
    Encoder :=
  { start with
    scratch := { start.scratch with bytes := staged start.event parts }
    pushed := parts.length
    variant
    aborted }

/-- Values that there is room for: in the schema, in the buffer, and each in its parameter. -/
structure HasRoomFor (start : Encoder) (parts : List Bytes) : Prop where
  count_le : parts.length ≤ start.event.schema.size
  room : headSize start.event + parts.flatten.length ≤ start.scratch.capacity
  small : ∀ part ∈ parts, part.length ≤ maxParamSize

/-- Values that fit the schema, the buffer and the limit for every single one. -/
structure CanHold (start : Encoder) (parts : List Bytes) : Prop where
  count_le : parts.length ≤ start.event.schema.size
  room : headSize start.event + parts.flatten.length ≤ start.scratch.capacity
  small : ∀ part ∈ parts, part.length ≤ maxParamSize
  fits : ∀ p ∈ start.event.schema.fields.zip parts,
    p.1.type.Fits start.event.schema.width p.2.length

/-- There still is room for the values and one more. -/
theorem HasRoomFor.concat {start : Encoder} {parts : List Bytes} (h : start.HasRoomFor parts)
    (hcount : parts.length < start.event.schema.size) {data : Bytes}
    (hroom : headSize start.event + parts.flatten.length + data.length ≤ start.scratch.capacity)
    (hsmall : data.length ≤ maxParamSize) : start.HasRoomFor (parts ++ [data]) where
  count_le := by
    rw [List.length_append]
    exact hcount
  room := by
    rw [List.flatten_append, List.flatten_singleton, List.length_append, ← Nat.add_assoc]
    exact hroom
  small := by
    intro part hpart
    rcases List.mem_append.mp hpart with hpart | hpart
    · exact h.small part hpart
    · rw [List.mem_singleton.mp hpart]
      exact hsmall

/-- What stands in front of the values is short. -/
theorem headSize_le (event : EventType) : headSize event ≤ Header.size + maxParams * 4 := by
  have hwidth : event.schema.width.size ≤ 4 := by cases event.schema.width <;> decide
  exact Nat.add_le_add_left (Nat.mul_le_mul event.schema_size_le hwidth) _

/-- An encoder starts without values, and with what was given for its event. -/
theorem begin_eq_ok {scratch : Scratch} {settings : CaptureSettings} {memory : Memory}
    {event : EventType} {time : Timestamp} {tid : Tid} {e : Encoder}
    (h : begin scratch settings memory event time tid = .ok e) :
    e = holding { scratch, settings, memory, event, time, tid } [] none false ∧
      headSize event ≤ scratch.capacity := by
  rw [begin, Scratch.reserve] at h
  have hstop : Scratch.addSizes scratch.clear.length (headSize event) = headSize event := by
    have hsmall : headSize event ≤ Scratch.maxSize :=
      Nat.le_trans (headSize_le event) (by decide)
    rw [Scratch.addSizes, Scratch.clear, Scratch.length, List.length_nil, Nat.zero_add,
      Nat.min_eq_left hsmall]
  simp only [hstop] at h
  by_cases hfull : headSize event > scratch.clear.capacity
  · rw [if_pos hfull] at h
    cases h
  · rw [if_neg hfull] at h
    cases h
    refine ⟨?_, Nat.le_of_not_lt hfull⟩
    rw [holding, staged_nil]
    rfl

/-! ## The record of the values -/

theorem length_flatten_le {parts : List Bytes} {bound : Nat}
    (h : ∀ part ∈ parts, part.length ≤ bound) : parts.flatten.length ≤ parts.length * bound := by
  induction parts with
  | nil => simp
  | cons part parts ih =>
    have hpart := h part (List.mem_cons_self ..)
    have hparts := ih fun p hp => h p (List.mem_cons_of_mem _ hp)
    rw [List.flatten_cons, List.length_append, List.length_cons, Nat.add_mul, Nat.one_mul]
    omega

/-- A prefix of any width can tell the length of a value. -/
theorem maxParamSize_lt (width : PrefixWidth) :
    maxParamSize < LittleEndian.count width.size := by
  cases width <;> decide

/-- The pairs with the elements of a list come before those with the elements behind it. -/
theorem zip_append_right {α β : Type} (as : List α) (bs cs : List β) :
    as.zip (bs ++ cs) = as.zip bs ++ (as.drop bs.length).zip cs := by
  induction bs generalizing as with
  | nil => simp
  | cons b bs ih =>
    cases as with
    | nil => simp
    | cons a as => simp [ih]

namespace HasRoomFor

variable {start : Encoder} {parts : List Bytes}

/-- A record is shorter than its header can tell. -/
theorem length_lt (h : start.HasRoomFor parts) :
    headSize start.event + parts.flatten.length < UInt32.size := by
  have hflat := length_flatten_le h.small
  have hparts : parts.length * maxParamSize ≤ maxParams * maxParamSize :=
    Nat.mul_le_mul_right _ (Nat.le_trans h.count_le start.event.schema_size_le)
  have hhead := headSize_le start.event
  have hmax : Header.size + maxParams * 4 + maxParams * maxParamSize < UInt32.size := by decide
  omega

/-- A prefix can tell the length of each value, missing ones included. -/
theorem encodable (h : start.HasRoomFor parts) :
    ∀ part ∈ padded start.event parts,
      part.length < LittleEndian.count start.event.schema.width.size := by
  intro part hpart
  rcases List.mem_append.mp hpart with hpart | hpart
  · exact Nat.lt_of_le_of_lt (h.small part hpart) (maxParamSize_lt _)
  · rw [List.eq_of_mem_replicate hpart]
    exact Nat.lt_of_le_of_lt (Nat.zero_le _) (maxParamSize_lt _)

/-- The header counts the values, missing ones included. -/
theorem count_header (h : start.HasRoomFor parts) (variant : Option UInt8) (aborted : Bool) :
    (start.holding parts variant aborted).header.count.toNat =
      (padded start.event parts).length := by
  have hsize := start.event.schema_size_le
  rw [length_padded h.count_le]
  exact UInt32.toNat_ofNat_of_lt' (Nat.lt_of_le_of_lt hsize (by decide))

/-- The header tells the length of the record that it is put in front of. -/
theorem length_header (h : start.HasRoomFor parts) (variant : Option UInt8) (aborted : Bool) :
    (start.holding parts variant aborted).header.length.toNat =
      (Record.layout (start.holding parts variant aborted).header start.event
        (padded start.event parts)).length := by
  have hlt := h.length_lt
  rw [Record.length_layout, flatten_padded, length_padded h.count_le]
  rw [← length_staged h.count_le] at hlt
  exact (UInt32.toNat_ofNat_of_lt' hlt).trans (length_staged h.count_le)

/-- What is given away is laid out as a record of the values. The buffer is empty then. -/
theorem sealBytes_holding (h : start.HasRoomFor parts) (variant : Option UInt8) (aborted : Bool) :
    (start.holding parts variant aborted).sealBytes =
      (.ok (Record.layout (start.holding parts variant aborted).header start.event
        (padded start.event parts)), start.scratch.clear) := by
  generalize hheader : (start.holding parts variant aborted).header = header
  have hlength : (start.holding parts variant aborted).scratch.length =
      headSize start.event + parts.flatten.length := length_staged h.count_le
  have hfront : 0 + header.toBytes.length ≤ headSize start.event + parts.flatten.length := by
    rw [Header.length_toBytes, headSize]
    omega
  have hwrite : (start.holding parts variant aborted).scratch.write 0 header.toBytes =
      (.ok (), { start.scratch with
        bytes := Scratch.overwrite (staged start.event parts) 0 header.toBytes }) :=
    Scratch.write_of_le (by rw [hlength]; exact hfront) (by rw [hlength]; exact h.room)
  have hzeros : (List.replicate Header.size (0 : UInt8)).length = header.toBytes.length := by
    rw [List.length_replicate, Header.length_toBytes]
  -- the zeros at the front make room for the header
  have hover := Scratch.overwrite_middle []
    (Record.body start.event.schema.width (padded start.event parts)) hzeros
  rw [List.nil_append, List.nil_append, List.length_nil, ← staged, ← Record.layout] at hover
  rw [sealBytes, hheader, hwrite, hover]
  rfl

/-- Values of which the record decodes fit their parameters. -/
theorem canHold_of_decode (h : start.HasRoomFor parts) {variant : Option UInt8} {aborted : Bool}
    {r : Record} (hdecode : Record.decode
      (Record.layout (start.holding parts variant aborted).header start.event
        (padded start.event parts)) = .ok r) : start.CanHold parts where
  count_le := h.count_le
  room := h.room
  small := h.small
  fits := by
    have hfits := Record.fits_of_decode_layout start.event.ofTag?_tag
      (h.count_header variant aborted) (h.length_header variant aborted) h.encodable hdecode
    intro p hp
    apply hfits
    rw [padded, zip_append_right]
    exact List.mem_append_left _ hp

end HasRoomFor

namespace CanHold

variable {start : Encoder} {parts : List Bytes}

theorem hasRoomFor (h : start.CanHold parts) : start.HasRoomFor parts :=
  ⟨h.count_le, h.room, h.small⟩

/-- Each of the values fits its field, and so does one more. -/
theorem fits_concat (h : start.CanHold parts) {data : Bytes} {field : Field}
    (hfield : start.event.schema.fields[parts.length]? = some field)
    (hfits : field.type.Fits start.event.schema.width data.length) :
    ∀ p ∈ start.event.schema.fields.zip (parts ++ [data]),
      p.1.type.Fits start.event.schema.width p.2.length := by
  obtain ⟨hindex, hget⟩ := List.getElem?_eq_some_iff.mp hfield
  intro p hp
  rw [zip_append_right, List.drop_eq_getElem_cons hindex, hget] at hp
  rcases List.mem_append.mp hp with hp | hp
  · exact h.fits p hp
  · rw [List.zip_cons_cons, List.zip_nil_right, List.mem_singleton] at hp
    rw [hp]
    exact hfits

/-- The header of the event describes the values, with nothing for those that are missing. -/
theorem describes (h : start.CanHold parts) (variant : Option UInt8) (aborted : Bool) :
    Record.Describes (start.holding parts variant aborted).header start.event
      (padded start.event parts) where
  tag := start.event.ofTag?_tag
  count := h.hasRoomFor.count_header variant aborted
  count_le := by
    rw [length_padded h.count_le]
    exact start.event.schema_size_le
  length := by
    rw [h.hasRoomFor.length_header variant aborted, Record.length_layout]
  encodable := h.hasRoomFor.encodable
  fits := by
    -- a value fits its type, and nothing fits every type
    rintro ⟨field, part⟩ hmem
    rw [padded, zip_append_right] at hmem
    rcases List.mem_append.mp hmem with hmem | hmem
    · exact h.fits _ hmem
    · rw [List.eq_of_mem_replicate (List.of_mem_zip hmem).2]
      exact .inl rfl

/-- **What is given away is a record of the values**, with nothing for those that are missing. -/
theorem exists_record (h : start.CanHold parts) (variant : Option UInt8) (aborted : Bool) :
    ∃ bytes r, (start.holding parts variant aborted).sealBytes.1 = .ok bytes ∧
      bytes.length ≤ start.scratch.capacity ∧ Record.decode bytes = .ok r ∧
      r.header.length.toNat = bytes.length ∧
      r.header.count.toNat = start.event.schema.size ∧
      r.time = start.time ∧ r.tid = start.tid ∧ r.event = start.event ∧
      r.size = start.event.schema.size ∧
      ∀ i field, start.event.schema.fields[i]? = some field →
        r.param i = .ok { type := field.type, data := parts[i]?.getD [] } := by
  have hdescribes := h.describes variant aborted
  have hdecode := hdescribes.decode_layout []
  rw [List.append_nil] at hdecode
  have hlength := hdescribes.length
  rw [flatten_padded, length_padded h.count_le] at hlength
  have hsealed := congrArg Prod.fst (h.hasRoomFor.sealBytes_holding variant aborted)
  refine ⟨_, _, hsealed, ?_, hdecode, ?_, ?_, rfl, rfl, rfl, ?_, ?_⟩
  · rw [hdescribes.length_layout, hlength]
    exact h.room
  · exact hdescribes.length_layout.symm
  · exact hdescribes.count.trans (length_padded h.count_le)
  · rw [Record.size_ofParts, length_padded h.count_le, Nat.min_self]
  · intro i field hfield
    exact hdescribes.param_ofParts hfield (getElem?_padded h.count_le hfield)

end CanHold

end Encoder

end SyscallTrace
