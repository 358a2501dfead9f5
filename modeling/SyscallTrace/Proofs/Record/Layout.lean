import SyscallTrace.Record.Decode

/-!
# The layout of records

What the bytes of a record are, said without the decoder. A record is a header, a length prefix for
every parameter, and the parameters themselves; the prefixes repeat the lengths of the parameters,
and the header the length of the whole (specification §3, §12).

- `Record.layout`: the bytes of a record with the given header and parameters.
- `Record.Describes`: when a header tells the truth about the parameters behind it.
- `Record.readPrefixes_append`, `Record.readPrefixes_spec`: the prefixes that were written are
  read, and what is read was written.
- `Record.map_readView`: the views of consecutive parameters show those parameters.
- `Record.NoWrap`: the 32-bit offsets of the parameters are sums that do not wrap around.
-/

namespace SyscallTrace

/-- The lengths that a parameter of a type may have: none at all, or one within the bounds. -/
def ParamType.Fits (type : ParamType) (width : PrefixWidth) (length : Nat) : Prop :=
  length = 0 ∨
    ((type.bounds width).1.toNat ≤ length ∧ length ≤ (type.bounds width).2.toNat)

/-! ## Headers -/

/-- A header that is read is that of the first bytes, and its fields are the bytes that they were
read from. -/
theorem Header.eq_append_of_parse? {bs : Bytes} {header : Header}
    (h : Header.parse? bs = some header) : bs = header.toBytes ++ bs.drop Header.size := by
  unfold Header.parse? at h
  split at h
  · cases h
  · rename_i hlen
    have hsize : 26 ≤ bs.length := Nat.le_of_not_lt hlen
    have htime : (bs.take 8).length = 8 := by rw [List.length_take]; omega
    have htid : ((bs.drop 8).take 8).length = 8 := by
      rw [List.length_take, List.length_drop]; omega
    have hlength : ((bs.drop 16).take 4).length = 4 := by
      rw [List.length_take, List.length_drop]; omega
    have htag : ((bs.drop 20).take 2).length = 2 := by
      rw [List.length_take, List.length_drop]; omega
    have hcount : ((bs.drop 22).take 4).length = 4 := by
      rw [List.length_take, List.length_drop]; omega
    cases h
    simp only [Header.toBytes, Bytes.ofUInt64_toUInt64 htime, Bytes.ofUInt64_toUInt64 htid,
      Bytes.ofUInt32_toUInt32 hlength, Bytes.ofUInt16_toUInt16 htag,
      Bytes.ofUInt32_toUInt32 hcount, List.append_assoc]
    -- each field is followed by the bytes behind it
    have h26 : (bs.drop 22).take 4 ++ bs.drop Header.size = bs.drop 22 := by
      simpa [Header.size] using List.take_append_drop 4 (bs.drop 22)
    have h22 : (bs.drop 20).take 2 ++ bs.drop 22 = bs.drop 20 := by
      simpa using List.take_append_drop 2 (bs.drop 20)
    have h20 : (bs.drop 16).take 4 ++ bs.drop 20 = bs.drop 16 := by
      simpa using List.take_append_drop 4 (bs.drop 16)
    have h16 : (bs.drop 8).take 8 ++ bs.drop 16 = bs.drop 8 := by
      simpa using List.take_append_drop 8 (bs.drop 8)
    rw [h26, h22, h20, h16, List.take_append_drop]

namespace Record

/-- The length prefixes and the parameters of a record. -/
def body (width : PrefixWidth) (parts : List Bytes) : Bytes :=
  parts.flatMap (fun part => LittleEndian.encode width.size part.length) ++ parts.flatten

/-- The bytes of a record. -/
def layout (header : Header) (event : EventType) (parts : List Bytes) : Bytes :=
  header.toBytes ++ body event.schema.width parts

/-- A header that tells the truth about the parameters behind it. There may be more or fewer of
them than the schema of the event has; those that it has fit their types. -/
structure Describes (header : Header) (event : EventType) (parts : List Bytes) : Prop where
  tag : EventType.ofTag? header.tag = some event
  count : header.count.toNat = parts.length
  count_le : parts.length ≤ maxParams
  length : header.length.toNat =
    Header.size + parts.length * event.schema.width.size + parts.flatten.length
  encodable : ∀ part ∈ parts, part.length < LittleEndian.count event.schema.width.size
  fits : ∀ p ∈ event.schema.fields.zip parts,
    p.1.type.Fits event.schema.width p.2.length

@[simp] theorem length_body (width : PrefixWidth) (parts : List Bytes) :
    (body width parts).length = parts.length * width.size + parts.flatten.length := by
  have h : (parts.flatMap fun part => LittleEndian.encode width.size part.length).length =
      parts.length * width.size := by
    induction parts with
    | nil => simp
    | cons part parts ih => simp [ih, Nat.add_mul, Nat.add_comm]
  rw [body, List.length_append, h]

/-- A record is as long as its header, its prefixes and its parameters together. -/
@[simp] theorem length_layout (header : Header) (event : EventType) (parts : List Bytes) :
    (layout header event parts).length =
      Header.size + parts.length * event.schema.width.size + parts.flatten.length := by
  rw [layout, List.length_append, length_body, Header.length_toBytes, Nat.add_assoc]

/-! ## Length prefixes -/

/-- The length of a parameter as the decoder holds it. -/
def wordLength (part : Bytes) : UInt32 := UInt32.ofNat part.length

/-- A prefix of any width fits into 32 bits. -/
theorem count_size_le (width : PrefixWidth) : LittleEndian.count width.size ≤ UInt32.size := by
  cases width <;> decide

/-- A prefix is read without loss, whatever its width. -/
theorem toNat_toUInt32 {width : PrefixWidth} {bs : Bytes} (h : bs.length = width.size) :
    (Bytes.toUInt32 bs).toNat = LittleEndian.decode bs := by
  have hlt : LittleEndian.decode bs < LittleEndian.count width.size := by
    have := LittleEndian.decode_lt bs
    rwa [h] at this
  exact UInt32.toNat_ofNat_of_lt' (Nat.lt_of_lt_of_le hlt (count_size_le width))

/-- Prefixes that were written are read back, whatever follows them. -/
theorem readPrefixes_append {width : PrefixWidth} {parts : List Bytes}
    (h : ∀ part ∈ parts, part.length < LittleEndian.count width.size) (rest : Bytes) :
    readPrefixes width parts.length
      (parts.flatMap (fun part => LittleEndian.encode width.size part.length) ++ rest) =
      parts.map wordLength := by
  induction parts with
  | nil => rfl
  | cons part parts ih =>
    have hpart := h part (List.mem_cons_self ..)
    have hparts := ih fun p hp => h p (List.mem_cons_of_mem _ hp)
    have hword : Bytes.toUInt32 (LittleEndian.encode width.size part.length) =
        wordLength part := by
      rw [Bytes.toUInt32, LittleEndian.decode_encode_of_lt hpart, wordLength]
    rw [List.length_cons, readPrefixes, List.flatMap_cons, List.append_assoc,
      List.take_left' (by simp), List.drop_left' (by simp), hword, hparts, List.map_cons]

/-- The prefixes that are read are the front of the byte string, and each fits its width. -/
theorem readPrefixes_spec (width : PrefixWidth) :
    ∀ (count : Nat) (bs : Bytes), count * width.size ≤ bs.length →
      bs = (readPrefixes width count bs).flatMap
          (fun length => LittleEndian.encode width.size length.toNat) ++
          bs.drop (count * width.size) ∧
        (readPrefixes width count bs).length = count ∧
        ∀ length ∈ readPrefixes width count bs,
          length.toNat < LittleEndian.count width.size
  | 0, bs, _ => by simp [readPrefixes]
  | count + 1, bs, h => by
    rw [Nat.add_mul, Nat.one_mul] at h
    -- the first prefix is the front of the string, and the others follow
    have hchunk : (bs.take width.size).length = width.size := by
      rw [List.length_take]; omega
    have hrest : count * width.size ≤ (bs.drop width.size).length := by
      rw [List.length_drop]; omega
    obtain ⟨heq, hlen, hlt⟩ := readPrefixes_spec width count (bs.drop width.size) hrest
    have hword := toNat_toUInt32 hchunk
    refine ⟨?_, ?_, ?_⟩
    · rw [readPrefixes, List.flatMap_cons, hword]
      have henc : LittleEndian.encode width.size (LittleEndian.decode (bs.take width.size)) =
          bs.take width.size := by
        have := LittleEndian.encode_decode (bs.take width.size)
        rwa [hchunk] at this
      have hdrop : bs.drop ((count + 1) * width.size) =
          (bs.drop width.size).drop (count * width.size) := by
        rw [List.drop_drop, Nat.add_mul, Nat.one_mul, Nat.add_comm]
      rw [henc, hdrop, List.append_assoc, ← heq, List.take_append_drop]
    · rw [readPrefixes, List.length_cons, hlen]
    · rw [readPrefixes]
      intro length hmem
      rcases List.mem_cons.mp hmem with rfl | hmem
      · rw [hword]
        have := LittleEndian.decode_lt (bs.take width.size)
        rwa [hchunk] at this
      · exact hlt length hmem

/-! ## Cutting the payload -/

/-- Lengths that add up cut a payload into consecutive parts without a remainder. -/
theorem exists_parts : ∀ (lengths : List UInt32) (payload : Bytes),
    sumLengths lengths = payload.length →
      ∃ parts : List Bytes, parts.flatten = payload ∧ lengths = parts.map wordLength ∧
        ∀ part ∈ parts, (wordLength part).toNat = part.length
  | [], payload, h => by
    have hnil : payload = [] := List.length_eq_zero_iff.mp h.symm
    exact ⟨[], hnil.symm, rfl, fun part hpart => nomatch hpart⟩
  | length :: lengths, payload, h => by
    have hsum : length.toNat + sumLengths lengths = payload.length := h
    obtain ⟨parts, hflat, hlengths, hword⟩ :=
      exists_parts lengths (payload.drop length.toNat) (by rw [List.length_drop]; omega)
    have htake : (payload.take length.toNat).length = length.toNat := by
      rw [List.length_take, Nat.min_eq_left (by omega)]
    have hhead : wordLength (payload.take length.toNat) = length := by
      rw [wordLength, htake, UInt32.ofNat_toNat]
    refine ⟨payload.take length.toNat :: parts, ?_, ?_, ?_⟩
    · rw [List.flatten_cons, hflat, List.take_append_drop]
    · rw [List.map_cons, hhead, ← hlengths]
    · intro part hpart
      rcases List.mem_cons.mp hpart with rfl | hpart
      · rw [hhead, htake]
      · exact hword part hpart

/-- The lengths that the decoder holds add up to the bytes of the parameters. -/
theorem sumLengths_map {parts : List Bytes} (h : parts.flatten.length < UInt32.size) :
    sumLengths (parts.map wordLength) = parts.flatten.length := by
  induction parts with
  | nil => rfl
  | cons part parts ih =>
    rw [List.flatten_cons, List.length_append] at h
    have hpart : (wordLength part).toNat = part.length :=
      UInt32.toNat_ofNat_of_lt' (by omega)
    have hparts : sumLengths (parts.map wordLength) = parts.flatten.length := ih (by omega)
    show (wordLength part).toNat + sumLengths (parts.map wordLength) = _
    rw [hpart, hparts, List.flatten_cons, List.length_append]

/-! ## Laying out the parameters -/

/-- The views of the parameters one after the other, whatever their lengths. -/
def viewsFrom : UInt32 → List Field → List UInt32 → List ParamView
  | offset, field :: fields, length :: lengths =>
    ⟨field.type, ⟨offset, length⟩⟩ :: viewsFrom (offset + length) fields lengths
  | _, _, _ => []

/-- No offset wraps around while the parameters are laid out. -/
def NoWrap : UInt32 → List Field → List UInt32 → Prop
  | offset, _ :: fields, length :: lengths =>
    offset.toNat + length.toNat < UInt32.size ∧ NoWrap (offset + length) fields lengths
  | _, _, _ => True

/-- The check of a length is that it fits the type. -/
theorem fits_toNat_iff {type : ParamType} {width : PrefixWidth} {length : UInt32} :
    type.Fits width length.toNat ↔
      ¬ (length ≠ 0 ∧
        (length < (type.bounds width).1 ∨ (type.bounds width).2 < length)) := by
  have hzero : length.toNat = 0 ↔ length = 0 := by
    rw [← UInt32.toNat_inj, UInt32.toNat_zero]
  rw [ParamType.Fits, hzero, UInt32.lt_iff_toNat_lt, UInt32.lt_iff_toNat_lt]
  grind

/-- Parameters are laid out exactly if each length fits its type, one behind the other. A schema
that is shorter or longer than the list of lengths leaves the rest out. -/
theorem layOut_eq_ok_iff {width : PrefixWidth} {index : Nat} {offset : UInt32}
    {fields : List Field} {lengths : List UInt32} {views : List ParamView} :
    layOut width index offset fields lengths = .ok views ↔
      (∀ p ∈ fields.zip lengths, p.1.type.Fits width p.2.toNat) ∧
        views = viewsFrom offset fields lengths := by
  induction fields generalizing index offset lengths views with
  | nil => simp [layOut, viewsFrom, eq_comm]
  | cons field fields ih =>
    cases lengths with
    | nil => simp [layOut, viewsFrom, eq_comm]
    | cons length lengths =>
      rw [layOut, List.zip_cons_cons, List.forall_mem_cons, fits_toNat_iff, viewsFrom]
      dsimp only
      split
      · rename_i hbad
        simp [hbad]
      · rename_i hgood
        -- the length of this field is fine, so the others decide
        cases hrest : layOut width (index + 1) (offset + length) fields lengths with
        | error e =>
          have hno : ¬ ∀ p ∈ fields.zip lengths, p.1.type.Fits width p.2.toNat := by
            intro hall
            rw [ih.mpr ⟨hall, rfl⟩] at hrest
            cases hrest
          constructor
          · intro h
            cases h
          · exact fun h => absurd h.1.2 hno
        | ok rest =>
          obtain ⟨hall, rfl⟩ := ih.mp hrest
          constructor
          · intro h
            cases h
            exact ⟨⟨hgood, hall⟩, rfl⟩
          · rintro ⟨-, rfl⟩
            rfl

/-- Offsets do not wrap around if the last one does not. -/
theorem noWrap_of_lt {fields : List Field} {lengths : List UInt32} {offset : UInt32}
    (h : offset.toNat + sumLengths lengths < UInt32.size) : NoWrap offset fields lengths := by
  induction fields generalizing offset lengths with
  | nil => trivial
  | cons field fields ih =>
    cases lengths with
    | nil => trivial
    | cons length lengths =>
      have hsum : offset.toNat + (length.toNat + sumLengths lengths) < UInt32.size := h
      have hnext : (offset + length).toNat = offset.toNat + length.toNat := by
        rw [UInt32.toNat_add]
        exact Nat.mod_eq_of_lt (by simp only [UInt32.size] at hsum ⊢; omega)
      exact ⟨by omega, ih (by omega)⟩

theorem length_viewsFrom (offset : UInt32) (fields : List Field) (lengths : List UInt32) :
    (viewsFrom offset fields lengths).length = min lengths.length fields.length := by
  induction fields generalizing offset lengths with
  | nil => simp [viewsFrom]
  | cons field fields ih =>
    cases lengths with
    | nil => simp [viewsFrom]
    | cons length lengths => simp [viewsFrom, ih, Nat.succ_min_succ]

/-- The place of every parameter is behind all parameters before it. -/
theorem start_viewsFrom {start : Nat} {fields : List Field} {parts : List Bytes}
    {i : Nat} {view : ParamView}
    (h : (viewsFrom (UInt32.ofNat start) fields (parts.map wordLength))[i]? = some view) :
    ∃ part, parts[i]? = some part ∧
      view.span = ⟨UInt32.ofNat (start + (parts.take i).flatten.length), wordLength part⟩ := by
  induction fields generalizing start parts i with
  | nil => simp [viewsFrom] at h
  | cons field fields ih =>
    cases parts with
    | nil => simp [viewsFrom] at h
    | cons part parts =>
      rw [List.map_cons, viewsFrom] at h
      -- each view starts where the one before it ends
      cases i with
      | zero =>
        rw [List.getElem?_cons_zero] at h
        cases h
        exact ⟨part, rfl, by simp⟩
      | succ i =>
        rw [List.getElem?_cons_succ, wordLength, ← UInt32.ofNat_add] at h
        obtain ⟨next, hnext, hspan⟩ := ih h
        refine ⟨next, hnext, ?_⟩
        rw [hspan, List.take_succ_cons, List.flatten_cons, List.length_append, Nat.add_assoc]

/-- A parameter as it is read from the bytes of its record. -/
def readView (bytes : Bytes) (view : ParamView) : Except ParamError Param := do
  let data ← view.span.slice bytes
  return { type := view.type, data }

/-- The parameters that are read are the parts of the payload. -/
theorem map_readView (fields : List Field) (parts : List Bytes) (front : Bytes)
    (h : front.length + parts.flatten.length < UInt32.size) :
    (viewsFrom (UInt32.ofNat front.length) fields (parts.map wordLength)).map
        (readView (front ++ parts.flatten)) =
      List.zipWith (fun field part => .ok { type := field.type, data := part }) fields parts := by
  induction fields generalizing parts front with
  | nil => simp [viewsFrom]
  | cons field fields ih =>
    cases parts with
    | nil => simp [viewsFrom]
    | cons part parts =>
      rw [List.flatten_cons, List.length_append] at h
      have hstart : (UInt32.ofNat front.length).toNat = front.length :=
        UInt32.toNat_ofNat_of_lt' (by omega)
      have hlength : (wordLength part).toNat = part.length :=
        UInt32.toNat_ofNat_of_lt' (by omega)
      -- the first parameter stands right behind the front, and the rest behind both
      have hslice : Span.slice ⟨UInt32.ofNat front.length, wordLength part⟩
          (front ++ (part ++ parts.flatten)) = .ok part := by
        simp [Span.slice, hstart, hlength]
      have hnext : UInt32.ofNat front.length + wordLength part =
          UInt32.ofNat (front ++ part).length := by
        rw [wordLength, ← UInt32.ofNat_add, List.length_append]
      have hrest := ih parts (front ++ part) (by rw [List.length_append]; omega)
      rw [List.append_assoc] at hrest
      rw [List.map_cons, viewsFrom, List.map_cons, List.zipWith_cons_cons, List.flatten_cons,
        hnext, hrest, readView, hslice]
      rfl

end Record

end SyscallTrace
