import SyscallTrace.Proofs.Record.Layout

/-!
# The grammar of records

`Record.decode` refuses a byte string for one of six reasons, and accepts it if there is none. Here
the reasons are taken together: a byte string is accepted if and only if it is laid out as its
header describes, with any tail (specification §4.6, §15.3).

- `Record.decode_eq_ok_iff`: everything that decoding checks, and what it gives. The part behind the
  header is `Record.decodeBody_eq_ok_iff`.
- `Record.Describes.decode_layout`: what was laid out is decoded.
- `Record.exists_layout_of_decode`: what is decoded was laid out.
- `Record.exists_param_of_lt_size`, `Record.length_params_of_decode`: a decoded record has the
  parameters that it counts, and a field of its schema for each of them.
- `Record.decode_grammar`: **the decoder accepts exactly the grammar**, and the record that it
  gives holds the parts that were laid out.
-/

namespace SyscallTrace

namespace Record

/-! ## Decoding -/

/-- The position of the first parameter. -/
def payloadStart (event : EventType) (count : Nat) : Nat :=
  Header.size + count * event.schema.width.size

/-- The lengths that stand behind a header. -/
def declaredLengths (header : Header) (event : EventType) (bytes : Bytes) : List UInt32 :=
  readPrefixes event.schema.width header.count.toNat (bytes.drop Header.size)

/-- Everything that is checked once the bytes of the record are known, and what is given. -/
theorem decodeBody_eq_ok_iff {header : Header} {bytes : Bytes} {r : Record} :
    decodeBody header bytes = .ok r ↔
      ∃ event, EventType.ofTag? header.tag = some event ∧
        header.count.toNat ≤ maxParams ∧
        payloadStart event header.count.toNat +
          sumLengths (declaredLengths header event bytes) = header.length.toNat ∧
        (∀ p ∈ event.schema.fields.zip (declaredLengths header event bytes),
          p.1.type.Fits event.schema.width p.2.toNat) ∧
        r = {
          bytes
          header
          event
          views := viewsFrom (UInt32.ofNat (payloadStart event header.count.toNat))
            event.schema.fields (declaredLengths header event bytes) } := by
  constructor
  · intro h
    -- a check that fails gives an error, so each of them was passed
    unfold decodeBody at h
    split at h
    · cases h
    · rename_i event hevent
      dsimp only at h
      split at h
      · cases h
      · rename_i hcount
        split at h
        · cases h
        · split at h
          · cases h
          · rename_i hsum
            split at h
            · cases h
            · rename_i views hviews
              obtain ⟨hfits, rfl⟩ := layOut_eq_ok_iff.mp hviews
              cases h
              exact ⟨event, hevent, Nat.le_of_not_lt hcount, Decidable.not_not.mp hsum, hfits,
                rfl⟩
  · rintro ⟨event, hevent, hcount, hsum, hfits, rfl⟩
    -- the check that the prefixes lie within the record follows from the sum
    have hstart : payloadStart event header.count.toNat ≤ header.length.toNat := by omega
    have hviews : layOut event.schema.width 0
        (UInt32.ofNat (payloadStart event header.count.toNat)) event.schema.fields
        (declaredLengths header event bytes) = .ok _ := layOut_eq_ok_iff.mpr ⟨hfits, rfl⟩
    simp only [payloadStart, declaredLengths] at hstart hsum hviews
    simp only [decodeBody, hevent, if_neg (Nat.not_lt.mpr hcount),
      if_neg (Nat.not_lt.mpr hstart), hsum, ne_eq, not_true_eq_false, if_false, hviews,
      payloadStart, declaredLengths]

/-- Everything that decoding checks, and what it gives. -/
theorem decode_eq_ok_iff {buffer : Bytes} {r : Record} :
    decode buffer = .ok r ↔
      ∃ header event, Header.parse? buffer = some header ∧
        header.length.toNat ≤ buffer.length ∧
        EventType.ofTag? header.tag = some event ∧
        header.count.toNat ≤ maxParams ∧
        payloadStart event header.count.toNat +
          sumLengths (declaredLengths header event (buffer.take header.length.toNat)) =
            header.length.toNat ∧
        (∀ p ∈ event.schema.fields.zip
            (declaredLengths header event (buffer.take header.length.toNat)),
          p.1.type.Fits event.schema.width p.2.toNat) ∧
        r = {
          bytes := buffer.take header.length.toNat
          header
          event
          views := viewsFrom (UInt32.ofNat (payloadStart event header.count.toNat))
            event.schema.fields
            (declaredLengths header event (buffer.take header.length.toNat)) } := by
  constructor
  · intro h
    unfold decode at h
    split at h
    · cases h
    · rename_i header hheader
      dsimp only at h
      split at h
      · cases h
      · rename_i hle
        split at h
        · cases h
        · obtain ⟨event, hevent, hbody⟩ := decodeBody_eq_ok_iff.mp h
          exact ⟨header, event, hheader, Nat.le_of_not_lt hle, hevent, hbody⟩
  · rintro ⟨header, event, hheader, hle, hevent, hcount, hsum, hbody⟩
    -- the sum of the parts is at least the size of the header
    have hsize : Header.size ≤ header.length.toNat := by
      rw [← hsum, payloadStart, Nat.add_assoc]
      exact Nat.le_add_right _ _
    rw [decode, hheader]
    dsimp only
    rw [if_neg (Nat.not_lt.mpr hle), if_neg (Nat.not_lt.mpr hsize)]
    exact decodeBody_eq_ok_iff.mpr ⟨event, hevent, hcount, hsum, hbody⟩

/-- The record that is decoded from a layout. -/
def ofParts (header : Header) (event : EventType) (parts : List Bytes) : Record where
  bytes := layout header event parts
  header := header
  event := event
  views := viewsFrom (UInt32.ofNat (payloadStart event parts.length)) event.schema.fields
    (parts.map wordLength)

/-- The lengths that stand behind a header that counts the parts. -/
theorem declaredLengths_eq {header : Header} {event : EventType} {parts : List Bytes}
    (hcount : header.count.toNat = parts.length)
    (hencodable : ∀ part ∈ parts, part.length < LittleEndian.count event.schema.width.size) :
    declaredLengths header event (layout header event parts) = parts.map wordLength := by
  rw [declaredLengths, hcount, layout, List.drop_left' (Header.length_toBytes header), body]
  exact readPrefixes_append hencodable _

/-- The decoder checks the lengths of the parts. -/
theorem fits_word_iff {event : EventType} {parts : List Bytes}
    (hencodable : ∀ part ∈ parts, part.length < LittleEndian.count event.schema.width.size) :
    (∀ p ∈ event.schema.fields.zip (parts.map wordLength),
      p.1.type.Fits event.schema.width p.2.toNat) ↔
      ∀ p ∈ event.schema.fields.zip parts, p.1.type.Fits event.schema.width p.2.length := by
  have hword : ∀ part ∈ parts, (wordLength part).toNat = part.length := fun part hpart =>
    UInt32.toNat_ofNat_of_lt' (Nat.lt_of_lt_of_le (hencodable part hpart) (count_size_le _))
  rw [List.zip_map_right, List.forall_mem_map]
  refine forall₂_congr fun p hp => ?_
  show p.1.type.Fits event.schema.width (wordLength p.2).toNat ↔ _
  rw [hword p.2 (List.of_mem_zip hp).2]

/-- Parts that are decoded fit the parameters that they were laid out for. -/
theorem fits_of_decode_layout {header : Header} {event : EventType} {parts : List Bytes}
    {r : Record} (htag : EventType.ofTag? header.tag = some event)
    (hcount : header.count.toNat = parts.length)
    (hlength : header.length.toNat = (layout header event parts).length)
    (hencodable : ∀ part ∈ parts, part.length < LittleEndian.count event.schema.width.size)
    (h : decode (layout header event parts) = .ok r) :
    ∀ p ∈ event.schema.fields.zip parts, p.1.type.Fits event.schema.width p.2.length := by
  obtain ⟨found, event', hheader, -, hevent, -, -, hfits, -⟩ := decode_eq_ok_iff.mp h
  rw [layout, Header.parse?_toBytes_append] at hheader
  cases hheader
  rw [htag] at hevent
  cases hevent
  rw [hlength, List.take_length, declaredLengths_eq hcount hencodable] at hfits
  exact (fits_word_iff hencodable).mp hfits

namespace Describes

variable {header : Header} {event : EventType} {parts : List Bytes}

/-- The header says how long the record is. -/
theorem length_layout (h : Describes header event parts) :
    (layout header event parts).length = header.length.toNat := by
  rw [Record.length_layout, h.length]

/-- A record is shorter than its 32-bit length can tell. -/
theorem length_lt (h : Describes header event parts) :
    payloadStart event parts.length + parts.flatten.length < UInt32.size := by
  have hlt := header.length.toNat_lt
  rw [h.length] at hlt
  exact hlt

theorem declaredLengths_layout (h : Describes header event parts) :
    declaredLengths header event (layout header event parts) = parts.map wordLength :=
  declaredLengths_eq h.count h.encodable

theorem fits_word (h : Describes header event parts) :
    ∀ p ∈ event.schema.fields.zip (parts.map wordLength),
      p.1.type.Fits event.schema.width p.2.toNat :=
  (fits_word_iff h.encodable).mpr h.fits

/-- **What was laid out is decoded**, whatever follows it. -/
theorem decode_layout (h : Describes header event parts) (tail : Bytes) :
    decode (layout header event parts ++ tail) = .ok (ofParts header event parts) := by
  have htake : (layout header event parts ++ tail).take header.length.toNat =
      layout header event parts := List.take_left' h.length_layout
  have hlt := h.length_lt
  have hsum : sumLengths (parts.map wordLength) = parts.flatten.length :=
    sumLengths_map (by omega)
  refine decode_eq_ok_iff.mpr ⟨header, event, ?_, ?_, h.tag, ?_, ?_, ?_, ?_⟩
  · rw [layout, List.append_assoc, Header.parse?_toBytes_append]
  · rw [List.length_append, h.length_layout]
    exact Nat.le_add_right _ _
  · rw [h.count]
    exact h.count_le
  · rw [htake, h.declaredLengths_layout, hsum, h.count, h.length]
    rfl
  · rw [htake, h.declaredLengths_layout]
    exact h.fits_word
  · rw [htake, h.declaredLengths_layout, h.count]
    rfl

end Describes

/-- What is decoded was laid out. -/
theorem exists_layout_of_decode {buffer : Bytes} {r : Record} (h : decode buffer = .ok r) :
    ∃ header event parts tail, Describes header event parts ∧
      buffer = layout header event parts ++ tail := by
  obtain ⟨header, event, hheader, hle, hevent, hcount, hsum, hfits, -⟩ :=
    decode_eq_ok_iff.mp h
  generalize hbytes : buffer.take header.length.toNat = bytes at hsum hfits
  have hlength : bytes.length = header.length.toNat := by
    rw [← hbytes, List.length_take, Nat.min_eq_left hle]
  have hstart : Header.size + header.count.toNat * event.schema.width.size ≤ bytes.length := by
    rw [hlength, ← hsum]
    exact Nat.le_add_right _ _
  -- header, prefixes and payload, one after the other
  have hfront : bytes.take Header.size = header.toBytes := by
    have hsize : Header.size ≤ header.length.toNat := by omega
    rw [← hbytes, List.take_take, Nat.min_eq_left hsize,
      Header.eq_append_of_parse? hheader]
    exact List.take_left' (Header.length_toBytes header)
  obtain ⟨hprefixes, hread, hlt⟩ := readPrefixes_spec event.schema.width header.count.toNat
    (bytes.drop Header.size) (by rw [List.length_drop]; omega)
  change bytes.drop Header.size = (declaredLengths header event bytes).flatMap _ ++ _
    at hprefixes
  change (declaredLengths header event bytes).length = _ at hread
  change ∀ length ∈ declaredLengths header event bytes, _ at hlt
  generalize declaredLengths header event bytes = lengths at *
  generalize hpayload : (bytes.drop Header.size).drop
    (header.count.toNat * event.schema.width.size) = payload at hprefixes
  have hpayloadLength : sumLengths lengths = payload.length := by
    rw [← hpayload, List.length_drop, List.length_drop, hlength]
    have : payloadStart event header.count.toNat =
        Header.size + header.count.toNat * event.schema.width.size := rfl
    omega
  obtain ⟨parts, hflat, rfl, hword⟩ := exists_parts lengths payload hpayloadLength
  rw [List.length_map] at hread
  refine ⟨header, event, parts, buffer.drop header.length.toNat, ⟨hevent, hread.symm, ?_, ?_,
    ?_, ?_⟩, ?_⟩
  · rw [hread]
    exact hcount
  · rw [hread, hflat, ← hpayloadLength, ← hsum]
    rfl
  · intro part hpart
    rw [← hword part hpart]
    exact hlt _ (List.mem_map_of_mem hpart)
  · rintro ⟨field, part⟩ hmem
    have hpart : part ∈ parts := (List.of_mem_zip hmem).2
    have hfit := hfits (field, wordLength part) (by
      rw [List.zip_map_right]
      exact List.mem_map_of_mem (f := Prod.map id wordLength) hmem)
    rwa [hword part hpart] at hfit
  · have hencode : parts.flatMap
          (fun part => LittleEndian.encode event.schema.width.size part.length) =
        (parts.map wordLength).flatMap
          (fun length => LittleEndian.encode event.schema.width.size length.toNat) := by
      rw [List.flatMap_map, List.flatMap_def, List.flatMap_def]
      congr 1
      exact List.map_congr_left fun part hpart => by rw [hword part hpart]
    have hbody : body event.schema.width parts = bytes.drop Header.size := by
      rw [body, hencode, hflat, hprefixes]
    rw [layout, hbody, ← hfront, List.take_append_drop, ← hbytes, List.take_append_drop]

/-! ## The parameters of a decoded record -/

theorem size_ofParts (header : Header) (event : EventType) (parts : List Bytes) :
    (ofParts header event parts).size = min parts.length event.schema.size := by
  rw [size, ofParts, length_viewsFrom, List.length_map]
  rfl

/-- Beyond the last view there is no parameter. -/
theorem param_of_size_le {r : Record} {i : Nat} (h : r.size ≤ i) :
    r.param i = .error (.missing i) := by
  rw [param, List.getElem?_eq_none h]

theorem param_eq_readView (r : Record) (i : Nat) :
    r.param i =
      match (r.views.map (readView r.bytes))[i]? with
      | none => .error (.missing i)
      | some read => read := by
  rw [param, List.getElem?_map]
  cases r.views[i]? <;> rfl

theorem params_eq_readView (r : Record) :
    r.params = (r.views.map (readView r.bytes)).filterMap Except.toOption := by
  rw [params, List.filterMap_map]
  congr 1
  funext view
  rw [Function.comp_apply, readView]
  cases view.span.slice r.bytes <;> rfl

namespace Describes

variable {header : Header} {event : EventType} {parts : List Bytes}

/-- No read of a parameter fails, and each gives the part that was laid out for it. -/
theorem map_readView_ofParts (h : Describes header event parts) :
    (ofParts header event parts).views.map (readView (ofParts header event parts).bytes) =
      List.zipWith (fun field part => .ok { type := field.type, data := part })
        event.schema.fields parts := by
  have hprefixes : (header.toBytes ++ parts.flatMap
      (fun part => LittleEndian.encode event.schema.width.size part.length)).length =
        payloadStart event parts.length := by
    have := Record.length_layout header event parts
    rw [layout, body, ← List.append_assoc, List.length_append] at this
    exact Nat.add_right_cancel this
  have hread := map_readView event.schema.fields parts _ (hprefixes ▸ h.length_lt)
  rw [hprefixes, List.append_assoc] at hread
  exact hread

theorem param_ofParts (h : Describes header event parts) {i : Nat} {field : Field}
    {part : Bytes} (hfield : event.schema.fields[i]? = some field)
    (hpart : parts[i]? = some part) :
    (ofParts header event parts).param i = .ok { type := field.type, data := part } := by
  rw [param_eq_readView, h.map_readView_ofParts, List.getElem?_zipWith, hfield, hpart]

theorem params_ofParts (h : Describes header event parts) :
    (ofParts header event parts).params =
      List.zipWith (fun field part => { type := field.type, data := part })
        event.schema.fields parts := by
  rw [params_eq_readView, h.map_readView_ofParts,
    ← List.map_zipWith (f := (Except.ok : Param → Except ParamError Param)), List.filterMap_map]
  exact List.filterMap_some

/-- A parameter starts where the ones before it end, and ends inside of the record. -/
theorem span_ofParts (h : Describes header event parts) {i : Nat} {view : ParamView}
    (hview : (ofParts header event parts).views[i]? = some view) :
    view.span.start.toNat =
        payloadStart event parts.length + (parts.take i).flatten.length ∧
      view.span.start.toNat + view.span.length.toNat ≤ header.length.toNat := by
  obtain ⟨part, hpart, hspan⟩ := start_viewsFrom hview
  have hsplit : (parts.take i).flatten.length + part.length ≤ parts.flatten.length := by
    obtain ⟨hi, rfl⟩ := List.getElem?_eq_some_iff.mp hpart
    have htake : (parts.take (i + 1)).flatten.length ≤ parts.flatten.length := by
      conv => rhs; rw [← List.take_append_drop (i + 1) parts, List.flatten_append,
        List.length_append]
      exact Nat.le_add_right _ _
    rwa [List.take_succ_eq_append_getElem hi, List.flatten_append, List.length_append,
      List.flatten_singleton] at htake
  have hlt := h.length_lt
  have hend : payloadStart event parts.length + parts.flatten.length = header.length.toNat :=
    h.length.symm
  have hstart : (UInt32.ofNat (payloadStart event parts.length +
      (parts.take i).flatten.length)).toNat =
        payloadStart event parts.length + (parts.take i).flatten.length :=
    UInt32.toNat_ofNat_of_lt' (by omega)
  have hlength : (wordLength part).toNat = part.length :=
    UInt32.toNat_ofNat_of_lt' (by omega)
  rw [hspan, hstart, hlength]
  exact ⟨rfl, by omega⟩

end Describes

/-- A decoded record is that of the parts that were laid out. -/
theorem exists_ofParts_of_decode {buffer : Bytes} {r : Record} (h : decode buffer = .ok r) :
    ∃ header event parts, Describes header event parts ∧ r = ofParts header event parts := by
  obtain ⟨header, event, parts, tail, hdescribes, rfl⟩ := exists_layout_of_decode h
  rw [hdescribes.decode_layout] at h
  cases h
  exact ⟨header, event, parts, hdescribes, rfl⟩

/-- A decoded record has a field and a parameter of its type at each index that it counts, and the
parameter is not left out. -/
theorem exists_param_of_lt_size {buffer : Bytes} {r : Record} (h : decode buffer = .ok r) {i : Nat}
    (hi : i < r.size) :
    ∃ field param, r.event.schema.fields[i]? = some field ∧ r.param i = .ok param ∧
      r.params[i]? = some param ∧ param.type = field.type ∧
      param.type.Fits r.event.schema.width param.data.length := by
  obtain ⟨header, event, parts, hdescribes, rfl⟩ := exists_ofParts_of_decode h
  rw [size_ofParts, Nat.lt_min] at hi
  obtain ⟨hpart, hfield⟩ := hi
  have hpart := List.getElem?_eq_getElem hpart
  have hfield : event.schema.fields[i]? = _ := List.getElem?_eq_getElem hfield
  refine ⟨_, _, hfield, hdescribes.param_ofParts hfield hpart, ?_, rfl, ?_⟩
  · rw [hdescribes.params_ofParts, List.getElem?_zipWith, hfield, hpart]
  · exact hdescribes.fits (_, _)
      (List.mem_of_getElem? (List.getElem?_zip_eq_some.mpr ⟨hfield, hpart⟩))

/-- As many parameters are listed as are counted, and the schema has a field for each. -/
theorem length_params_of_decode {buffer : Bytes} {r : Record} (h : decode buffer = .ok r) :
    r.params.length = r.size ∧ r.size ≤ r.event.schema.fields.length := by
  obtain ⟨header, event, parts, hdescribes, rfl⟩ := exists_ofParts_of_decode h
  rw [hdescribes.params_ofParts, List.length_zipWith, size_ofParts]
  exact ⟨Nat.min_comm _ _, Nat.min_le_right _ _⟩

/-- **The decoder accepts exactly the grammar.** A byte string decodes if and only if it is laid
out as a header describes, with any tail. The record then holds the layout without the tail, and
its parameters are the parts of the payload, as many as the schema has fields for. Whenever the
lengths add up, the offsets are computed without wrapping around. -/
theorem decode_grammar (buffer : Bytes) :
    ((∃ r, decode buffer = .ok r) ↔
      ∃ header event parts tail, Describes header event parts ∧
        buffer = layout header event parts ++ tail) ∧
    (∀ header event parts tail, Describes header event parts →
      buffer = layout header event parts ++ tail →
        ∃ r, decode buffer = .ok r ∧ r.header = header ∧ r.event = event ∧
          r.bytes = layout header event parts ∧
          (∀ other, decode (r.bytes ++ other) = .ok r) ∧
          r.size = min parts.length event.schema.size ∧
          (∀ i field part, event.schema.fields[i]? = some field → parts[i]? = some part →
            r.param i = .ok { type := field.type, data := part }) ∧
          r.params = List.zipWith (fun field part => { type := field.type, data := part })
            event.schema.fields parts ∧
          (∀ i, r.size ≤ i → r.param i = .error (.missing i)) ∧
          (∀ i view, r.views[i]? = some view →
            view.span.start.toNat =
                payloadStart event parts.length + (parts.take i).flatten.length ∧
              view.span.start.toNat + view.span.length.toNat ≤ header.length.toNat)) ∧
    (∀ header event, Header.parse? buffer = some header →
      EventType.ofTag? header.tag = some event →
      payloadStart event header.count.toNat +
        sumLengths (declaredLengths header event (buffer.take header.length.toNat)) =
          header.length.toNat →
        NoWrap (UInt32.ofNat (payloadStart event header.count.toNat)) event.schema.fields
          (declaredLengths header event (buffer.take header.length.toNat))) := by
  refine ⟨⟨?_, ?_⟩, ?_, ?_⟩
  · rintro ⟨r, hr⟩
    exact exists_layout_of_decode hr
  · rintro ⟨header, event, parts, tail, h, rfl⟩
    exact ⟨_, h.decode_layout tail⟩
  · rintro header event parts tail h rfl
    exact ⟨ofParts header event parts, h.decode_layout tail, rfl, rfl, rfl, h.decode_layout,
      size_ofParts header event parts, fun i field part => h.param_ofParts, h.params_ofParts,
      fun i => param_of_size_le, fun i view => h.span_ofParts⟩
  · intro header event _ _ hsum
    have hlt := header.length.toNat_lt
    have hstart : (UInt32.ofNat (payloadStart event header.count.toNat)).toNat =
        payloadStart event header.count.toNat :=
      UInt32.toNat_ofNat_of_lt' (by simp only [UInt32.size]; omega)
    exact noWrap_of_lt (by rw [hstart, hsum]; exact hlt)

/-- A record with a parameter that the schema does not know, and a byte behind it. -/
theorem decode_unknown_parameter :
    let header : Header := { time := ⟨1⟩, tid := ⟨7⟩, length := 41, tag := 20, count := 2 }
    let parts : List Bytes := [[9, 0, 0, 0, 0, 0, 0, 0], [1, 2, 3]]
    Describes header .bindEnter parts ∧
      ∃ r, decode (layout header .bindEnter parts ++ [0xFF]) = .ok r ∧
        r.bytes.length = 41 ∧ r.size = 1 ∧
        r.param 0 = .ok { type := .fd, data := [9, 0, 0, 0, 0, 0, 0, 0] } ∧
        r.param 1 = .error (.missing 1) := by
  intro header parts
  have h : Describes header .bindEnter parts := by
    refine ⟨rfl, rfl, by decide, rfl, by decide, ?_⟩
    intro p hp
    cases hp with
    | head => exact .inr (by decide)
    | tail _ hp => cases hp
  obtain ⟨-, hgrammar, -⟩ := decode_grammar (layout header .bindEnter parts ++ [0xFF])
  obtain ⟨r, hr, -, -, hbytes, -, hsize, hparam, -, hmissing, -⟩ :=
    hgrammar header .bindEnter parts [0xFF] h rfl
  have hone : r.size = 1 := hsize
  refine ⟨h, r, hr, ?_, hone, hparam 0 ⟨"fd", .fd⟩ _ rfl rfl, hmissing 1 (Nat.le_of_eq hone)⟩
  rw [hbytes, h.length_layout]
  rfl

end Record

end SyscallTrace
