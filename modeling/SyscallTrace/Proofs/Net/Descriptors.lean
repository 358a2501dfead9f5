import SyscallTrace.Net.Payload

/-!
# Lists of descriptors

A list of descriptors is written as its count, in two bytes, and its entries, ten bytes each. The
count has to agree with the size to the byte, so of the byte strings that are not empty the decoder
accepts exactly those that are written for a list (specification §15.2).

- `Descriptor.encodeList`: the bytes of a list.
- `Descriptor.readEntries_flatMap`: entries are read back in their order.
- `Descriptor.decodeList_eq_ok_iff`: **what is decoded is what was encoded, and the other way round**.
-/

namespace SyscallTrace

namespace Descriptor

/-- The bytes of a list: how many entries it has, and each of them. -/
def encodeList (list : List Descriptor) : Bytes :=
  Bytes.ofUInt16 (UInt16.ofNat list.length) ++ list.flatMap toBytes

/-! ## One entry -/

/-- An entry is read back, whatever follows it. -/
theorem ofBytes_toBytes_append (d : Descriptor) (rest : Bytes) :
    ofBytes (d.toBytes ++ rest) = d := by
  have hfd : (d.toBytes ++ rest).take 8 = Bytes.ofUInt64 d.fd.toUInt64 := by
    rw [toBytes, List.append_assoc, List.take_left' (Bytes.length_ofUInt64 _)]
  have hflags : ((d.toBytes ++ rest).drop 8).take 2 = Bytes.ofUInt16 d.flags := by
    rw [toBytes, List.append_assoc, List.drop_left' (Bytes.length_ofUInt64 _),
      List.take_left' (Bytes.length_ofUInt16 _)]
  rw [ofBytes, hfd, hflags, Bytes.toUInt64_ofUInt64, Bytes.toUInt16_ofUInt16,
    Int64.toInt64_toUInt64]

/-- Ten bytes are those of the entry that is read from them. -/
theorem toBytes_ofBytes_append {bs : Bytes} (h : size ≤ bs.length) :
    (ofBytes bs).toBytes ++ bs.drop size = bs := by
  have hsize : 10 ≤ bs.length := h
  have hfd : (bs.take 8).length = 8 := by
    rw [List.length_take]
    omega
  have hflags : ((bs.drop 8).take 2).length = 2 := by
    rw [List.length_take, List.length_drop]
    omega
  have hbehind : (bs.drop 8).take 2 ++ bs.drop size = bs.drop 8 := by
    have hdrop : bs.drop size = (bs.drop 8).drop 2 := by
      rw [List.drop_drop]
      rfl
    rw [hdrop, List.take_append_drop]
  rw [ofBytes, toBytes, UInt64.toUInt64_toInt64, Bytes.ofUInt64_toUInt64 hfd,
    Bytes.ofUInt16_toUInt16 hflags, List.append_assoc, hbehind, List.take_append_drop]

/-! ## All entries -/

theorem length_flatMap_toBytes (list : List Descriptor) :
    (list.flatMap toBytes).length = list.length * size := by
  induction list with
  | nil => rfl
  | cons d list ih =>
    rw [List.flatMap_cons, List.length_append, length_toBytes, ih, List.length_cons, Nat.add_mul,
      Nat.one_mul, Nat.add_comm]

@[simp] theorem length_encodeList (list : List Descriptor) :
    (encodeList list).length = 2 + list.length * size := by
  rw [encodeList, List.length_append, Bytes.length_ofUInt16, length_flatMap_toBytes]

/-- Entries are read back in their order. -/
theorem readEntries_flatMap (entries list : List Descriptor) :
    readEntries entries list.length (list.flatMap toBytes) = entries.reverse ++ list := by
  induction list generalizing entries with
  | nil => exact (List.append_nil _).symm
  | cons d list ih =>
    rw [List.length_cons, readEntries, List.flatMap_cons, ofBytes_toBytes_append,
      List.drop_left' d.length_toBytes, ih, List.reverse_cons, List.append_assoc]
    rfl

/-- Bytes that can be cut into entries are those of some list. -/
theorem exists_flatMap_eq {count : Nat} {bs : Bytes} (h : bs.length = count * size) :
    ∃ list : List Descriptor, list.length = count ∧ list.flatMap toBytes = bs := by
  induction count generalizing bs with
  | zero =>
    rw [Nat.zero_mul] at h
    exact ⟨[], rfl, (List.eq_nil_of_length_eq_zero h).symm⟩
  | succ count ih =>
    rw [Nat.add_mul, Nat.one_mul] at h
    have hrest : (bs.drop size).length = count * size := by
      rw [List.length_drop, h, Nat.add_sub_cancel]
    obtain ⟨list, hcount, hlist⟩ := ih hrest
    refine ⟨ofBytes bs :: list, congrArg (· + 1) hcount, ?_⟩
    rw [List.flatMap_cons, hlist, toBytes_ofBytes_append (by omega)]

/-! ## The list -/

/-- The decoder compares the count with the bytes behind it. -/
theorem decodeList_append {count : Bytes} (h : count.length = 2) (body : Bytes) :
    decodeList (count ++ body) =
      if body.length = (Bytes.toUInt16 count).toNat * size then
        .ok (readEntries [] (Bytes.toUInt16 count).toNat body)
      else .error (.invalidDescriptors (Bytes.toUInt16 count).toNat (body.length + 2)) :=
  match count, h with
  | [_, _], _ => rfl

/-- A list is decoded if its count can be told in two bytes. -/
theorem decodeList_encodeList {list : List Descriptor} (h : list.length < UInt16.size) :
    decodeList (encodeList list) = .ok list := by
  have hcount : (Bytes.toUInt16 (Bytes.ofUInt16 (UInt16.ofNat list.length))).toNat =
      list.length := by
    rw [Bytes.toUInt16_ofUInt16, UInt16.toNat_ofNat_of_lt' h]
  rw [encodeList, decodeList_append (Bytes.length_ofUInt16 _), hcount,
    if_pos (length_flatMap_toBytes list), readEntries_flatMap]
  rfl

/-- What is decoded from bytes was encoded as these. -/
theorem encodeList_of_decodeList {bytes : Bytes} (h : bytes ≠ []) {list : List Descriptor}
    (hdecode : decodeList bytes = .ok list) :
    list.length < UInt16.size ∧ bytes = encodeList list := by
  match bytes, h with
  | [_], _ => cases hdecode
  | low :: high :: body, _ =>
    have hcut : low :: high :: body = [low, high] ++ body := rfl
    rw [hcut, decodeList_append rfl] at hdecode
    split at hdecode
    · rename_i hsize
      obtain ⟨written, hcount, rfl⟩ := exists_flatMap_eq hsize
      have hword : Bytes.ofUInt16 (Bytes.toUInt16 [low, high]) = [low, high] :=
        Bytes.ofUInt16_toUInt16 rfl
      rw [← hcount, readEntries_flatMap] at hdecode
      cases hdecode
      show written.length < _ ∧ _ = encodeList written
      rw [encodeList, hcount, UInt16.ofNat_toNat, hword]
      exact ⟨UInt16.toNat_lt _, rfl⟩
    · cases hdecode

/-- **The decoder of lists accepts what is encoded**, and nothing else but the empty byte string,
which stands for a list that is absent. -/
theorem decodeList_eq_ok_iff {bytes : Bytes} (h : bytes ≠ []) {list : List Descriptor} :
    decodeList bytes = .ok list ↔ list.length < UInt16.size ∧ bytes = encodeList list := by
  constructor
  · exact encodeList_of_decodeList h
  · rintro ⟨hlength, rfl⟩
    exact decodeList_encodeList hlength

end Descriptor

end SyscallTrace
