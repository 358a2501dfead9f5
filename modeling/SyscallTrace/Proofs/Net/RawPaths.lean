import SyscallTrace.Proofs.Net.Addresses

/-!
# The array behind a UNIX path

The kernel hands over the array of a UNIX socket as it is. An empty array, a single NUL and two NULs
in front stand for no name; in all others there is a name, behind one NUL or behind none
(specification §4.5, §8).

What a record keeps of a name is cut three times: at the end of the array, at the next NUL and at
the limit of the record, which leaves room for the NULs around the name. The cuts commute, since
each keeps a prefix, and none of them can empty a name. So the two bytes that stand for no name
never stand for a name.

- `UnixPath.IsVacant`, `UnixPath.nameIn`: the arrays without a name, and the name in the others.
- `UnixPath.exists_cons_of_not_isVacant`: how an array with a name starts.
- `UnixPath.packed_of_raw`: **an array without a name is never confused with one that has one**.
-/

namespace SyscallTrace

namespace UnixPath

/-- The arrays that hold no name. -/
def IsVacant (raw : Bytes) : Prop := raw = [] ∨ raw = [0] ∨ [0, 0] <+: raw

instance (raw : Bytes) : Decidable (IsVacant raw) :=
  inferInstanceAs (Decidable (_ ∨ _ ∨ _))

/-- The name in an array: the bytes behind one leading NUL, if there is one, and up to the next, as
far as the kernel keeps them. -/
def nameIn (raw : Bytes) : Bytes :=
  let kept := raw.take maxSize
  Bytes.beforeNul (if kept.head? = some 0 then kept.tail else kept)

/-! ## How an array is read -/

/-- An array that holds no name is unavailable. -/
theorem ofRaw_eq_unavailable {raw : Bytes} (h : IsVacant raw) : ofRaw raw = unavailable := by
  obtain rfl | rfl | ⟨rest, rfl⟩ := h <;> rfl

/-- An array with a name starts with one NUL, which an abstract name follows, or with none. -/
theorem exists_cons_of_not_isVacant {raw : Bytes} (h : ¬ IsVacant raw) :
    ∃ b rest, b ≠ 0 ∧ (raw = 0 :: b :: rest ∨ raw = b :: rest) := by
  cases raw with
  | nil => exact absurd (Or.inl rfl) h
  | cons a rest =>
    by_cases ha : a = 0
    · subst ha
      cases rest with
      | nil => exact absurd (Or.inr (Or.inl rfl)) h
      | cons b rest =>
        refine ⟨b, rest, fun hb => h (Or.inr (Or.inr ⟨rest, ?_⟩)), Or.inl rfl⟩
        rw [hb]
        rfl
    · exact ⟨a, rest, ha, Or.inr rfl⟩

/-- The name behind a leading NUL starts with the byte after it. -/
theorem nameIn_zero_cons {b : UInt8} (hb : b ≠ 0) (rest : Bytes) :
    nameIn (0 :: b :: rest) = b :: Bytes.beforeNul (rest.take (maxSize - 2)) :=
  Bytes.beforeNul_cons hb _

theorem nameIn_cons {b : UInt8} (hb : b ≠ 0) (rest : Bytes) :
    nameIn (b :: rest) = b :: Bytes.beforeNul (rest.take (maxSize - 1)) := by
  have hhead : ((b :: rest).take maxSize).head? ≠ some 0 := fun h => hb (Option.some.inj h)
  rw [nameIn, if_neg hhead]
  exact Bytes.beforeNul_cons hb _

/-- An array with one leading NUL is an abstract name. -/
theorem ofRaw_zero_cons {b : UInt8} (hb : b ≠ 0) (rest : Bytes) :
    ofRaw (0 :: b :: rest) = abstract (nameIn (0 :: b :: rest)) := by
  have hkept : (0 :: b :: rest).take maxSize = 0 :: b :: rest.take (maxSize - 2) := rfl
  rw [ofRaw, hkept, nameIn_zero_cons hb, ← Bytes.beforeNul_cons hb]
  -- what is behind the NUL is a name, since it starts with no NUL and is not empty
  simp [hb]

/-- An array without a leading NUL is a pathname. -/
theorem ofRaw_cons {b : UInt8} (hb : b ≠ 0) (rest : Bytes) :
    ofRaw (b :: rest) = pathname (nameIn (b :: rest)) := by
  have hkept : (b :: rest).take maxSize = b :: rest.take (maxSize - 1) := rfl
  rw [ofRaw, hkept, nameIn_cons hb, ← Bytes.beforeNul_cons hb]
  simp [hb]

/-- The first byte of a name is not cut off. -/
theorem nameIn_ne_nil {raw : Bytes} (h : ¬ IsVacant raw) : nameIn raw ≠ [] := by
  obtain ⟨b, rest, hb, rfl | rfl⟩ := exists_cons_of_not_isVacant h
  · rw [nameIn_zero_cons hb]
    exact List.cons_ne_nil _ _
  · rw [nameIn_cons hb]
    exact List.cons_ne_nil _ _

theorem ofRaw_of_head?_eq {raw : Bytes} (h : ¬ IsVacant raw) (hhead : raw.head? = some 0) :
    ofRaw raw = abstract (nameIn raw) := by
  obtain ⟨b, rest, hb, rfl | rfl⟩ := exists_cons_of_not_isVacant h
  · exact ofRaw_zero_cons hb rest
  · exact absurd (Option.some.inj hhead) hb

theorem ofRaw_of_head?_ne {raw : Bytes} (h : ¬ IsVacant raw) (hhead : raw.head? ≠ some 0) :
    ofRaw raw = pathname (nameIn raw) := by
  obtain ⟨b, rest, hb, rfl | rfl⟩ := exists_cons_of_not_isVacant h
  · exact absurd rfl hhead
  · exact ofRaw_cons hb rest

theorem ofRaw_ne_unavailable {raw : Bytes} (h : ¬ IsVacant raw) : ofRaw raw ≠ unavailable := by
  by_cases hhead : raw.head? = some 0
  · rw [ofRaw_of_head?_eq h hhead]
    exact nofun
  · rw [ofRaw_of_head?_ne h hhead]
    exact nofun

/-- The unavailable arrays are exactly those that hold no name. -/
theorem ofRaw_eq_unavailable_iff {raw : Bytes} : ofRaw raw = unavailable ↔ IsVacant raw :=
  ⟨fun hraw => Decidable.byContradiction fun h => ofRaw_ne_unavailable h hraw,
    ofRaw_eq_unavailable⟩

/-! ## What a record keeps of it -/

/-- A record keeps the name in an array up to a limit, one byte less for a name behind a NUL. -/
structure KeepsName (raw : Bytes) : Prop where
  abstract : raw.head? = some 0 →
    ofRaw raw = .abstract (nameIn raw) ∧ (ofRaw raw).wireName = (nameIn raw).take 106
  pathname : raw.head? ≠ some 0 →
    ofRaw raw = .pathname (nameIn raw) ∧ (ofRaw raw).wireName = (nameIn raw).take 107
  ne_nil : (ofRaw raw).wireName ≠ []
  nul_free : 0 ∉ (ofRaw raw).wireName

/-- An abstract name is cut once more, since a NUL is written behind it and the array has one in
front. -/
theorem wireName_ofRaw_of_head?_eq {raw : Bytes} (h : ¬ IsVacant raw)
    (hhead : raw.head? = some 0) : (ofRaw raw).wireName = (nameIn raw).take 106 := by
  rw [ofRaw_of_head?_eq h hhead]
  exact Bytes.beforeNul_of_not_mem (Bytes.not_mem_take_beforeNul _ _)

theorem wireName_ofRaw_of_head?_ne {raw : Bytes} (h : ¬ IsVacant raw)
    (hhead : raw.head? ≠ some 0) : (ofRaw raw).wireName = (nameIn raw).take 107 := by
  rw [ofRaw_of_head?_ne h hhead]
  exact Bytes.beforeNul_of_not_mem (Bytes.not_mem_take_beforeNul _ _)

/-- The limit of a record leaves something of every name. -/
theorem wireName_ofRaw_ne_nil {raw : Bytes} (h : ¬ IsVacant raw) : (ofRaw raw).wireName ≠ [] := by
  have htake (limit : Nat) : (nameIn raw).take (limit + 1) ≠ [] := fun hnil =>
    (List.take_eq_nil_iff.mp hnil).elim (nomatch ·) (nameIn_ne_nil h)
  by_cases hhead : raw.head? = some 0
  · rw [wireName_ofRaw_of_head?_eq h hhead]
    exact htake 105
  · rw [wireName_ofRaw_of_head?_ne h hhead]
    exact htake 106

/-- An array with a name, of either kind, is kept as one. -/
theorem keepsName {raw : Bytes} (h : ¬ IsVacant raw) : KeepsName raw := by
  refine { abstract := fun hhead => ?_, pathname := fun hhead => ?_, ne_nil := ?_, nul_free := ?_ }
  · exact ⟨ofRaw_of_head?_eq h hhead, wireName_ofRaw_of_head?_eq h hhead⟩
  · exact ⟨ofRaw_of_head?_ne h hhead, wireName_ofRaw_of_head?_ne h hhead⟩
  · exact wireName_ofRaw_ne_nil h
  · exact not_mem_wireName _

/-- The arrays for which no name is written are the unavailable ones. -/
theorem wireName_ofRaw_eq_nil_iff {raw : Bytes} :
    (ofRaw raw).wireName = [] ↔ ofRaw raw = unavailable := by
  constructor
  · intro hname
    exact ofRaw_eq_unavailable
      (Decidable.byContradiction fun h => wireName_ofRaw_ne_nil h hname)
  · intro hraw
    rw [hraw]
    rfl

/-- **An array without a name is never confused with one that has one.** An array is unavailable
exactly if it is empty, a single NUL, or starts with two NULs. In any other array there is a name,
which a record keeps up to its limit, never empty and never with a NUL in it. The end packs the
family, what is kept of the name and one NUL, from which the same name is decoded; so the two bytes
without a name stand for the unavailable arrays and for no other. -/
theorem packed_of_raw (raw : Bytes) :
    (ofRaw raw = unavailable ↔ raw = [] ∨ raw = [0] ∨ [0, 0] <+: raw) ∧
    (ofRaw raw ≠ unavailable → KeepsName raw) ∧
    ∀ (id : UInt64) (out : Bytes), ∃ bytes,
      (Endpoint.unix ⟨id, ofRaw raw⟩).pack out = (bytes.length, out ++ bytes) ∧
        bytes = Family.unix.tag :: ((ofRaw raw).wireName ++ [0]) ∧
        SocketAddress.decode bytes = .ok (some (.unix (ofRaw raw).wireName)) ∧
        (bytes = [1, 0] ↔ ofRaw raw = unavailable) := by
  refine ⟨ofRaw_eq_unavailable_iff, fun h => ?_, fun id out => ?_⟩
  · exact keepsName fun hvacant => h (ofRaw_eq_unavailable hvacant)
  · refine ⟨_, Endpoint.pack_eq _ out, rfl, Endpoint.decode_toBytes _, ?_⟩
    rw [← wireName_ofRaw_eq_nil_iff, Endpoint.toBytes, toBytes]
    constructor
    · intro hbytes
      exact List.append_left_eq_self.mp (List.cons.inj hbytes).2
    · intro hname
      rw [hname]
      rfl

/-- An array that a name fills up to the end: the record keeps one byte less of it. -/
theorem packed_of_full_array :
    let raw : Bytes := 0 :: List.replicate 107 121
    let kept : Bytes := List.replicate 106 121
    ofRaw raw ≠ unavailable ∧ (ofRaw raw).wireName = kept ∧
      ∃ bytes, (Endpoint.unix ⟨3, ofRaw raw⟩).pack [7] = (bytes.length, 7 :: bytes) ∧
        bytes = Family.unix.tag :: (kept ++ [0]) ∧
        SocketAddress.decode bytes = .ok (some (.unix kept)) := by
  intro raw kept
  obtain ⟨-, hname, hpack⟩ := packed_of_raw raw
  have havailable : ofRaw raw ≠ unavailable := by
    decide +kernel
  have hkept : (ofRaw raw).wireName = kept := ((hname havailable).abstract rfl).2
  obtain ⟨bytes, hbytes, hlayout, hdecode, -⟩ := hpack 3 [7]
  rw [hkept] at hlayout hdecode
  exact ⟨havailable, hkept, bytes, hbytes, hlayout, hdecode⟩

end UnixPath

end SyscallTrace
