import SyscallTrace.Proofs.Capture.Pages

/-!
# Strings are read exactly

A string in memory goes on until something stops it: a NUL, an address without a byte, or the end of
the bytes that it is read into, of which one is kept for a NUL. So what a read gives is told by the
text at the address, which is as long as there are bytes and none of them is a NUL, and by what
stands behind it. Since no read goes over the end of a page, the pages behind the one on which the
string stops need not be there (specification §4.3).

- `Contents.TextAt`, `Contents.StopsAt`: bytes without a NUL at an address, and what ends them.
- `Contents.string_eq_some_iff`, `Contents.string_eq_none_iff`: what a string is, and when there is
  none.
- `Memory.readPages_congr`: only the pages up to the end of the string are read.
- `Memory.readString_exact`: **what a read of a string gives**.
-/

namespace SyscallTrace

/-! ## Texts -/

namespace Contents

/-- Bytes that are there from an address on, without a NUL among them. -/
structure TextAt (c : Contents) (address : Nat) (bs : Bytes) : Prop where
  read : c.read address bs.length = some bs
  plain : 0 ∉ bs

/-- Whether a text cannot go on at an address: there is a NUL, or no byte at all. -/
def StopsAt (c : Contents) (address : Nat) : Prop :=
  ∀ b, c.byte? address = some b → b = 0

variable {c : Contents} {address left : Nat} {bs : Bytes}

theorem TextAt.nil : c.TextAt address [] := ⟨rfl, List.not_mem_nil⟩

theorem TextAt.cons {b : UInt8} (hbyte : c.byte? address = some b) (hb : b ≠ 0)
    (h : c.TextAt (address + 1) bs) : c.TextAt address (b :: bs) where
  read := read_cons.mpr ⟨hbyte, h.read⟩
  plain := by
    rw [List.mem_cons, not_or]
    exact ⟨hb.symm, h.plain⟩

/-- What stands behind the first bytes of a text is a text. -/
theorem TextAt.drop (h : c.TextAt address bs) {count : Nat} (hcount : count ≤ bs.length) :
    c.TextAt (address + count) (bs.drop count) := by
  induction count generalizing address bs with
  | zero => exact h
  | succ count ih =>
    cases bs with
    | nil => exact absurd hcount (Nat.not_succ_le_zero count)
    | cons b bs =>
      have htail : c.TextAt (address + 1) bs :=
        ⟨(read_cons.mp h.read).2, fun hnul => h.plain (List.mem_cons_of_mem b hnul)⟩
      rw [Nat.add_comm count 1, ← Nat.add_assoc, Nat.add_comm 1 count, List.drop_succ_cons]
      exact ih htail (Nat.le_of_succ_le_succ hcount)

/-- The bytes that a read gives are those that are there. -/
theorem byte?_of_read (h : c.read address bs.length = some bs) {i : Nat} (hi : i < bs.length) :
    c.byte? (address + i) = bs[i]? := by
  induction bs generalizing address i with
  | nil => exact absurd hi (Nat.not_lt_zero i)
  | cons b bs ih =>
    obtain ⟨hbyte, hrest⟩ := read_cons.mp h
    cases i with
    | zero => exact hbyte
    | succ i =>
      rw [List.getElem?_cons_succ, ← ih hrest (Nat.lt_of_succ_lt_succ hi), Nat.add_assoc,
        Nat.add_comm 1 i]

/-- Bytes without a NUL do not go on where something stops a text. -/
theorem length_le_of_read (hread : c.read address bs.length = some bs) (hplain : 0 ∉ bs)
    {length : Nat} (hstop : length < bs.length → c.StopsAt (address + length)) :
    bs.length ≤ length := by
  refine Nat.le_of_not_lt fun hshort => hplain ?_
  have hbyte := byte?_of_read hread hshort
  rw [List.getElem?_eq_getElem hshort] at hbyte
  rw [← hstop hshort _ hbyte]
  exact List.getElem_mem hshort

/-- There is a text at every address, as long as something stops it or there is room for it. -/
theorem exists_textAt (c : Contents) (address left : Nat) :
    ∃ bs, c.TextAt address bs ∧ bs.length ≤ left ∧
      (bs.length < left → c.StopsAt (address + bs.length)) := by
  induction left generalizing address with
  | zero => exact ⟨[], .nil, Nat.le_refl 0, fun hlt => absurd hlt (Nat.lt_irrefl 0)⟩
  | succ left ih =>
    by_cases hstop : c.StopsAt address
    · exact ⟨[], .nil, Nat.zero_le _, fun _ => hstop⟩
    · obtain ⟨b, hbyte, hb⟩ : ∃ b, c.byte? address = some b ∧ b ≠ 0 := by
        simpa [StopsAt] using hstop
      obtain ⟨bs, htext, hle, hend⟩ := ih (address + 1)
      refine ⟨b :: bs, htext.cons hbyte hb, Nat.succ_le_succ hle, fun hlt => ?_⟩
      rw [List.length_cons, Nat.add_comm bs.length 1, ← Nat.add_assoc]
      exact hend (Nat.lt_of_succ_lt_succ hlt)

/-! ## Strings -/

/-- A string begins with the text at its address. -/
theorem TextAt.string (h : c.TextAt address bs) (hleft : bs.length ≤ left) :
    c.string address left =
      (c.string (address + bs.length) (left - bs.length)).map (bs ++ ·) := by
  rw [string_of_read h.read hleft, if_neg]
  exact fun hnul => h.plain (List.contains_iff_mem.mp hnul)

/-- A string that fills the room for it is cut. -/
theorem TextAt.string_of_length (h : c.TextAt address bs) (hleft : bs.length = left) :
    c.string address left = some (bs ++ [0]) := by
  rw [h.string (Nat.le_of_eq hleft), hleft, Nat.sub_self]
  rfl

/-- A string ends with its NUL. -/
theorem TextAt.string_of_nul (h : c.TextAt address bs) (hleft : bs.length < left)
    (hnul : c.byte? (address + bs.length) = some 0) :
    c.string address left = some (bs ++ [0]) := by
  obtain ⟨more, hmore⟩ := Nat.exists_eq_add_one.mpr (Nat.sub_pos_of_lt hleft)
  rw [h.string (Nat.le_of_lt hleft), hmore, Contents.string, hnul]
  rfl

/-- There is no string if a byte is missing before it ends. -/
theorem TextAt.string_of_missing (h : c.TextAt address bs) (hleft : bs.length < left)
    (hmissing : c.byte? (address + bs.length) = none) : c.string address left = none := by
  rw [h.string (Nat.le_of_lt hleft),
    Contents.string_of_missing hmissing (Nat.ne_of_gt (Nat.sub_pos_of_lt hleft))]
  rfl

/-- Three things may end a text: the room, a NUL, and a missing byte. -/
theorem exists_end (c : Contents) (address left : Nat) :
    ∃ bs, c.TextAt address bs ∧
      (bs.length = left ∨
        (bs.length < left ∧ c.byte? (address + bs.length) = some 0) ∨
        (bs.length < left ∧ c.byte? (address + bs.length) = none)) := by
  obtain ⟨bs, htext, hle, hstop⟩ := c.exists_textAt address left
  refine ⟨bs, htext, ?_⟩
  rcases Nat.eq_or_lt_of_le hle with heq | hlt
  · exact .inl heq
  · cases hbyte : c.byte? (address + bs.length) with
    | none => exact .inr (.inr ⟨hlt, rfl⟩)
    | some b =>
      rw [hstop hlt b hbyte]
      exact .inr (.inl ⟨hlt, rfl⟩)

/-- A string is a text with a NUL behind it, and ends where there is one or where the room does. -/
theorem string_eq_some_iff {read : Bytes} :
    c.string address left = some read ↔
      ∃ bs, c.TextAt address bs ∧ read = bs ++ [0] ∧
        (bs.length < left ∧ c.byte? (address + bs.length) = some 0 ∨ bs.length = left) := by
  constructor
  · intro h
    obtain ⟨bs, htext, hfull | ⟨hlt, hnul⟩ | ⟨hlt, hmissing⟩⟩ := c.exists_end address left
    · rw [htext.string_of_length hfull] at h
      exact ⟨bs, htext, (Option.some.inj h).symm, .inr hfull⟩
    · rw [htext.string_of_nul hlt hnul] at h
      exact ⟨bs, htext, (Option.some.inj h).symm, .inl ⟨hlt, hnul⟩⟩
    · rw [htext.string_of_missing hlt hmissing] at h
      cases h
  · rintro ⟨bs, htext, rfl, ⟨hlt, hnul⟩ | hfull⟩
    · exact htext.string_of_nul hlt hnul
    · exact htext.string_of_length hfull

/-- There is no string if and only if a byte is missing behind the text, before the room ends. -/
theorem string_eq_none_iff :
    c.string address left = none ↔
      ∃ bs, c.TextAt address bs ∧ bs.length < left ∧
        c.byte? (address + bs.length) = none := by
  constructor
  · intro h
    obtain ⟨bs, htext, hfull | ⟨hlt, hnul⟩ | ⟨hlt, hmissing⟩⟩ := c.exists_end address left
    · rw [htext.string_of_length hfull] at h
      cases h
    · rw [htext.string_of_nul hlt hnul] at h
      cases h
    · exact ⟨bs, htext, hlt, hmissing⟩
  · rintro ⟨bs, htext, hlt, hmissing⟩
    exact htext.string_of_missing hlt hmissing

end Contents

/-! ## Reads -/

namespace Memory

variable {memory other : Memory} {space : AddressSpace} {c : Contents}

/-- Whether two memories answer alike as long as nothing from an address on is asked for. -/
def AgreesBelow (memory other : Memory) (space : AddressSpace) (stop : Nat) : Prop :=
  ∀ (address : UInt64) (length : Nat), address.toNat + length ≤ stop →
    other.read space address length = memory.read space address length

/-- A read that begins before the end of a page, and stays inside of its own page, ends before it
too. -/
theorem pageEnd_le {stop address : Nat} (hstop : pageSize ∣ stop) (h : address < stop)
    (left : Nat) : address + min (pageSize - address % pageSize) left ≤ stop := by
  have hpage : address % pageSize < pageSize := Nat.mod_lt _ (by decide)
  obtain ⟨pages, rfl⟩ := hstop
  unfold pageSize at h hpage ⊢
  omega

/-- **Only the pages up to the end of the string are read.** If all bytes that are looked at stand
before the end of a page, the pages behind it do not matter. -/
theorem readPages_congr (hshows : memory.Shows space c) {stop : Nat} (hstop : pageSize ∣ stop)
    (hagrees : memory.AgreesBelow other space stop) {address left : Nat} {bs : Bytes}
    (htext : c.TextAt address bs) (hend : bs.length < left → c.StopsAt (address + bs.length))
    (hbelow : ∀ i < left, i ≤ bs.length → address + i < stop) :
    other.readPages space address left = memory.readPages space address left := by
  induction left using Nat.strongRecOn generalizing address bs with
  | _ left ih =>
    rw [readPages, readPages]
    by_cases hleft : left = 0
    · rw [if_pos hleft, if_pos hleft]
    · rw [if_neg hleft, if_neg hleft]
      by_cases hlast : address ≥ UInt64.size
      · rw [if_pos hlast, if_pos hlast]
      · rw [if_neg hlast, if_neg hlast]
        have hnat : (UInt64.ofNat address).toNat = address :=
          UInt64.toNat_ofNat_of_lt' (Nat.lt_of_not_le hlast)
        have hfirst : address + 0 < stop := hbelow 0 (Nat.pos_of_ne_zero hleft) (Nat.zero_le _)
        have hpage : address % pageSize < pageSize := Nat.mod_lt _ (by decide)
        have hinside : address + min (pageSize - address % pageSize) left ≤ stop :=
          pageEnd_le hstop hfirst left
        dsimp only
        rw [hagrees _ _ (by rwa [hnat])]
        have hpositive : 0 < min (pageSize - address % pageSize) left := by omega
        have hread := hshows (UInt64.ofNat address) _ hpositive
        rw [hnat] at hread
        have hmin : min (pageSize - address % pageSize) left ≤ left := Nat.min_le_right _ _
        generalize min (pageSize - address % pageSize) left = length at hread hmin hpositive ⊢
        cases hanswer : memory.read space (UInt64.ofNat address) length with
        | error e => rfl
        | ok answer =>
          obtain ⟨page, rfl⟩ := answer
          rw [hanswer] at hread
          dsimp only
          by_cases hnul : page.contains 0
          · rw [if_pos hnul, if_pos hnul]
          · -- the text goes on behind a page without a NUL
            have hlong : page.length ≤ bs.length := Contents.length_le_of_read hread.symm
              (fun hmem => hnul (List.contains_iff_mem.mpr hmem)) fun hlt =>
                hend (Nat.lt_of_lt_of_le hlt hmin)
            rw [if_neg hnul, if_neg hnul,
              ih (left - page.length) (by omega) (htext.drop hlong) ?_ ?_]
            · rw [List.length_drop, Nat.add_assoc, Nat.add_sub_cancel' hlong]
              exact fun hlt => hend (by omega)
            · intro i hi hle
              rw [List.length_drop] at hle
              have hbefore := hbelow (page.length + i) (by omega) (by omega)
              omega

/-- **What a read of a string gives.** Nothing is read into no bytes. Into `limit + 1` bytes, the
text at the address is read with a NUL behind it, if it is ended by a NUL or by the limit. The read
fails if and only if an address without a byte comes before the NUL and before the limit. Pages
behind the one on which the text ends do not matter. -/
theorem readString_exact (hshows : memory.Shows space c) (hpages : c.WholePages)
    (address : UInt64) :
    memory.readString space address 0 = .ok [] ∧
      ∀ limit,
        (∀ read, memory.readString space address (limit + 1) = .ok read ↔
          ∃ bs, c.TextAt address.toNat bs ∧ read = bs ++ [0] ∧
            (bs.length < limit ∧ c.byte? (address.toNat + bs.length) = some 0 ∨
              bs.length = limit)) ∧
        ((∃ error, memory.readString space address (limit + 1) = .error error) ↔
          ∃ bs, c.TextAt address.toNat bs ∧ bs.length < limit ∧
            c.byte? (address.toNat + bs.length) = Option.none) ∧
        ∀ bs, c.TextAt address.toNat bs →
          (bs.length < limit → c.StopsAt (address.toNat + bs.length)) →
          ∀ (other : Memory) (stop : Nat), pageSize ∣ stop →
            (∀ i < limit, i ≤ bs.length → address.toNat + i < stop) →
            memory.AgreesBelow other space stop →
            other.readString space address (limit + 1) =
              memory.readString space address (limit + 1) := by
  refine ⟨rfl, fun limit => ?_⟩
  -- the last byte of the room is kept for the NUL
  have hread : ∀ memory : Memory, memory.readString space address (limit + 1) =
      memory.readPages space address.toNat limit := fun _ => rfl
  have hstring := readPages_eq hshows hpages address.toNat limit
  refine ⟨fun read => ?_, ?_, fun bs htext hend other stop hstop hbelow hagrees => ?_⟩
  · rw [hread, ← toOption_eq_some_iff, hstring]
    exact Contents.string_eq_some_iff
  · rw [hread, ← toOption_eq_none_iff, hstring]
    exact Contents.string_eq_none_iff
  · rw [hread, hread]
    exact readPages_congr hshows hstop hagrees htext hend hbelow

/-- A string that ends with its page, read from memory that has this page and from memory that
refuses whatever goes over its end. -/
theorem readString_at_page_end :
    let page : Region := ⟨.user, 4096, List.replicate 4094 1 ++ [0x61, 0]⟩
    let memory : Memory := ofRegions [page]
    let bounded : Memory :=
      ⟨fun space address length =>
        if address.toNat + length ≤ 8192 then memory.read space address length
        else .error .null⟩
    memory.Shows .user page.contents ∧ page.contents.WholePages ∧
      page.contents.TextAt 8190 [0x61] ∧ page.contents.byte? 8191 = some 0 ∧
      pageSize ∣ 8192 ∧ memory.AgreesBelow bounded .user 8192 ∧
      memory.readString .user 8190 10 = .ok [0x61, 0] ∧
      bounded.readString .user 8190 10 = .ok [0x61, 0] := by
  intro page memory bounded
  have hlength : page.bytes.length = 4096 := by
    rw [List.length_append, List.length_replicate]
    rfl
  have hend : page.base.toNat + page.bytes.length ≤ UInt64.size := by
    rw [hlength]
    decide
  have hshows : memory.Shows .user page.contents := shows_ofRegions hend
  have hpages : page.contents.WholePages :=
    Region.wholePages_contents hend (by decide) (by rw [hlength]; decide)
  have hfront : (List.replicate 4094 (1 : UInt8)).length = 4094 := List.length_replicate
  have hdrop : page.bytes.drop 4094 = [0x61, 0] := List.drop_left' hfront
  have hinside : 4094 ≤ page.bytes.length := by
    rw [hlength]
    decide
  have hlast : page.contents.read 8190 ([0x61, 0] : Bytes).length = some [0x61, 0] := by
    have hread := Region.read_contents hend hinside 2
    rw [hlength, if_pos (by decide), hdrop] at hread
    exact hread
  have htext : page.contents.TextAt 8190 [0x61] :=
    .cons (Contents.read_cons.mp hlast).1 (by decide) .nil
  have hbyte : page.contents.byte? 8191 = some 0 := by
    have hsecond := Contents.byte?_of_read hlast (by decide : 1 < ([0x61, 0] : Bytes).length)
    exact hsecond
  have hagrees : memory.AgreesBelow bounded .user 8192 := fun _ _ hbelow => if_pos hbelow
  have haligned : pageSize ∣ 8192 := by decide
  obtain ⟨hread, -, hlocal⟩ := (readString_exact hshows hpages 8190).2 9
  have hwhole : memory.readString .user 8190 10 = .ok [0x61, 0] :=
    (hread _).mpr ⟨[0x61], htext, rfl, .inl ⟨by decide, hbyte⟩⟩
  have hsame := hlocal [0x61] htext
    (fun _ b hb => (Option.some.inj (hb.symm.trans hbyte))) bounded 8192 haligned
    (fun i _ hi => Nat.lt_of_le_of_lt (Nat.add_le_add_left hi 8190) (by decide)) hagrees
  exact ⟨hshows, hpages, htext, hbyte, haligned, hagrees, hwhole, hsame.trans hwhole⟩

end Memory

end SyscallTrace
