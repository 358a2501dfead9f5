import SyscallTrace.Proofs.Capture.Pages
import SyscallTrace.Proofs.Capture.Reachable

/-!
# Strings from slices and from memory

The length of a string in a slice is known, so it is written exactly if there is room for it. A
string in memory is read into a window of the size that there is room for, and a string that fills a
window that is too small may have been cut. So the two ways agree but for one case: a string that
takes the very last byte of the buffer is written from a slice, and given up from memory
(specification §4.3).

- `Encoder.push_text_slice`, `Encoder.push_text_memory`: what a push does with a string.
- `Encoder.push_text_agrees`: **when strings are written**, and where the two ways differ.
-/

namespace SyscallTrace

/-- The length of a string that is cut to leave room for a NUL in a parameter. -/
theorem length_cut_string (bs : Bytes) :
    (bs.take (maxParamSize - 1) ++ [0]).length = min bs.length (maxParamSize - 1) + 1 := by
  rw [List.length_append, List.length_take, List.length_singleton, Nat.min_comm]

theorem length_cut_string_le (bs : Bytes) :
    (bs.take (maxParamSize - 1) ++ [0]).length ≤ maxParamSize := by
  rw [length_cut_string]
  exact Nat.succ_le_succ (Nat.min_le_right _ _)

namespace Encoder

variable {e : Encoder} {field : Field}

/-- A string of a slice is recorded if there is room for it and its NUL. -/
theorem push_text_slice (he : e.Reachable) {bs : Bytes}
    (htarget : e.target? (.text (.slice bs)) = some field) :
    let data := (Bytes.beforeNul bs).take (maxParamSize - 1) ++ [0]
    e.RecordsIf (data.length ≤ e.scratch.remaining - e.variant.toList.length)
      (e.variant.toList ++ data) (e.push (.text (.slice bs))) := by
  intro data
  have hwrite : (Value.text (.slice bs)).write e.settings e.memory
      (e.scratch.extend e.variant.toList) =
        Value.ignoreSize ((e.scratch.extend e.variant.toList).append data) := rfl
  rw [Scratch.append_eq, apply_ite Value.ignoreSize] at hwrite
  have hpositive : 0 < data.length := by
    rw [length_cut_string]
    exact Nat.succ_pos _
  have hroom := he.room
  refine (he.recordsIf htarget hwrite).congr ?_ fun _ => rfl
  rw [Scratch.length_extend, Scratch.capacity_extend, Scratch.remaining]
  omega

/-- A string in memory is read into a window of the size that there is room for, and recorded unless
it fills a window that is too small. -/
theorem push_text_memory (he : e.Reachable) {space : AddressSpace} {start : UInt64}
    (hnull : (start == 0) = false)
    (htarget : e.target? (.text (.memory space start)) = some field) :
    let size := min maxParamSize (e.scratch.remaining - e.variant.toList.length)
    let data := Source.readOrNothing (e.memory.readString space start size)
    e.RecordsIf (¬ (size < maxParamSize ∧ data.length = size)) (e.variant.toList ++ data)
      (e.push (.text (.memory space start))) := by
  intro size data
  have hwritten := Value.writeText_memory e.memory space hnull
    (e.scratch.extend e.variant.toList)
  rw [Scratch.remaining_extend] at hwritten
  have hwrite : (Value.text (.memory space start)).write e.settings e.memory
      (e.scratch.extend e.variant.toList) = _ := congrArg Value.ignoreSize hwritten
  rw [apply_ite Value.ignoreSize] at hwrite
  refine (he.recordsIf htarget hwrite).congr ?_ fun _ => rfl
  refine ⟨And.right, fun hloose => ⟨Nat.le_of_not_lt fun hbyte => hloose ?_, hloose⟩⟩
  -- without room for the byte the window is empty, and so it is full
  have hsize : size = 0 := by omega
  have hdata : data.length ≤ size :=
    Source.length_readOrNothing_le _ fun bs hread => Memory.length_readString_le hread
  exact ⟨by rw [hsize]; decide, by omega⟩

/-- A terminated string in memory is recorded if it leaves a byte of its window, or if the window has
the size of a whole parameter. -/
theorem push_text_terminated (he : e.Reachable) {space : AddressSpace} {address : UInt64}
    (haddress : address ≠ 0) (htarget : e.target? (.text (.memory space address)) = some field)
    {c : Contents} (hshows : e.memory.Shows space c) (hpages : c.WholePages) {bs : Bytes}
    (hnul : 0 ∉ bs) (hread : c.read address.toNat (bs ++ [0]).length = some (bs ++ [0])) :
    let room := e.scratch.remaining - e.variant.toList.length
    e.RecordsIf (min bs.length (maxParamSize - 1) + 1 < room ∨ maxParamSize ≤ room)
      (e.variant.toList ++ (bs.take (maxParamSize - 1) ++ [0]))
      (e.push (.text (.memory space address))) := by
  intro room
  have hpush := push_text_memory he (beq_eq_false_iff_ne.mpr haddress) htarget
  have hmax : 0 < maxParamSize := by decide
  by_cases hempty : room = 0
  · have hsize : min maxParamSize room = 0 := by rw [hempty, Nat.min_zero]
    dsimp only at hpush
    rw [hsize] at hpush
    refine hpush.congr (iff_of_false (fun hloose => hloose ⟨hmax, rfl⟩) (by omega)) ?_
    exact fun hloose => absurd ⟨hmax, rfl⟩ hloose
  · have hsize : 0 < min maxParamSize room := Nat.lt_min.mpr ⟨hmax, Nat.pos_of_ne_zero hempty⟩
    dsimp only at hpush
    rw [Memory.readString_of_terminated hshows hpages hnul hread hsize, Source.readOrNothing,
      List.length_append, List.length_take, List.length_singleton] at hpush
    refine hpush.congr (by omega) fun hloose => ?_
    -- the window is that of a whole parameter, or the string is shorter than it anyway
    have hcut : bs.take (min maxParamSize room - 1) = bs.take (maxParamSize - 1) := by
      by_cases hwhole : maxParamSize ≤ room
      · rw [Nat.min_eq_left hwhole]
      · rw [List.take_of_length_le (by omega), List.take_of_length_le (by omega)]
    rw [hcut]

/-- **When strings are written.** A string without a NUL is cut to leave room for one in a
parameter. From a slice it is written if and only if there is room for it, and from memory if
moreover a byte is left, or the room is that of a whole parameter. So the two agree unless the
string fills a smaller room to its last byte. A push that fails leaves the buffer as it was and
gives the event up. -/
theorem push_text_agrees (he : e.Reachable) (hopen : e.aborted = false)
    (hfield : e.event.schema.fields[e.pushed]? = some field)
    (htype : field.type = .dyn ∨ field.type.isString = true) {bs : Bytes} (hnul : 0 ∉ bs)
    {space : AddressSpace} {address : UInt64} (haddress : address ≠ 0) {c : Contents}
    (hshows : e.memory.Shows space c) (hpages : c.WholePages)
    (hread : c.read address.toNat (bs ++ [0]).length = some (bs ++ [0])) :
    let room := e.scratch.remaining - e.variant.toList.length
    let count := min bs.length (maxParamSize - 1) + 1
    let data := bs.take (maxParamSize - 1) ++ [0]
    let slice := e.push (.text (.slice bs))
    let memory := e.push (.text (.memory space address))
    data.length = count ∧
      e.RecordsIf (count ≤ room) (e.variant.toList ++ data) slice ∧
      e.RecordsIf (count < room ∨ maxParamSize ≤ room) (e.variant.toList ++ data) memory ∧
      (slice.1.toOption = memory.1.toOption ∧ slice.2 = memory.2 ↔
        ¬ (count = room ∧ room < maxParamSize)) := by
  intro room count data slice memory
  have htarget : e.target? (.text (.slice bs)) = some field :=
    target?_eq_some_iff.mpr ⟨hopen, hfield, htype⟩
  have hcount : data.length = count := length_cut_string bs
  have hlimit : count ≤ maxParamSize := Nat.succ_le_succ (Nat.min_le_right _ _)
  have hslice : e.RecordsIf (count ≤ room) (e.variant.toList ++ data) slice := by
    have hpush := push_text_slice he htarget
    rw [Bytes.beforeNul_of_not_mem hnul] at hpush
    rw [← hcount]
    exact hpush
  have hmemory : e.RecordsIf (count < room ∨ maxParamSize ≤ room) (e.variant.toList ++ data) memory :=
    push_text_terminated he haddress htarget hshows hpages hnul hread
  -- where only one of them is written, it fills a room that is smaller than a parameter
  have hsmall : ¬ (count ≤ room ↔ count < room ∨ maxParamSize ≤ room) →
      (e.variant.toList ++ data).length ≤ maxParamSize := by
    intro hdiffer
    have hvariant : e.variant.toList.length ≤ 1 := Option.length_toList_le
    rw [List.length_append]
    omega
  refine ⟨hcount, hslice, hmemory, (hslice.agree_iff hmemory hsmall).trans ?_⟩
  omega

/-- A path and its NUL take the last three bytes of the buffer: they are written from a slice, but
not from a page of memory. -/
theorem push_text_of_last_bytes :
    let path : Bytes := [0x2F, 0x61]
    let page : Region := ⟨.user, 4096, path ++ List.replicate 4094 0⟩
    ∃ e : Encoder,
      e.Reachable ∧ e.aborted = false ∧
        e.event.schema.fields[e.pushed]? = some ⟨"filename", .fspath⟩ ∧
        0 ∉ path ∧ e.memory.Shows .user page.contents ∧ page.contents.WholePages ∧
        page.contents.read 4096 3 = some [0x2F, 0x61, 0] ∧
        e.scratch.remaining = 3 ∧
        e.push (.text (.slice path)) = (.ok 3, e.taking [0x2F, 0x61, 0]) ∧
        ∃ full, e.push (.text (.memory .user 4096)) = (.error (.bufferFull full), e.givenUp) := by
  intro path page
  let e : Encoder :=
    { scratch := { bytes := List.replicate 28 0, capacity := 31 }
      settings := {}
      memory := Memory.ofRegions [page]
      event := .execveEnter
      time := ⟨1⟩
      tid := ⟨7⟩ }
  have hstart : Encoder.begin { capacity := 31 } {} (Memory.ofRegions [page]) .execveEnter ⟨1⟩ ⟨7⟩ =
      .ok e := rfl
  have hlength : page.bytes.length = 4096 := by
    rw [List.length_append, List.length_replicate]
    rfl
  have hend : page.base.toNat + page.bytes.length ≤ UInt64.size := by
    rw [hlength]
    decide
  have hshows : e.memory.Shows .user page.contents := Memory.shows_ofRegions hend
  have hpages : page.contents.WholePages :=
    Region.wholePages_contents hend (by decide) (by rw [hlength]; decide)
  have hread : page.contents.read 4096 3 = some [0x2F, 0x61, 0] := rfl
  have hfield : e.event.schema.fields[e.pushed]? = some ⟨"filename", .fspath⟩ := rfl
  have hnul : 0 ∉ path := by decide
  have haddress : (4096 : UInt64) ≠ 0 := by decide
  obtain ⟨-, hslice, hmemory, -⟩ :=
    push_text_agrees (.begin hstart) rfl hfield (.inr rfl) hnul haddress hshows hpages hread
  exact ⟨e, .begin hstart, rfl, hfield, hnul, hshows, hpages, hread, rfl,
    hslice.recorded (by decide), hmemory.full (by decide)⟩

end Encoder

end SyscallTrace
