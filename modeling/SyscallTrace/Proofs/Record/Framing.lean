import Mathlib.Control.Monad.Basic
import SyscallTrace.Proofs.Record.Grammar
import SyscallTrace.Record.Reader

/-!
# Frames

A chunk of bytes is framed if its header declares exactly its own length. Whether it decodes is
another question: its event may be unknown, or its lengths may not add up. The decoder never looks
behind the declared length, in none of its errors either, and the reader that skips a bad record
skips just that. So the reader gives one item for each chunk, and no chunk changes what becomes of
another (specification §15.3).

Every byte string is some framed chunks and a rest that starts with none. That is where the reader
stops, either because nothing is left or because the boundary is lost.

- `Record.Framed`: a chunk that declares its own length.
- `Record.Framed.decode_append`: the decoder does not look behind a framed chunk.
- `DecodeError.LosesBoundary`, `Record.Framed.isInside`: the errors where no chunk is framed, and
  those of a framed chunk.
- `Record.framed_induction`: a byte string, taken chunk by chunk.
- `Reader.next_framed`, `Reader.next_lost`: what the reader does at a framed chunk, and what it does
  where there is none.
- `Reader.items_flatten_append`: **the reader gives one item for each framed chunk**, and then what
  it gives for the rest.
-/

namespace SyscallTrace

/-- What follows a header does not change it. -/
theorem Header.parse?_append {bs : Bytes} {header : Header} (h : parse? bs = some header)
    (rest : Bytes) : parse? (bs ++ rest) = some header := by
  rw [eq_append_of_parse? h, List.append_assoc]
  exact parse?_toBytes_append header _

/-- An error that says that the byte string ends before the record does. -/
def DecodeError.IsTruncated : DecodeError → Prop
  | .truncatedHeader _ | .truncatedRecord _ _ => True
  | _ => False

/-- An error behind which the next record cannot be found: the byte string ends before the record
does, or the record declares less than a header. -/
def DecodeError.LosesBoundary : DecodeError → Prop
  | .truncatedHeader _ | .truncatedRecord _ _ => True
  | .lengthMismatch _ declared => declared < Header.size
  | .unknownEvent _ | .tooManyParams _ | .paramOutOfBounds _ _ _ _ _ => False

/-- An error of a record whose bytes are there. If the lengths do not add up, the one that is named
is the declared one. -/
def DecodeError.IsInside (declared : Nat) : DecodeError → Prop
  | .truncatedHeader _ | .truncatedRecord _ _ => False
  | .lengthMismatch _ length => length = declared
  | .unknownEvent _ | .tooManyParams _ | .paramOutOfBounds _ _ _ _ _ => True

theorem DecodeError.IsInside.not_isTruncated {declared : Nat} {e : DecodeError}
    (h : e.IsInside declared) : ¬ e.IsTruncated := by
  cases e with
  | truncatedHeader _ | truncatedRecord _ _ => exact fun _ => h
  | unknownEvent _ | tooManyParams _ | lengthMismatch _ _ | paramOutOfBounds _ _ _ _ _ => exact id

/-- Behind a record that declares at least a header, the next one can be found. -/
theorem DecodeError.IsInside.not_losesBoundary {declared : Nat} {e : DecodeError}
    (h : e.IsInside declared) (hmin : Header.size ≤ declared) : ¬ e.LosesBoundary := by
  cases e with
  | truncatedHeader _ | truncatedRecord _ _ => exact fun _ => h
  | unknownEvent _ | tooManyParams _ | paramOutOfBounds _ _ _ _ _ => exact id
  | lengthMismatch _ length =>
    have hlength : length = declared := h
    exact hlength ▸ Nat.not_lt.mpr hmin

/-- The length that leads to the next record is the declared one, if that can be used. -/
theorem Reader.boundary?_eq_some_iff {r : Reader} {length : Nat} :
    r.boundary? = some length ↔
      ∃ header, Header.parse? r.buffer = some header ∧ header.length.toNat = length ∧
        Header.size ≤ length ∧ length ≤ r.buffer.length := by
  unfold boundary?
  cases Header.parse? r.buffer with
  | none => simp
  | some header =>
    dsimp only
    constructor
    · intro h
      obtain ⟨hbounds, hlength⟩ := Option.ite_none_right_eq_some.mp h
      cases hlength
      exact ⟨header, rfl, rfl, hbounds⟩
    · rintro ⟨header', heq, rfl, hbounds⟩
      cases heq
      exact Option.ite_none_right_eq_some.mpr ⟨hbounds, rfl⟩

namespace Record

/-- A chunk that is long enough for a header, and whose header declares exactly its own length. -/
def Framed (chunk : Bytes) : Prop :=
  Header.size ≤ chunk.length ∧
    (Header.parse? chunk).map (·.length.toNat) = some chunk.length

instance decidableFramed (chunk : Bytes) : Decidable (Framed chunk) :=
  inferInstanceAs (Decidable (_ ∧ _))

/-! ## Decoding with a usable length -/

/-- A declared length that can be used decides which bytes are decoded. -/
theorem decode_of_parse? {buffer : Bytes} {header : Header}
    (h : Header.parse? buffer = some header) (hmin : Header.size ≤ header.length.toNat)
    (hmax : header.length.toNat ≤ buffer.length) :
    decode buffer = decodeBody header (buffer.take header.length.toNat) := by
  rw [decode, h]
  dsimp only
  rw [if_neg (Nat.not_lt.mpr hmax), if_neg (Nat.not_lt.mpr hmin)]

/-- A declared length that cannot be used is an error, and the boundary is lost. -/
theorem exists_lost_of_boundary? {buffer : Bytes}
    (h : (Reader.ofBytes buffer).boundary? = none) :
    ∃ e, decode buffer = .error e ∧ e.LosesBoundary := by
  rw [decode]
  cases hheader : Header.parse? buffer with
  | none => exact ⟨_, rfl, trivial⟩
  | some header =>
    dsimp only
    by_cases hmax : header.length.toNat > buffer.length
    · rw [if_pos hmax]
      exact ⟨_, rfl, trivial⟩
    · rw [if_neg hmax]
      by_cases hmin : header.length.toNat < Header.size
      · rw [if_pos hmin]
        exact ⟨_, rfl, hmin⟩
      · -- a length between the two leads to the next record
        have hsome := (Reader.boundary?_eq_some_iff (r := .ofBytes buffer)).mpr
          ⟨header, hheader, rfl, Nat.le_of_not_lt hmin, Nat.le_of_not_lt hmax⟩
        rw [h] at hsome
        cases hsome

/-- Laying out the parameters fails only for a parameter out of its bounds. -/
theorem isInside_of_layOut {width : PrefixWidth} {index : Nat} {offset : UInt32}
    {fields : List Field} {lengths : List UInt32} {e : DecodeError} (declared : Nat)
    (h : layOut width index offset fields lengths = .error e) : e.IsInside declared := by
  induction fields generalizing index offset lengths with
  | nil => cases h
  | cons field fields ih =>
    cases lengths with
    | nil => cases h
    | cons length lengths =>
      rw [layOut] at h
      dsimp only at h
      split at h
      · cases h
        trivial
      · cases hrest : layOut width (index + 1) (offset + length) fields lengths with
        | error e' =>
          rw [hrest] at h
          cases h
          exact ih hrest
        | ok views =>
          rw [hrest] at h
          cases h

/-- What can be wrong with a record once its bytes are there. -/
theorem isInside_of_decodeBody {header : Header} {bytes : Bytes} {e : DecodeError}
    (h : decodeBody header bytes = .error e) : e.IsInside header.length.toNat := by
  rw [decodeBody] at h
  split at h
  · cases h
    trivial
  · dsimp only at h
    split at h
    · cases h
      trivial
    · split at h
      · cases h
        rfl
      · split at h
        · cases h
          rfl
        · split at h
          · rename_i hlayOut
            cases h
            exact isInside_of_layOut _ hlayOut
          · cases h

namespace Framed

variable {chunk : Bytes}

/-- The header of a framed chunk. -/
theorem exists_header (h : Framed chunk) :
    ∃ header, Header.parse? chunk = some header ∧ header.length.toNat = chunk.length :=
  Option.map_eq_some_iff.mp h.2

theorem ne_nil (h : Framed chunk) : chunk ≠ [] := by
  rintro rfl
  exact absurd h.1 (by decide)

/-- Once the header of a framed chunk is read, only the chunk is looked at. -/
theorem decode_eq_decodeBody {header : Header} (h : Framed chunk)
    (hheader : Header.parse? chunk = some header) (hlength : header.length.toNat = chunk.length)
    (rest : Bytes) : decode (chunk ++ rest) = decodeBody header chunk := by
  have hmin : Header.size ≤ header.length.toNat := hlength ▸ h.1
  have hmax : header.length.toNat ≤ (chunk ++ rest).length := by
    rw [hlength, List.length_append]
    exact Nat.le_add_right _ _
  rw [decode_of_parse? (Header.parse?_append hheader rest) hmin hmax, hlength, List.take_left]

/-- **The decoder does not look behind a framed chunk**, whether it decodes or not. -/
theorem decode_append (h : Framed chunk) (rest : Bytes) :
    decode (chunk ++ rest) = decode chunk := by
  obtain ⟨header, hheader, hlength⟩ := h.exists_header
  have halone := h.decode_eq_decodeBody hheader hlength []
  rw [List.append_nil] at halone
  rw [h.decode_eq_decodeBody hheader hlength rest, halone]

theorem exists_decodeBody (h : Framed chunk) :
    ∃ header, decode chunk = decodeBody header chunk := by
  obtain ⟨header, hheader, hlength⟩ := h.exists_header
  have halone := h.decode_eq_decodeBody hheader hlength []
  rw [List.append_nil] at halone
  exact ⟨header, halone⟩

/-- A framed chunk that decodes is the record. -/
theorem bytes_of_decode (h : Framed chunk) {r : Record} (hdecode : decode chunk = .ok r) :
    r.bytes = chunk := by
  obtain ⟨header, hbody⟩ := h.exists_decodeBody
  rw [hbody] at hdecode
  exact bytes_of_decodeBody hdecode

/-- A framed chunk that decodes declares its own length. -/
theorem declared_of_decode (h : Framed chunk) {r : Record} (hdecode : decode chunk = .ok r) :
    r.header.length.toNat = chunk.length := by
  obtain ⟨header, event, hheader, -, -, -, -, -, rfl⟩ := decode_eq_ok_iff.mp hdecode
  obtain ⟨header', hheader', hlength⟩ := h.exists_header
  rw [hheader, Option.some.injEq] at hheader'
  rw [hheader']
  exact hlength

/-- What is wrong with a framed chunk is inside of it. -/
theorem isInside (h : Framed chunk) {e : DecodeError} (hdecode : decode chunk = .error e) :
    e.IsInside chunk.length := by
  obtain ⟨header, hheader, hlength⟩ := h.exists_header
  have halone := h.decode_eq_decodeBody hheader hlength []
  rw [List.append_nil] at halone
  rw [halone] at hdecode
  exact hlength ▸ isInside_of_decodeBody hdecode

/-- A framed chunk does not end too early. -/
theorem not_isTruncated (h : Framed chunk) {e : DecodeError} (hdecode : decode chunk = .error e) :
    ¬ e.IsTruncated :=
  (h.isInside hdecode).not_isTruncated

/-- The reader knows where a framed chunk ends. -/
theorem boundary?_append (h : Framed chunk) (rest : Bytes) :
    (Reader.ofBytes (chunk ++ rest)).boundary? = some chunk.length := by
  obtain ⟨header, hheader, hlength⟩ := h.exists_header
  refine Reader.boundary?_eq_some_iff.mpr
    ⟨header, Header.parse?_append hheader rest, hlength, h.1, ?_⟩
  show chunk.length ≤ (chunk ++ rest).length
  rw [List.length_append]
  exact Nat.le_add_right _ _

end Framed

/-- Where the reader knows the next boundary, a framed chunk ends. -/
theorem exists_framed_of_boundary? {bs : Bytes} {length : Nat}
    (h : (Reader.ofBytes bs).boundary? = some length) :
    ∃ chunk rest, bs = chunk ++ rest ∧ Framed chunk := by
  obtain ⟨header, hheader, hdeclared, hmin, hmax⟩ := Reader.boundary?_eq_some_iff.mp h
  change Header.parse? bs = some header at hheader
  have hlength : (bs.take length).length = length := List.length_take_of_le hmax
  -- the header is in front of the boundary
  obtain ⟨front, hfront⟩ : ∃ front, Header.parse? (bs.take length) = some front := by
    refine Option.ne_none_iff_exists'.mp fun hnone => ?_
    rw [Header.parse?_eq_none_iff, hlength] at hnone
    exact absurd hmin (Nat.not_le.mpr hnone)
  have hsame := Header.parse?_append hfront (bs.drop length)
  rw [List.take_append_drop, hheader, Option.some.injEq] at hsame
  refine ⟨bs.take length, bs.drop length, (List.take_append_drop length bs).symm, ?_, ?_⟩
  · rw [hlength]
    exact hmin
  · rw [hfront, ← hsame, hlength, ← hdeclared]
    rfl

/-- **A byte string, taken chunk by chunk.** It is empty or its boundary is lost, or it starts with
a framed chunk. -/
@[elab_as_elim]
theorem framed_induction {motive : Bytes → Prop} (bs : Bytes)
    (lost : ∀ bs, (Reader.ofBytes bs).boundary? = none → motive bs)
    (framed : ∀ chunk rest, Framed chunk → motive rest → motive (chunk ++ rest)) : motive bs := by
  induction hsize : bs.length using Nat.strongRecOn generalizing bs with
  | _ size ih =>
    cases hboundary : (Reader.ofBytes bs).boundary? with
    | none => exact lost bs hboundary
    | some length =>
      obtain ⟨chunk, rest, rfl, hchunk⟩ := exists_framed_of_boundary? hboundary
      have hpos : 0 < chunk.length := List.length_pos_iff.mpr hchunk.ne_nil
      refine framed chunk rest hchunk (ih rest.length ?_ rest rfl)
      rw [← hsize, List.length_append]
      omega

end Record

namespace Reader

/-! ## One item -/

/-- **The reader at a framed chunk.** It gives what the chunk decodes to, or why it does not, and
stands behind the chunk. -/
theorem next_framed {chunk : Bytes} (h : Record.Framed chunk) (rest : Bytes) :
    (ofBytes (chunk ++ rest)).next = (some (Record.decode chunk), ofBytes rest) := by
  have hgo : ¬ ((ofBytes (chunk ++ rest)).stopped ||
      (ofBytes (chunk ++ rest)).buffer.isEmpty) = true := by
    simp [ofBytes, h.ne_nil]
  have hsame : Record.decode (ofBytes (chunk ++ rest)).buffer = Record.decode chunk :=
    h.decode_append rest
  rw [next, if_neg hgo, hsame, h.boundary?_append rest]
  cases hdecode : Record.decode chunk with
  | ok record =>
    dsimp only [ofBytes]
    rw [h.bytes_of_decode hdecode, List.drop_left]
  | error e =>
    dsimp only [ofBytes]
    rw [List.drop_left]

/-- With nothing left, there is no item. -/
theorem next_nil : (ofBytes []).next = (none, ofBytes []) := rfl

/-- **The reader where a boundary is lost.** It gives an error, and keeps the bytes. -/
theorem next_lost {bs : Bytes} (hne : bs ≠ []) (h : (ofBytes bs).boundary? = none) :
    ∃ e, Record.decode bs = .error e ∧ e.LosesBoundary ∧
      (ofBytes bs).next = (some (.error e), { buffer := bs, stopped := true }) := by
  obtain ⟨e, hdecode, hlost⟩ := Record.exists_lost_of_boundary? h
  have hgo : ¬ ((ofBytes bs).stopped || (ofBytes bs).buffer.isEmpty) = true := by
    simp [ofBytes, hne]
  have herror : Record.decode (ofBytes bs).buffer = .error e := hdecode
  refine ⟨e, hdecode, hlost, ?_⟩
  rw [next, if_neg hgo, herror, h]
  rfl

/-! ## All items -/

/-- The next item comes first, and the others are those of the reader behind it. -/
theorem items_eq (r : Reader) :
    r.items =
      match r.next with
      | (none, s) => ([], s)
      | (some item, s) => (item :: s.items.1, s.items.2) := by
  rw [items]
  split
  · rename_i hnext
    rw [hnext]
  · rename_i hnext
    rw [hnext]

/-- Nothing is left in an empty byte string. -/
theorem items_nil : (ofBytes []).items = ([], ofBytes []) := by
  rw [items_eq, next_nil]

/-- A stopped reader gives no more items. -/
theorem items_stopped (bs : Bytes) :
    (Reader.mk bs true).items = ([], { buffer := bs, stopped := true }) := by
  rw [items_eq]
  rfl

/-- A framed chunk gives one item. -/
theorem items_framed {chunk : Bytes} (h : Record.Framed chunk) (rest : Bytes) :
    (ofBytes (chunk ++ rest)).items =
      (Record.decode chunk :: (ofBytes rest).items.1, (ofBytes rest).items.2) := by
  rw [items_eq, next_framed h rest]

/-- Where a boundary is lost, the error is the only item. -/
theorem items_lost {bs : Bytes} (hne : bs ≠ []) (h : (ofBytes bs).boundary? = none) :
    ∃ e, (ofBytes bs).items = ([.error e], { buffer := bs, stopped := true }) := by
  obtain ⟨e, -, -, hnext⟩ := next_lost hne h
  refine ⟨e, ?_⟩
  rw [items_eq, hnext]
  dsimp only
  rw [items_stopped]

/-- **The reader gives one item for each framed chunk**, a record or an error as the chunk alone
decodes, and then goes on as if it had started behind them. -/
theorem items_flatten_append {chunks : List Bytes} (h : ∀ chunk ∈ chunks, Record.Framed chunk)
    (rest : Bytes) :
    (ofBytes (chunks.flatten ++ rest)).items =
      (chunks.map Record.decode ++ (ofBytes rest).items.1, (ofBytes rest).items.2) := by
  induction chunks with
  | nil => rfl
  | cons chunk chunks ih =>
    rw [List.forall_mem_cons] at h
    rw [List.flatten_cons, List.append_assoc, items_framed h.1, ih h.2]
    rfl

/-- A record of an unknown event, a record without parameters, and bytes that are too few for a
header. -/
theorem items_unknown_known_truncated :
    let unknown : Header := { time := ⟨5⟩, tid := ⟨7⟩, length := 26, tag := 9, count := 0 }
    let known : Header := { time := ⟨6⟩, tid := ⟨8⟩, length := 26, tag := 222, count := 0 }
    let chunks := [unknown.toBytes, known.toBytes]
    let rest : Bytes := [1, 2, 3]
    let record : Record :=
      { bytes := known.toBytes, header := known, event := .cloneEnter, views := [] }
    (∀ chunk ∈ chunks, Record.Framed chunk) ∧
      (ofBytes (chunks.flatten ++ rest)).items =
        ([.error (.unknownEvent 9), .ok record, .error (.truncatedHeader 3)],
          { buffer := rest, stopped := true }) := by
  intro unknown known chunks rest record
  have hframed : ∀ chunk ∈ chunks, Record.Framed chunk := by decide
  have hunknown : Record.decode unknown.toBytes = .error (.unknownEvent 9) := by decide +kernel
  have hknown : Record.decode known.toBytes = .ok record := by decide +kernel
  have hrest : (ofBytes rest).items =
      ([.error (.truncatedHeader 3)], { buffer := rest, stopped := true }) := by
    have hnext : (ofBytes rest).next =
        (some (.error (.truncatedHeader 3)), { buffer := rest, stopped := true }) := rfl
    rw [items_eq, hnext]
    dsimp only
    rw [items_stopped]
  refine ⟨hframed, ?_⟩
  rw [items_flatten_append hframed, hrest, List.map_cons, List.map_singleton, hunknown, hknown]
  rfl

end Reader

end SyscallTrace
