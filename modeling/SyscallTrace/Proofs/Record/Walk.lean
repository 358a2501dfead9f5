import SyscallTrace.Proofs.Record.Framing

/-!
# Walks

A reader decides twice about the bytes in front of it: the decoder says what they are, and the
declared length says where the next record starts. The two look at the header on their own, and the
walk depends on their agreement. If an item that could be skipped stopped the reader, records would
be lost; if one that cannot be skipped did not stop it, the walk would not end (specification
§15.3).

They do agree. A call takes a framed chunk, whether it decodes or not, or it stops the reader for one
of the errors that lose the boundary, or it gives nothing. So a walk over any byte string makes
progress by at least a header for each item but the last one.

- `Reader.taken`: the bytes that a call takes.
- `Reader.Called`, `Reader.next_called`: what a call may do.
- `Reader.Gives`: what is true of a call that gives an item.
- `Reader.after`, `Reader.consumed`: a reader behind some calls, and the bytes that they have taken.
- `Reader.answer_eq_items`: the answers of the calls are the items, and then nothing.
- `Reader.walk_ends`: **every walk ends**, has told every byte that it took, and says why it stopped.
-/

namespace SyscallTrace

namespace Reader

/-! ## One call -/

/-- The bytes that the next call takes: as many as the record in front declares, if that leads to the
next one. -/
def taken (r : Reader) : Bytes :=
  if r.stopped then [] else r.buffer.take (r.boundary?.getD 0)

/-- Where the boundary is lost nothing is taken. -/
theorem taken_of_boundary? {r : Reader} (h : r.boundary? = none) : r.taken = [] := by
  rw [taken, h]
  exact ite_self []

theorem taken_framed {chunk : Bytes} (h : Record.Framed chunk) (rest : Bytes) :
    (ofBytes (chunk ++ rest)).taken = chunk := by
  rw [taken, h.boundary?_append rest]
  exact List.take_left

/-- A reader that has come to its end: it has stopped, or nothing is left. -/
def Ended (r : Reader) : Prop := r.stopped = true ∨ r.buffer = []

theorem taken_of_ended {r : Reader} (h : r.Ended) : r.taken = [] := by
  rcases h with hstopped | hnil
  · rw [taken, if_pos hstopped]
  · rw [taken, hnil, List.take_nil]
    exact ite_self []

/-- What a call may do: it takes a chunk, or it loses the boundary, or the reader is at its end. -/
inductive Called : Reader → Option Item × Reader → Prop
  | took {chunk : Bytes} (h : Record.Framed chunk) (rest : Bytes) :
      Called (ofBytes (chunk ++ rest)) (some (Record.decode chunk), ofBytes rest)
  | lost {bs : Bytes} (hne : bs ≠ []) (h : (ofBytes bs).boundary? = none) {e : DecodeError}
      (hdecode : Record.decode bs = .error e) (hlost : e.LosesBoundary) :
      Called (ofBytes bs) (some (.error e), { buffer := bs, stopped := true })
  | ended {r : Reader} (h : r.Ended) : Called r (none, r)

theorem next_of_ended {r : Reader} (h : r.Ended) : r.next = (none, r) := by
  have hend : (r.stopped || r.buffer.isEmpty) = true := by
    rw [Bool.or_eq_true, List.isEmpty_iff]
    exact h
  rw [next, if_pos hend]

/-- **What a call does.** -/
theorem next_called (r : Reader) : Called r r.next := by
  by_cases hend : r.Ended
  · rw [next_of_ended hend]
    exact .ended hend
  · obtain ⟨hgo, hne⟩ := not_or.mp hend
    obtain ⟨bs, stopped⟩ := r
    rw [Bool.not_eq_true] at hgo
    cases hgo
    cases hboundary : (ofBytes bs).boundary? with
    | none =>
      obtain ⟨e, hdecode, hlost, hnext⟩ := next_lost hne hboundary
      have hcalled := Called.lost hne hboundary hdecode hlost
      rwa [← hnext] at hcalled
    | some length =>
      obtain ⟨chunk, rest, rfl, hchunk⟩ := Record.exists_framed_of_boundary? hboundary
      have hcalled := Called.took hchunk rest
      rwa [← next_framed hchunk rest] at hcalled

/-- What is true of a call that gives an item. -/
structure Gives (r : Reader) (item : Item) (s : Reader) : Prop where
  /-- The item is what the bytes that are left decode to. -/
  decoded : item = Record.decode r.buffer
  /-- What is taken comes from the front, and the rest is left. -/
  split : r.taken ++ s.buffer = r.buffer
  /-- The item takes what its header declares, which is at least a header, or it stops the reader and
  takes nothing. -/
  progress : (s.stopped = false ∧ Record.Framed r.taken) ∨ (s.stopped = true ∧ r.taken = [])
  /-- A record is all that is taken for it, and what its header declares. -/
  record : ∀ record, item = .ok record →
    s.stopped = false ∧ record.bytes = r.taken ∧ record.header.length.toNat = r.taken.length
  /-- An error stops the reader if and only if it loses the boundary. -/
  stops : ∀ e, item = .error e → (s.stopped = true ↔ e.LosesBoundary)

/-- **A call that gives an item** decodes what is left, and takes a framed chunk or stops. -/
theorem gives_of_next {r s : Reader} {item : Item} (h : r.next = (some item, s)) :
    Gives r item s := by
  have hcalled := r.next_called
  rw [h] at hcalled
  cases hcalled with
  | @took chunk hchunk rest =>
    have htaken := taken_framed hchunk rest
    refine { decoded := (hchunk.decode_append rest).symm, split := ?_, progress := .inl ⟨rfl, ?_⟩,
             record := ?_, stops := ?_ }
    · rw [htaken]
      rfl
    · rw [htaken]
      exact hchunk
    · intro record hdecode
      rw [htaken]
      exact ⟨rfl, hchunk.bytes_of_decode hdecode, hchunk.declared_of_decode hdecode⟩
    · intro e hdecode
      -- a chunk that is framed is skipped, whatever is wrong inside of it
      have hkept := (hchunk.isInside hdecode).not_losesBoundary hchunk.1
      exact ⟨fun hstopped => absurd hstopped Bool.false_ne_true, fun hlost => absurd hlost hkept⟩
  | @lost bs hne hboundary e hdecode hlost =>
    have htaken := taken_of_boundary? hboundary
    refine { decoded := hdecode.symm, split := ?_, progress := .inr ⟨rfl, htaken⟩,
             record := fun record hrecord => ?_, stops := ?_ }
    · rw [htaken]
      rfl
    · cases hrecord
    · intro e' he
      cases he
      exact ⟨fun _ => hlost, fun _ => rfl⟩

/-- A call gives nothing if and only if the reader is at its end, and then it changes nothing. -/
theorem next_fst_eq_none_iff {r : Reader} : r.next.1 = none ↔ r.Ended := by
  constructor
  · intro h
    have hcalled := r.next_called
    generalize r.next = result at h hcalled
    cases hcalled with
    | took hchunk rest => cases h
    | lost hne hboundary hdecode hlost => cases h
    | ended hend => exact hend
  · intro h
    rw [next_of_ended h]

/-- What a call takes and what it leaves is what there was. -/
theorem taken_append_next (r : Reader) : r.taken ++ r.next.2.buffer = r.buffer := by
  cases hnext : r.next.1 with
  | none =>
    have hend := next_fst_eq_none_iff.mp hnext
    rw [taken_of_ended hend, next_of_ended hend, List.nil_append]
  | some item => exact (gives_of_next (Prod.ext hnext rfl)).split

/-! ## All calls -/

/-- The reader behind some calls. -/
def after (r : Reader) : Nat → Reader
  | 0 => r
  | calls + 1 => (r.after calls).next.2

/-- The bytes that some calls have taken. -/
def consumed (r : Reader) : Nat → Bytes
  | 0 => []
  | calls + 1 => r.consumed calls ++ (r.after calls).taken

/-- What was taken and what is left is what there was. -/
theorem consumed_append_after (r : Reader) (calls : Nat) :
    r.consumed calls ++ (r.after calls).buffer = r.buffer := by
  induction calls with
  | zero => rfl
  | succ calls ih => rw [consumed, after, List.append_assoc, taken_append_next, ih]

theorem after_add (r : Reader) (first second : Nat) :
    r.after (first + second) = (r.after first).after second := by
  induction second with
  | zero => rfl
  | succ second ih => rw [Nat.add_succ, after, after, ih]

theorem after_succ (r : Reader) (calls : Nat) : r.after (calls + 1) = r.next.2.after calls := by
  rw [Nat.add_comm, after_add]
  rfl

/-- Once a reader is at its end, it stays as it is. -/
theorem after_of_ended {r : Reader} (h : r.Ended) (calls : Nat) : r.after calls = r := by
  induction calls with
  | zero => rfl
  | succ calls ih => rw [after, ih, next_of_ended h]

/-- **The answers of the calls are the items**, and then nothing. -/
theorem answer_eq_items (r : Reader) (calls : Nat) : (r.after calls).next.1 = r.items.1[calls]? := by
  induction calls generalizing r with
  | zero =>
    rw [after, items_eq]
    obtain ⟨answer, s⟩ := r.next
    cases answer <;> rfl
  | succ calls ih =>
    rw [after_succ, ih]
    cases hanswer : r.next.1 with
    | none =>
      have hnext := next_of_ended (next_fst_eq_none_iff.mp hanswer)
      have hitems : r.items.1 = [] := by rw [items_eq, hnext]
      rw [hnext, hitems]
      rfl
    | some item =>
      have hnext : r.next = (some item, r.next.2) := Prod.ext hanswer rfl
      rw [items_eq r, hnext]
      rfl

/-- The reader at the end of a walk is the one behind as many calls as there are items. -/
theorem after_length_items (r : Reader) : r.after r.items.1.length = r.items.2 := by
  induction hcount : r.items.1.length generalizing r with
  | zero =>
    rw [items_eq] at hcount ⊢
    cases hanswer : r.next.1 with
    | none =>
      -- a reader that gives nothing stays as it is
      have hnext := next_of_ended (next_fst_eq_none_iff.mp hanswer)
      rw [hnext]
      rfl
    | some item =>
      have hnext : r.next = (some item, r.next.2) := Prod.ext hanswer rfl
      rw [hnext] at hcount
      cases hcount
  | succ count ih =>
    rw [items_eq] at hcount ⊢
    cases hanswer : r.next.1 with
    | none =>
      have hnext : r.next = (none, r.next.2) := Prod.ext hanswer rfl
      rw [hnext] at hcount
      cases hcount
    | some item =>
      have hnext : r.next = (some item, r.next.2) := Prod.ext hanswer rfl
      rw [hnext] at hcount ⊢
      rw [after_succ, hnext]
      exact ih _ (Nat.succ.inj hcount)

/-- Each item but the last takes at least a header. -/
theorem length_items_le (bs : Bytes) :
    (ofBytes bs).items.1.length ≤ bs.length / Header.size + 1 := by
  induction bs using Record.framed_induction with
  | lost bs h =>
    by_cases hne : bs = []
    · rw [hne, items_nil]
      exact Nat.zero_le _
    · obtain ⟨e, hitems⟩ := items_lost hne h
      rw [hitems]
      exact Nat.le_add_left _ _
  | framed chunk rest hchunk ih =>
    have hmin := hchunk.1
    rw [items_framed hchunk, List.length_cons, List.length_append]
    simp only [Header.size] at hmin ih ⊢
    omega

/-- **Every walk ends.** Whatever a byte string holds, what was taken and what is left is all of it
behind every call. A call that gives an item decodes what is left, and takes what the header in front
declares or stops the reader. Once a call gives nothing or the reader has stopped, no later call gives
an item or changes the reader, and a reader that has not stopped gives nothing only if nothing is left.
The items are the answers of the calls, and there is at most one more of them than the byte string
has room for headers. -/
theorem walk_ends (bs : Bytes) :
    let reader := (ofBytes bs).after
    let answer := fun calls => (reader calls).next.1
    (∀ calls, (ofBytes bs).consumed calls ++ (reader calls).buffer = bs) ∧
      (∀ calls item, answer calls = some item → Gives (reader calls) item (reader (calls + 1))) ∧
      (∀ calls, answer calls = none ∨ (reader calls).stopped = true → ∀ later, calls ≤ later →
        answer later = none ∧ reader later = reader calls) ∧
      (∀ calls, answer calls = none → (reader calls).stopped = false →
        (reader calls).remaining = 0) ∧
      (∀ calls, answer calls = (ofBytes bs).items.1[calls]?) ∧
      (ofBytes bs).items.1.length ≤ bs.length / Header.size + 1 ∧
      reader (ofBytes bs).items.1.length = (ofBytes bs).items.2 := by
  intro reader answer
  refine ⟨(ofBytes bs).consumed_append_after, ?_, ?_, ?_, (ofBytes bs).answer_eq_items,
    length_items_le bs, (ofBytes bs).after_length_items⟩
  · intro calls item hanswer
    exact gives_of_next (Prod.ext hanswer rfl)
  · intro calls hdone later hlater
    have hend : (reader calls).Ended := hdone.elim next_fst_eq_none_iff.mp .inl
    obtain ⟨more, rfl⟩ := Nat.exists_eq_add_of_le hlater
    -- nothing happens any more behind the end
    have hsame : reader (calls + more) = reader calls := by
      show (ofBytes bs).after (calls + more) = _
      rw [after_add]
      exact after_of_ended hend more
    refine ⟨?_, hsame⟩
    show (reader (calls + more)).next.1 = none
    rw [hsame]
    exact next_fst_eq_none_iff.mpr hend
  · intro calls hanswer hgo
    rcases next_fst_eq_none_iff.mp hanswer with hstopped | hnil
    · rw [hgo] at hstopped
      cases hstopped
    · exact List.length_eq_zero_iff.mpr hnil

/-- A record of an unknown event is skipped, one without parameters is taken, and one that declares
four bytes stops the reader. A walk over the second alone ends without stopping. -/
theorem walk_ends_at_short_length :
    let unknown : Header := { time := ⟨5⟩, tid := ⟨7⟩, length := 26, tag := 9, count := 0 }
    let known : Header := { time := ⟨6⟩, tid := ⟨8⟩, length := 26, tag := 222, count := 0 }
    let short : Header := { time := ⟨7⟩, tid := ⟨8⟩, length := 4, tag := 222, count := 0 }
    let bs := unknown.toBytes ++ known.toBytes ++ short.toBytes
    let reader := (ofBytes bs).after
    Gives (reader 0) (.error (.unknownEvent 9)) (reader 1) ∧
      Gives (reader 2) (.error (.lengthMismatch 26 4)) (reader 3) ∧
      (reader 3).stopped = true ∧ (reader 3).remaining = 26 ∧
      (∀ later, 3 ≤ later → (reader later).next.1 = none ∧ reader later = reader 3) ∧
      ((ofBytes known.toBytes).after 1).next.1 = none ∧
      ((ofBytes known.toBytes).after 1).stopped = false ∧
      ((ofBytes known.toBytes).after 1).remaining = 0 := by
  intro unknown known short bs reader
  have hfirst : (reader 0).next.1 = some (.error (.unknownEvent 9)) := by decide +kernel
  have hthird : (reader 2).next.1 = some (.error (.lengthMismatch 26 4)) := by decide +kernel
  have hstopped : reader 3 = { buffer := short.toBytes, stopped := true } := by decide +kernel
  have hdone : ((ofBytes known.toBytes).after 1).next.1 = none := by decide +kernel
  have hgoes : ((ofBytes known.toBytes).after 1).stopped = false := by decide +kernel
  obtain ⟨-, hgives, hlater, -⟩ := walk_ends bs
  obtain ⟨-, -, -, hnothing, -⟩ := walk_ends known.toBytes
  refine ⟨hgives 0 _ hfirst, hgives 2 _ hthird, ?_, ?_, ?_, hdone, hgoes, hnothing 1 hdone hgoes⟩
  · rw [hstopped]
  · rw [hstopped]
    exact Header.length_toBytes short
  · refine hlater 3 (.inr ?_)
    show (reader 3).stopped = true
    rw [hstopped]

end Reader

end SyscallTrace
