import SyscallTrace.Proofs.Pipeline.Batches
import SyscallTrace.Proofs.Suppression.History

/-!
# Accounts of a batch

Every byte of a batch ends up in a record that is returned or among the dropped bytes, and every
item of its reader ends up among the outcomes or among the errors. There are three ways to consume
bytes: a chunk that decodes, a chunk that does not and is skipped, and the rest once the boundary is
lost. The accounts balance at each of them, and so for the whole batch (specification §7, §15.5).

The counters have 64 bits. What they went up by is a number, and is exact as long as they do not
wrap.

- `WentUp`: a counter that went up by a number.
- `Pipeline.Accounts`: the accounts of a batch.
- `Pipeline.Accounts.nothing`, `Pipeline.Accounts.lost`, `Pipeline.Accounts.skipped`,
  `Pipeline.Accounts.decided`: what is consumed in each way balances.
- `Pipeline.ingest_accounts`: **the accounts of every batch balance**.
-/

namespace SyscallTrace

/-! ## Counters -/

/-- A counter of 64 bits that went up by `n`. As long as it does not wrap, `n` is the difference of
its two values. -/
def WentUp (before after : UInt64) (n : Nat) : Prop :=
  after.toNat = (before.toNat + n) % UInt64.size

namespace WentUp

variable {a b c : UInt64} {m n : Nat}

theorem refl (a : UInt64) : WentUp a a 0 := (Nat.mod_eq_of_lt a.toNat_lt).symm

/-- Adding a number of any size makes a counter go up by it, modulo its range. -/
theorem add_ofNat (a : UInt64) (n : Nat) : WentUp a (a + UInt64.ofNat n) n := by
  show (a + UInt64.ofNat n).toNat = _
  rw [UInt64.toNat_add, UInt64.toNat_ofNat', Nat.add_mod_mod]

theorem add_one (a : UInt64) : WentUp a (a + 1) 1 := add_ofNat a 1

/-- What a counter goes up by adds up. -/
theorem trans (h : WentUp a b m) (h' : WentUp b c n) : WentUp a c (m + n) := by
  rw [WentUp] at h h' ⊢
  rw [h', h, Nat.mod_add_mod, Nat.add_assoc]

/-- A counter that does not wrap shows the number. -/
theorem toNat_eq (h : WentUp a b n) (hlt : a.toNat + n < UInt64.size) :
    b.toNat = a.toNat + n := by
  rw [WentUp] at h
  rw [h, Nat.mod_eq_of_lt hlt]

end WentUp

namespace PipelineStats

variable (s : PipelineStats)

/-- Every error is counted once, whatever it is. -/
theorem decodeErrors_countError (e : DecodeError) :
    (s.countError e).decodeErrors = s.decodeErrors + 1 := by
  have hfirst : s.truncated + 1 + s.unknownType + s.malformed = s.decodeErrors + 1 := by
    rw [decodeErrors]
    ac_rfl
  have hsecond : s.truncated + (s.unknownType + 1) + s.malformed = s.decodeErrors + 1 := by
    rw [decodeErrors]
    ac_rfl
  have hthird : s.truncated + s.unknownType + (s.malformed + 1) = s.decodeErrors + 1 := by
    rw [decodeErrors]
    ac_rfl
  cases e with
  | truncatedHeader _ | truncatedRecord _ _ => exact hfirst
  | unknownEvent _ => exact hsecond
  | tooManyParams _ | lengthMismatch _ _ | paramOutOfBounds _ _ _ _ _ => exact hthird

/-! ### Bytes that are lost for an error -/

section

variable (e : DecodeError) (size : Nat)

/-- Bytes that are lost are counted as dropped, whatever the error. -/
theorem droppedBytes_lose :
    WentUp s.droppedBytes ((s.countError e).drop size).droppedBytes size := by
  have hsame : (s.countError e).droppedBytes = s.droppedBytes := by cases e <;> rfl
  rw [drop, hsame]
  exact .add_ofNat _ _

/-- Bytes that are lost count as one error, however many they are. -/
theorem decodeErrors_lose :
    WentUp s.decodeErrors ((s.countError e).drop size).decodeErrors 1 := by
  show WentUp _ (s.countError e).decodeErrors 1
  rw [decodeErrors_countError]
  exact .add_one _

theorem passed_lose : ((s.countError e).drop size).passed = s.passed := by cases e <;> rfl

theorem suppressed_lose : ((s.countError e).drop size).suppressed = s.suppressed := by
  cases e <;> rfl

/-- An error counts as a truncated record at most once. -/
theorem truncated_lose :
    ∃ n ≤ 1, WentUp s.truncated ((s.countError e).drop size).truncated n := by
  cases e with
  | truncatedHeader _ | truncatedRecord _ _ => exact ⟨1, Nat.le_refl 1, .add_one _⟩
  | unknownEvent _ | tooManyParams _ | lengthMismatch _ _ | paramOutOfBounds _ _ _ _ _ =>
    exact ⟨0, Nat.zero_le 1, .refl _⟩

end

/-- An error about something else does not count as a truncated record. -/
theorem truncated_lose_of_not {e : DecodeError} (h : ¬ e.IsTruncated) (size : Nat) :
    ((s.countError e).drop size).truncated = s.truncated := by
  cases e with
  | truncatedHeader _ | truncatedRecord _ _ => exact absurd trivial h
  | unknownEvent _ | tooManyParams _ | lengthMismatch _ _ | paramOutOfBounds _ _ _ _ _ => rfl

/-! ### Verdicts -/

section

variable (v : Verdict)

/-- A verdict goes to its own counter. -/
theorem passed_countVerdict : WentUp s.passed (s.countVerdict v).passed ([v].count .pass) := by
  cases v with
  | pass => exact .add_one _
  | suppress => exact .refl _

theorem suppressed_countVerdict :
    WentUp s.suppressed (s.countVerdict v).suppressed ([v].count .suppress) := by
  cases v with
  | pass => exact .refl _
  | suppress => exact .add_one _

theorem decodeErrors_countVerdict : (s.countVerdict v).decodeErrors = s.decodeErrors := by
  cases v <;> rfl

theorem droppedBytes_countVerdict : (s.countVerdict v).droppedBytes = s.droppedBytes := by
  cases v <;> rfl

theorem truncated_countVerdict : (s.countVerdict v).truncated = s.truncated := by
  cases v <;> rfl

end

end PipelineStats

namespace Pipeline

/-- The number of bytes that some records declare. -/
def declaredBytes : List Outcome → Nat
  | [] => 0
  | o :: outcomes => o.record.header.length.toNat + declaredBytes outcomes

/-- The questions that were put to the engine for some outcomes. -/
def questions (outcomes : List Outcome) : List Engine.Step :=
  outcomes.map fun o => .process o.record

/-- The accounts of a batch: what it did to a pipeline, and what was returned. -/
structure Accounts (p : Pipeline) (batch : Bytes) (outcomes : List Outcome) (q : Pipeline) :
    Prop where
  /-- Every byte belongs to a record that is returned, or was dropped. -/
  bytes : ∃ dropped, declaredBytes outcomes + dropped = batch.length ∧
    WentUp p.stats.droppedBytes q.stats.droppedBytes dropped
  /-- Every item of the reader is an outcome or an error. -/
  items : ∃ errors, outcomes.length + errors = (Reader.ofBytes batch).items.1.length ∧
    WentUp p.stats.decodeErrors q.stats.decodeErrors errors
  /-- The records that are returned are those that could be decoded, in their order. -/
  records : outcomes.map Outcome.record =
    (Reader.ofBytes batch).items.1.filterMap Except.toOption
  passed : WentUp p.stats.passed q.stats.passed ((outcomes.map Outcome.verdict).count .pass)
  suppressed : WentUp p.stats.suppressed q.stats.suppressed
    ((outcomes.map Outcome.verdict).count .suppress)
  /-- The engine has counted the same records as suppressed. -/
  counted : WentUp p.engine.suppressed q.engine.suppressed
    ((outcomes.map Outcome.verdict).count .suppress)
  /-- A batch has at most one record that goes on behind its end. -/
  truncated : ∃ n ≤ 1, WentUp p.stats.truncated q.stats.truncated n
  /-- The verdicts are those that the engine gives on the records, one after the other. -/
  verdicts : outcomes.map Outcome.verdict = p.engine.verdicts (questions outcomes)
  /-- The engine is what it is behind these verdicts. -/
  engine : q.engine = p.engine.after (questions outcomes)

namespace Accounts

variable {p q : Pipeline} {chunk rest : Bytes} {outcomes : List Outcome}

/-- Nothing happens in an empty batch. -/
theorem nothing (p : Pipeline) : Accounts p [] [] p where
  bytes := ⟨0, rfl, .refl _⟩
  items := ⟨0, by rw [Reader.items_nil]; rfl, .refl _⟩
  records := by
    rw [Reader.items_nil]
    rfl
  passed := .refl _
  suppressed := .refl _
  counted := .refl _
  truncated := ⟨0, Nat.zero_le 1, .refl _⟩
  verdicts := rfl
  engine := rfl

/-- Once the boundary is lost, all is dropped for one error. -/
theorem lost (p : Pipeline) {batch : Bytes} (hne : batch ≠ [])
    (h : (Reader.ofBytes batch).boundary? = none) (e : DecodeError) :
    Accounts p batch [] { p with stats := (p.stats.countError e).drop batch.length } := by
  obtain ⟨e', hitems⟩ := Reader.items_lost hne h
  refine { bytes := ⟨batch.length, Nat.zero_add _, p.stats.droppedBytes_lose e _⟩,
           items := ⟨1, ?_, p.stats.decodeErrors_lose e _⟩, records := ?_, passed := ?_,
           suppressed := ?_, counted := .refl _, truncated := p.stats.truncated_lose e _,
           verdicts := rfl, engine := rfl }
  · rw [hitems]
    rfl
  · rw [hitems]
    rfl
  · dsimp only
    rw [PipelineStats.passed_lose]
    exact .refl _
  · dsimp only
    rw [PipelineStats.suppressed_lose]
    exact .refl _

/-- A chunk that does not decode is dropped for one error, and is no truncated record. -/
theorem skipped (h : Record.Framed chunk) {e : DecodeError}
    (hdecode : Record.decode chunk = .error e)
    (hrest : Accounts { p with stats := (p.stats.countError e).drop chunk.length } rest outcomes
      q) : Accounts p (chunk ++ rest) outcomes q := by
  have hitems := Reader.items_framed h rest
  rw [hdecode] at hitems
  obtain ⟨dropped, hbytes, hdropped⟩ := hrest.bytes
  obtain ⟨errors, hcount, herrors⟩ := hrest.items
  have htruncated := hrest.truncated
  have hpassed := hrest.passed
  have hsuppressed := hrest.suppressed
  -- what the error leaves alone is as it was in front of the chunk
  rw [p.stats.truncated_lose_of_not (h.not_isTruncated hdecode)] at htruncated
  rw [p.stats.passed_lose] at hpassed
  rw [p.stats.suppressed_lose] at hsuppressed
  refine { bytes := ⟨chunk.length + dropped, ?_, (p.stats.droppedBytes_lose e _).trans hdropped⟩,
           items := ⟨1 + errors, ?_, (p.stats.decodeErrors_lose e _).trans herrors⟩,
           records := ?_, passed := hpassed, suppressed := hsuppressed,
           counted := hrest.counted, truncated := htruncated, verdicts := hrest.verdicts,
           engine := hrest.engine }
  · rw [List.length_append]
    omega
  · rw [hitems, List.length_cons]
    omega
  · rw [hitems]
    exact hrest.records

/-- A chunk that decodes is returned, with the verdict of the engine. -/
theorem decided (h : Record.Framed chunk) {record : Record}
    (hdecode : Record.decode chunk = .ok record)
    (hrest : Accounts
      { engine := (p.engine.process record).2
        stats := p.stats.countVerdict (p.engine.process record).1 } rest outcomes q) :
    Accounts p (chunk ++ rest)
      ({ record, verdict := (p.engine.process record).1 } :: outcomes) q := by
  have hitems := Reader.items_framed h rest
  rw [hdecode] at hitems
  have hengine : WentUp p.engine.suppressed (p.engine.process record).2.suppressed
      ([(p.engine.process record).1].count .suppress) := by
    have hstep : (p.engine.process record).2.suppressed = _ :=
      Engine.suppressed_step p.engine (.process record)
    rw [hstep]
    exact .add_ofNat _ _
  obtain ⟨dropped, hbytes, hdropped⟩ := hrest.bytes
  obtain ⟨errors, hcount, herrors⟩ := hrest.items
  have htruncated := hrest.truncated
  -- what the verdict leaves alone is as it was in front of the chunk
  rw [p.stats.droppedBytes_countVerdict] at hdropped
  rw [p.stats.decodeErrors_countVerdict] at herrors
  rw [p.stats.truncated_countVerdict] at htruncated
  refine { bytes := ⟨dropped, ?_, hdropped⟩, items := ⟨errors, ?_, herrors⟩, records := ?_,
           passed := ?_, suppressed := ?_, counted := ?_, truncated := htruncated,
           verdicts := ?_, engine := hrest.engine }
  · show record.header.length.toNat + declaredBytes outcomes + dropped = (chunk ++ rest).length
    rw [h.declared_of_decode hdecode, Nat.add_assoc, hbytes, List.length_append]
  · rw [hitems, List.length_cons, List.length_cons, Nat.add_right_comm, hcount]
  · rw [hitems, List.map_cons, hrest.records]
    rfl
  · rw [List.map_cons, ← List.singleton_append, List.count_append]
    exact (p.stats.passed_countVerdict _).trans hrest.passed
  · rw [List.map_cons, ← List.singleton_append, List.count_append]
    exact (p.stats.suppressed_countVerdict _).trans hrest.suppressed
  · rw [List.map_cons, ← List.singleton_append, List.count_append]
    exact hengine.trans hrest.counted
  · rw [List.map_cons, hrest.verdicts]
    rfl

end Accounts

/-- **The accounts of every batch balance.** The bytes of the records that are returned and the
dropped bytes make up the batch, the outcomes and the errors make up what the reader gives, the
records are those that could be decoded, and each has the verdict that the engine gives on it after
those before it. -/
theorem ingest_accounts (p : Pipeline) (batch : Bytes) :
    Accounts p batch (p.ingest batch).1 (p.ingest batch).2 := by
  induction batch using Record.framed_induction generalizing p with
  | lost batch h =>
    by_cases hne : batch = []
    · rw [hne, ingest_nil]
      exact .nothing p
    · obtain ⟨e, hingest⟩ := ingest_lost p hne h
      rw [hingest]
      exact .lost p hne h e
  | framed chunk rest hchunk ih =>
    have hrest := ih (p.take chunk).2
    rw [ingest_framed p hchunk]
    cases hdecode : Record.decode chunk with
    | error e =>
      rw [take_of_error p hdecode] at hrest ⊢
      exact .skipped hchunk hdecode hrest
    | ok record =>
      rw [take_of_ok p hdecode] at hrest ⊢
      exact .decided hchunk hdecode hrest

end Pipeline

end SyscallTrace
