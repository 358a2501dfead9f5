import SyscallTrace.Proofs.Capture.RoundTrip

/-!
# Events that are complete

A producer that gives one value after the other, none of them with a byte in front of it, and has
none of them refused can end the event as soon as each parameter has a value. The record that is
given away has the values as its parameters, each as it is recorded for the room that there was
(specification §15.1).

- `Push.plain`: values without a byte in front of them.
- `Encoder.holds_plain`: what the encoder holds behind a run without failures.
- `Encoder.exists_finished`, `Encoder.param_of_finished`: **the run can be ended**, and what is given
  away then.
-/

namespace SyscallTrace

/-- Values without a byte in front of them. -/
def Push.plain (values : List Value) : List Push := values.map fun value => { value }

theorem Push.variant_of_mem_plain {values : List Value} {p : Push} (h : p ∈ plain values) :
    p.variant = none := by
  obtain ⟨value, -, rfl⟩ := List.mem_map.mp h
  rfl

/-- Of a text that the producer has, the bytes up to the first NUL are read back, as many as fit. -/
theorem Value.beforeNul_content_ofText (bs : Bytes) (settings : CaptureSettings) (memory : Memory)
    (room : Nat) :
    Bytes.beforeNul ((ofText bs).content settings memory room) =
      (Bytes.beforeNul bs).take (maxParamSize - 1) := by
  rw [ofText, content, Bytes.beforeNul_append_nul (Bytes.not_mem_take_beforeNul bs _)]

namespace Encoder

variable {scratch : Scratch} {settings : CaptureSettings} {memory : Memory} {event : EventType}
  {time : Timestamp} {tid : Tid} {e : Encoder} {values : List Value} {lengths : List Nat}

/-- Behind a run without failures, the encoder holds the values, each as it is recorded. -/
theorem holds_plain (h : begin scratch settings memory event time tid = .ok e)
    (hpushes : (e.run (Push.plain values)).1 = lengths.map .ok) :
    Holds { scratch, settings, memory, event, time, tid }
      (Push.recorded settings memory (scratch.capacity - headSize event) (Push.plain values))
      (e.run (Push.plain values)).2 := by
  have hheld := holds_begin h
  have hnone : e.variant = none := by
    obtain ⟨rfl, -⟩ := begin_eq_ok h
    rfl
  obtain ⟨hfits, hwritten⟩ := written_of_succeeded hheld hnone
    (fun i p field hp _ hsome => by
      rw [Push.variant_of_mem_plain (List.mem_of_getElem? hp)] at hsome
      cases hsome) hpushes
  have hlast := holds_run hheld hfits
  rw [hwritten] at hlast
  exact hlast

/-- A run without failures that gives a value for each parameter can be ended. -/
theorem exists_finished (h : begin scratch settings memory event time tid = .ok e)
    (hpushes : (e.run (Push.plain values)).1 = lengths.map .ok)
    (hall : values.length = event.schema.size) :
    ∃ bytes, (e.run (Push.plain values)).2.finish.1 = .ok bytes := by
  have hlast := holds_plain h hpushes
  have hcount : (Push.recorded settings memory (scratch.capacity - headSize event)
      (Push.plain values)).length = event.schema.size := by
    rw [Push.length_recorded, Push.plain, List.length_map, hall]
  generalize (e.run (Push.plain values)).2 = last at hlast
  obtain ⟨variant, aborted, hparts, hmissing⟩ := hlast
  obtain ⟨bytes, _, hbytes, -⟩ := hparts.exists_record variant aborted
  have hended := finish_holding hparts hmissing hbytes
  rw [if_neg (Nat.not_lt.mpr (Nat.le_of_eq hcount.symm))] at hended
  exact ⟨bytes, hended⟩

/-- What a run without failures gives away is a record of the event, and its parameters are the
values as they are recorded. -/
theorem param_of_finished (h : begin scratch settings memory event time tid = .ok e)
    (hpushes : (e.run (Push.plain values)).1 = lengths.map .ok) {bytes : Bytes}
    (hfinish : (e.run (Push.plain values)).2.finish.1 = .ok bytes) :
    ∃ r, Record.decode bytes = .ok r ∧ r.tid = tid ∧ r.event = event ∧
      r.size = event.schema.size ∧
      ∀ i value field, values[i]? = some value → event.schema.fields[i]? = some field →
        ∃ room, r.param i =
          .ok { type := field.type, data := value.content settings memory room } := by
  have hlast := holds_plain h hpushes
  generalize (e.run (Push.plain values)).2 = last at hlast hfinish
  obtain ⟨variant, aborted, hparts, -⟩ := hlast
  obtain ⟨-, -, hsealed⟩ := finish_eq_ok_iff.mp hfinish
  obtain ⟨bytes', r, hbytes, -, hdecode, -, -, -, htid, hevent, hsize, hparam⟩ :=
    hparts.exists_record variant aborted
  rw [hbytes] at hsealed
  cases hsealed
  refine ⟨r, hdecode, htid, hevent, hsize, ?_⟩
  intro i value field hvalue hfield
  have hpush : (Push.plain values)[i]? = some { value } := by
    rw [Push.plain, List.getElem?_map, hvalue]
    rfl
  have hread := hparam i field hfield
  rw [Push.getElem?_recorded settings memory _ hpush, Push.bytes_of_none rfl] at hread
  exact ⟨_, hread⟩

end Encoder

end SyscallTrace
