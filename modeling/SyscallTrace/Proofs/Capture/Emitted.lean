import SyscallTrace.Proofs.Capture.Calls
import SyscallTrace.Proofs.Capture.Truncation

/-!
# What is given away

An encoder can be ended at any time, in three ways, and they give away the same bytes if they give
any. Nobody checks that these are a record: a byte in front of a value of fixed size is written like
every other. But where they decode, the parameters are the values that were taken, and nothing for
those that are missing (specification §15.1).

- `Push.calls`, `Encoder.run_eq_perform`: a run as a sequence of calls.
- `Encoder.GivesAway`: the bytes that an encoder gives away.
- `Encoder.Stages.param_of_givesAway`: **the values that were taken are the parameters**, whatever
  was in front of them.
-/

namespace SyscallTrace

/-- What is called for a push of a run. -/
def Push.calls (p : Push) : List Encoder.Call :=
  p.variant.toList.map .variant ++ [.push p.value]

namespace Encoder

/-! ## Runs -/

theorem run_eq_perform (e : Encoder) (pushes : List Push) :
    e.run pushes = e.perform (pushes.flatMap Push.calls) := by
  induction pushes generalizing e with
  | nil => rfl
  | cons p pushes ih =>
    rw [run, ih, step, prepare, List.flatMap_cons, Push.calls]
    cases p.variant <;> rfl

/-- The values of a run are staged behind those that were there. -/
theorem Stages.run {start e : Encoder} {parts : List Bytes} (h : Stages start parts e)
    (pushes : List Push) : ∃ more, Stages start (parts ++ more) (e.run pushes).2 := by
  obtain ⟨more, hstages, -⟩ := h.perform (pushes.flatMap Push.calls)
  rw [run_eq_perform]
  exact ⟨more, hstages⟩

/-- An event that was given up takes nothing from a run. -/
theorem run_of_aborted {e : Encoder} (h : e.aborted = true) (pushes : List Push) :
    (e.run pushes).2.scratch = e.scratch ∧ (e.run pushes).2.pushed = e.pushed := by
  rw [run_eq_perform]
  exact (perform_of_aborted _ h).2

/-- A value that is taken is staged, and stays. -/
theorem Stages.run_of_taken {start e : Encoder} {parts : List Bytes} (h : Stages start parts e)
    {value : Value} {length : Nat} (hpush : (e.push value).1 = .ok length) (after : List Push) :
    ∃ more, Stages start (parts ++ e.bytesOf value :: more) ((e.push value).2.run after).2 := by
  rcases h.push value with ⟨error, hresult, -⟩ | ⟨-, -, -, -, -, htaken⟩
  · rw [hpush] at hresult
    cases hresult
  · obtain ⟨more, hstages⟩ := htaken.run after
    rw [List.append_assoc] at hstages
    exact ⟨more, hstages⟩

/-- An event that is given up stays with the values that it has. -/
theorem Stages.run_of_givenUp {start e : Encoder} {parts : List Bytes} (h : Stages start parts e)
    {value : Value} {error : EncodeError} (hpush : e.push value = (.error error, e.givenUp))
    (after : List Push) : Stages start parts ((e.push value).2.run after).2 := by
  have hkept : Stages start parts (e.push value).2 := by
    rcases h.push value with ⟨-, -, hkept⟩ | ⟨-, -, -, hresult, -⟩
    · exact hkept
    · rw [hpush] at hresult
      cases hresult
  obtain ⟨more, hstages⟩ := hkept.run after
  -- no value was taken since
  have hpushed : ((e.push value).2.run after).2.pushed = (e.push value).2.pushed := by
    rw [hpush]
    exact (run_of_aborted rfl after).2
  rw [hstages.started.2, hkept.started.2, List.length_append] at hpushed
  have hnone : more = [] := List.eq_nil_of_length_eq_zero (by omega)
  rwa [hnone, List.append_nil] at hstages

/-! ## The end of an event -/

/-- The bytes that an encoder gives away if it is ended in one of the ways that there are. -/
inductive GivesAway (e : Encoder) (bytes : Bytes) : Prop
  | finished (h : e.finish.1 = .ok bytes)
  | emitted (policy : TruncationPolicy) (truncated : Bool)
      (h : (e.finishWith policy).1 = .ok (some { bytes, truncated }))

/-- All ways to end an event give the same bytes. -/
theorem GivesAway.sealed {e : Encoder} {bytes : Bytes} (h : e.GivesAway bytes) :
    e.sealBytes.1 = .ok bytes := by
  cases h with
  | finished h => exact (finish_eq_ok_iff.mp h).2.2
  | emitted policy truncated h =>
    unfold finishWith at h
    split at h
    · cases h
    · split at h
      · cases h
      · rename_i hsealed
        cases h
        rw [hsealed]

/-- **The values that were taken are the parameters** of what is given away, wherever it decodes. -/
theorem Stages.param_of_givesAway {start e : Encoder} {parts : List Bytes}
    (h : Stages start parts e) {bytes : Bytes} (hgiven : e.GivesAway bytes) {r : Record}
    (hdecode : Record.decode bytes = .ok r) {i : Nat} {field : Field}
    (hfield : start.event.schema.fields[i]? = some field) :
    r.param i = .ok { type := field.type, data := parts[i]?.getD [] } := by
  obtain ⟨variant, aborted, hparts, -⟩ := h
  have hsealed := hgiven.sealed
  rw [hparts.sealBytes_holding] at hsealed
  cases hsealed
  obtain ⟨sealed, found, hbytes, -, hfound, -, -, -, -, -, -, hparam⟩ :=
    (hparts.canHold_of_decode hdecode).exists_record variant aborted
  rw [hparts.sealBytes_holding] at hbytes
  cases hbytes
  rw [hdecode] at hfound
  cases hfound
  exact hparam i field hfield

end Encoder

end SyscallTrace
