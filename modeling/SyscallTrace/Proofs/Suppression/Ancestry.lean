import SyscallTrace.Proofs.Record.Grammar
import SyscallTrace.Proofs.Record.Integer
import SyscallTrace.Suppression.Engine

/-!
# The ancestry of a decoded record

`Ancestry.ofRecord?` gives up on a record whose parameters cannot be read. A record that was decoded
has no such parameters: a lineage record names its parent and its command as soon as it has the
fourteen parameters that reach as far as the command (specification §14).

- `Record.namedParent`, `Record.namedCommand`: what a lineage record names.
- `Ancestry.ofRecord?_of_decoded`: the ancestry of a decoded lineage record.
-/

namespace SyscallTrace

namespace Record

/-- A record that came out of the decoder. -/
def IsDecoded (r : Record) : Prop := ∃ buffer, decode buffer = .ok r

/-- The parent in the sixth parameter of a lineage record, the kernel if the parameter is empty. -/
def namedParent (r : Record) : Tid :=
  match r.param EventType.parentIndex >>= Param.signed? with
  | .ok (some parent) => ⟨parent.toUInt64⟩
  | _ => .kernel

/-- The command in the fourteenth parameter of a lineage record, up to its first NUL. -/
def namedCommand (r : Record) : String :=
  match r.param EventType.commandIndex with
  | .ok param => Utf8.lossyText (Bytes.beforeNul param.data)
  | .error _ => ""

/-- A decoded record has the parameters that it counts, of the types of its schema. -/
theorem IsDecoded.exists_param {r : Record} (h : r.IsDecoded) {i : Nat} {field : Field}
    (hfield : r.event.schema.fields[i]? = some field) (hi : i < r.size) :
    ∃ data, r.param i = .ok { type := field.type, data } ∧
      field.type.Fits r.event.schema.width data.length := by
  obtain ⟨buffer, hdecode⟩ := h
  obtain ⟨found, ⟨type, data⟩, hfound, hparam, -, htype, hfits⟩ :=
    exists_param_of_lt_size hdecode hi
  rw [hfield] at hfound
  cases hfound
  cases htype
  exact ⟨data, hparam, hfits⟩

end Record

namespace Ancestry

/-- A lineage record that is too short tells nothing. -/
theorem ofRecord?_of_size_le {r : Record} (h : r.size ≤ EventType.commandIndex) :
    ofRecord? r = none := by
  rw [ofRecord?, if_pos h]

/-- A lineage record that is long enough names a parent and a command. -/
theorem ofRecord?_of_decoded {r : Record} (h : r.IsDecoded) (hlineage : r.event.isLineage = true)
    (hsize : EventType.commandIndex < r.size) :
    ofRecord? r = some { parent := r.namedParent, command := r.namedCommand } := by
  obtain ⟨parent, hparent, hfits⟩ :=
    h.exists_param (EventType.parent_of_isLineage hlineage)
      (Nat.lt_trans (by decide) hsize)
  obtain ⟨command, hcommand, -⟩ :=
    h.exists_param (EventType.command_of_isLineage hlineage) hsize
  obtain ⟨value, hvalue⟩ := Param.exists_signed? rfl hfits
  have hread : r.param EventType.parentIndex >>= Param.signed? = .ok value := by
    rw [hparent]
    exact hvalue
  rw [ofRecord?, if_neg (Nat.not_le.mpr hsize), Record.namedParent, Record.namedCommand, hread,
    hcommand]
  cases value <;> rfl

end Ancestry

end SyscallTrace
