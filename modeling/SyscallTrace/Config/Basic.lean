import Std.Data.ExtTreeMap
import SyscallTrace.Config.Ini
import SyscallTrace.Text.Numeral

/-!
# Configurations

A `Config` gives texts to fields. Each component reads the fields it knows: a `FieldType` turns the
text of a field into a value of some type, or says why it is none. A field may also hold a list,
separated by commas, of which the items are trimmed and blank ones are left out (specification
§11.3).

- `Config.required`, `Config.optional`, `Config.withDefault`: one value.
- `Config.list`, `Config.listWithDefault`: a list of values.
- `Config.load`: the configuration in a section of a file.
-/

namespace SyscallTrace

/-- Why a text is not the value of a field. -/
inductive FieldFault where
  | numeral (error : NumeralError)
  | truth (error : TruthError)
  /-- A number that is the start of a range, and greater than its end. -/
  | aboveRangeEnd (last : UInt16)
  deriving DecidableEq, Repr

/-- Says what is wrong. -/
def FieldFault.message : FieldFault → String
  | .numeral error => error.message
  | .truth error => error.message
  | .aboveRangeEnd last => s!"greater than range end {last.toNat}"

/-- How a text stands for a value. -/
structure FieldType (α : Type) where
  read : String → Except FieldFault α

namespace FieldType

/-- The values of another type, each taken to one of this type. -/
def map {α β : Type} (f : α → β) (type : FieldType α) : FieldType β :=
  ⟨fun text => (type.read text).map f⟩

/-- Texts, which stand for themselves. -/
def text : FieldType String := ⟨.ok⟩

/-- Truth values. -/
def truth : FieldType Bool := ⟨fun text => (readTruth text).mapError .truth⟩

/-- The integers of a range. -/
def integer (range : IntegerRange) : FieldType Int :=
  ⟨fun text => (range.read text.toList).mapError .numeral⟩

/-- Numbers of 16 bits. -/
def uint16 : FieldType UInt16 := (integer (.unsigned 16)).map (UInt16.ofNat ·.toNat)

/-- Numbers of 32 bits. -/
def uint32 : FieldType UInt32 := (integer (.unsigned 32)).map (UInt32.ofNat ·.toNat)

/-- Numbers of 64 bits. -/
def uint64 : FieldType UInt64 := (integer (.unsigned 64)).map (UInt64.ofNat ·.toNat)

end FieldType

/-- Why a value cannot be had from a configuration. -/
inductive ConfigError where
  /-- A field that has to be there is not. -/
  | required (field : String)
  | invalid (field value : String) (fault : FieldFault)
  /-- The file of the configuration cannot be read. -/
  | load (path : String) (fault : Ini.LoadFault)
  deriving DecidableEq, Repr

/-- Names the field or the file. -/
def ConfigError.message : ConfigError → String
  | .required field => s!"field {field} is required"
  | .invalid field value fault =>
    s!"{value} is not a valid value for field {field}: {fault.message}"
  | .load path fault => s!"loading configuration from {path}: {fault.message}"

/-- The texts of fields. -/
structure Config where
  fields : Std.ExtTreeMap String String

namespace Config

/-- The configuration without fields. -/
def empty : Config := ⟨∅⟩

/-- Gives a text to a field. -/
def insert (c : Config) (field value : String) : Config := ⟨c.fields.insert field value⟩

/-- The configuration of the given fields. Of the texts for one field the last one counts. -/
def ofList (fields : List (String × String)) : Config :=
  fields.foldl (fun c (field, value) => c.insert field value) empty

/-- The text of a field. -/
def get? (c : Config) (field : String) : Option String := c.fields[field]?

/-- The fields with their texts, in the order of the fields. -/
def toList (c : Config) : List (String × String) := c.fields.toList

@[simp] theorem get?_empty (field : String) : empty.get? field = none := by
  simp [get?, empty]

@[simp] theorem get?_insert_self (c : Config) (field value : String) :
    (c.insert field value).get? field = some value := by
  simp [get?, insert]

theorem get?_insert_of_ne (c : Config) {field other : String} (value : String)
    (h : field ≠ other) : (c.insert field value).get? other = c.get? other := by
  simp [get?, insert, Std.ExtTreeMap.getElem?_insert, h]

/-! ## Values -/

section

variable {α : Type}

/-- Reads the text of a field. -/
def read (type : FieldType α) (field value : String) : Except ConfigError α :=
  (type.read value).mapError (.invalid field value)

/-- The value of a field that has to be there. -/
def required (c : Config) (type : FieldType α) (field : String) : Except ConfigError α :=
  match c.get? field with
  | some value => read type field value
  | none => .error (.required field)

/-- The value of a field that need not be there. -/
def optional (c : Config) (type : FieldType α) (field : String) :
    Except ConfigError (Option α) :=
  match c.get? field with
  | some value => (read type field value).map some
  | none => .ok none

/-- The value of a field, or another one if it is not there. -/
def withDefault (c : Config) (type : FieldType α) (field : String) (default : α) :
    Except ConfigError α :=
  match c.get? field with
  | some value => read type field value
  | none => .ok default

/-- The items of a list: what stands between commas, trimmed, where it is not blank. -/
def items (value : String) : List String :=
  (((value.toList.splitOn ',').map Text.trim).filter (· ≠ [])).map String.ofList

/-- The values in a field. A field that is not there has none. -/
def list (c : Config) (type : FieldType α) (field : String) : Except ConfigError (List α) :=
  match c.get? field with
  | some value => (items value).mapM (read type field)
  | none => .ok []

/-- The values in a field, or others if it is not there. -/
def listWithDefault (c : Config) (type : FieldType α) (field : String) (default : List α) :
    Except ConfigError (List α) :=
  if c.get? field = none then .ok default else c.list type field

end

/-- The configuration in a section of the file at `path`, which has no fields if there is no such
section. -/
def load (path : String) (contents : Except FileFault Bytes) (name : String) :
    Except ConfigError Config :=
  match Ini.ofFile contents with
  | .error fault => .error (.load path fault)
  | .ok ini => .ok (ofList (ini.entries name))

end Config

end SyscallTrace
