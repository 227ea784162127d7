import Mathlib.Data.List.Basic

/-!
# Reading structs from JSON

A value is what a parser makes of a text: numbers are told apart by the integer
type they fit, and an object keeps its entries in order, repeated names included.
A struct is read from an object by the names of its fields, or from an array by
their positions.
-/

namespace Library

inductive Json where
  | null
  | bool (value : Bool)
  /-- An integer that fits `u64`. -/
  | unsigned (value : UInt64)
  /-- A negative integer that fits `i64`. -/
  | negative (value : Int64)
  /-- Any other number, by its text. -/
  | float (text : String)
  | string (text : String)
  | array (items : List Json)
  | object (entries : List (String × Json))

namespace Json

/-! ## Values -/

def text : Json → Option String
  | .string text => some text
  | _ => none

def u64 : Json → Option UInt64
  | .unsigned value => some value
  | _ => none

/-- `Option<T>`: `null` is absent. -/
def nullable {α : Type*} (read : Json → Option α) : Json → Option (Option α)
  | .null => some none
  | value => (read value).map some

/-- The name of a variant without contents: a text, or the one key of an object
whose value is `null`. -/
def unitVariant : Json → Option String
  | .string name => some name
  | .object [(name, .null)] => some name
  | _ => none

/-- A nullable number, written out. -/
def ofNullable : Option UInt64 → Json
  | none => .null
  | some value => .unsigned value

@[simp] theorem text_string (text : String) : (Json.string text).text = some text := rfl

@[simp] theorem u64_unsigned (value : UInt64) : (unsigned value).u64 = some value := rfl

@[simp] theorem nullable_null {α : Type*} (read : Json → Option α) :
    nullable read .null = some none := rfl

theorem nullable_of_read {α : Type*} {read : Json → Option α} {json : Json} {value : α}
    (unread : read .null = none) (reads : read json = some value) :
    nullable read json = some (some value) := by
  cases json with
  | null => cases unread.symm.trans reads
  | _ => simp [nullable, reads]

@[simp] theorem nullable_text (text : String) :
    nullable Json.text (.string text) = some (some text) :=
  nullable_of_read rfl rfl

@[simp] theorem nullable_u64 (value : UInt64) :
    nullable u64 (.unsigned value) = some (some value) :=
  nullable_of_read rfl rfl

@[simp] theorem nullable_ofNullable (value : Option UInt64) :
    nullable u64 (ofNullable value) = some value := by
  cases value <;> rfl

/-! ## Fields -/

/-- What a struct's reader finds of a field.  An object lacks it, or an array has
ended before it. -/
inductive Slot where
  | present (value : Json)
  | absent
  | exhausted

namespace Slot

variable {α : Type*}

def required (read : Json → Option α) : Slot → Option α
  | .present value => read value
  | _ => none

/-- A field of an `Option` type. -/
def optional (read : Json → Option α) : Slot → Option (Option α)
  | .present value => nullable read value
  | .absent => some none
  | .exhausted => none

/-- A field with a default. -/
def withDefault (default : α) (read : Json → Option α) : Slot → Option α
  | .present value => read value
  | .absent | .exhausted => some default

end Slot

/-- The field of an object under this name. -/
def slot (entries : List (String × Json)) (name : String) : Slot :=
  match entries.find? fun entry => entry.1 = name with
  | some entry => .present entry.2
  | none => .absent

/-- The fields of a struct; an object may not repeat one, and an array may not
hold more.  Entries under other names are skipped. -/
def fields (names : List String) : Json → Option (String → Slot)
  | .object entries =>
      if ∀ name ∈ names, entries.countP (fun entry => entry.1 = name) ≤ 1 then
        some (slot entries)
      else none
  | .array items =>
      if items.length ≤ names.length then
        some fun name =>
          match items[names.idxOf name]? with
          | some item => .present item
          | none => .exhausted
      else none
  | _ => none

end Json

end Library
