import Interrupts.Bytes
import Interrupts.Text.Hex

/-!
# Descriptions and reports

Boards, scripts and commands are described to the library, and its values are reported by it, as
trees of numbers, texts and named fields. `Datum` is such a tree. Reading one never fails: what is
missing, or has another shape than expected, reads as nothing, zero, or no items.

A number may be written as itself, or as a text of hexadecimal digits behind `0x`. Bytes are written
as a text of two digits each. In reports, quantities of 64 bits are written in hexadecimal.
-/

namespace Interrupts

/-- **A tree of values.** -/
inductive Datum where
  /-- Nothing. -/
  | absent
  | flag (value : Bool)
  | number (value : Nat)
  | text (value : String)
  | list (items : List Datum)
  /-- Fields, each with its name. -/
  | record (fields : List (String × Datum))
  deriving Inhabited

/-- The fields of a record. -/
abbrev Fields := List (String × Datum)

/-- A type whose values can be read from a description. -/
class Described (α : Type) where
  /-- The value that is described. -/
  read : Datum → α

/-- A type whose values can be reported. -/
class Reported (α : Type) where
  /-- The report of a value. -/
  report : α → Datum

export Reported (report)

instance {α : Type} [Reported α] : CoeHead α Datum := ⟨report⟩

namespace Datum

/-- A field of a record; there is nothing in a field that is missing. -/
def field (d : Datum) (name : String) : Datum :=
  match d with
  | record fields => (fields.lookup name).getD absent
  | _ => absent

/-- The record has a field of this name, even if there is nothing in it. -/
def has (d : Datum) (name : String) : Bool :=
  match d with
  | record fields => (fields.lookup name).isSome
  | _ => false

/-- There is nothing. -/
def isAbsent : Datum → Bool
  | absent => true
  | _ => false

/-- The fields of a record. -/
def fields : Datum → Fields
  | record fields => fields
  | _ => []

/-- The items of a list. -/
def items : Datum → List Datum
  | list items => items
  | _ => []

/-- **Read a field.** -/
def get {α : Type} [Described α] (d : Datum) (name : String) : α :=
  Described.read (d.field name)

/-- Read a field, or take a default if there is nothing in it. -/
def getD {α : Type} [Described α] (d : Datum) (name : String) (default : α) : α :=
  if (d.field name).isAbsent then default else d.get name

/-- The number of a text of hexadecimal digits behind `0x`. -/
def ofHexText (text : List Char) : Nat :=
  match text with
  | '0' :: 'x' :: digits => digits.foldl (fun n c => n * 16 + hexDigit c) 0
  | _ => 0

/-- The number. -/
def toNat : Datum → Nat
  | number n => n
  | text s => ofHexText s.toList
  | _ => 0

/-- The flag is raised. -/
def isSet : Datum → Bool
  | flag value => value
  | _ => false

/-- The text. -/
def toText : Datum → String
  | text s => s
  | _ => ""

/-- The bytes of a text with two hexadecimal digits for each. -/
def toBytes (d : Datum) : Bytes :=
  Bytes.ofHexDigits d.toText.toList

/-- The bytes as a text. -/
def ofBytes (bs : Bytes) : Datum :=
  text bs.hexDigits

end Datum

/-! ## Plain values -/

instance : Described Datum := ⟨id⟩

instance : Reported Datum := ⟨id⟩

instance : Described Nat := ⟨Datum.toNat⟩

instance : Described UInt8 := ⟨fun d => UInt8.ofNat d.toNat⟩

instance : Described UInt16 := ⟨fun d => UInt16.ofNat d.toNat⟩

instance : Described UInt32 := ⟨fun d => UInt32.ofNat d.toNat⟩

instance : Described UInt64 := ⟨fun d => UInt64.ofNat d.toNat⟩

instance : Described String := ⟨Datum.toText⟩

instance : Described Bool := ⟨Datum.isSet⟩

instance {α : Type} [Described α] : Described (Option α) where
  read d := if d.isAbsent then none else some (Described.read d)

instance {α : Type} [Described α] : Described (List α) where
  read d := d.items.map Described.read

instance {α β : Type} [Described α] [Described β] : Described (α × β) where
  read d := (Described.read (d.items[0]?.getD .absent), Described.read (d.items[1]?.getD .absent))

instance : Reported Nat := ⟨Datum.number⟩

instance : Reported UInt8 := ⟨fun n => .number n.toNat⟩

instance : Reported UInt16 := ⟨fun n => .number n.toNat⟩

instance : Reported UInt32 := ⟨fun n => .number n.toNat⟩

instance : Reported UInt64 := ⟨fun n => .text (hex0x n.toNat)⟩

instance : Reported String := ⟨Datum.text⟩

instance : Reported Bool := ⟨Datum.flag⟩

instance : Reported Unit := ⟨fun _ => .absent⟩

instance {α : Type} [Reported α] : Reported (Option α) where
  report
    | none => .absent
    | some a => a

instance {α : Type} [Reported α] : Reported (List α) where
  report xs := .list (xs.map report)

instance {α : Type} [Reported α] : Reported (Array α) where
  report xs := report xs.toList

instance {α β : Type} [Reported α] [Reported β] : Reported (α × β) where
  report p := .list [p.1, p.2]

/-- A success is reported as `ok` and a failure as `err`, with the failure in words. -/
instance {α ε : Type} [Reported α] [ToString ε] : Reported (Except ε α) where
  report
    | .ok a => .record [("ok", a)]
    | .error e => .record [("err", toString e)]

/-- The described value among some, by its name. -/
def Described.byName {α : Type} (values : List α) (name : α → String) (default : α) (d : Datum) :
    α :=
  (values.find? fun v => name v == d.toText).getD default

end Interrupts
