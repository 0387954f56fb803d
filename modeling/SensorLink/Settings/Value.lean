import SensorLink.DevEui

namespace SensorLink.Settings

inductive Value where
  /-- No value; only optional fields take it. -/
  | null
  | boolean (b : Bool)
  | integer (n : Int)
  | decimal
  | text (s : String)
  | moment
  | list (items : List Value)
  | table (entries : List (String × Value))
deriving Inhabited

structure Format where
  /-- Whether a record written as a list may have more items than the record has fields. -/
  looseLists : Bool
  /-- Whether a value is the empty payload of a choice that is written as a table. -/
  isUnit : Value → Bool
  /-- Whether a date stands for a table without known keys. -/
  momentIsTable : Bool

def Format.toml : Format where
  looseLists := true
  isUnit
    | .list [] => true
    | .table [] => true
    | _ => false
  momentIsTable := true

def Format.json : Format where
  looseLists := false
  isUnit
    | .null => true
    | _ => false
  momentIsTable := false

inductive Mismatch where
  | devEui (e : InvalidDevEui)
  | other
deriving DecidableEq, Repr

abbrev Read (α : Type) := Value → Except Mismatch α

def readText : Read String
  | .text s => .ok s
  | _ => .error .other

def readCount : Read Nat
  | .integer n => if 0 ≤ n ∧ n < wordCount 8 then .ok n.toNat else .error .other
  | _ => .error .other

def readDevEui : Read DevEui := fun v => do
  (DevEui.parse (← readText v)).mapError .devEui

def readOptional {α : Type} (read : Read α) : Read (Option α)
  | .null => .ok none
  | v => some <$> read v

/-- One of several named choices: its name, or a table with the name as only key. -/
def readChoice {α : Type} (f : Format) (choices : List (String × α)) : Read α
  | .text s => ((choices.lookup s).map Except.ok).getD (.error .other)
  | .table [(key, payload)] =>
    match choices.lookup key with
    | some a => if f.isUnit payload then .ok a else .error .other
    | none => .error .other
  | _ => .error .other

structure Field (α : Type) where
  name : String
  set : Value → α → Except Mismatch α

def field {α β : Type} (name : String) (read : Read β) (put : α → β → α) : Field α :=
  ⟨name, fun v a => (read v).map (put a)⟩

/-- Sets the fields of a record from a table in the table's order; unknown keys are passed over. -/
def readEntries {α : Type} (fields : List (Field α)) (a : α) : List (String × Value) →
    Except Mismatch α
  | [] => .ok a
  | (key, v) :: rest => do
    match fields.find? (·.name = key) with
    | none => readEntries fields a rest
    | some f => readEntries fields (← f.set v a) rest

def readItems {α : Type} (loose : Bool) : List (Field α) → α → List Value → Except Mismatch α
  | _, a, [] => .ok a
  | [], a, _ :: _ => if loose then .ok a else .error .other
  | f :: fields, a, v :: rest => do readItems loose fields (← f.set v a) rest

def readRecord {α : Type} (f : Format) (fields : List (Field α)) (default : α) : Read α
  | .table entries => readEntries fields default entries
  | .list items => readItems f.looseLists fields default items
  | .moment => if f.momentIsTable then .ok default else .error .other
  | _ => .error .other

end SensorLink.Settings
