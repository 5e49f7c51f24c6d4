import Mathlib.Logic.Basic

/-! A strict reader of comma-separated values, one line at a time. A quoted field may go on in the
next line. -/
namespace Csv

inductive Mode where
  | startRecord | startField | inField | inQuotedField | quoteInQuotedField | eatNewline
  deriving DecidableEq

structure Reader where
  mode : Mode := .startRecord
  field : List Char := []
  fields : List String := []

namespace Reader

def save (r : Reader) (mode : Mode) : Reader where
  mode := mode
  fields := String.ofList r.field.reverse :: r.fields

def add (limit : Nat) (r : Reader) (c : Char) (mode : Mode) : Option Reader :=
  if limit ≤ r.field.length then none
  else some { r with mode, field := c :: r.field }

def isNewline (c : Char) : Bool := c == '\n' || c == '\r'

def startField (limit : Nat) (r : Reader) : Option Char → Option Reader
  | none => some (r.save .startRecord)
  | some c =>
    if isNewline c then some (r.save .eatNewline)
    else if c = '"' then some { r with mode := .inQuotedField }
    else if c = ',' then some (r.save .startField)
    else r.add limit c .inField

def step (limit : Nat) (r : Reader) (c : Option Char) : Option Reader :=
  match r.mode, c with
  | .startRecord, none => some r
  | .startRecord, some c =>
    if isNewline c then some { r with mode := .eatNewline } else r.startField limit (some c)
  | .startField, c => r.startField limit c
  | .inField, none => some (r.save .startRecord)
  | .inField, some c =>
    if isNewline c then some (r.save .eatNewline)
    else if c = ',' then some (r.save .startField)
    else r.add limit c .inField
  | .inQuotedField, none => some r
  | .inQuotedField, some c =>
    if c = '"' then some { r with mode := .quoteInQuotedField } else r.add limit c .inQuotedField
  | .quoteInQuotedField, none => some (r.save .startRecord)
  | .quoteInQuotedField, some c =>
    if c = '"' then r.add limit c .inQuotedField
    else if c = ',' then some (r.save .startField)
    else if isNewline c then some (r.save .eatNewline)
    else none
  | .eatNewline, none => some { r with mode := .startRecord }
  | .eatNewline, some c => if isNewline c then some r else none

def line (limit : Nat) : Reader → List Char → Option Reader
  | r, [] => r.step limit none
  | r, c :: rest => (r.step limit (some c)).bind fun r => r.line limit rest

end Reader

inductive Error where
  | csv | unicode | os
  deriving DecidableEq

structure Stream (α : Type) where
  items : List α
  error : Option Error := none
  deriving DecidableEq

def records (limit : Nat) : Reader → List (List Char) → Option Error → Stream (List String)
  | _, [], some e => ⟨[], some e⟩
  | r, [], none =>
    if r.mode = .inQuotedField ∨ r.field ≠ [] then ⟨[], some .csv⟩ else ⟨[], none⟩
  | r, text :: rest, e => match r.line limit text with
    | none => ⟨[], some .csv⟩
    | some r =>
      if r.mode = .startRecord then
        let later := records limit {} rest e
        { later with items := r.fields.reverse :: later.items }
      else records limit r rest e

/-- A quoted comma, a doubled quote and a quoted line break. -/
example : records 131072 {} ["a,\"b,\"\"c\"\r\n".toList, "\"d\n".toList, "e\",\r\n".toList] none =
    ⟨[["a", "b,\"c"], ["d\ne", ""]], none⟩ := by decide

end Csv
