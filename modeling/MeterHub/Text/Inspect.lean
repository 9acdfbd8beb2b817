import MeterHub.Text.Unshown

/-!
The inspection form of values, used in diagnostics: texts stand between double quotes with their
invisible characters escaped, records name their fields, and a record that keeps some fields to
itself ends in two dots.
-/

set_option autoImplicit false
set_option relaxedAutoImplicit false

namespace MeterHub.Text

/-- A character as it stands between double quotes. -/
def inspectChar (c : Char) : List Char :=
  if c = '"' then ['\\', '"']
  else if c = '\\' then ['\\', '\\']
  else if c = '\t' then ['\\', 't']
  else if c = '\n' then ['\\', 'n']
  else if c = '\r' then ['\\', 'r']
  else if c = '\x00' then ['\\', '0']
  else if showsAlone c then [c]
  else ['\\', 'u', '\x7b'] ++ Nat.toDigits 16 c.toNat ++ ['\x7d']

/-- A text between double quotes, its quotes, backslashes and invisible characters escaped. -/
def inspectText (s : String) : String :=
  String.ofList ('"' :: s.toList.flatMap inspectChar ++ ['"'])

def inspectBool (b : Bool) : String :=
  if b then "true" else "false"

def inspectOption {α : Type} (inspect : α → String) : Option α → String
  | none => "None"
  | some a => "Some(" ++ inspect a ++ ")"

def inspectList {α : Type} (inspect : α → String) (items : List α) : String :=
  "[" ++ ", ".intercalate (items.map inspect) ++ "]"

/-- A record: its name, then its fields in order; two dots stand for the fields it keeps to itself.
-/
def inspectRecord (name : String) (fields : List (String × String)) (elided : Bool) : String :=
  let shown := fields.map fun field => field.1 ++ ": " ++ field.2
  name ++ " \x7b " ++ ", ".intercalate (if elided then shown ++ [".."] else shown) ++ " \x7d"

end MeterHub.Text
