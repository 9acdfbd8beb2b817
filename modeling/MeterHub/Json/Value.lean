import MeterHub.Json.Numeral

/-!
Values of the data format and their two written forms: the compact one without any blanks, and the
indented one with a line per element.
-/

set_option autoImplicit false
set_option relaxedAutoImplicit false

namespace MeterHub.Json

/-- A value; the fields of a record keep their order. -/
inductive Value
  | null
  | bool (b : Bool)
  | number (n : Numeral)
  | text (s : String)
  | list (items : List Value)
  | record (fields : List (String × Value))

def Value.nat (n : Nat) : Value := .number (.ofNat n)

/-- A value that may be missing, written as null. -/
def Value.ofOption {α : Type} (value : α → Value) : Option α → Value
  | none => .null
  | some a => value a

def hexChar (d : Nat) : Char :=
  if d < 10 then Char.ofNat (48 + d) else Char.ofNat (87 + d)

/-- A character as it stands in a quoted text: quotes, backslashes and control characters are
escaped, all else stands for itself. -/
def escapeChar (c : Char) : List Char :=
  if c = '"' then ['\\', '"']
  else if c = '\\' then ['\\', '\\']
  else if c = '\x08' then ['\\', 'b']
  else if c = '\t' then ['\\', 't']
  else if c = '\n' then ['\\', 'n']
  else if c = '\x0c' then ['\\', 'f']
  else if c = '\r' then ['\\', 'r']
  else if c.toNat < 0x20 then ['\\', 'u', '0', '0', hexChar (c.toNat / 16), hexChar (c.toNat % 16)]
  else [c]

def quoteChars (s : String) : List Char :=
  '"' :: s.toList.flatMap escapeChar ++ ['"']

mutual

def Value.compactChars : Value → List Char
  | .null => ['n', 'u', 'l', 'l']
  | .bool true => ['t', 'r', 'u', 'e']
  | .bool false => ['f', 'a', 'l', 's', 'e']
  | .number n => n.chars
  | .text s => quoteChars s
  | .list [] => ['[', ']']
  | .list (item :: items) => '[' :: item.compactChars ++ compactItems items ++ [']']
  | .record [] => ['\x7b', '\x7d']
  | .record ((key, value) :: fields) =>
    '\x7b' :: quoteChars key ++ ':' :: value.compactChars ++ compactFields fields ++ ['\x7d']

def compactItems : List Value → List Char
  | [] => []
  | item :: items => ',' :: item.compactChars ++ compactItems items

def compactFields : List (String × Value) → List Char
  | [] => []
  | (key, value) :: fields =>
    ',' :: quoteChars key ++ ':' :: value.compactChars ++ compactFields fields

end

/-- A line break and the indentation of a depth, two blanks each. -/
def lineAt (depth : Nat) : List Char := '\n' :: List.replicate (2 * depth) ' '

mutual

/-- The indented form of a value that starts at a depth. -/
def Value.indentedChars (depth : Nat) : Value → List Char
  | .null => ['n', 'u', 'l', 'l']
  | .bool true => ['t', 'r', 'u', 'e']
  | .bool false => ['f', 'a', 'l', 's', 'e']
  | .number n => n.chars
  | .text s => quoteChars s
  | .list [] => ['[', ']']
  | .list (item :: items) =>
    '[' :: lineAt (depth + 1) ++ item.indentedChars (depth + 1) ++
      indentedItems (depth + 1) items ++ lineAt depth ++ [']']
  | .record [] => ['\x7b', '\x7d']
  | .record ((key, value) :: fields) =>
    '\x7b' :: lineAt (depth + 1) ++ quoteChars key ++ ':' :: ' ' ::
      value.indentedChars (depth + 1) ++ indentedFields (depth + 1) fields ++
      lineAt depth ++ ['\x7d']

def indentedItems (depth : Nat) : List Value → List Char
  | [] => []
  | item :: items => ',' :: lineAt depth ++ item.indentedChars depth ++ indentedItems depth items

def indentedFields (depth : Nat) : List (String × Value) → List Char
  | [] => []
  | (key, value) :: fields =>
    ',' :: lineAt depth ++ quoteChars key ++ ':' :: ' ' ::
      value.indentedChars depth ++ indentedFields depth fields

end

def Value.compact (v : Value) : String := String.ofList v.compactChars

def Value.indented (v : Value) : String := String.ofList (v.indentedChars 0)

end MeterHub.Json
