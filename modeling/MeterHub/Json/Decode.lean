import MeterHub.Json.Problem

/-!
Reading nodes as values of a type. The first problem in the order of the text is the one reported:
a value of the wrong kind before a break inside it, and a break before everything behind it.
-/

set_option autoImplicit false
set_option relaxedAutoImplicit false

namespace MeterHub.Json

abbrev Reading (α : Type) := Except Problem α

/-- The break at the end of a container, if there is one, as a problem. -/
def closed : Option Break → Reading Unit
  | none => .ok ()
  | some b => .error (.ofBreak b)

/-- The problem of a node in a place where something else was due. A literal is read to its end
first; a list or record is not looked into. -/
def Node.unexpected (wanted : String) : Node → Problem
  | .null => .mismatch (.wrongType .null wanted)
  | .bool b => .mismatch (.wrongType (.bool b) wanted)
  | .number n =>
    match n.quantity? with
    | none => .malformed
    | some (.integer i) => .mismatch (.wrongType (.integer i) wanted)
    | some (.floating x) => .mismatch (.wrongType (.floating x) wanted)
  | .text t =>
    match t.read with
    | .ok s => .mismatch (.wrongType (.text s) wanted)
    | .error b => .ofBreak b
  | .list _ _ => .mismatch (.wrongType .sequence wanted)
  | .record _ _ => .mismatch (.wrongType .map wanted)
  | .missing => .ended
  | .brokenNull b => .ofBreak b
  | .broken read _ => .ofBreak read

/-- A quoted text as the characters that it stands for. -/
def Quoted.toReading (t : Quoted) : Reading String :=
  match t.read with
  | .ok s => .ok s
  | .error b => .error (.ofBreak b)

def Node.toText : Node → Reading String
  | .text t => t.toReading
  | node => .error (node.unexpected "a string")

/-- A natural number below a limit; `wanted` names the range. -/
def Node.toNatBelow (limit : Nat) (wanted : String) (node : Node) : Reading Nat :=
  match node with
  | .number n =>
    match n.quantity? with
    | some (.integer (.ofNat i)) =>
      if i < limit then .ok i else .error (.mismatch (.outOfRange i wanted))
    | some (.integer i) => .error (.mismatch (.outOfRange i wanted))
    | _ => .error (node.unexpected wanted)
  | _ => .error (node.unexpected wanted)

/-- A value that may be null; whatever starts like null is read as null. -/
def Node.toOption {α : Type} (read : Node → Reading α) : Node → Reading (Option α)
  | .null => .ok none
  | .brokenNull b => .error (.ofBreak b)
  | node => (read node).map some

def Node.toListOf {α : Type} (read : Node → Reading α) : Node → Reading (List α)
  | .list items ending => do
    let values ← items.mapM read
    closed ending
    return values
  | node => .error (node.unexpected "a sequence")

def Node.toNothing : Node → Reading Unit
  | .null => .ok ()
  | node => .error (node.unexpected "unit")

/-- Skipping a quoted text only asks for its closing quote. -/
def Quoted.skip (t : Quoted) : Reading Unit := closed t.flaw

mutual

/-- Skipping a value asks for the rules of the format only: neither the range of numbers nor the
pairing of halves matters. -/
def Node.skip : Node → Reading Unit
  | .text t => t.skip
  | .list items ending => do
    skipItems items
    closed ending
  | .record fields ending => do
    skipFields fields
    closed ending
  | .missing => .error .ended
  | .brokenNull b => .error (.ofBreak b)
  | .broken _ b => .error (.ofBreak b)
  | .null | .bool _ | .number _ => .ok ()

def skipItems : List Node → Reading Unit
  | [] => .ok ()
  | item :: items => do
    item.skip
    skipItems items

def skipFields : List (Quoted × Node) → Reading Unit
  | [] => .ok ()
  | (key, value) :: fields => do
    key.skip
    value.skip
    skipFields fields

end

/-- One of several names: a text, or a record whose only field has the name as key and null as
value. Nothing else is looked at, not even to its end. -/
def Node.toVariant {α : Type} (variants : List (String × α)) (node : Node) : Reading α :=
  let named (name : String) : Reading α :=
    match variants.lookup name with
    | some a => .ok a
    | none => .error (.mismatch (.unknownVariant name (variants.map (·.1))))
  match node with
  | .text t => t.toReading >>= named
  | .record [] (some b) => .error (.ofBreak b)
  | .record ((key, value) :: more) ending => do
    let a ← key.toReading >>= named
    value.toNothing
    if more.isEmpty then closed ending else .error .malformed
    return a
  | .missing => .error .ended
  | _ => .error .malformed

/-- A field of a record type: its name, whether a draft has it already, and how a node fills it. -/
structure Column (δ : Type) where
  name : String
  isFilled : δ → Bool
  fill : Node → δ → Reading δ

/-- A record type that is read through drafts. A record may also be given as the list of its fields
in order; where `tolerant`, that list may be too short. Fields of other names are skipped, unless
they are refused. -/
structure Shape (δ α : Type) where
  title : String
  columns : List (Column δ)
  blank : δ
  finish : δ → Reading α
  tolerant : Bool := false
  refusesOthers : Bool := false
  namesCount : Bool := true

namespace Shape

variable {δ α : Type}

/-- One field goes into the draft. A field that is there already is a duplicate. -/
def step (shape : Shape δ α) (draft : δ) (field : Quoted × Node) : Reading δ := do
  let name ← field.1.toReading
  match shape.columns.find? fun column => column.name == name with
  | some column =>
    if column.isFilled draft then .error (.mismatch (.duplicateField name))
    else column.fill field.2 draft
  | none =>
    if shape.refusesOthers then
      .error (.mismatch (.unknownField name (shape.columns.map (·.name))))
    else do
      field.2.skip
      return draft

/-- What is said about a list of the wrong length. -/
def lengthText (shape : Shape δ α) : String :=
  let count := shape.columns.length
  shape.title ++
    (if shape.namesCount then
      " with " ++ toString count ++ (if count = 1 then " element" else " elements")
    else "")

/-- Elements in the order of the columns. When they run out before the columns, the list must at
least be closed. The result keeps the elements left over. -/
def takeItems (shape : Shape δ α) (ending : Option Break) :
    Nat → List (Column δ) → List Node → δ → Reading (List Node × δ)
  | _, [], items, draft => .ok (items, draft)
  | count, column :: columns, item :: items, draft => do
    let draft ← column.fill item draft
    shape.takeItems ending (count + 1) columns items draft
  | count, _ :: _, [], draft => do
    closed ending
    if shape.tolerant then return ([], draft)
    else .error (.mismatch (.wrongLength count shape.lengthText))

def read (shape : Shape δ α) : Node → Reading α
  | .record fields ending => do
    let draft ← fields.foldlM shape.step shape.blank
    closed ending
    shape.finish draft
  | .list items ending => do
    let (left, draft) ← shape.takeItems ending 0 shape.columns items shape.blank
    let value ← shape.finish draft
    if left.isEmpty then closed ending else .error .malformed
    return value
  | node => .error (node.unexpected shape.title)

end Shape

def required {α : Type} (name : String) : Option α → Reading α
  | some a => .ok a
  | none => .error (.mismatch (.missingField name))

/-- The value of a whole document: nothing but spaces may follow it. -/
def readDocument {α : Type} (read : Node → Reading α) (s : String) : Reading α := do
  let document := Document.ofText s
  let value ← read document.root
  if document.trailing then .error .malformed else return value

end MeterHub.Json
