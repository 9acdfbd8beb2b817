import MeterHub.Json.Numeral

/-!
Nodes: a text of the data format as far as it can be read. Reading goes on until the first place
that breaks the rules of the format, and the node built so far says what breaks there. A quoted text
may be well enough formed to be skipped and still not be readable.
-/

set_option autoImplicit false
set_option relaxedAutoImplicit false

namespace MeterHub.Json

/-- What is wrong at the place where reading stops: the text ends too early, or it is malformed. -/
inductive Break
  | ended
  | malformed
deriving DecidableEq

/-- A quoted text: the characters that it stands for, or what keeps it from being read, and what
keeps it from being skipped. -/
structure Quoted where
  read : Except Break String
  flaw : Option Break

/-- A value as far as it can be read. A list or record has no ending break exactly when it is
closed, and likewise a quoted text has no flaw. -/
inductive Node
  | null
  | bool (b : Bool)
  | number (n : Numeral)
  | text (t : Quoted)
  | list (items : List Node) (ending : Option Break)
  | record (fields : List (Quoted × Node)) (ending : Option Break)
  /-- The text ends before the value. -/
  | missing
  /-- A word that starts like null and breaks off. -/
  | brokenNull (b : Break)
  /-- No value, or another word or a number that breaks off: what a reader finds wrong, and what one
  who only skips values finds wrong. -/
  | broken (read skip : Break)

/-- The four characters that may stand between values. -/
def isSpace (c : Char) : Bool :=
  c = ' ' || c = '\n' || c = '\t' || c = '\r'

def skipSpaces (cs : List Char) : List Char := cs.dropWhile isSpace

/-- One piece of a quoted text: a character, or a unit of 16 bits given by its digits. -/
inductive Glyph
  | plain (c : Char)
  | unit (u : Nat)

def hexValue? (c : Char) : Option Nat :=
  if '0' ≤ c ∧ c ≤ '9' then some (c.toNat - 48)
  else if 'a' ≤ c ∧ c ≤ 'f' then some (c.toNat - 87)
  else if 'A' ≤ c ∧ c ≤ 'F' then some (c.toNat - 55)
  else none

def unit? (a b c d : Char) : Option Nat := do
  return 4096 * (← hexValue? a) + 256 * (← hexValue? b) + 16 * (← hexValue? c) + (← hexValue? d)

def escaped? : Char → Option Char
  | '"' => some '"'
  | '\\' => some '\\'
  | '/' => some '/'
  | 'b' => some '\x08'
  | 'f' => some '\x0c'
  | 'n' => some '\n'
  | 'r' => some '\r'
  | 't' => some '\t'
  | _ => none

def byteLength (cs : List Char) : Nat := cs.foldl (fun size c => size + c.utf8Size) 0

/-- What breaks at digits of a unit that are not four hexadecimal ones: fewer than four bytes are
left, or one of them is no digit. -/
def unitBreak (cs : List Char) : Break :=
  if byteLength cs < 4 then .ended else .malformed

/-- The glyphs up to the closing quote, and the text behind it or what breaks before it. -/
def glyphs : List Char → List Glyph × Except Break (List Char)
  | [] => ([], .error .ended)
  | '"' :: rest => ([], .ok rest)
  | '\\' :: [] => ([], .error .ended)
  | '\\' :: 'u' :: a :: b :: c :: d :: rest =>
    match unit? a b c d with
    | some u =>
      let (more, ending) := glyphs rest
      (.unit u :: more, ending)
    | none => ([], .error (unitBreak (a :: b :: c :: d :: rest)))
  | '\\' :: 'u' :: rest => ([], .error (unitBreak rest))
  | '\\' :: e :: rest =>
    match escaped? e with
    | some c =>
      let (more, ending) := glyphs rest
      (.plain c :: more, ending)
    | none => ([], .error .malformed)
  | c :: rest =>
    if c.toNat < 0x20 then ([], .error .malformed)
    else
      let (more, ending) := glyphs rest
      (.plain c :: more, ending)

/-- Whether a unit is the first half of a pair. -/
def leads (u : Nat) : Bool := 0xD800 ≤ u && u < 0xDC00

/-- Whether a unit is the second half of a pair. -/
def trails (u : Nat) : Bool := 0xDC00 ≤ u && u < 0xE000

/-- The characters that glyphs stand for, where two halves make one character. A half without its
partner is malformed; at the end it is the given break that keeps the partner away. -/
def join (atEnd : Break) : List Glyph → Except Break (List Char)
  | [] => .ok []
  | .plain c :: rest => (join atEnd rest).map (c :: ·)
  | .unit u :: [] =>
    if leads u then .error atEnd
    else if trails u then .error .malformed
    else .ok [Char.ofNat u]
  | .unit u :: .unit v :: rest =>
    if leads u then
      if trails v then
        (join atEnd rest).map (Char.ofNat (0x10000 + (u - 0xD800) * 0x400 + (v - 0xDC00)) :: ·)
      else .error .malformed
    else if trails u then .error .malformed
    else (join atEnd (.unit v :: rest)).map (Char.ofNat u :: ·)
  | .unit u :: .plain c :: rest =>
    if leads u || trails u then .error .malformed
    else (join atEnd (.plain c :: rest)).map (Char.ofNat u :: ·)

/-- The quoted text whose opening quote has been read, and the text behind it if it is closed. -/
def scanQuoted (cs : List Char) : Quoted × Option (List Char) :=
  match glyphs cs with
  | (pieces, .ok rest) => (⟨(join .malformed pieces).map String.ofList, none⟩, some rest)
  | (pieces, .error flaw) =>
    match join flaw pieces with
    | .ok _ => (⟨.error flaw, some flaw⟩, none)
    | .error found => (⟨.error found, some flaw⟩, none)

/-- A word whose first letter has been read: the rest of it must follow, or the word breaks off. -/
def scanWord (whole : Node) (brokenOff : Break → Node) :
    List Char → List Char → Node × Option (List Char)
  | [], cs => (whole, some cs)
  | _ :: _, [] => (brokenOff .ended, none)
  | w :: word, c :: cs =>
    if c = w then scanWord whole brokenOff word cs else (brokenOff .malformed, none)

def digit? (c : Char) : Option (Fin 10) :=
  if h : 48 ≤ c.toNat ∧ c.toNat < 58 then some ⟨c.toNat - 48, by omega⟩ else none

def spanDigits : List Char → List (Fin 10) × List Char
  | [] => ([], [])
  | c :: cs =>
    match digit? c with
    | some d =>
      let (digits, rest) := spanDigits cs
      (d :: digits, rest)
    | none => ([], c :: cs)

def ofDigits (digits : List (Fin 10)) : Nat := digits.foldl (fun n d => 10 * n + d.val) 0

/-- No number where digits were due: a reader tells the end of the text from a wrong character. -/
def digitsMissing (cs : List Char) : Node × Option (List Char) :=
  (.broken (if cs.isEmpty then .ended else .malformed) .malformed, none)

/-- The exponent of a number, if there is one. -/
def scanExponent (negative : Bool) (whole : Nat) (fraction : List (Fin 10)) (cs : List Char) :
    Node × Option (List Char) :=
  match cs with
  | c :: rest =>
    if c = 'e' ∨ c = 'E' then
      let (minus, digits) : Bool × List Char :=
        match rest with
        | '+' :: rest => (false, rest)
        | '-' :: rest => (true, rest)
        | rest => (false, rest)
      match spanDigits digits with
      | ([], rest) => digitsMissing rest
      | (power, rest) =>
        let size : Int := ofDigits power
        (.number ⟨negative, whole, fraction, some (if minus then -size else size)⟩, some rest)
    else (.number ⟨negative, whole, fraction, none⟩, some cs)
  | [] => (.number ⟨negative, whole, fraction, none⟩, some [])

/-- The fraction and the exponent of a number, as far as there are any. -/
def scanFraction (negative : Bool) (whole : Nat) (cs : List Char) : Node × Option (List Char) :=
  match cs with
  | '.' :: rest =>
    match spanDigits rest with
    | ([], rest) => digitsMissing rest
    | (fraction, rest) => scanExponent negative whole fraction rest
  | cs => scanExponent negative whole [] cs

/-- A number whose sign has been read. No digit may follow a leading zero. -/
def scanNumber (negative : Bool) (cs : List Char) : Node × Option (List Char) :=
  match spanDigits cs with
  | ([], rest) => digitsMissing rest
  | (d :: digits, rest) =>
    if d = 0 ∧ !digits.isEmpty then (.broken .malformed .malformed, none)
    else scanFraction negative (ofDigits (d :: digits)) rest

/-- What an ending says about the container that it ends. -/
def endingBreak : Except Break (List Char) → Option Break
  | .ok _ => none
  | .error b => some b

/-- The text behind a container, if it is closed. -/
def restOf : Except Break (List Char) → Option (List Char)
  | .ok rest => some rest
  | .error _ => none

/-- A key that is no quoted text, or is not there. -/
def Quoted.missing (b : Break) : Quoted := ⟨.error b, some b⟩

mutual

/-- The first value of a text, and the text behind it unless reading stopped there. -/
def scanValue : Nat → List Char → Node × Option (List Char)
  | 0, _ => (.broken .malformed .malformed, none)
  | fuel + 1, cs =>
    match skipSpaces cs with
    | [] => (.missing, none)
    | 'n' :: rest => scanWord .null .brokenNull ['u', 'l', 'l'] rest
    | 't' :: rest => scanWord (.bool true) (fun b => .broken b b) ['r', 'u', 'e'] rest
    | 'f' :: rest => scanWord (.bool false) (fun b => .broken b b) ['a', 'l', 's', 'e'] rest
    | '"' :: rest =>
      let (t, rest) := scanQuoted rest
      (.text t, rest)
    | '[' :: rest =>
      match skipSpaces rest with
      | [] => (.list [] (some .ended), none)
      | ']' :: rest => (.list [] none, some rest)
      | rest =>
        let (items, ending) := scanItems fuel rest
        (.list items (endingBreak ending), restOf ending)
    | '\x7b' :: rest =>
      match skipSpaces rest with
      | [] => (.record [] (some .ended), none)
      | '\x7d' :: rest => (.record [] none, some rest)
      | '"' :: rest =>
        let (fields, ending) := scanFields fuel rest
        (.record fields (endingBreak ending), restOf ending)
      | _ => (.record [] (some .malformed), none)
    | '-' :: rest => scanNumber true rest
    | c :: rest =>
      if (digit? c).isSome then scanNumber false (c :: rest)
      else (.broken .malformed .malformed, none)

/-- The elements of a list from its next one on. Behind a comma there is always an element. -/
def scanItems : Nat → List Char → List Node × Except Break (List Char)
  | 0, _ => ([], .error .malformed)
  | fuel + 1, cs =>
    match scanValue fuel cs with
    | (item, none) => ([item], .error .malformed)
    | (item, some rest) =>
      match skipSpaces rest with
      | ',' :: rest =>
        let (items, ending) := scanItems fuel rest
        (item :: items, ending)
      | ']' :: rest => ([item], .ok rest)
      | [] => ([item], .error .ended)
      | _ => ([item], .error .malformed)

/-- The fields of a record from a key on whose opening quote has been read. Behind a comma there is
always a field. -/
def scanFields : Nat → List Char → List (Quoted × Node) × Except Break (List Char)
  | 0, _ => ([], .error .malformed)
  | fuel + 1, cs =>
    match scanQuoted cs with
    | (key, none) => ([(key, .null)], .error .malformed)
    | (key, some rest) =>
      match skipSpaces rest with
      | [] => ([(key, .missing)], .error .ended)
      | ':' :: rest =>
        match scanValue fuel rest with
        | (value, none) => ([(key, value)], .error .malformed)
        | (value, some rest) =>
          match skipSpaces rest with
          | ',' :: rest =>
            match skipSpaces rest with
            | '"' :: rest =>
              let (fields, ending) := scanFields fuel rest
              ((key, value) :: fields, ending)
            | [] => ([(key, value), (Quoted.missing .ended, .null)], .error .ended)
            | _ => ([(key, value), (Quoted.missing .malformed, .null)], .error .malformed)
          | '\x7d' :: rest => ([(key, value)], .ok rest)
          | [] => ([(key, value)], .error .ended)
          | _ => ([(key, value)], .error .malformed)
      | _ => ([(key, .broken .malformed .malformed)], .error .malformed)

end

/-- A whole text: its value, and whether something else than spaces follows it. -/
structure Document where
  root : Node
  trailing : Bool

/-- The document that a text holds. Each value takes at most two steps per character. -/
def Document.ofText (s : String) : Document :=
  let cs := s.toList
  match scanValue (2 * cs.length + 2) cs with
  | (root, none) => ⟨root, false⟩
  | (root, some rest) => ⟨root, !(skipSpaces rest).isEmpty⟩

end MeterHub.Json
