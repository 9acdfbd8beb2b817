import MeterHub.Json.Node

/-!
The grammar of the data format: which texts spell which nodes. Spaces may stand around values, keys
and commas, a character of a quoted text may be escaped or not, and numbers may have any number of
digits. Only texts that keep to the rules of the format spell anything.
-/

set_option autoImplicit false
set_option relaxedAutoImplicit false

namespace MeterHub.Json

/-- Nothing but characters that may stand between values. -/
def Blank (cs : List Char) : Prop := ∀ c ∈ cs, isSpace c = true

theorem Blank.nil : Blank [] := List.forall_mem_nil _

/-- Glyphs as they stand between quotes. A character may stand for itself unless it is a quote, a
backslash or a control character. -/
inductive SpellsGlyphs : List Glyph → List Char → Prop
  | nil : SpellsGlyphs [] []
  | plain {c : Char} {gs : List Glyph} {cs : List Char} (printable : 0x20 ≤ c.toNat)
      (unquoted : c ≠ '"') (unescaped : c ≠ '\\') (rest : SpellsGlyphs gs cs) :
      SpellsGlyphs (.plain c :: gs) (c :: cs)
  | escape {e c : Char} {gs : List Glyph} {cs : List Char} (escaped : escaped? e = some c)
      (rest : SpellsGlyphs gs cs) : SpellsGlyphs (.plain c :: gs) ('\\' :: e :: cs)
  | unit {a b c d : Char} {u : Nat} {gs : List Glyph} {cs : List Char}
      (digits : unit? a b c d = some u) (rest : SpellsGlyphs gs cs) :
      SpellsGlyphs (.unit u :: gs) ('\\' :: 'u' :: a :: b :: c :: d :: cs)

/-- A quoted text that is closed. Whether it can be read depends on the pairing of halves alone. -/
inductive SpellsQuoted : Quoted → List Char → Prop
  | mk {gs : List Glyph} {cs : List Char} (spelled : SpellsGlyphs gs cs) :
      SpellsQuoted ⟨(join .malformed gs).map String.ofList, none⟩ ('"' :: (cs ++ ['"']))

/-- The digits of a whole part, which has no leading zero. -/
structure IsWhole (digits : List (Fin 10)) : Prop where
  some_digit : digits ≠ []
  leading : ∀ rest, digits = 0 :: rest → rest = []

def digitChars (digits : List (Fin 10)) : List Char := digits.map Numeral.digitChar

inductive SpellsFraction : List (Fin 10) → List Char → Prop
  | absent : SpellsFraction [] []
  | present {digits : List (Fin 10)} (some_digit : digits ≠ []) :
      SpellsFraction digits ('.' :: digitChars digits)

inductive SpellsExponent : Option Int → List Char → Prop
  | absent : SpellsExponent none []
  | unsigned {e : Char} {digits : List (Fin 10)} (letter : e = 'e' ∨ e = 'E')
      (some_digit : digits ≠ []) :
      SpellsExponent (some (ofDigits digits)) (e :: digitChars digits)
  | positive {e : Char} {digits : List (Fin 10)} (letter : e = 'e' ∨ e = 'E')
      (some_digit : digits ≠ []) :
      SpellsExponent (some (ofDigits digits)) (e :: '+' :: digitChars digits)
  | negative {e : Char} {digits : List (Fin 10)} (letter : e = 'e' ∨ e = 'E')
      (some_digit : digits ≠ []) :
      SpellsExponent (some (-(ofDigits digits : Int))) (e :: '-' :: digitChars digits)

inductive SpellsNumeral : Numeral → List Char → Prop
  | mk {negative : Bool} {digits fraction : List (Fin 10)} {exponent : Option Int}
      {fs es : List Char} (whole : IsWhole digits) (fractional : SpellsFraction fraction fs)
      (exponential : SpellsExponent exponent es) :
      SpellsNumeral ⟨negative, ofDigits digits, fraction, exponent⟩
        ((if negative then ['-'] else []) ++ (digitChars digits ++ (fs ++ es)))

/-- What a part of a text may be: a value, a value with spaces around it, the elements of a list
that is not empty, or the fields of a record that is not empty. -/
inductive Phrase
  | value (node : Node)
  | padded (node : Node)
  | items (items : List Node)
  | fields (fields : List (Quoted × Node))

/-- The texts that spell a phrase. -/
inductive Spells : Phrase → List Char → Prop
  | null : Spells (.value .null) ['n', 'u', 'l', 'l']
  | yes : Spells (.value (.bool true)) ['t', 'r', 'u', 'e']
  | no : Spells (.value (.bool false)) ['f', 'a', 'l', 's', 'e']
  | number {n : Numeral} {cs : List Char} (spelled : SpellsNumeral n cs) :
      Spells (.value (.number n)) cs
  | text {t : Quoted} {cs : List Char} (spelled : SpellsQuoted t cs) : Spells (.value (.text t)) cs
  | emptyList {a : List Char} (blank : Blank a) :
      Spells (.value (.list [] none)) ('[' :: (a ++ [']']))
  | list {items : List Node} {cs : List Char} (inside : Spells (.items items) cs) :
      Spells (.value (.list items none)) ('[' :: (cs ++ [']']))
  | emptyRecord {a : List Char} (blank : Blank a) :
      Spells (.value (.record [] none)) ('\x7b' :: (a ++ ['\x7d']))
  | record {fields : List (Quoted × Node)} {cs : List Char} (inside : Spells (.fields fields) cs) :
      Spells (.value (.record fields none)) ('\x7b' :: (cs ++ ['\x7d']))
  | padded {node : Node} {a b cs : List Char} (before : Blank a) (behind : Blank b)
      (value : Spells (.value node) cs) : Spells (.padded node) (a ++ (cs ++ b))
  | lastItem {node : Node} {cs : List Char} (value : Spells (.padded node) cs) :
      Spells (.items [node]) cs
  | item {node : Node} {items : List Node} {cs ds : List Char} (value : Spells (.padded node) cs)
      (more : Spells (.items items) ds) : Spells (.items (node :: items)) (cs ++ ',' :: ds)
  | lastField {key : Quoted} {node : Node} {a b ks cs : List Char} (before : Blank a)
      (named : SpellsQuoted key ks) (behind : Blank b) (value : Spells (.padded node) cs) :
      Spells (.fields [(key, node)]) (a ++ (ks ++ (b ++ ':' :: cs)))
  | field {key : Quoted} {node : Node} {fields : List (Quoted × Node)} {a b ks cs ds : List Char}
      (before : Blank a) (named : SpellsQuoted key ks) (behind : Blank b)
      (value : Spells (.padded node) cs) (more : Spells (.fields fields) ds) :
      Spells (.fields ((key, node) :: fields)) (a ++ (ks ++ (b ++ ':' :: (cs ++ ',' :: ds))))

/-- A text that is a value with nothing but spaces around it. -/
def IsDocument (node : Node) (s : String) : Prop := Spells (.padded node) s.toList

end MeterHub.Json
