import Mathlib.Data.Fintype.Basic
import Mathlib.Data.List.DropRight
import Mathlib.Tactic.FinCases
import MeterHub.Proofs.Json.Grammar

/-!
Texts of the grammar are read as what they spell. Where something follows that cannot belong to the
value any more, scanning stops just there.
-/

set_option autoImplicit false
set_option relaxedAutoImplicit false

namespace MeterHub.Json

theorem Blank.append {a b : List Char} (first : Blank a) (second : Blank b) : Blank (a ++ b) :=
  List.forall_mem_append.mpr ⟨first, second⟩

theorem skipSpaces_append {a : List Char} (blank : Blank a) (cs : List Char) :
    skipSpaces (a ++ cs) = skipSpaces cs := List.dropWhile_append_of_pos blank

theorem skipSpaces_cons {c : Char} (solid : isSpace c = false) (cs : List Char) :
    skipSpaces (c :: cs) = c :: cs := List.dropWhile_cons_of_neg (by simp [solid])

theorem skipSpaces_behind {a : List Char} (blank : Blank a) {c : Char} (solid : isSpace c = false)
    (cs : List Char) : skipSpaces (a ++ c :: cs) = c :: cs :=
  (skipSpaces_append blank _).trans (skipSpaces_cons solid cs)

theorem scanValue_skip (fuel : Nat) (cs : List Char) :
    scanValue fuel (skipSpaces cs) = scanValue fuel cs := by
  have twice : skipSpaces (skipSpaces cs) = skipSpaces cs := List.dropWhile_idempotent _ _
  cases fuel with
  | zero => rfl
  | succ fuel =>
    unfold scanValue
    rw [twice]

theorem scanValue_blank {a : List Char} (blank : Blank a) (fuel : Nat) (cs : List Char) :
    scanValue fuel (a ++ cs) = scanValue fuel cs := by
  rw [← scanValue_skip, skipSpaces_append blank, scanValue_skip]

theorem scanItems_skip (fuel : Nat) (cs : List Char) :
    scanItems fuel (skipSpaces cs) = scanItems fuel cs := by
  cases fuel with
  | zero => rfl
  | succ fuel =>
    unfold scanItems
    rw [scanValue_skip]

theorem glyphs_spelled {gs : List Glyph} {cs : List Char} (spelled : SpellsGlyphs gs cs)
    (rest : List Char) : glyphs (cs ++ '"' :: rest) = (gs, .ok rest) := by
  induction spelled with
  | nil => rfl
  | @plain c gs cs printable unquoted unescaped _ ih =>
    have shown : ¬c.toNat < 0x20 := Nat.not_lt.mpr printable
    rw [List.cons_append, glyphs, if_neg shown, ih]
    · exact unquoted
    · exact fun same _ => unescaped same
    · exact fun _ _ _ _ _ same _ => unescaped same
    · exact fun _ same _ => unescaped same
    · exact fun _ _ same _ => unescaped same
  | @escape e c gs cs escaped _ ih =>
    have letter : e ≠ 'u' := by
      rintro rfl
      cases escaped
    rw [List.cons_append, List.cons_append, glyphs, escaped]
    · simp only [ih]
    · exact fun _ _ _ _ _ same _ => letter same
    · exact letter
  | unit digits _ ih =>
    simp only [List.cons_append]
    rw [glyphs, digits]
    simp only [ih]

theorem scanQuoted_spelled {t : Quoted} {cs : List Char} (spelled : SpellsQuoted t cs) :
    ∃ inside, cs = '"' :: (inside ++ ['"']) ∧
      ∀ rest, scanQuoted (inside ++ '"' :: rest) = (t, some rest) := by
  obtain ⟨spelled⟩ := spelled
  refine ⟨_, rfl, fun rest => ?_⟩
  unfold scanQuoted
  rw [glyphs_spelled spelled]

/-- What follows is no part of a number before it. -/
def Ends (rest : List Char) : Prop :=
  ∀ c ∈ rest.head?, digit? c = none ∧ c ≠ '.' ∧ c ≠ 'e' ∧ c ≠ 'E'

theorem digit?_digitChar : ∀ d : Fin 10, digit? (Numeral.digitChar d) = some d := by decide

theorem spanDigits_spelled (digits : List (Fin 10)) {rest : List Char}
    (ends : ∀ c ∈ rest.head?, digit? c = none) :
    spanDigits (digitChars digits ++ rest) = (digits, rest) := by
  induction digits with
  | nil =>
    cases rest with
    | nil => rfl
    | cons c rest =>
      change spanDigits (c :: rest) = _
      rw [spanDigits, ends c rfl]
  | cons d digits ih =>
    change spanDigits (Numeral.digitChar d :: (digitChars digits ++ rest)) = _
    rw [spanDigits, digit?_digitChar]
    simp only [ih]

theorem digitChar_ne : ∀ d : Fin 10,
    Numeral.digitChar d ≠ '+' ∧ Numeral.digitChar d ≠ '-' ∧ isSpace (Numeral.digitChar d) = false ∧
      Numeral.digitChar d ≠ ']' := by decide

theorem scanExponent_spelled {exponent : Option Int} {es : List Char}
    (spelled : SpellsExponent exponent es) (negative : Bool) (whole : Nat)
    (fraction : List (Fin 10)) {rest : List Char} (ends : Ends rest) :
    scanExponent negative whole fraction (es ++ rest) =
      (.number ⟨negative, whole, fraction, exponent⟩, some rest) := by
  have stops : ∀ c ∈ rest.head?, digit? c = none := fun c first => (ends c first).1
  cases spelled with
  | absent =>
    cases rest with
    | nil => rfl
    | cons c rest =>
      obtain ⟨_, _, lower, upper⟩ := ends c rfl
      have other : ¬(c = 'e' ∨ c = 'E') := not_or.mpr ⟨lower, upper⟩
      change (if c = 'e' ∨ c = 'E' then _ else _) = _
      rw [if_neg other]
      rfl
  | @unsigned e digits letter some_digit =>
    obtain ⟨d, ds, rfl⟩ := List.exists_cons_of_ne_nil some_digit
    obtain ⟨plus, minus, _⟩ := digitChar_ne d
    have span := spanDigits_spelled (d :: ds) stops
    change spanDigits (Numeral.digitChar d :: (digitChars ds ++ rest)) = _ at span
    change scanExponent _ _ _ (e :: Numeral.digitChar d :: (digitChars ds ++ rest)) = _
    simp [scanExponent, letter, plus, minus, span]
  | @positive e digits letter some_digit =>
    obtain ⟨d, ds, rfl⟩ := List.exists_cons_of_ne_nil some_digit
    have span := spanDigits_spelled (d :: ds) stops
    unfold scanExponent
    simp only [List.cons_append, if_pos letter]
    rw [span]
    rfl
  | @negative e digits letter some_digit =>
    obtain ⟨d, ds, rfl⟩ := List.exists_cons_of_ne_nil some_digit
    have span := spanDigits_spelled (d :: ds) stops
    unfold scanExponent
    simp only [List.cons_append, if_pos letter]
    rw [span]
    rfl

theorem SpellsExponent.stops {exponent : Option Int} {es : List Char}
    (spelled : SpellsExponent exponent es) {rest : List Char} (ends : Ends rest) :
    ∀ c ∈ (es ++ rest).head?, digit? c = none ∧ c ≠ '.' := by
  have letters {e : Char} (letter : e = 'e' ∨ e = 'E') : digit? e = none ∧ e ≠ '.' := by
    rcases letter with rfl | rfl <;> decide
  intro c first
  cases spelled with
  | absent => exact ⟨(ends c first).1, (ends c first).2.1⟩
  | unsigned letter => exact Option.some.inj first ▸ letters letter
  | positive letter => exact Option.some.inj first ▸ letters letter
  | negative letter => exact Option.some.inj first ▸ letters letter

theorem scanFraction_spelled {fraction : List (Fin 10)} {exponent : Option Int}
    {fs es : List Char} (fractional : SpellsFraction fraction fs)
    (exponential : SpellsExponent exponent es) (negative : Bool) (whole : Nat) {rest : List Char}
    (ends : Ends rest) :
    scanFraction negative whole (fs ++ es ++ rest) =
      (.number ⟨negative, whole, fraction, exponent⟩, some rest) := by
  have stops := exponential.stops ends
  have scanned := scanExponent_spelled exponential negative whole fraction ends
  cases fractional with
  | absent =>
    change scanFraction negative whole (es ++ rest) = _
    unfold scanFraction
    split
    · rename_i dotted
      rw [dotted] at stops
      exact ((stops '.' rfl).2 rfl).elim
    · exact scanned
  | @present digits some_digit =>
    obtain ⟨d, ds, rfl⟩ := List.exists_cons_of_ne_nil some_digit
    have span := spanDigits_spelled (d :: ds) fun c first => (stops c first).1
    rw [List.cons_append, List.cons_append, List.append_assoc]
    unfold scanFraction
    simp only
    rw [span]
    exact scanned

theorem scanNumber_spelled {digits fraction : List (Fin 10)} {exponent : Option Int}
    {fs es : List Char} (whole : IsWhole digits) (fractional : SpellsFraction fraction fs)
    (exponential : SpellsExponent exponent es) (negative : Bool) {rest : List Char}
    (ends : Ends rest) :
    scanNumber negative (digitChars digits ++ (fs ++ es) ++ rest) =
      (.number ⟨negative, ofDigits digits, fraction, exponent⟩, some rest) := by
  have stops : ∀ c ∈ (fs ++ es ++ rest).head?, digit? c = none := by
    intro c first
    cases fractional with
    | absent => exact (exponential.stops ends c first).1
    | present =>
      rw [← Option.some.inj first]
      decide
  have scanned := scanFraction_spelled fractional exponential negative (ofDigits digits) ends
  obtain ⟨d, ds, rfl⟩ := List.exists_cons_of_ne_nil whole.some_digit
  -- scanning refuses a zero that other digits follow
  have unpadded : ¬(d = 0 ∧ !ds.isEmpty) := by
    rintro ⟨rfl, more⟩
    rw [whole.leading ds rfl] at more
    cases more
  rw [List.append_assoc]
  unfold scanNumber
  rw [spanDigits_spelled (d :: ds) stops]
  simp only
  rw [if_neg unpadded]
  exact scanned

/-- The first character that is no space does not close a list. -/
def Leads (cs : List Char) : Prop :=
  ∃ a c rest, cs = a ++ c :: rest ∧ Blank a ∧ isSpace c = false ∧ c ≠ ']'

namespace Leads

variable {cs : List Char}

theorem of_first {c : Char} (solid : isSpace c = false) (inside : c ≠ ']') (rest : List Char) :
    Leads (c :: rest) := ⟨[], c, rest, rfl, .nil, solid, inside⟩

theorem append (leads : Leads cs) (more : List Char) : Leads (cs ++ more) := by
  obtain ⟨a, c, rest, rfl, blank, solid, inside⟩ := leads
  exact ⟨a, c, rest ++ more, by simp, blank, solid, inside⟩

theorem behind (leads : Leads cs) {a : List Char} (blank : Blank a) : Leads (a ++ cs) := by
  obtain ⟨b, c, rest, rfl, blank', solid, inside⟩ := leads
  exact ⟨a ++ b, c, rest, by simp, blank.append blank', solid, inside⟩

theorem skip (leads : Leads cs) : ∃ c rest, skipSpaces cs = c :: rest ∧ c ≠ ']' := by
  obtain ⟨a, c, rest, rfl, blank, solid, inside⟩ := leads
  exact ⟨c, rest, skipSpaces_behind blank solid rest, inside⟩

end Leads

/-- What scanning makes of the texts of a phrase, with enough fuel and in a place where the phrase
may stand. -/
def Scans : Phrase → List Char → Prop
  -- a character costs two steps at most: one for its value, one for the list or record around it
  | .value node, cs => Leads cs ∧ ∀ fuel rest, 2 * cs.length ≤ fuel → Ends rest →
    scanValue fuel (cs ++ rest) = (node, some rest)
  | .padded node, cs => Leads cs ∧ ∀ fuel rest, 2 * cs.length ≤ fuel → Ends rest →
    ∃ left, scanValue fuel (cs ++ rest) = (node, some left) ∧ skipSpaces left = skipSpaces rest
  | .items items, cs => Leads cs ∧ ∀ fuel rest, 2 * cs.length < fuel →
    scanItems fuel (cs ++ ']' :: rest) = (items, .ok rest)
  | .fields fields, cs => ∃ tail, (∀ rest, skipSpaces (cs ++ rest) = '"' :: (tail ++ rest)) ∧
    ∀ fuel rest, 2 * cs.length < fuel →
      scanFields fuel (tail ++ '\x7d' :: rest) = (fields, .ok rest)

theorem ends_of_first {c : Char} (rest : List Char)
    (aside : digit? c = none ∧ c ≠ '.' ∧ c ≠ 'e' ∧ c ≠ 'E') : Ends (c :: rest) := by
  intro first same
  rw [← Option.some.inj same]
  exact aside

theorem Ends.behind {rest : List Char} (ends : Ends rest) {b : List Char} (blank : Blank b) :
    Ends (b ++ rest) := by
  cases b with
  | nil => exact ends
  | cons c b =>
    have space : isSpace c = true := blank c List.mem_cons_self
    refine ends_of_first (b ++ rest) ?_
    simp only [isSpace, Bool.or_eq_true, decide_eq_true_eq] at space
    rcases space with ((rfl | rfl) | rfl) | rfl <;> decide

theorem scanValue_digit (fuel : Nat) (d : Fin 10) (rest : List Char) :
    scanValue (fuel + 1) (Numeral.digitChar d :: rest) =
      scanNumber false (Numeral.digitChar d :: rest) := by
  fin_cases d <;> rfl

theorem Scans.of_first {node : Node} {c : Char} {cs : List Char} (solid : isSpace c = false)
    (inside : c ≠ ']')
    (scanned : ∀ fuel rest, 2 * cs.length < fuel → Ends rest →
      scanValue (fuel + 1) (c :: (cs ++ rest)) = (node, some rest)) :
    Scans (.value node) (c :: cs) := by
  refine ⟨.of_first solid inside cs, ?_⟩
  intro fuel rest enough ends
  rw [List.length_cons] at enough
  obtain ⟨fuel, rfl⟩ := Nat.exists_eq_add_of_le' (show 1 ≤ fuel by omega)
  exact scanned fuel rest (by omega) ends

theorem numeral_scans {n : Numeral} {cs : List Char} (spelled : SpellsNumeral n cs) :
    Scans (.value (.number n)) cs := by
  obtain @⟨negative, digits, fraction, exponent, fs, es, whole, fractional, exponential⟩ := spelled
  have scanned {rest : List Char} (ends : Ends rest) :=
    scanNumber_spelled whole fractional exponential negative ends
  cases negative with
  | true =>
    refine .of_first rfl (by decide) ?_
    intro fuel rest _ ends
    exact scanned ends
  | false =>
    obtain ⟨d, ds, rfl⟩ := List.exists_cons_of_ne_nil whole.some_digit
    obtain ⟨_, _, solid, inside⟩ := digitChar_ne d
    refine .of_first solid inside ?_
    intro fuel rest _ ends
    exact (scanValue_digit fuel d _).trans (scanned ends)

theorem text_scans {t : Quoted} {cs : List Char} (spelled : SpellsQuoted t cs) :
    Scans (.value (.text t)) cs := by
  obtain ⟨inside, rfl, scanned⟩ := scanQuoted_spelled spelled
  refine .of_first rfl (by decide) ?_
  intro fuel rest _ _
  have opened : scanValue (fuel + 1) ('"' :: (inside ++ '"' :: rest)) =
      (.text (scanQuoted (inside ++ '"' :: rest)).1, (scanQuoted (inside ++ '"' :: rest)).2) := rfl
  rw [List.append_assoc]
  exact opened.trans (by rw [scanned])

theorem padded_scans {node : Node} {a b cs : List Char} (before : Blank a) (behind : Blank b)
    (value : Scans (.value node) cs) : Scans (.padded node) (a ++ (cs ++ b)) := by
  obtain ⟨leads, scanned⟩ := value
  refine ⟨(leads.append b).behind before, ?_⟩
  intro fuel rest enough ends
  rw [List.length_append, List.length_append] at enough
  refine ⟨b ++ rest, ?_, skipSpaces_append behind rest⟩
  rw [List.append_assoc, List.append_assoc, scanValue_blank before]
  exact scanned fuel (b ++ rest) (by omega) (ends.behind behind)

theorem Scans.before {node : Node} {cs : List Char} (value : Scans (.padded node) cs) {c : Char}
    (aside : digit? c = none ∧ c ≠ '.' ∧ c ≠ 'e' ∧ c ≠ 'E') (solid : isSpace c = false)
    (fuel : Nat) (enough : 2 * cs.length ≤ fuel) (rest : List Char) :
    ∃ left, scanValue fuel (cs ++ c :: rest) = (node, some left) ∧ skipSpaces left = c :: rest := by
  obtain ⟨_, scanned⟩ := value
  obtain ⟨left, value, skipped⟩ := scanned fuel (c :: rest) enough (ends_of_first rest aside)
  exact ⟨left, value, skipped.trans (skipSpaces_cons solid rest)⟩

theorem scanValue_list {fuel : Nat} {cs more : List Char} {c : Char}
    (skipped : skipSpaces cs = c :: more) (inside : c ≠ ']') :
    scanValue (fuel + 1) ('[' :: cs) =
      (.list (scanItems fuel cs).1 (endingBreak (scanItems fuel cs).2),
        restOf (scanItems fuel cs).2) := by
  have start : skipSpaces ('[' :: cs) = '[' :: cs := skipSpaces_cons rfl cs
  rw [← scanItems_skip, skipped]
  simp only [scanValue, start, skipped]
  split
  · rename_i empty
    cases empty
  · rename_i closing
    cases closing
    exact (inside rfl).elim
  · rfl

theorem scanItems_last {fuel : Nat} {cs left rest : List Char} {item : Node}
    (scanned : scanValue fuel cs = (item, some left)) (closing : skipSpaces left = ']' :: rest) :
    scanItems (fuel + 1) cs = ([item], .ok rest) := by
  simp only [scanItems, scanned, closing]

theorem scanItems_more {fuel : Nat} {cs left rest : List Char} {item : Node}
    (scanned : scanValue fuel cs = (item, some left)) (comma : skipSpaces left = ',' :: rest) :
    scanItems (fuel + 1) cs = (item :: (scanItems fuel rest).1, (scanItems fuel rest).2) := by
  simp only [scanItems, scanned, comma]

theorem emptyList_scans {a : List Char} (blank : Blank a) :
    Scans (.value (.list [] none)) ('[' :: (a ++ [']'])) := by
  refine .of_first rfl (by decide) ?_
  intro fuel rest _ _
  have start : skipSpaces ('[' :: (a ++ ']' :: rest)) = _ := skipSpaces_cons rfl _
  have closing : skipSpaces (a ++ ']' :: rest) = ']' :: rest := skipSpaces_behind blank rfl rest
  rw [List.append_assoc]
  change scanValue (fuel + 1) ('[' :: (a ++ ']' :: rest)) = _
  simp only [scanValue, start, closing]

theorem list_scans {items : List Node} {cs : List Char} (inside : Scans (.items items) cs) :
    Scans (.value (.list items none)) ('[' :: (cs ++ [']'])) := by
  obtain ⟨leads, scanned⟩ := inside
  refine .of_first rfl (by decide) ?_
  intro fuel rest enough _
  rw [List.length_append, List.length_singleton] at enough
  have items := scanned fuel rest (by omega)
  obtain ⟨c, more, skipped, other⟩ := (leads.append (']' :: rest)).skip
  rw [List.append_assoc]
  exact (scanValue_list skipped other).trans (by rw [items]; rfl)

theorem lastItem_scans {node : Node} {cs : List Char} (value : Scans (.padded node) cs) :
    Scans (.items [node]) cs := by
  refine ⟨value.1, ?_⟩
  intro fuel rest enough
  obtain ⟨fuel, rfl⟩ := Nat.exists_eq_add_of_le' (show 1 ≤ fuel by omega)
  obtain ⟨left, scanned, closing⟩ := value.before (c := ']') (by decide) rfl fuel (by omega) rest
  exact scanItems_last scanned closing

theorem item_scans {node : Node} {items : List Node} {cs ds : List Char}
    (value : Scans (.padded node) cs) (more : Scans (.items items) ds) :
    Scans (.items (node :: items)) (cs ++ ',' :: ds) := by
  refine ⟨value.1.append _, ?_⟩
  intro fuel rest enough
  rw [List.length_append, List.length_cons] at enough
  obtain ⟨fuel, rfl⟩ := Nat.exists_eq_add_of_le' (show 1 ≤ fuel by omega)
  have behind := more.2 fuel rest (by omega)
  obtain ⟨left, scanned, comma⟩ :=
    value.before (c := ',') (by decide) rfl fuel (by omega) (ds ++ ']' :: rest)
  rw [List.append_assoc, List.cons_append, scanItems_more scanned comma, behind]

theorem scanValue_record {fuel : Nat} {cs more : List Char}
    (skipped : skipSpaces cs = '"' :: more) :
    scanValue (fuel + 1) ('\x7b' :: cs) =
      (.record (scanFields fuel more).1 (endingBreak (scanFields fuel more).2),
        restOf (scanFields fuel more).2) := by
  have start : skipSpaces ('\x7b' :: cs) = '\x7b' :: cs := skipSpaces_cons rfl cs
  simp only [scanValue, start, skipped]

theorem emptyRecord_scans {a : List Char} (blank : Blank a) :
    Scans (.value (.record [] none)) ('\x7b' :: (a ++ ['\x7d'])) := by
  refine .of_first rfl (by decide) ?_
  intro fuel rest _ _
  have start : skipSpaces ('\x7b' :: (a ++ '\x7d' :: rest)) = _ := skipSpaces_cons rfl _
  have closing : skipSpaces (a ++ '\x7d' :: rest) = '\x7d' :: rest :=
    skipSpaces_behind blank rfl rest
  rw [List.append_assoc]
  change scanValue (fuel + 1) ('\x7b' :: (a ++ '\x7d' :: rest)) = _
  simp only [scanValue, start, closing]

theorem record_scans {fields : List (Quoted × Node)} {cs : List Char}
    (inside : Scans (.fields fields) cs) :
    Scans (.value (.record fields none)) ('\x7b' :: (cs ++ ['\x7d'])) := by
  obtain ⟨tail, skipped, scanned⟩ := inside
  refine .of_first rfl (by decide) ?_
  intro fuel rest enough _
  rw [List.length_append, List.length_singleton] at enough
  have fields := scanned fuel rest (by omega)
  rw [List.append_assoc]
  exact (scanValue_record (skipped ('\x7d' :: rest))).trans (by rw [fields]; rfl)

section Fields

variable {fuel : Nat} {cs named colon left rest next : List Char} {key : Quoted} {value : Node}

theorem scanFields_last (quoted : scanQuoted cs = (key, some named))
    (separated : skipSpaces named = ':' :: colon)
    (scanned : scanValue fuel colon = (value, some left))
    (closing : skipSpaces left = '\x7d' :: rest) :
    scanFields (fuel + 1) cs = ([(key, value)], .ok rest) := by
  simp only [scanFields, quoted, separated, scanned, closing]

theorem scanFields_more (quoted : scanQuoted cs = (key, some named))
    (separated : skipSpaces named = ':' :: colon)
    (scanned : scanValue fuel colon = (value, some left))
    (comma : skipSpaces left = ',' :: rest) (opened : skipSpaces rest = '"' :: next) :
    scanFields (fuel + 1) cs =
      ((key, value) :: (scanFields fuel next).1, (scanFields fuel next).2) := by
  simp only [scanFields, quoted, separated, scanned, comma, opened]

end Fields

theorem opening_quote {a : List Char} (before : Blank a) (inside behind rest : List Char) :
    skipSpaces (a ++ ('"' :: (inside ++ ['"']) ++ behind) ++ rest) =
      '"' :: (inside ++ '"' :: behind ++ rest) := by
  rw [List.append_assoc, skipSpaces_append before]
  simp [skipSpaces_cons (c := '"') rfl]

section

variable {key : Quoted} {node : Node} {fields : List (Quoted × Node)} {a b ks cs ds : List Char}

theorem lastField_scans (before : Blank a) (named : SpellsQuoted key ks) (behind : Blank b)
    (value : Scans (.padded node) cs) :
    Scans (.fields [(key, node)]) (a ++ (ks ++ (b ++ ':' :: cs))) := by
  obtain ⟨inside, rfl, quoted⟩ := scanQuoted_spelled named
  refine ⟨inside ++ '"' :: (b ++ ':' :: cs), opening_quote before inside _, ?_⟩
  intro fuel rest enough
  simp only [List.length_append, List.length_cons] at enough
  obtain ⟨fuel, rfl⟩ := Nat.exists_eq_add_of_le' (show 1 ≤ fuel by omega)
  obtain ⟨left, scanned, closing⟩ := value.before (c := '\x7d') (by decide) rfl fuel (by omega) rest
  rw [List.append_assoc, List.cons_append, List.append_assoc, List.cons_append]
  exact scanFields_last (quoted _) (skipSpaces_behind behind rfl _) scanned closing

theorem field_scans (before : Blank a) (named : SpellsQuoted key ks) (behind : Blank b)
    (value : Scans (.padded node) cs) (more : Scans (.fields fields) ds) :
    Scans (.fields ((key, node) :: fields)) (a ++ (ks ++ (b ++ ':' :: (cs ++ ',' :: ds)))) := by
  obtain ⟨next, opened, later⟩ := more
  obtain ⟨inside, rfl, quoted⟩ := scanQuoted_spelled named
  refine ⟨inside ++ '"' :: (b ++ ':' :: (cs ++ ',' :: ds)), opening_quote before inside _, ?_⟩
  intro fuel rest enough
  simp only [List.length_append, List.length_cons] at enough
  obtain ⟨fuel, rfl⟩ := Nat.exists_eq_add_of_le' (show 1 ≤ fuel by omega)
  obtain ⟨left, scanned, comma⟩ :=
    value.before (c := ',') (by decide) rfl fuel (by omega) (ds ++ '\x7d' :: rest)
  rw [List.append_assoc, List.cons_append, List.append_assoc, List.cons_append,
    List.append_assoc, List.cons_append]
  rw [scanFields_more (quoted _) (skipSpaces_behind behind rfl _) scanned comma (opened _),
    later fuel rest (by omega)]

end

/-- Every text of a phrase is scanned as what it spells. -/
theorem Spells.scans {phrase : Phrase} {cs : List Char} (spelled : Spells phrase cs) :
    Scans phrase cs := by
  induction spelled with
  | null => exact .of_first rfl (by decide) fun _ _ _ _ => rfl
  | yes => exact .of_first rfl (by decide) fun _ _ _ _ => rfl
  | no => exact .of_first rfl (by decide) fun _ _ _ _ => rfl
  | number spelled => exact numeral_scans spelled
  | text spelled => exact text_scans spelled
  | emptyList blank => exact emptyList_scans blank
  | list _ ih => exact list_scans ih
  | emptyRecord blank => exact emptyRecord_scans blank
  | record _ ih => exact record_scans ih
  | padded before behind _ ih => exact padded_scans before behind ih
  | lastItem _ ih => exact lastItem_scans ih
  | item _ _ ih ih' => exact item_scans ih ih'
  | lastField before named behind _ ih => exact lastField_scans before named behind ih
  | field before named behind _ _ ih ih' => exact field_scans before named behind ih ih'

theorem IsDocument.ofText {node : Node} {s : String} (document : IsDocument node s) :
    Document.ofText s = ⟨node, false⟩ := by
  obtain ⟨_, scanned⟩ := Spells.scans document
  obtain ⟨left, value, skipped⟩ := scanned (2 * s.toList.length + 2) [] (by omega) nofun
  rw [List.append_nil] at value
  unfold Document.ofText
  simp only [value, skipped]
  rfl

end MeterHub.Json
