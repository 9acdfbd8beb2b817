import MeterHub.Json.Value
import MeterHub.Proofs.Json.Grammar

/-!
Written values are texts of the grammar: both written forms of a value spell the same node, which
holds the same data.
-/

set_option autoImplicit false
set_option relaxedAutoImplicit false

namespace MeterHub.Json

mutual

/-- The node that the written forms of a value spell. -/
def Value.node : Value → Node
  | .null => .null
  | .bool b => .bool b
  | .number n => .number n
  | .text s => .text ⟨.ok s, none⟩
  | .list items => .list (nodes items) none
  | .record fields => .record (fieldNodes fields) none

def nodes : List Value → List Node
  | [] => []
  | item :: items => item.node :: nodes items

def fieldNodes : List (String × Value) → List (Quoted × Node)
  | [] => []
  | (key, value) :: fields => (⟨.ok key, none⟩, value.node) :: fieldNodes fields

end

theorem nodes_eq_map (items : List Value) : nodes items = items.map Value.node := by
  induction items with
  | nil => rfl
  | cons item items ih =>
    rw [nodes, ih]
    rfl

theorem join_unit {u : Nat} (single : u < 0xD800) (atEnd : Break) (gs : List Glyph) :
    join atEnd (.unit u :: gs) = (join atEnd gs).map (Char.ofNat u :: ·) := by
  have leads : leads u = false := by
    simp [Json.leads]
    omega
  have trails : trails u = false := by
    simp [Json.trails]
    omega
  cases gs with
  | nil => simp [join, leads, trails]; rfl
  | cons g gs => cases g <;> simp [join, leads, trails]

theorem unit?_control : ∀ n < 0x20,
    unit? '0' '0' (hexChar (n / 16)) (hexChar (n % 16)) = some n := by decide

theorem escapeChar_spells (c : Char) {gs : List Glyph} {cs s : List Char}
    (spelled : SpellsGlyphs gs cs) (joined : join .malformed gs = .ok s) :
    ∃ gs', SpellsGlyphs gs' (escapeChar c ++ cs) ∧ join .malformed gs' = .ok (c :: s) := by
  have plain : join .malformed (.plain c :: gs) = .ok (c :: s) := by
    rw [join, joined]
    rfl
  have escaped {e : Char} (escaped : escaped? e = some c) :
      ∃ gs', SpellsGlyphs gs' ('\\' :: e :: cs) ∧ join .malformed gs' = .ok (c :: s) :=
    ⟨_, .escape escaped spelled, plain⟩
  by_cases letter : c = '"' ∨ c = '\\' ∨ c = '\x08' ∨ c = '\t' ∨ c = '\n' ∨ c = '\x0c' ∨ c = '\r'
  · rcases letter with rfl | rfl | rfl | rfl | rfl | rfl | rfl
    all_goals exact escaped rfl
  · simp only [not_or] at letter
    have quote : c ≠ '"' := letter.1
    have backslash : c ≠ '\\' := letter.2.1
    simp only [escapeChar, letter, if_false]
    split
    · rename_i control
      refine ⟨.unit c.toNat :: gs, .unit (unit?_control c.toNat control) spelled, ?_⟩
      rw [join_unit (by omega), joined, Char.ofNat_toNat]
      rfl
    · rename_i printable
      exact ⟨_, .plain (Nat.not_lt.mp printable) quote backslash spelled, plain⟩

theorem quoteChars_spells (s : String) : SpellsQuoted ⟨.ok s, none⟩ (quoteChars s) := by
  have glyphs (cs : List Char) :
      ∃ gs, SpellsGlyphs gs (cs.flatMap escapeChar) ∧ join .malformed gs = .ok cs := by
    induction cs with
    | nil => exact ⟨[], .nil, rfl⟩
    | cons c cs ih =>
      obtain ⟨gs, spelled, joined⟩ := ih
      exact escapeChar_spells c spelled joined
  obtain ⟨gs, spelled, joined⟩ := glyphs s.toList
  have quoted := SpellsQuoted.mk spelled
  rw [joined] at quoted
  change SpellsQuoted ⟨.ok (String.ofList s.toList), none⟩ _ at quoted
  rw [String.ofList_toList] at quoted
  exact quoted

theorem digitChar_val : ∀ d : Fin 10, Nat.digitChar d.val = Numeral.digitChar d := by decide

theorem ofDigits_concat (digits : List (Fin 10)) (d : Fin 10) :
    ofDigits (digits ++ [d]) = 10 * ofDigits digits + d.val := by
  unfold ofDigits
  rw [List.foldl_append]
  rfl

theorem toDigits_spelled (n : Nat) :
    ∃ digits, Nat.toDigits 10 n = digitChars digits ∧ IsWhole digits ∧ ofDigits digits = n := by
  induction n using Nat.strongRecOn with
  | _ n ih =>
    by_cases small : n < 10
    · refine ⟨[⟨n, small⟩], ?_, ⟨List.cons_ne_nil _ _, ?_⟩, ?_⟩
      · rw [Nat.toDigits_of_lt_base small]
        exact congrArg (fun c => [c]) (digitChar_val ⟨n, small⟩)
      · intro rest same
        exact (List.cons.inj same).2.symm
      · change 10 * 0 + n = n
        omega
    · have large : 10 ≤ n := Nat.not_lt.mp small
      obtain ⟨digits, written, whole, value⟩ := ih (n / 10) (by omega)
      have last : n % 10 < 10 := Nat.mod_lt n (by decide)
      refine ⟨digits ++ [⟨n % 10, last⟩], ?_, ⟨by simp, ?_⟩, ?_⟩
      · rw [Nat.toDigits_of_base_le (by decide) large, written]
        unfold digitChars
        rw [List.map_append]
        exact congrArg (fun c => _ ++ [c]) (digitChar_val ⟨n % 10, last⟩)
      · intro rest same
        obtain ⟨first, more, rfl⟩ := List.exists_cons_of_ne_nil whole.some_digit
        obtain ⟨rfl, _⟩ := List.cons.inj same
        rw [whole.leading more rfl] at value
        change 0 = n / 10 at value
        omega
      · rw [ofDigits_concat, value]
        exact Nat.div_add_mod n 10

theorem exponent_spells (e : Int) :
    SpellsExponent (some e)
      ('e' :: ((if e < 0 then ['-'] else []) ++ Nat.toDigits 10 e.natAbs)) := by
  obtain ⟨digits, written, isWhole, value⟩ := toDigits_spelled e.natAbs
  rw [written]
  by_cases negative : e < 0
  · have spelled := SpellsExponent.negative (.inl rfl) isWhole.some_digit
    rw [value, show -(e.natAbs : Int) = e by omega] at spelled
    rw [if_pos negative]
    exact spelled
  · have spelled := SpellsExponent.unsigned (.inl rfl) isWhole.some_digit
    rw [value, show (e.natAbs : Int) = e by omega] at spelled
    rw [if_neg negative]
    exact spelled

theorem numeral_spells (n : Numeral) : SpellsNumeral n n.chars := by
  obtain ⟨negative, whole, fraction, exponent⟩ := n
  obtain ⟨digits, written, isWhole, rfl⟩ := toDigits_spelled whole
  have fractional : SpellsFraction fraction
      (if fraction.isEmpty then [] else '.' :: fraction.map Numeral.digitChar) := by
    cases fraction with
    | nil => exact .absent
    | cons d ds => exact .present (List.cons_ne_nil d ds)
  unfold Numeral.chars
  rw [written, List.append_assoc, List.append_assoc]
  cases exponent with
  | none => exact .mk isWhole fractional .absent
  | some e => exact .mk isWhole fractional (exponent_spells e)

mutual

/-- The written form of a value that starts at a depth, with a line break where lines end and a gap
before each value of a field. -/
def Value.laidOut (line : Nat → List Char) (gap : List Char) (depth : Nat) : Value → List Char
  | .null => ['n', 'u', 'l', 'l']
  | .bool true => ['t', 'r', 'u', 'e']
  | .bool false => ['f', 'a', 'l', 's', 'e']
  | .number n => n.chars
  | .text s => quoteChars s
  | .list [] => ['[', ']']
  | .list (item :: items) =>
    '[' :: (line (depth + 1) ++ item.laidOut line gap (depth + 1) ++
      itemsLaidOut line gap (depth + 1) items ++ line depth ++ [']'])
  | .record [] => ['\x7b', '\x7d']
  | .record ((key, value) :: fields) =>
    '\x7b' :: (line (depth + 1) ++ quoteChars key ++ ':' :: (gap ++
      value.laidOut line gap (depth + 1)) ++ fieldsLaidOut line gap (depth + 1) fields ++
      line depth ++ ['\x7d'])

def itemsLaidOut (line : Nat → List Char) (gap : List Char) (depth : Nat) : List Value → List Char
  | [] => []
  | item :: items =>
    ',' :: (line depth ++ item.laidOut line gap depth ++ itemsLaidOut line gap depth items)

def fieldsLaidOut (line : Nat → List Char) (gap : List Char) (depth : Nat) :
    List (String × Value) → List Char
  | [] => []
  | (key, value) :: fields =>
    ',' :: (line depth ++ quoteChars key ++ ':' :: (gap ++ value.laidOut line gap depth) ++
      fieldsLaidOut line gap depth fields)

end

mutual

theorem compactChars_eq (depth : Nat) : (v : Value) →
    v.compactChars = v.laidOut (fun _ => []) [] depth
  | .null => rfl
  | .bool true => rfl
  | .bool false => rfl
  | .number n => rfl
  | .text s => rfl
  | .list [] => rfl
  | .list (item :: items) => by
    rw [Value.compactChars, Value.laidOut, compactChars_eq (depth + 1) item,
      compactItems_eq (depth + 1) items]
    simp
  | .record [] => rfl
  | .record ((key, value) :: fields) => by
    rw [Value.compactChars, Value.laidOut, compactChars_eq (depth + 1) value,
      compactFields_eq (depth + 1) fields]
    simp

theorem compactItems_eq (depth : Nat) : (items : List Value) →
    compactItems items = itemsLaidOut (fun _ => []) [] depth items
  | [] => rfl
  | item :: items => by
    rw [compactItems, itemsLaidOut, compactChars_eq depth item, compactItems_eq depth items]
    simp

theorem compactFields_eq (depth : Nat) : (fields : List (String × Value)) →
    compactFields fields = fieldsLaidOut (fun _ => []) [] depth fields
  | [] => rfl
  | (key, value) :: fields => by
    rw [compactFields, fieldsLaidOut, compactChars_eq depth value, compactFields_eq depth fields]
    simp

end

mutual

theorem indentedChars_eq (depth : Nat) : (v : Value) →
    v.indentedChars depth = v.laidOut lineAt [' '] depth
  | .null => rfl
  | .bool true => rfl
  | .bool false => rfl
  | .number n => rfl
  | .text s => rfl
  | .list [] => rfl
  | .list (item :: items) => by
    rw [Value.indentedChars, Value.laidOut, indentedChars_eq (depth + 1) item,
      indentedItems_eq (depth + 1) items]
    simp
  | .record [] => rfl
  | .record ((key, value) :: fields) => by
    rw [Value.indentedChars, Value.laidOut, indentedChars_eq (depth + 1) value,
      indentedFields_eq (depth + 1) fields]
    simp

theorem indentedItems_eq (depth : Nat) : (items : List Value) →
    indentedItems depth items = itemsLaidOut lineAt [' '] depth items
  | [] => rfl
  | item :: items => by
    rw [indentedItems, itemsLaidOut, indentedChars_eq depth item, indentedItems_eq depth items]
    simp

theorem indentedFields_eq (depth : Nat) : (fields : List (String × Value)) →
    indentedFields depth fields = fieldsLaidOut lineAt [' '] depth fields
  | [] => rfl
  | (key, value) :: fields => by
    rw [indentedFields, fieldsLaidOut, indentedChars_eq depth value,
      indentedFields_eq depth fields]
    simp

end

theorem lineAt_blank (depth : Nat) : Blank (lineAt depth) := by
  refine List.forall_mem_cons.mpr ⟨rfl, ?_⟩
  intro c member
  rw [List.eq_of_mem_replicate member]
  rfl

section LaidOut

variable {line : Nat → List Char} {gap : List Char}

mutual

theorem Value.laidOut_spells (lines : ∀ depth, Blank (line depth)) (gaps : Blank gap)
    (depth : Nat) : (v : Value) → Spells (.value v.node) (v.laidOut line gap depth)
  | .null => .null
  | .bool true => .yes
  | .bool false => .no
  | .number n => .number (numeral_spells n)
  | .text s => .text (quoteChars_spells s)
  | .list [] => .emptyList .nil
  | .list (item :: items) => by
    have first := item.laidOut_spells lines gaps (depth + 1)
    have all := itemsLaidOut_spells lines gaps (depth + 1) (lines depth) items
      (lines (depth + 1)) first
    rw [Value.node, nodes, Value.laidOut]
    exact .list all
  | .record [] => .emptyRecord .nil
  | .record ((key, value) :: fields) => by
    have first := value.laidOut_spells lines gaps (depth + 1)
    have all := fieldsLaidOut_spells lines gaps (depth + 1) (lines depth) fields
      (lines (depth + 1)) key first
    rw [Value.node, fieldNodes, Value.laidOut]
    exact .record all

-- What stands before the first element or field, and behind the last, comes with the list or record
-- around it, so the first one is given apart from the others.
theorem itemsLaidOut_spells (lines : ∀ depth, Blank (line depth)) (gaps : Blank gap) (depth : Nat)
    {b : List Char} (behind : Blank b) : (items : List Value) → {node : Node} →
    {a cs : List Char} → Blank a → Spells (.value node) cs →
    Spells (.items (node :: nodes items)) (a ++ cs ++ itemsLaidOut line gap depth items ++ b)
  | [], _, _, _, before, first => by
    have last := Spells.lastItem (.padded before behind first)
    simpa [nodes, itemsLaidOut] using last
  | item :: items, _, _, _, before, first => by
    have next := item.laidOut_spells lines gaps depth
    have rest := itemsLaidOut_spells lines gaps depth behind items (lines depth) next
    have all := Spells.item (.padded before .nil first) rest
    simpa [nodes, itemsLaidOut] using all

theorem fieldsLaidOut_spells (lines : ∀ depth, Blank (line depth)) (gaps : Blank gap) (depth : Nat)
    {b : List Char} (behind : Blank b) : (fields : List (String × Value)) → {node : Node} →
    {a cs : List Char} → Blank a → (key : String) → Spells (.value node) cs →
    Spells (.fields ((⟨.ok key, none⟩, node) :: fieldNodes fields))
      (a ++ quoteChars key ++ ':' :: (gap ++ cs) ++ fieldsLaidOut line gap depth fields ++ b)
  | [], _, _, _, before, key, first => by
    have last := Spells.lastField before (quoteChars_spells key) .nil (.padded gaps behind first)
    simpa [fieldNodes, fieldsLaidOut] using last
  | (key', value) :: fields, _, _, _, before, key, first => by
    have next := value.laidOut_spells lines gaps depth
    have rest := fieldsLaidOut_spells lines gaps depth behind fields (lines depth) key' next
    have all := Spells.field before (quoteChars_spells key) .nil (.padded gaps .nil first) rest
    simpa [fieldNodes, fieldsLaidOut] using all

end

end LaidOut

theorem Value.isDocument (v : Value) :
    IsDocument v.node v.compact ∧ IsDocument v.node v.indented := by
  have padded {cs : List Char} (spelled : Spells (.value v.node) cs) :
      IsDocument v.node (String.ofList cs) := by
    have whole := Spells.padded .nil .nil spelled
    simpa [IsDocument] using whole
  refine ⟨padded ?_, padded ?_⟩
  · rw [compactChars_eq 0]
    exact v.laidOut_spells (fun _ => .nil) .nil 0
  · rw [indentedChars_eq]
    exact v.laidOut_spells lineAt_blank (List.forall_mem_singleton.mpr rfl) 0

end MeterHub.Json
