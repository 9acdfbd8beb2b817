import MeterHub.Json.Decode
import MeterHub.Proofs.Json.Printing
import MeterHub.Proofs.Json.Scanning

/-!
Reading documents. What a document is read as depends on the node that it spells alone, and whatever
is spelled can be skipped.
-/

set_option autoImplicit false
set_option relaxedAutoImplicit false

namespace MeterHub.Json

theorem Reading.bind_ok {α β : Type} {reading : Reading α} {a : α} (given : reading = .ok a)
    (next : α → Reading β) : reading >>= next = next a := by
  rw [given]
  rfl

theorem Reading.of_bind_ok {α β : Type} {reading : Reading α} {next : α → Reading β} {b : β}
    (given : reading >>= next = .ok b) : ∃ a, reading = .ok a ∧ next a = .ok b := by
  cases reading with
  | ok a => exact ⟨a, rfl, given⟩
  | error problem => cases given

theorem IsDocument.read_eq {α : Type} {node : Node} {s : String} (document : IsDocument node s)
    (read : Node → Reading α) : readDocument read s = read node := by
  unfold readDocument
  rw [document.ofText]
  dsimp only
  cases read node <;> rfl

/-- A phrase can be skipped. -/
def Skips : Phrase → Prop
  | .value node | .padded node => node.skip = .ok ()
  | .items items => skipItems items = .ok ()
  | .fields fields => skipFields fields = .ok ()

theorem SpellsQuoted.skip {t : Quoted} {cs : List Char} (spelled : SpellsQuoted t cs) :
    t.skip = .ok () := by
  cases spelled
  rfl

theorem Spells.skips {phrase : Phrase} {cs : List Char} (spelled : Spells phrase cs) :
    Skips phrase := by
  induction spelled with
  | null => rfl
  | yes => rfl
  | no => rfl
  | number spelled => rfl
  | text spelled => exact spelled.skip
  | emptyList blank => rfl
  | emptyRecord blank => rfl
  | @list items cs _ ih =>
    change skipItems items = .ok () at ih
    change Node.skip (.list items none) = _
    rw [Node.skip, ih]
    rfl
  | @record fields cs _ ih =>
    change skipFields fields = .ok () at ih
    change Node.skip (.record fields none) = _
    rw [Node.skip, ih]
    rfl
  | padded before behind _ ih => exact ih
  | @lastItem node cs _ ih =>
    change node.skip = .ok () at ih
    change skipItems [node] = _
    rw [skipItems, ih]
    rfl
  | @item node items cs ds _ _ ih ih' =>
    change node.skip = .ok () at ih
    change skipItems (node :: items) = _
    rw [skipItems, ih]
    exact ih'
  | @lastField key node a b ks cs before named behind _ ih =>
    change node.skip = .ok () at ih
    change skipFields [(key, node)] = _
    rw [skipFields, named.skip, ih]
    rfl
  | @field key node fields a b ks cs ds before named behind _ _ ih ih' =>
    change node.skip = .ok () at ih
    change skipFields ((key, node) :: fields) = _
    rw [skipFields, named.skip, ih]
    exact ih'

theorem skip_of_mem {fields : List (Quoted × Node)} (skipped : skipFields fields = .ok ())
    {field : Quoted × Node} (member : field ∈ fields) : field.2.skip = .ok () := by
  induction fields with
  | nil => cases member
  | cons first fields ih =>
    obtain ⟨key, value⟩ := first
    rw [skipFields] at skipped
    obtain ⟨_, _, skipped⟩ := Reading.of_bind_ok skipped
    obtain ⟨_, valued, skipped⟩ := Reading.of_bind_ok skipped
    rcases List.mem_cons.mp member with rfl | later
    · exact valued
    · exact ih skipped later

theorem IsDocument.skip_field {fields : List (Quoted × Node)} {s : String}
    (document : IsDocument (.record fields none) s) {field : Quoted × Node}
    (member : field ∈ fields) : field.2.skip = .ok () := by
  have skipped : Node.skip (.record fields none) = .ok () := Spells.skips document
  rw [Node.skip] at skipped
  obtain ⟨_, inside, _⟩ := Reading.of_bind_ok skipped
  exact skip_of_mem inside member

theorem toListOf_list {α : Type} {write : α → Value} {read : Node → Reading α}
    (reads : ∀ a, read (write a).node = .ok a) (as : List α) :
    (Value.list (as.map write)).node.toListOf read = .ok as := by
  have items : (as.map fun a => (write a).node).mapM read = .ok as := by
    induction as with
    | nil => rfl
    | cons a as ih =>
      rw [List.map_cons, List.mapM_cons, reads a, ih]
      rfl
  rw [Value.node, nodes_eq_map, List.map_map]
  exact Reading.bind_ok items _

theorem toNatBelow_nat {n limit : Nat} (below : n < limit) (fits : limit ≤ UInt64.size)
    (wanted : String) : (Value.nat n).node.toNatBelow limit wanted = .ok n := by
  have small : n < UInt64.size := Nat.lt_of_lt_of_le below fits
  have quantity : (Numeral.ofNat n).quantity? = some (.integer n) := by
    simp [Numeral.quantity?, Numeral.ofNat, small]
  change Node.toNatBelow limit wanted (.number (.ofNat n)) = _
  simp only [Node.toNatBelow, quantity]
  exact if_pos below

namespace Shape

variable {δ α : Type} {shape : Shape δ α}

theorem step_column {key : Quoted} {name : String} {node : Node} {draft draft' : δ}
    {column : Column δ} (named : key.read = .ok name)
    (found : shape.columns.find? (fun column => column.name == name) = some column)
    (empty : column.isFilled draft = false) (filled : column.fill node draft = .ok draft') :
    shape.step draft (key, node) = .ok draft' := by
  have key_eq : key.toReading = .ok name := by
    unfold Quoted.toReading
    rw [named]
  unfold step
  rw [Reading.bind_ok key_eq]
  simp only [found, empty]
  exact filled

theorem step_other {key : Quoted} {name : String} {node : Node} (draft : δ)
    (named : key.read = .ok name)
    (absent : shape.columns.find? (fun column => column.name == name) = none)
    (lenient : shape.refusesOthers = false) (skipped : node.skip = .ok ()) :
    shape.step draft (key, node) = .ok draft := by
  have key_eq : key.toReading = .ok name := by
    unfold Quoted.toReading
    rw [named]
  unfold step
  rw [Reading.bind_ok key_eq]
  simp only [absent, lenient]
  exact Reading.bind_ok skipped _

theorem fold_nil (draft : δ) : [].foldlM shape.step draft = .ok draft := rfl

theorem fold_cons {field : Quoted × Node} {fields : List (Quoted × Node)} {draft draft' last : δ}
    (first : shape.step draft field = .ok draft')
    (rest : fields.foldlM shape.step draft' = .ok last) :
    (field :: fields).foldlM shape.step draft = .ok last := by
  rw [List.foldlM_cons, Reading.bind_ok first]
  exact rest

theorem fold_induct {P : δ → Prop} {fields : List (Quoted × Node)} {draft last : δ}
    (keeps : ∀ field ∈ fields, ∀ draft draft', P draft → shape.step draft field = .ok draft' →
      P draft')
    (start : P draft) (folded : fields.foldlM shape.step draft = .ok last) : P last := by
  induction fields generalizing draft with
  | nil =>
    cases folded
    exact start
  | cons field fields ih =>
    rw [List.foldlM_cons] at folded
    obtain ⟨between, stepped, folded⟩ := Reading.of_bind_ok folded
    refine ih (fun other member => keeps other (List.mem_cons_of_mem _ member)) ?_ folded
    exact keeps field List.mem_cons_self draft between start stepped

theorem step_cases {draft draft' : δ} {field : Quoted × Node}
    (stepped : shape.step draft field = .ok draft') :
    (∃ column ∈ shape.columns, field.1.read = .ok column.name ∧
      column.fill field.2 draft = .ok draft') ∨ draft' = draft := by
  unfold step at stepped
  obtain ⟨name, key, stepped⟩ := Reading.of_bind_ok stepped
  have named : field.1.read = .ok name := by
    unfold Quoted.toReading at key
    split at key <;> cases key
    assumption
  split at stepped
  · rename_i column found
    split at stepped
    · cases stepped
    · have same : column.name = name := by simpa using List.find?_some found
      exact .inl ⟨column, List.mem_of_find?_eq_some found, same ▸ named, stepped⟩
  · split at stepped
    · cases stepped
    · obtain ⟨_, _, kept⟩ := Reading.of_bind_ok stepped
      cases kept
      exact .inr rfl

theorem read_record {fields : List (Quoted × Node)} {draft : δ}
    (filled : fields.foldlM shape.step shape.blank = .ok draft) :
    shape.read (.record fields none) = shape.finish draft := by
  unfold read
  dsimp only
  rw [Reading.bind_ok filled]
  rfl

end Shape

end MeterHub.Json
