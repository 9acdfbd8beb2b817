import MeterHub.Config.Json
import MeterHub.Proofs.Json.RoundTrip

/-!
Configurations that are written and read back. A record may hold the members of a configuration in
any order and among fields of other names; a member that is left out takes its default value, which
for a missing mode is another one than for a mode of null.
-/

set_option autoImplicit false
set_option relaxedAutoImplicit false

namespace MeterHub

open Json

theorem Span.ofNode_toJson (d : Span) : Span.ofNode d.toJson.node = .ok d := by
  have secs : (Value.nat d.secs).node.toNatBelow UInt64.size "u64" = .ok d.secs :=
    toNatBelow_nat d.secs_lt (Nat.le_refl _) "u64"
  have nanos : (Value.nat d.nanos).node.toNatBelow UInt32.size "u32" = .ok d.nanos :=
    toNatBelow_nat (Nat.lt_trans d.nanos_lt (by decide)) (by decide) "u32"
  have finished : Span.shape.finish ⟨some d.secs, some d.nanos⟩ = .ok d := by
    have carried := Span.ofCarry?_parts d
    simp only [Span.shape, required, bind, Except.bind, carried]
    rfl
  refine (Shape.read_record ?_).trans finished
  refine Shape.fold_cons (Shape.step_column rfl rfl rfl (Reading.bind_ok secs _)) ?_
  refine Shape.fold_cons (Shape.step_column rfl rfl rfl (Reading.bind_ok nanos _)) ?_
  exact Shape.fold_nil _

theorem Mode.toOption_ofOption (mode? : Option Mode) :
    (Value.ofOption Mode.toJson mode?).node.toOption Mode.ofNode = .ok mode? := by
  rcases mode? with _ | (_ | _) <;> rfl

namespace Config

/-- The members of a configuration. -/
inductive Member
  | defaultMode
  | nativePorts
  | pollInterval
  | readTimeout
deriving DecidableEq

namespace Member

def all : List Member := [.defaultMode, .nativePorts, .pollInterval, .readTimeout]

def name : Member → String
  | .defaultMode => "default_mode"
  | .nativePorts => "native_ports"
  | .pollInterval => "poll_interval"
  | .readTimeout => "read_timeout"

/-- What a configuration has as a member, as it is written. -/
def value (c : Config) : Member → Value
  | .defaultMode => .ofOption Mode.toJson c.defaultMode
  | .nativePorts => .list (c.nativePorts.map .text)
  | .pollInterval => c.pollInterval.toJson
  | .readTimeout => c.readTimeout.toJson

end Member

theorem toJson_eq (c : Config) :
    c.toJson = .record (Member.all.map fun m => (m.name, m.value c)) := rfl

/-- The draft that has got some members of a configuration. -/
def Fields.of (c : Config) (ms : List Member) : Fields where
  defaultMode := if .defaultMode ∈ ms then some c.defaultMode else none
  nativePorts := if .nativePorts ∈ ms then some c.nativePorts else none
  pollInterval := if .pollInterval ∈ ms then some c.pollInterval else none
  readTimeout := if .readTimeout ∈ ms then some c.readTimeout else none

theorem step_member {c : Config} {ms : List Member} {m : Member} {key : Quoted}
    (named : key.read = .ok m.name) (once : m ∉ ms) :
    shape.step (.of c ms) (key, (m.value c).node) = .ok (.of c (ms ++ [m])) := by
  cases m with
  | defaultMode =>
    refine Shape.step_column named rfl (by simp [Fields.of, once]) ?_
    refine (Reading.bind_ok (Mode.toOption_ofOption c.defaultMode) _).trans ?_
    simp [Fields.of, pure, Except.pure]
  | nativePorts =>
    have names : (Value.list (c.nativePorts.map .text)).node.toListOf Node.toText =
        .ok c.nativePorts := toListOf_list (fun _ => rfl) c.nativePorts
    refine Shape.step_column named rfl (by simp [Fields.of, once]) ?_
    refine (Reading.bind_ok names _).trans ?_
    simp [Fields.of, pure, Except.pure]
  | pollInterval =>
    refine Shape.step_column named rfl (by simp [Fields.of, once]) ?_
    refine (Reading.bind_ok c.pollInterval.ofNode_toJson _).trans ?_
    simp [Fields.of, pure, Except.pure]
  | readTimeout =>
    refine Shape.step_column named rfl (by simp [Fields.of, once]) ?_
    refine (Reading.bind_ok c.readTimeout.ofNode_toJson _).trans ?_
    simp [Fields.of, pure, Except.pure]

/-- The fields of a record are some members of a configuration, each at most once, and fields of
other names. -/
inductive Holds (c : Config) : List (Quoted × Node) → List Member → Prop
  | nil : Holds c [] []
  | member {fields : List (Quoted × Node)} {ms : List Member} {m : Member} {key : Quoted}
      (named : key.read = .ok m.name) (once : m ∉ ms) (rest : Holds c fields ms) :
      Holds c ((key, (m.value c).node) :: fields) (m :: ms)
  | other {fields : List (Quoted × Node)} {ms : List Member} {name : String} {key : Quoted}
      {node : Node} (named : key.read = .ok name) (foreign : ∀ m : Member, m.name ≠ name)
      (rest : Holds c fields ms) :
      Holds c ((key, node) :: fields) ms

theorem Holds.fold {c : Config} {fields : List (Quoted × Node)} {ms done : List Member}
    (holds : Holds c fields ms) (skipped : ∀ field ∈ fields, field.2.skip = .ok ())
    (fresh : ∀ m ∈ ms, m ∉ done) :
    fields.foldlM shape.step (.of c done) = .ok (.of c (done ++ ms)) := by
  induction holds generalizing done with
  | nil =>
    rw [List.append_nil]
    exact Shape.fold_nil _
  | @member fields ms m key named once rest ih =>
    have later : ∀ m' ∈ ms, m' ∉ done ++ [m] := by
      intro m' listed
      have other : m' ≠ m := fun same => once (same ▸ listed)
      simp [other, fresh m' (List.mem_cons_of_mem _ listed)]
    refine Shape.fold_cons (step_member named (fresh m List.mem_cons_self)) ?_
    rw [ih (fun field listed => skipped field (List.mem_cons_of_mem _ listed)) later,
      List.append_assoc]
    rfl
  | @other fields ms name key node named foreign rest ih =>
    have absent : shape.columns.find? (fun column => column.name == name) = none := by
      refine List.find?_eq_none.mpr fun column listed => ?_
      have member : column.name ∈ Member.all.map Member.name := List.mem_map_of_mem listed
      obtain ⟨m, _, same⟩ := List.mem_map.mp member
      rw [← same, beq_iff_eq]
      exact foreign m
    refine Shape.fold_cons (Shape.step_other _ named absent rfl (skipped _ List.mem_cons_self)) ?_
    exact ih (fun field listed => skipped field (List.mem_cons_of_mem _ listed)) fresh

/-- The configuration with some members of another one and default values for the others. -/
def only (c : Config) (ms : List Member) : Config := ofFields (.of c ms)

theorem ofNode_holds {c : Config} {fields : List (Quoted × Node)} {ms : List Member}
    (holds : Holds c fields ms) (skipped : ∀ field ∈ fields, field.2.skip = .ok ()) :
    ofNode (.record fields none) = .ok (c.only ms) := by
  have folded : fields.foldlM shape.step (.of c []) = .ok (.of c ms) :=
    holds.fold skipped fun _ _ => List.not_mem_nil
  exact Shape.read_record folded

theorem ofNode_toJson (c : Config) : ofNode c.toJson.node = .ok c := by
  have holds : Holds c (fieldNodes (Member.all.map fun m => (m.name, m.value c))) Member.all :=
    .member rfl (by decide) <| .member rfl (by decide) <| .member rfl (by decide) <|
      .member rfl (by decide) .nil
  exact ofNode_holds holds fun _ listed => c.toJson.isDocument.1.skip_field listed

theorem eq_of_values {c d : Config} (same : ∀ m : Member, m.value c = m.value d) : c = d := by
  have written : c.toJson = d.toJson := by
    simp only [toJson_eq, same]
  have read := c.ofNode_toJson
  rw [written, d.ofNode_toJson] at read
  exact (Except.ok.inj read).symm

theorem value_only (c : Config) (ms : List Member) (m : Member) :
    m.value (c.only ms) = if m ∈ ms then m.value c else m.value {} := by
  split
  · rename_i kept
    cases m <;> simp [only, ofFields, Fields.of, Member.value, kept]
  · rename_i missing
    cases m <;> simp [only, ofFields, Fields.of, Member.value, missing]

theorem only_eq {c d : Config} {ms : List Member} (kept : ∀ m ∈ ms, m.value c = m.value d)
    (default : ∀ m, m ∉ ms → m.value d = m.value {}) : c.only ms = d := by
  -- member by member, and not column by column of the draft
  refine eq_of_values fun m => ?_
  rw [value_only]
  split
  · exact kept m ‹_›
  · exact (default m ‹_›).symm

theorem ofText_of_read {c : Config} {s : String} (read : readDocument ofNode s = .ok c)
    (valid : c.validate = .ok ()) : ofText s = .ok c := by
  simp only [ofText, parse, read, bind, Except.bind, valid]
  rfl

theorem ofText_holds {c d : Config} {s : String} {fields : List (Quoted × Node)} {ms : List Member}
    (document : IsDocument (.record fields none) s) (holds : Holds c fields ms)
    (only : c.only ms = d) (valid : d.validate = .ok ()) : ofText s = .ok d := by
  refine ofText_of_read ?_ valid
  rw [document.read_eq, ofNode_holds holds fun _ => document.skip_field, only]

/-- A configuration without a flaw is read back from both of its written forms, and from every
record of its members in any order, among fields of other names, that leaves out no other members
than those with default values. If the member that is left out is a mode of null, the configuration
that is read has the default mode instead. -/
theorem ofText_written {c : Config} (valid : c.validate = .ok ()) :
    ofText c.toJson.compact = .ok c ∧ ofText c.toJson.indented = .ok c ∧
      ∀ s fields ms, IsDocument (.record fields none) s → Holds c fields ms →
        ((∀ m, m ∉ ms → m.value c = m.value {}) → ofText s = .ok c) ∧
          (c.defaultMode = none → .defaultMode ∉ ms →
            (∀ m, m ∉ ms → m ≠ .defaultMode → m.value c = m.value {}) →
              ofText s = .ok { c with defaultMode := some .historic }) := by
  obtain ⟨compact, indented⟩ := ReadsBack.of_node c.ofNode_toJson
  refine ⟨ofText_of_read compact valid, ofText_of_read indented valid, ?_⟩
  intro s fields ms document holds
  refine ⟨fun default => ?_, fun modeless missing default => ?_⟩
  · exact ofText_holds document holds (only_eq (fun _ _ => rfl) default) valid
  · -- the record holds the same members of the configuration in the default mode
    refine ofText_holds document holds (only_eq ?_ ?_) valid
    · intro m listed
      cases m with
      | defaultMode => exact absurd listed missing
      | _ => rfl
    · intro m omitted
      cases m with
      | defaultMode => rfl
      | _ => exact default _ omitted (by decide)

/-- A mode of null, names with characters that are escaped and a span of the largest size, out of
order and next to a field of another name: read back with the mode, and in the default mode
without it. -/
theorem ofText_written_reordered :
    let longest : Span := ⟨UInt64.size - 1, 999999999, by decide, by decide⟩
    let c : Config := ⟨none, ["\"a\"\\\n", "é\x01"], longest, Config.defaultReadTimeout⟩
    let fields : List (String × Value) :=
      [("poll_interval", longest.toJson), ("site", .list [.null, .record [("", .nat 0)]]),
        ("native_ports", .list [.text "\"a\"\\\n", .text "é\x01"])]
    let bare : Value := .record fields
    let full : Value := .record (("default_mode", .null) :: fields)
    ofText c.toJson.indented = .ok c ∧ ofText full.compact = .ok c ∧
      ofText bare.compact = .ok { c with defaultMode := some .historic } := by
  intro longest c fields bare full
  obtain ⟨_, indented, read⟩ := ofText_written (c := c) rfl
  have site (m : Member) : m.name ≠ "site" := by cases m <;> decide
  have holdsBare : Holds c (fieldNodes fields) [.pollInterval, .nativePorts] := by
    refine .member (m := .pollInterval) rfl (by decide) (.other rfl site ?_)
    exact .member (m := .nativePorts) rfl List.not_mem_nil .nil
  have holdsFull : Holds c (fieldNodes (("default_mode", .null) :: fields))
      [.defaultMode, .pollInterval, .nativePorts] :=
    .member (m := .defaultMode) rfl (by decide) holdsBare
  refine ⟨indented, (read _ _ _ full.isDocument.1 holdsFull).1 ?_,
    (read _ _ _ bare.isDocument.1 holdsBare).2 rfl (by decide) ?_⟩
  · intro m omitted
    cases m with
    | readTimeout => rfl
    | _ => exact absurd (by decide) omitted
  · intro m omitted other
    cases m with
    | readTimeout => rfl
    | defaultMode => exact absurd rfl other
    | _ => exact absurd (by decide) omitted

end Config

end MeterHub
