import Mathlib.Order.Bounds.Basic
import MeterHub.Hub.Assembly
import MeterHub.Proofs.Config.Writing
import MeterHub.Proofs.Hub.Order

/-!
Which configurations are accepted: those whose times are not zero and whose native ports have names
that can be seen and are all different. A configuration that is refused is refused for its first
flaw. Building, reading and assembling follow this one rule, so no hub has a configuration with a
flaw.
-/

set_option autoImplicit false
set_option relaxedAutoImplicit false

namespace MeterHub

namespace Config

/-- A configuration without a flaw. -/
structure IsValid (c : Config) : Prop where
  polls : c.pollInterval.toNanos ≠ 0
  waits : c.readTimeout.toNanos ≠ 0
  seen : ∀ name ∈ c.nativePorts, ∃ letter ∈ name.toList, Text.isBlank letter = false
  distinct : c.nativePorts.Nodup

/-- What is wrong with the name at an index, and how it is reported. A name that cannot be seen is
reported as such even if it occurs again. -/
inductive NameFlaw (names : List String) (index : Nat) : String → Prop
  | blank {name : String} (there : names[index]? = some name)
      (unseen : ∀ letter ∈ name.toList, Text.isBlank letter = true) :
      NameFlaw names index "native_ports must not contain empty names"
  | repeated {name : String} {later : Nat} (there : names[index]? = some name)
      (seen : ∃ letter ∈ name.toList, Text.isBlank letter = false) (after : index < later)
      (again : names[later]? = some name) :
      NameFlaw names index ("native port " ++ name ++ " listed twice")

/-- The first flaw of a configuration: the period of polling comes before the time that a read
waits, and both come before the names, of which the first that has a flaw counts. -/
inductive FirstFlaw (c : Config) : String → Prop
  | pollInterval (zero : c.pollInterval.toNanos = 0) :
      FirstFlaw c "poll_interval must be greater than 0"
  | readTimeout (polls : c.pollInterval.toNanos ≠ 0) (zero : c.readTimeout.toNanos = 0) :
      FirstFlaw c "read_timeout must be greater than 0"
  | nativePorts (polls : c.pollInterval.toNanos ≠ 0) (waits : c.readTimeout.toNanos ≠ 0)
      {index : Nat} {reason : String} (flaw : NameFlaw c.nativePorts index reason)
      (first : IsLeast {index | ∃ reason, NameFlaw c.nativePorts index reason} index) :
      FirstFlaw c reason

variable {name reason : String} {names : List String}

theorem nameFlaw_head_iff :
    NameFlaw (name :: names) 0 reason ↔
      Text.isBlankText name = true ∧ reason = "native_ports must not contain empty names" ∨
        Text.isBlankText name = false ∧ name ∈ names ∧
          reason = "native port " ++ name ++ " listed twice" := by
  constructor
  · rintro (⟨there, unseen⟩ | @⟨_, later, there, seen, after, again⟩)
    · obtain rfl : name = _ := Option.some.inj there
      exact .inl ⟨List.all_eq_true.mpr unseen, rfl⟩
    · obtain rfl : name = _ := Option.some.inj there
      obtain ⟨index, rfl⟩ : ∃ index, later = index + 1 := ⟨later - 1, by omega⟩
      rw [List.getElem?_cons_succ] at again
      exact .inr ⟨(Text.isBlankText_eq_false_iff name).mpr seen, List.mem_of_getElem? again, rfl⟩
  · rintro (⟨unseen, rfl⟩ | ⟨seen, again, rfl⟩)
    · exact .blank rfl (List.all_eq_true.mp unseen)
    · obtain ⟨index, at_index⟩ := List.mem_iff_getElem?.mp again
      exact .repeated rfl ((Text.isBlankText_eq_false_iff name).mp seen) (Nat.succ_pos index)
        (List.getElem?_cons_succ.trans at_index)

theorem nameFlaw_tail_iff {index : Nat} :
    NameFlaw (name :: names) (index + 1) reason ↔ NameFlaw names index reason := by
  constructor
  · rintro (⟨there, unseen⟩ | @⟨_, later, there, seen, after, again⟩)
    · exact .blank (List.getElem?_cons_succ.symm.trans there) unseen
    · obtain ⟨place, rfl⟩ : ∃ place, later = place + 1 := ⟨later - 1, by omega⟩
      exact .repeated (List.getElem?_cons_succ.symm.trans there) seen (Nat.lt_of_succ_lt_succ after)
        (List.getElem?_cons_succ.symm.trans again)
  · rintro (⟨there, unseen⟩ | ⟨there, seen, after, again⟩)
    · exact .blank (List.getElem?_cons_succ.trans there) unseen
    · exact .repeated (List.getElem?_cons_succ.trans there) seen (Nat.succ_lt_succ after)
        (List.getElem?_cons_succ.trans again)

theorem namesFlaw?_of_head (flaw : NameFlaw (name :: names) 0 reason) :
    namesFlaw? (name :: names) = some reason := by
  rcases nameFlaw_head_iff.mp flaw with ⟨unseen, rfl⟩ | ⟨seen, again, rfl⟩
  · simp [namesFlaw?, unseen]
  · simp [namesFlaw?, seen, again]

theorem namesFlaw?_of_tail (sound : ¬∃ reason, NameFlaw (name :: names) 0 reason) :
    namesFlaw? (name :: names) = namesFlaw? names := by
  have seen : Text.isBlankText name = false := by
    by_contra unseen
    exact sound ⟨_, nameFlaw_head_iff.mpr (.inl ⟨by simpa using unseen, rfl⟩)⟩
  have once : name ∉ names :=
    fun again => sound ⟨_, nameFlaw_head_iff.mpr (.inr ⟨seen, again, rfl⟩)⟩
  simp [namesFlaw?, seen, once]

theorem namesFlaw?_eq_some_iff :
    namesFlaw? names = some reason ↔
      ∃ index, NameFlaw names index reason ∧
        IsLeast {index | ∃ reason, NameFlaw names index reason} index := by
  induction names with
  | nil =>
    constructor
    · intro never
      cases never
    · rintro ⟨_, ⟨there, _⟩ | ⟨there, _, _, _⟩, _⟩ <;> cases there
  | cons name names ih =>
    by_cases head : ∃ reason, NameFlaw (name :: names) 0 reason
    · obtain ⟨first, flaw⟩ := head
      constructor
      · intro reported
        obtain rfl : first = reason := Option.some.inj ((namesFlaw?_of_head flaw).symm.trans reported)
        exact ⟨0, flaw, ⟨first, flaw⟩, fun _ _ => Nat.zero_le _⟩
      · rintro ⟨index, other, least⟩
        obtain rfl : index = 0 := Nat.le_zero.mp (least.2 ⟨first, flaw⟩)
        exact namesFlaw?_of_head other
    · rw [namesFlaw?_of_tail head, ih]
      constructor
      · rintro ⟨index, flaw, least⟩
        refine ⟨index + 1, nameFlaw_tail_iff.mpr flaw, ⟨reason, nameFlaw_tail_iff.mpr flaw⟩, ?_⟩
        rintro (_ | place) ⟨other, there⟩
        · exact (head ⟨other, there⟩).elim
        · exact Nat.succ_le_succ (least.2 ⟨other, nameFlaw_tail_iff.mp there⟩)
      · rintro ⟨_ | index, flaw, least⟩
        · exact (head ⟨reason, flaw⟩).elim
        · refine ⟨index, nameFlaw_tail_iff.mp flaw, ⟨reason, nameFlaw_tail_iff.mp flaw⟩, ?_⟩
          rintro place ⟨other, there⟩
          exact Nat.le_of_succ_le_succ (least.2 ⟨other, nameFlaw_tail_iff.mpr there⟩)

theorem namesFlaw?_eq_none_iff :
    namesFlaw? names = none ↔
      (∀ name ∈ names, ∃ letter ∈ name.toList, Text.isBlank letter = false) ∧ names.Nodup := by
  induction names with
  | nil => simp [namesFlaw?]
  | cons name names ih =>
    have sound : namesFlaw? (name :: names) = none ↔
        Text.isBlankText name = false ∧ name ∉ names ∧ namesFlaw? names = none := by
      cases seen : Text.isBlankText name <;> by_cases again : name ∈ names <;>
        simp [namesFlaw?, seen, again]
    rw [sound, ih, Text.isBlankText_eq_false_iff, List.forall_mem_cons, List.nodup_cons]
    tauto

variable {c : Config}

theorem flaw?_eq_none_iff : c.flaw? = none ↔ c.IsValid := by
  simp only [flaw?, Span.isZero_iff]
  split
  · rename_i zero
    constructor
    · rintro ⟨⟩
    · intro valid
      exact (valid.polls zero).elim
  · rename_i polls
    split
    · rename_i zero
      constructor
      · rintro ⟨⟩
      · intro valid
        exact (valid.waits zero).elim
    · rename_i waits
      rw [namesFlaw?_eq_none_iff]
      exact ⟨fun ⟨seen, distinct⟩ => ⟨polls, waits, seen, distinct⟩,
        fun valid => ⟨valid.seen, valid.distinct⟩⟩

theorem flaw?_eq_some_iff : c.flaw? = some reason ↔ FirstFlaw c reason := by
  simp only [flaw?, Span.isZero_iff]
  split
  · rename_i zero
    constructor
    · rintro ⟨⟩
      exact .pollInterval zero
    · rintro (_ | ⟨polls, _⟩ | ⟨polls, _, _, _⟩)
      · rfl
      · exact (polls zero).elim
      · exact (polls zero).elim
  · rename_i polls
    split
    · rename_i zero
      constructor
      · rintro ⟨⟩
        exact .readTimeout polls zero
      · rintro (never | _ | ⟨_, waits, _, _⟩)
        · exact (polls never).elim
        · rfl
        · exact (waits zero).elim
    · rename_i waits
      rw [namesFlaw?_eq_some_iff]
      constructor
      · rintro ⟨index, flaw, first⟩
        exact .nativePorts polls waits flaw first
      · rintro (never | ⟨_, never⟩ | ⟨_, _, flaw, first⟩)
        · exact (polls never).elim
        · exact (waits never).elim
        · exact ⟨_, flaw, first⟩

theorem validate_eq_ok_iff : c.validate = .ok () ↔ c.IsValid := by
  rw [← flaw?_eq_none_iff]
  unfold validate
  cases c.flaw? <;> simp

theorem validate_eq_error_iff {failure : Failure} :
    c.validate = .error failure ↔
      ∃ reason, FirstFlaw c reason ∧ failure = .invalidConfiguration reason := by
  simp only [← flaw?_eq_some_iff]
  unfold validate
  cases c.flaw? <;> simp [eq_comm]

instance (c : Config) : Decidable c.IsValid :=
  decidable_of_iff (c.flaw? = none) flaw?_eq_none_iff

/-- An operation that succeeds just if a configuration is valid, and otherwise fails as validation
does. -/
structure Guards {α : Type} (c : Config) (outcome : Except Failure α) (result : α) : Prop where
  succeeds : outcome = .ok result ↔ c.IsValid
  fails : ∀ failure, outcome = .error failure ↔ c.validate = .error failure

theorem Guards.of_map {α : Type} {outcome : Except Failure α} {result : α}
    (checked : outcome = c.validate.map fun _ => result) : Guards c outcome result := by
  subst checked
  constructor
  · rw [← validate_eq_ok_iff]
    cases c.validate <;> simp [Except.map]
  · intro failure
    cases c.validate <;> simp [Except.map]

theorem build_guards {changes : List Change} (made : changes.foldl apply {} = c) :
    Guards c (build changes) c := by
  apply Guards.of_map
  unfold build
  rw [made]
  change (do c.validate; return c) = _
  cases c.validate <;> rfl

theorem ofText_guards {s : String} (read : parse s = .ok c) : Guards c (ofText s) c := by
  apply Guards.of_map
  unfold ofText
  rw [read]
  change (do c.validate; return c) = _
  cases c.validate <;> rfl

theorem assembly_guards {a : Assembly} (config : a.config = c) (discovery : a.hasDiscovery = true)
    (opening : a.hasOpening = true) (runtime : a.runtime ≠ .absent) :
    Guards c a.build (.fresh c) := by
  apply Guards.of_map
  unfold Assembly.build
  simp only [config, discovery, opening, runtime, Bool.not_true, Bool.false_eq_true, if_false]
  cases c.validate <;> rfl

theorem exists_changes (c : Config) : ∃ changes : List Change, changes.foldl apply {} = c :=
  ⟨[.defaultMode c.defaultMode, .nativePorts c.nativePorts, .pollInterval c.pollInterval,
    .readTimeout c.readTimeout], rfl⟩

theorem parse_compact (c : Config) : parse c.toJson.compact = .ok c := by
  unfold parse
  rw [(ReadsBack.of_node c.ofNode_toJson).1]

theorem valid_of_assembled {a : Assembly} {h : Hub} (assembled : a.build = .ok h) :
    a.config.IsValid ∧ h = .fresh a.config := by
  obtain ⟨config, discovery, opening, runtime⟩ := a
  unfold Assembly.build at assembled
  cases validated : config.validate with
  | error failure =>
    rw [validated] at assembled
    cases assembled
  | ok =>
    rw [validated] at assembled
    refine ⟨validate_eq_ok_iff.mp validated, ?_⟩
    -- where a part is missing nothing is assembled
    cases discovery <;> cases opening <;> cases runtime <;> cases assembled <;> rfl

/-- Validation accepts just the configurations whose times are not zero and whose native ports have
names that can be seen and are all different; the others it refuses for their first flaw. Whoever
builds a configuration by changes, reads it from a text or assembles a hub with it succeeds just if
validation does, and fails as validation does. So whatever has happened to a hub that was assembled,
its configuration is valid. -/
theorem accepts_valid (c : Config) :
    (c.validate = .ok () ↔ c.IsValid) ∧
      (∀ failure, c.validate = .error failure ↔
        ∃ reason, FirstFlaw c reason ∧ failure = .invalidConfiguration reason) ∧
      ((∃ changes : List Change, changes.foldl apply {} = c) ∧
        ∀ changes : List Change, changes.foldl apply {} = c → Guards c (build changes) c) ∧
      ((∃ s, parse s = .ok c) ∧ ∀ s, parse s = .ok c → Guards c (ofText s) c) ∧
      (∀ runtime, runtime ≠ .absent → Guards c (Assembly.build ⟨c, true, true, runtime⟩) (.fresh c)) ∧
      ∀ (a : Assembly) (h : Hub) (moves : List Move),
        a.build = .ok h → (h.run moves).config = c → c.IsValid := by
  refine ⟨validate_eq_ok_iff, fun _ => validate_eq_error_iff,
    ⟨exists_changes c, fun _ => build_guards⟩, ⟨⟨_, parse_compact c⟩, fun _ => ofText_guards⟩,
    fun _ present => assembly_guards rfl rfl rfl present, ?_⟩
  intro a h moves assembled config
  obtain ⟨valid, rfl⟩ := valid_of_assembled assembled
  rw [Hub.run_config] at config
  exact config ▸ valid

/-- The second name is listed twice, the third cannot be seen and the last one is empty: whichever
way the configuration comes, the second name is what is reported. Without the last three names a hub
is assembled. -/
theorem accepts_valid_first_name :
    let names := ["b", "a", "\u00a0", "a", ""]
    let c : Config := { nativePorts := names }
    let failure : Failure := .invalidConfiguration "native port a listed twice"
    build [.nativePort "c", .nativePorts names] = .error failure ∧
      ofText c.toJson.compact = .error failure ∧
      Assembly.build ⟨c, true, true, .given⟩ = .error failure ∧ ¬c.IsValid ∧
      FirstFlaw c "native port a listed twice" ∧
      ∃ h, Assembly.build ⟨{ nativePorts := ["b", "a"] }, true, true, .current⟩ = .ok h := by
  intro names c failure
  obtain ⟨accepts, refuses, ⟨-, builds⟩, ⟨-, reads⟩, assembles, -⟩ := accepts_valid c
  have refused : c.validate = .error failure := rfl
  refine ⟨((builds _ rfl).fails failure).mpr refused,
    ((reads _ (parse_compact c)).fails failure).mpr refused,
    ((assembles .given (by decide)).fails failure).mpr refused, ?_, ?_, ?_⟩
  · intro valid
    cases refused.symm.trans (accepts.mpr valid)
  · obtain ⟨reason, flaw, same⟩ := (refuses failure).mp refused
    obtain rfl : "native port a listed twice" = reason := Failure.invalidConfiguration.inj same
    exact flaw
  · obtain ⟨-, -, -, -, assembles, -⟩ := accepts_valid { nativePorts := ["b", "a"] }
    exact ⟨_, (assembles .current (by decide)).succeeds.mpr (by decide)⟩

end Config

end MeterHub
