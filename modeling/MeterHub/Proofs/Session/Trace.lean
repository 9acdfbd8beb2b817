import Mathlib.Data.List.Basic
import Mathlib.Data.List.Infix
import Mathlib.Data.List.Nodup
import MeterHub.Distinct
import MeterHub.Proofs.Session.Learning

/-!
What the listeners of a session are told. Signal after signal, each listener is called once, with
the frame or the fault that the signal and the signals before it make: the identifier carries the
serial number of the first frame that revealed one, and a read without answer the last frame.
-/

set_option autoImplicit false
set_option relaxedAutoImplicit false

namespace MeterHub

namespace Frame

/-- No group of the frame has the label that carries the serial number in the frame's own mode. -/
def Mute (f : Frame) : Prop := ∀ group ∈ f.groups, group.label ≠ f.mode.serialLabel

/-- The first group with that label has a certain value. -/
def Reveals (f : Frame) (value : String) : Prop :=
  ∃ before after, f.groups = before ++ ⟨f.mode.serialLabel, value⟩ :: after ∧
    ∀ group ∈ before, group.label ≠ f.mode.serialLabel

theorem mute_iff {f : Frame} : f.Mute ↔ f.serialNumber? = none := by
  unfold serialNumber? field? Mute
  rw [Option.map_eq_none_iff, List.find?_eq_none]
  simp only [beq_iff_eq, ne_eq]

theorem reveals_iff {f : Frame} {value : String} :
    f.Reveals value ↔ f.serialNumber? = some value := by
  unfold serialNumber? field? Reveals
  simp only [Option.map_eq_some_iff, List.find?_eq_some_iff_append, beq_iff_eq, Bool.not_eq_true',
    beq_eq_false_iff_ne]
  constructor
  · rintro ⟨before, after, groups, first⟩
    exact ⟨_, ⟨rfl, before, after, groups, first⟩, rfl⟩
  · rintro ⟨⟨_, _⟩, ⟨rfl, before, after, groups, first⟩, rfl⟩
    exact ⟨before, after, groups, first⟩

end Frame

theorem lowerChar_eq_toLower (c : Char) : lowerChar c = c.toLower := by
  unfold lowerChar Char.toLower
  by_cases upper : 'A' ≤ c ∧ c ≤ 'Z'
  · have bounds : c.val ≥ 'A'.val ∧ c.val ≤ 'Z'.val := upper
    have below : c.val.toNat ≤ 90 := UInt32.le_iff_toNat_le.mp bounds.2
    have valid : (c.toNat + 32).isValidChar := .inl (by change c.val.toNat + 32 < _; omega)
    rw [if_pos upper, dif_pos bounds, Char.ofNat, dif_pos valid]
    apply Char.ext
    apply UInt32.toNat.inj
    have sum : (c.val + ('a'.val - 'A'.val)).toNat = (c.val.toNat + 32) % 2 ^ 32 :=
      UInt32.toNat_add _ _
    rw [sum, Nat.mod_eq_of_lt (by omega)]
    rfl
  · rw [if_neg upper, dif_neg]
    exact upper

theorem occursIn_iff {word text : List Char} : occursIn word text = true ↔ word <:+: text := by
  induction text with
  | nil =>
    rw [occursIn, List.infix_nil]
    exact List.isEmpty_iff
  | cons c text ih =>
    rw [occursIn, Bool.or_eq_true, List.isPrefixOf_iff_prefix, ih, List.infix_cons_iff]

/-- Somewhere in the message stands the word, in letters of either case. -/
def MentionsTimeout (message : String) : Prop :=
  ∃ before word after, message.toList = before ++ word ++ after ∧
    word.map Char.toLower = "timeout".toList

theorem mentionsTimeout_iff {message : String} :
    MentionsTimeout message ↔
      occursIn "timeout".toList (message.toList.map lowerChar) = true := by
  have lower : message.toList.map lowerChar = message.toList.map Char.toLower :=
    List.map_congr_left fun c _ => lowerChar_eq_toLower c
  rw [lower, occursIn_iff]
  constructor
  · rintro ⟨before, word, after, spelled, same⟩
    refine ⟨before.map Char.toLower, after.map Char.toLower, ?_⟩
    rw [spelled, List.map_append, List.map_append, same]
  · rintro ⟨before, after, spelled⟩
    obtain ⟨front, rest, whole, front_same, -⟩ := List.map_eq_append_iff.mp spelled.symm
    obtain ⟨first, word, halves, -, same⟩ := List.map_eq_append_iff.mp front_same
    exact ⟨first, word, rest, by rw [whole, halves], same⟩

theorem classify_of_mentions {message : String} (mentions : MentionsTimeout message) :
    classify message = .readTimeout := if_pos (mentionsTimeout_iff.mp mentions)

theorem classify_of_silent {message : String} (silent : ¬MentionsTimeout message) :
    classify message = .otherReason := if_neg (mt mentionsTimeout_iff.mpr silent)

/-- The identifier of a port after some signals: the port's own as long as no frame reveals a serial
number, and then for good the one with the number that the first such frame reveals. -/
inductive Knows (port : Port) : List Signal → Identifier → Prop
  | unrevealed {heard : List Signal} (mute : ∀ f, .frame f ∈ heard → f.Mute) :
      Knows port heard port.identifier
  | revealed {before after : List Signal} {f : Frame} {value : String}
      (mute : ∀ g, .frame g ∈ before → g.Mute) (reveals : f.Reveals value) :
      Knows port (before ++ .frame f :: after) (port.identifier.withSerialNumber value)

/-- The last frame of some signals, if there is any. -/
inductive LastFrame : List Signal → Option Frame → Prop
  | missing {heard : List Signal} (unsent : ∀ f, .frame f ∉ heard) : LastFrame heard none
  | sent {before after : List Signal} {f : Frame} (last : ∀ g, .frame g ∉ after) :
      LastFrame (before ++ .frame f :: after) (some f)

/-- The event that a signal makes after other signals. -/
inductive Publishes (port : Port) (heard : List Signal) : Signal → Event → Prop
  | frame {f : Frame} {identifier : Identifier}
      (known : Knows port (heard ++ [.frame f]) identifier) :
      Publishes port heard (.frame f) (.frame ⟨identifier, f.mode, f⟩)
  | timeout {message : String} {identifier : Identifier} {frame : Option Frame}
      (known : Knows port heard identifier) (last : LastFrame heard frame)
      (mentions : MentionsTimeout message) :
      Publishes port heard (.error message) (.fault ⟨identifier, .readTimeout, message, frame⟩)
  | other {message : String} {identifier : Identifier} (known : Knows port heard identifier)
      (silent : ¬MentionsTimeout message) :
      Publishes port heard (.error message) (.fault ⟨identifier, .otherReason, message, none⟩)

theorem Identifier.learn_of_known {i : Identifier} (f : Frame) (known : i.serialNumber.isSome) :
    i.learn f = i := by
  obtain ⟨value, known⟩ := Option.isSome_iff_exists.mp known
  unfold Identifier.learn
  rw [known]

namespace Knows

variable {port : Port} {heard : List Signal} {identifier : Identifier}

theorem append (knows : Knows port heard identifier) (signal : Signal) :
    Knows port (heard ++ [signal]) (identifier.learnFrom signal) := by
  cases knows with
  | unrevealed mute =>
    cases signal with
    | error message =>
      refine .unrevealed fun f sent => mute f ?_
      simpa using sent
    | frame f =>
      change Knows port (heard ++ [.frame f]) (port.identifier.learn f)
      have unknown : port.identifier.serialNumber = none := rfl
      unfold Identifier.learn
      rw [unknown]
      cases value : f.serialNumber? with
      | some serial => exact .revealed mute (Frame.reveals_iff.mpr value)
      | none =>
        refine .unrevealed fun g sent => ?_
        rcases List.mem_append.mp sent with earlier | only
        · exact mute g earlier
        · cases List.mem_singleton.mp only
          exact Frame.mute_iff.mpr value
  | @revealed before after f value mute reveals =>
    let learned := port.identifier.withSerialNumber value
    have kept : learned.learnFrom signal = learned := by
      cases signal with
      | error message => rfl
      | frame g => exact Identifier.learn_of_known (i := learned) g rfl
    rw [kept, List.append_assoc]
    exact .revealed mute reveals

end Knows

namespace LastFrame

variable {heard : List Signal} {last : Option Frame}

theorem append_error (was : LastFrame heard last) (message : String) :
    LastFrame (heard ++ [.error message]) last := by
  cases was with
  | missing unsent =>
    refine .missing fun f sent => unsent f ?_
    simpa using sent
  | @sent before after f none_later =>
    rw [List.append_assoc]
    refine .sent fun g sent => none_later g ?_
    simpa using sent

theorem append_frame (heard : List Signal) (f : Frame) :
    LastFrame (heard ++ [.frame f]) (some f) := .sent fun _ => List.not_mem_nil

end LastFrame

namespace Session

variable {σ : Type}

/-- The calls that a session makes of signals, one list for each signal in order. -/
def trace (s : Session σ) : List Signal → List (List (σ × Event))
  | [] => []
  | signal :: signals =>
    let (event, s) := s.hear signal
    s.calls [event] :: s.trace signals

/-- A session on a port that knows what the signals so far tell. -/
structure Tracks (port : Port) (heard : List Signal) (s : Session σ) : Prop where
  known : Knows port heard s.identifier
  last : LastFrame heard s.lastFrame

theorem Tracks.ofPort (port : Port) (mode : Mode) :
    Tracks port [] (ofPort port mode : Session σ) where
  known := .unrevealed fun _ sent => (List.not_mem_nil sent).elim
  last := .missing fun _ => List.not_mem_nil

theorem Tracks.hear {port : Port} {heard : List Signal} {s : Session σ}
    (tracks : Tracks port heard s) (signal : Signal) :
    Publishes port heard signal (s.hear signal).1 ∧
      Tracks port (heard ++ [signal]) (s.hear signal).2 := by
  have known := tracks.known.append signal
  cases signal with
  | frame f => exact ⟨.frame known, known, .append_frame heard f⟩
  | error message =>
    refine ⟨?_, known, tracks.last.append_error message⟩
    change Publishes port heard (.error message) (.fault ⟨s.identifier, classify message, message,
      if classify message = .readTimeout then s.lastFrame else none⟩)
    by_cases mentions : MentionsTimeout message
    · rw [classify_of_mentions mentions, if_pos rfl]
      exact .timeout tracks.known tracks.last mentions
    · rw [classify_of_silent mentions, if_neg nofun]
      exact .other tracks.known mentions

theorem hear_listeners (s : Session σ) (signal : Signal) :
    (s.hear signal).2.listeners = s.listeners := by
  obtain ⟨lastFrame, heard⟩ := hear_eq s signal
  rw [heard]

theorem length_trace (s : Session σ) (signals : List Signal) :
    (s.trace signals).length = signals.length := by
  induction signals generalizing s with
  | nil => rfl
  | cons signal signals ih => exact congrArg (· + 1) (ih _)

theorem Tracks.trace {port : Port} {heard : List Signal} {s : Session σ}
    (tracks : Tracks port heard s) {signals : List Signal} {place : Nat} {signal : Signal}
    (there : signals[place]? = some signal) :
    ∃ event, Publishes port (heard ++ signals.take place) signal event ∧
      (s.trace signals)[place]? = some (s.listeners.map fun listener => (listener, event)) := by
  induction signals generalizing s heard place with
  | nil => cases there
  | cons first signals ih =>
    obtain ⟨published, tracks_next⟩ := tracks.hear first
    have same := hear_listeners s first
    cases place with
    | zero =>
      cases there
      refine ⟨(s.hear signal).1, ?_, ?_⟩
      · rw [List.take_zero, List.append_nil]
        exact published
      · change some ((s.hear signal).2.calls [(s.hear signal).1]) = _
        rw [calls, same, List.flatMap_singleton]
    | succ place =>
      obtain ⟨event, later, called⟩ := ih tracks_next there
      refine ⟨event, ?_, ?_⟩
      · rw [List.take_succ_cons, List.append_cons]
        exact later
      · rw [same] at called
        exact called

variable [DecidableEq σ]

theorem listen_eq (s : Session σ) (listener : σ) :
    s.listen listener = { s with listeners := Distinct.add s.listeners listener } := by
  unfold listen Distinct.add
  split <;> rfl

theorem foldl_listen (s : Session σ) (listeners : List σ) :
    listeners.foldl listen s = { s with listeners := Distinct.addAll s.listeners listeners } := by
  induction listeners generalizing s with
  | nil => rfl
  | cons listener listeners ih =>
    rw [List.foldl_cons, ih, listen_eq]
    rfl

/-- Whatever signals a source feeds to a session, each listener is called exactly once at each
signal, and all of them with the event that the signal makes after those before it. -/
theorem trace_publishes (port : Port) (mode : Mode) (listeners : List σ) (signals : List Signal) :
    let s := listeners.foldl listen (ofPort port mode)
    (s.trace signals).length = signals.length ∧
      ∀ place signal, signals[place]? = some signal →
        ∃ event calls, Publishes port (signals.take place) signal event ∧
          (s.trace signals)[place]? = some calls ∧ calls.Nodup ∧
          ∀ listener told, (listener, told) ∈ calls ↔ listener ∈ listeners ∧ told = event := by
  intro s
  refine ⟨length_trace s signals, ?_⟩
  intro place signal there
  have attached : s = { (ofPort port mode : Session σ) with
      listeners := Distinct.ofList listeners } := foldl_listen _ listeners
  have tracks : Tracks port [] s := by
    have start : Tracks port [] (ofPort port mode : Session σ) := .ofPort port mode
    rw [attached]
    exact ⟨start.known, start.last⟩
  obtain ⟨event, published, called⟩ := tracks.trace there
  refine ⟨event, _, published, called, ?_, ?_⟩
  · rw [attached]
    apply (Distinct.nodup_addAll .nil listeners).map
    intro a b same
    exact (Prod.mk.inj same).1
  · intro listener told
    rw [List.mem_map, attached]
    constructor
    · rintro ⟨_, member, same⟩
      obtain ⟨rfl, rfl⟩ := Prod.mk.inj same
      rcases Distinct.mem_addAll.mp member with nowhere | among
      · cases nowhere
      · exact ⟨among, rfl⟩
    · rintro ⟨among, rfl⟩
      exact ⟨listener, Distinct.mem_addAll.mpr (.inr among), rfl⟩

/-- An empty serial number is learned too, whatever frame reveals another one later; and a read
without answer carries the frame before it, which need not be the one that the number is from. -/
theorem trace_publishes_timeout :
    let port : Port := ⟨none, "COM3"⟩
    let unnamed : Frame := .ofPairs .standard [("ADSC", ""), ("ADSC", "61")]
    let named : Frame := .ofPairs .historic [("ADSC", "62"), ("ADCO", "63")]
    let signals : List Signal := [.frame unnamed, .frame named, .error "TimeOut on read"]
    let s := ["first", "second", "first"].foldl listen (ofPort port .historic)
    let fault : Fault :=
      ⟨port.identifier.withSerialNumber "", .readTimeout, "TimeOut on read", some named⟩
    signals[2]? = some (.error "TimeOut on read") ∧
      (s.trace signals)[2]? = some [("first", .fault fault), ("second", .fault fault)] ∧
      Publishes port [.frame unnamed, .frame named] (.error "TimeOut on read") (.fault fault) := by
  intro port unnamed named signals s fault
  obtain ⟨event, calls, published, called, -, told⟩ :=
    (trace_publishes port .historic ["first", "second", "first"] signals).2 2 _ rfl
  have both : (s.trace signals)[2]? =
      some [("first", .fault fault), ("second", .fault fault)] := by rfl
  have same : calls = [("first", .fault fault), ("second", .fault fault)] :=
    Option.some.inj (called.symm.trans both)
  obtain ⟨-, rfl⟩ := (told "first" (.fault fault)).mp (same ▸ List.mem_cons_self)
  exact ⟨rfl, both, published⟩

end Session

end MeterHub
