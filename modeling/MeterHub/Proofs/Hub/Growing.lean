import MeterHub.Proofs.Hub.Hearing
import MeterHub.Proofs.Hub.Opening

/-!
The operations that let a hub grow. Whoever asks for a session gets one that is live, has one opened
on a free port or fails; starting a hub asks once for each native port.
-/

set_option autoImplicit false
set_option relaxedAutoImplicit false

namespace MeterHub.Hub

/-- Some changes one after another that lose no session. -/
def Grows (reading : Bool) : Hub → Hub → Prop := Relation.ReflTransGen (Growth reading)

namespace Grows

variable {reading : Bool} {h h' : Hub}

theorem orderly (grows : Grows reading h h') (before : h.Orderly) : h'.Orderly := by
  induction grows with
  | refl => exact before
  | tail _ growth ih => exact growth.orderly ih

theorem config_eq (grows : Grows reading h h') : h'.config = h.config := by
  induction grows with
  | refl => rfl
  | tail _ growth ih => exact growth.config_eq.trans ih

theorem sources_le (grows : Grows reading h h') : h.sources.length ≤ h'.sources.length := by
  induction grows with
  | refl => exact Nat.le_refl _
  | tail _ growth ih => exact Nat.le_trans ih growth.sources_le

theorem continued (grows : Grows reading h h') {live : Live} (member : live ∈ h.sessions) :
    ∃ after ∈ h'.sessions, live.Continues after := by
  induction grows with
  | refl => exact ⟨live, member, .refl live⟩
  | tail _ growth ih =>
    obtain ⟨between, listed, first⟩ := ih
    obtain ⟨after, still, second⟩ := growth.continued listed
    exact ⟨after, still, first.trans second⟩

theorem origin (grows : Grows reading h h') {live : Live} (member : live ∈ h'.sessions) :
    (∃ old ∈ h.sessions, old.Continues live) ∨
      h.sources.length ≤ live.source ∧ live.session.ephemeral = reading := by
  induction grows generalizing live with
  | refl => exact .inl ⟨live, member, .refl live⟩
  | tail grown growth ih =>
    rcases growth.origin member with ⟨between, listed, second⟩ | ⟨new, ephemeral⟩
    · rcases ih listed with ⟨old, first, continues⟩ | ⟨later, ephemeral⟩
      · exact .inl ⟨old, first, continues.trans second⟩
      · rw [← second.source] at later
        rw [← second.ephemeral] at ephemeral
        exact .inr ⟨later, ephemeral⟩
    · exact .inr ⟨Nat.le_trans (sources_le grown) new, ephemeral⟩

end Grows

theorem greeted_placed (h : Hub) (port : Port) (mode : Mode) (greeting : List Signal)
    (index : Nat) : (Live.mk index (h.greeted port mode greeting)).IsPlaced := by
  obtain ⟨_, greeted⟩ := h.greeted_eq port mode greeting
  rw [greeted]
  exact ⟨Identifier.learnAll_portId _ greeting, Identifier.learnAll_portName _ greeting⟩

theorem greeted_port (h : Hub) (port : Port) (mode : Mode) (greeting : List Signal) :
    (h.greeted port mode greeting).port = port := by
  obtain ⟨_, greeted⟩ := h.greeted_eq port mode greeting
  rw [greeted]

theorem greeted_native (h : Hub) (port : Port) (mode : Mode) (greeting : List Signal) :
    (h.greeted port mode greeting).native = h.config.isNativePort port.name := by
  obtain ⟨_, greeted⟩ := h.greeted_eq port mode greeting
  rw [greeted]

theorem greeted_ephemeral (h : Hub) (port : Port) (mode : Mode) (greeting : List Signal) :
    (h.greeted port mode greeting).ephemeral = false := by
  obtain ⟨_, greeted⟩ := h.greeted_eq port mode greeting
  rw [greeted]

private theorem Growth.greeted {reading : Bool} {h h' : Hub} {port : Port} {mode : Mode}
    {script : Script} {greeting : List Signal}
    (free : ∀ live ∈ h.sessions, live.port.same port = false) (config : h'.config = h.config)
    (sessions : h'.sessions = h.sessions ++
      [⟨h.sources.length, { h.greeted port mode greeting with ephemeral := reading }⟩])
    (sources : h'.sources =
      h.sources ++ [{ port, mode, script, starts := 1, linked := true, running := true }]) :
    Growth reading h h' := by
  have held := h.greeted_port port mode greeting
  have placed := h.greeted_placed port mode greeting h.sources.length
  let live : Live := ⟨h.sources.length, { h.greeted port mode greeting with ephemeral := reading }⟩
  refine .opened _ live ⟨held.symm, rfl, rfl, rfl, rfl⟩ rfl ?_ ⟨placed.portId, placed.portName⟩ ?_ rfl
    config sessions sources
  · intro other member
    change other.port.same (h.greeted port mode greeting).port = false
    rw [held]
    exact free other member
  · intro native
    change h.config.isNativePort (h.greeted port mode greeting).port.name = true at native
    rw [held] at native
    exact (h.greeted_native port mode greeting).trans native

theorem greeted_not_ephemeral (h : Hub) (port : Port) (mode : Mode) (greeting : List Signal) :
    { h.greeted port mode greeting with ephemeral := false } = h.greeted port mode greeting := by
  rw [← h.greeted_ephemeral port mode greeting]

theorem Opens.growth {h after : Hub} {opening : Opening} {port : Port}
    {result : Except Failure (Nat × Bool)} (opens : Opens h opening port result after) :
    Growth false h after := by
  cases opens with
  | held found => exact .aside rfl rfl rfl
  | modeless free undefined => exact .aside rfl rfl rfl
  | unopened free defined refused => exact .aside rfl rfl rfl
  | unstarted free defined granted refused => exact .refused _ ⟨rfl, rfl, rfl⟩ rfl rfl rfl
  | opened free defined granted started =>
    exact .greeted free rfl (by rw [greeted_not_ephemeral]) rfl

theorem Attaches.growth {h after : Hub} {site : Site} {i : Identifier} {s : Subscriber}
    {result : Except Failure (Option Nat)} (attaches : Attaches h site i s result after) :
    Growth false h after := by
  cases attaches with
  | served found => exact .aside rfl rfl rfl
  | shared unserved resolved found => exact .aside rfl rfl rfl
  | refused unserved => exact .aside rfl rfl rfl
  | unstarted unserved resolved granted refused =>
    exact .refused _ ⟨rfl, rfl, rfl⟩ rfl rfl rfl
  | opened unserved resolved free defined granted started =>
    exact .greeted free rfl (by rw [greeted_not_ephemeral]) rfl

theorem Begins.growth {h after : Hub} {site : Site} {key : Identifier} {timeout : Option Span}
    (begins : Begins h site key timeout after) : Growth true h after := by
  cases begins with
  | served lookups member => exact .aside rfl rfl rfl
  | opened resolved free defined granted started => exact .greeted free rfl rfl rfl
  | refused read finished => exact .aside rfl rfl rfl
  | unstarted read finished started stopped idle =>
    exact .refused _ ⟨idle, started, stopped⟩ rfl rfl rfl

theorem subscribeTo_eq (h : Hub) (site : Site) (i : Identifier) (s : Subscriber) :
    (h.subscribeTo site i s).2 = (h.attach site i s).2 := by
  unfold subscribeTo
  cases h.attach site i s with
  | mk result after => cases result <;> rfl

theorem subscribeTo_growth (h : Hub) (site : Site) (i : Identifier) (s : Subscriber) :
    Growth false h (h.subscribeTo site i s).2 := by
  rw [subscribeTo_eq]
  exact (attach_attaches h site i s).growth

theorem beginRead_growth {h : Hub} (orderly : h.Orderly) (site : Site) (key : Identifier)
    (timeout : Option Span) : Growth true h (h.beginRead site key timeout) := by
  have bounded : ∀ live ∈ h.sessions, live.source < h.sources.length :=
    fun live member => orderly.bounded member
  exact (beginRead_begins bounded site key timeout).growth

theorem appeared_cases (h : Hub) (site : Site) (port : Port) (polled : Bool) :
    (h.appeared site port polled).2 = h ∨
      (h.appeared site port polled).2 = (h.openPort site.opening port).2 := by
  unfold appeared
  split
  · exact .inl rfl
  · refine .inr ?_
    cases h.openPort site.opening port with
    | mk result after => cases result <;> rfl

theorem appeared_granted {h : Hub} {site : Site} {port : Port}
    (acquired : (h.appeared site port false).1 = .ok ()) :
    ∃ granted, h.openPort site.opening port = (.ok granted, (h.appeared site port false).2) := by
  unfold appeared at acquired ⊢
  cases outcome : h.openPort site.opening port with
  | mk result after =>
    rw [outcome] at acquired
    cases result with
    | ok granted => exact ⟨granted, rfl⟩
    | error failure => cases acquired

theorem appeared_growth (h : Hub) (site : Site) (port : Port) (polled : Bool) :
    Growth false h (h.appeared site port polled).2 := by
  rcases h.appeared_cases site port polled with nothing | opened
  · rw [nothing]
    exact .aside rfl rfl rfl
  · rw [opened]
    exact (openPort_opens h site.opening port).growth

theorem markNative_growth (h : Hub) (index : Nat) : Growth false h (h.markNative index) := by
  refine .altered _ ?_ rfl rfl rfl
  intro live _
  by_cases marked : live.source = index
  · rw [if_pos marked]
    exact ⟨rfl, rfl, rfl, rfl, fun _ => rfl, rfl⟩
  · rw [if_neg marked]
    exact .refl live

theorem openNative_cases (site : Site) (h : Hub) (name : String) :
    ∃ lookups, openNative site h name = { h with lookups } ∨
      ∃ port, openNative site h name = (openPort { h with lookups } site.opening port).2 ∨
        ∃ index, openNative site h name =
          (openPort { h with lookups } site.opening port).2.markNative index := by
  refine ⟨h.lookups ++ [.native name], ?_⟩
  unfold openNative
  cases site.discovery.native name with
  | none => exact .inl rfl
  | some port =>
    refine .inr ⟨port, ?_⟩
    dsimp only
    cases openPort { h with lookups := h.lookups ++ [.native name] } site.opening port with
    | mk result after =>
      cases result with
      | ok opened => exact .inr ⟨opened.1, rfl⟩
      | error failure => exact .inl rfl

theorem openNative_grows (site : Site) (h : Hub) (name : String) :
    Grows false h (openNative site h name) := by
  obtain ⟨lookups, nowhere | ⟨port, refused | ⟨index, opened⟩⟩⟩ := openNative_cases site h name
  · rw [nowhere]
    exact .single (.aside rfl rfl rfl)
  · have first : Grows false h { h with lookups } := .single (.aside rfl rfl rfl)
    rw [refused]
    exact first.tail (openPort_opens _ site.opening port).growth
  · have first : Grows false h { h with lookups } := .single (.aside rfl rfl rfl)
    rw [opened]
    exact (first.tail (openPort_opens _ site.opening port).growth).tail (markNative_growth _ index)

theorem start_grows (h : Hub) (site : Site) : Grows false h (h.start site) := by
  have natives (names : List String) (g : Hub) :
      Grows false g (names.foldl (openNative site) g) := by
    induction names generalizing g with
    | nil => exact .refl
    | cons name names ih => exact (openNative_grows site g name).trans (ih _)
  unfold start
  split
  · exact .refl
  · let running : Hub := { h with running := true }
    have first : Grows false h running := .single (.aside rfl rfl rfl)
    have opened := natives h.config.nativePorts running
    exact (first.trans opened).tail (.aside rfl rfl rfl)

theorem report_growth {h : Hub} (orderly : h.Orderly) (index : Nat) (signal : Signal) :
    Growth false h (h.report index signal) := by
  obtain ⟨_, reported⟩ := report_eq orderly.distinct index signal
  rw [reported]
  exact .altered _ (fun live _ => hears_continues (.report index signal) live) rfl rfl rfl

theorem takeUp_growth (h : Hub) (lane : Nat) : Growth false h (h.takeUp lane) := by
  obtain ⟨_, _, taken, _⟩ := h.takeUp_eq lane
  rw [taken]
  exact .aside rfl rfl rfl

end MeterHub.Hub
