import MeterHub.Proofs.Hub.Order

/-!
Reads as subscribers. In every reachable hub whoever is in the registry as a reader is a read under
way, entered under the key that it waits for; and a read under way stays there until it ends, unless
a device is announced or the hub is stopped or given up.
-/

set_option autoImplicit false
set_option relaxedAutoImplicit false

namespace MeterHub

/-- Whether a move may take the entries of reads that go on. -/
def Move.dismisses : Move → Bool
  | .notify _ | .stop | .discard => true
  | _ => false

namespace Hub

/-- A read that is under way and has its entry in the registry. -/
structure Awaits (h : Hub) (index : Nat) (read : Read) : Prop where
  at_index : h.reads[index]? = some read
  pending : read.isPending = true
  entered : (read.key, .reader index) ∈ h.registry.filtered

/-- Every reader in the registry is a read under way. -/
def Enrolled (h : Hub) : Prop :=
  ∀ key index, (key, Subscriber.reader index) ∈ h.registry.filtered →
    ∃ read, h.Awaits index read ∧ read.key = key

/-- Every read under way is in the registry. -/
def Attentive (h : Hub) : Prop :=
  ∀ index read, h.reads[index]? = some read → read.isPending = true → h.Awaits index read

/-- What a move may do to reads and to their entries. -/
inductive Enrolment (h : Hub) (m : Move) (h' : Hub) : Prop
  | kept (entries : ∀ key index,
        (key, Subscriber.reader index) ∈ h'.registry.filtered ↔
          (key, Subscriber.reader index) ∈ h.registry.filtered)
      (answered : Answered h.reads h'.reads) (length : h'.reads.length = h.reads.length)
  | begun (read : Read) (pending : read.isPending = true) (reads : h'.reads = h.reads ++ [read])
      (registry : h'.registry = (h.registry.subscribeTo read.key (.reader h.reads.length)).2)
  | refused (read : Read) (finished : read.isPending = false)
      (reads : h'.reads = h.reads ++ [read]) (registry : h'.registry = h.registry)
  | ended {index : Nat} {read settled : Read} (at_index : h.reads[index]? = some read)
      (finished : settled.isPending = false) (reads : h'.reads = h.reads.set index settled)
      (registry : h'.registry = (h.registry.unsubscribeFrom read.key (.reader index)).2)
  | dismissed (dismisses : m.dismisses = true)
      (fewer : ∀ entry ∈ h'.registry.filtered, entry ∈ h.registry.filtered)
      (reads : h'.reads = h.reads)

theorem Answered.origin {before after : List Read} (answered : Answered before after)
    (length : after.length = before.length) {index : Nat} {read : Read}
    (at_index : after[index]? = some read) :
    ∃ old answer, before[index]? = some old ∧ read = { old with answer } := by
  have bound : index < before.length := by
    have later := (List.getElem?_eq_some_iff.mp at_index).1
    omega
  have entered : before[index]? = some before[index] := List.getElem?_eq_getElem bound
  obtain ⟨answer, same⟩ := answered index before[index] entered
  rw [at_index, Option.some.injEq] at same
  exact ⟨before[index], answer, entered, same⟩

namespace Enrolment

variable {h h' : Hub} {m : Move}

theorem of_same (registry : h'.registry = h.registry) (reads : h'.reads = h.reads) :
    Enrolment h m h' := by
  refine .kept ?_ (reads ▸ .refl h.reads) (congrArg List.length reads)
  intro key index
  rw [registry]

theorem enrolled (enrolment : Enrolment h m h') (before : h.Enrolled) : h'.Enrolled := by
  intro key index entered
  cases enrolment with
  | kept entries answered length =>
    obtain ⟨read, awaits, rfl⟩ := before key index ((entries key index).mp entered)
    obtain ⟨answer, at_index⟩ := answered index read awaits.at_index
    exact ⟨_, ⟨at_index, awaits.pending, entered⟩, rfl⟩
  | begun read pending reads registry =>
    rw [registry] at entered
    rcases Registry.mem_subscribeTo.mp entered with old | new
    · obtain ⟨read', awaits, rfl⟩ := before key index old
      have still := entered_still awaits.at_index read
      rw [← reads] at still
      exact ⟨read', ⟨still, awaits.pending, registry ▸ entered⟩, rfl⟩
    · obtain ⟨rfl, own⟩ := Prod.mk.inj new
      have index_eq : index = h.reads.length := Subscriber.reader.inj own
      have last : h'.reads[index]? = some read := by
        rw [reads, index_eq, List.getElem?_concat_length]
      exact ⟨read, ⟨last, pending, registry ▸ entered⟩, rfl⟩
  | refused read finished reads registry =>
    rw [registry] at entered
    obtain ⟨read', awaits, rfl⟩ := before key index entered
    have still := entered_still awaits.at_index read
    rw [← reads] at still
    exact ⟨read', ⟨still, awaits.pending, registry ▸ entered⟩, rfl⟩
  | @ended ended_index read settled at_index finished reads registry =>
    have later := entered
    rw [registry] at entered
    obtain ⟨old, others⟩ := Registry.mem_unsubscribeFrom.mp entered
    obtain ⟨read', awaits, rfl⟩ := before key index old
    -- the entry of the read that has ended is the one taken away
    have other : ended_index ≠ index := by
      rintro rfl
      have same : read' = read := Option.some.inj (awaits.at_index.symm.trans at_index)
      exact others (by rw [same])
    have still : h'.reads[index]? = some read' := by
      rw [reads, List.getElem?_set_ne other]
      exact awaits.at_index
    exact ⟨read', ⟨still, awaits.pending, later⟩, rfl⟩
  | dismissed dismisses fewer reads =>
    obtain ⟨read, awaits, rfl⟩ := before key index (fewer _ entered)
    exact ⟨read, ⟨reads ▸ awaits.at_index, awaits.pending, entered⟩, rfl⟩

theorem attentive (enrolment : Enrolment h m h') (heedful : m.dismisses = false)
    (before : h.Attentive) : h'.Attentive := by
  intro index read at_index pending
  refine ⟨at_index, pending, ?_⟩
  cases enrolment with
  | kept entries answered length =>
    obtain ⟨old, answer, was_at_index, rfl⟩ := answered.origin length at_index
    exact (entries old.key index).mpr (before index old was_at_index pending).entered
  | begun last waits reads registry =>
    rw [registry]
    rw [reads] at at_index
    rcases entered_last at_index with old | ⟨rfl, rfl⟩
    · exact Registry.mem_subscribeTo.mpr (.inl (before index read old pending).entered)
    · exact Registry.mem_subscribeTo.mpr (.inr rfl)
  | refused last finished reads registry =>
    rw [registry]
    rw [reads] at at_index
    rcases entered_last at_index with old | ⟨_, rfl⟩
    · exact (before index read old pending).entered
    · rw [finished] at pending
      cases pending
  | @ended ended_index read' settled was_at_index finished reads registry =>
    have other : ended_index ≠ index := by
      rintro rfl
      have bound : ended_index < h.reads.length := (List.getElem?_eq_some_iff.mp was_at_index).1
      rw [reads, List.getElem?_set_self bound, Option.some.injEq] at at_index
      rw [← at_index, finished] at pending
      cases pending
    rw [reads, List.getElem?_set_ne other] at at_index
    have awaits := before index read at_index pending
    rw [registry]
    refine Registry.mem_unsubscribeFrom.mpr ⟨awaits.entered, ?_⟩
    intro same
    have index_eq := Subscriber.reader.inj (Prod.mk.inj same).2
    exact other index_eq.symm
  | dismissed dismisses fewer reads =>
    rw [heedful] at dismisses
    cases dismisses

end Enrolment

theorem Opens.readers {h after : Hub} {opening : Opening} {port : Port}
    {result : Except Failure (Nat × Bool)} (opens : Opens h opening port result after) :
    after.registry = h.registry ∧ after.reads = h.reads := by
  cases opens <;> exact ⟨rfl, rfl⟩

theorem appeared_readers (h : Hub) (site : Site) (port : Port) (polled : Bool) :
    (h.appeared site port polled).2.registry = h.registry ∧
      (h.appeared site port polled).2.reads = h.reads := by
  rcases h.appeared_cases site port polled with nothing | opened
  · rw [nothing]
    exact ⟨rfl, rfl⟩
  · rw [opened]
    exact (openPort_opens h site.opening port).readers

theorem openNative_readers (site : Site) (h : Hub) (name : String) :
    (openNative site h name).registry = h.registry ∧ (openNative site h name).reads = h.reads := by
  obtain ⟨lookups, nowhere | ⟨port, refused | ⟨index, opened⟩⟩⟩ := openNative_cases site h name
  · rw [nowhere]
    exact ⟨rfl, rfl⟩
  · rw [refused]
    exact (openPort_opens { h with lookups } site.opening port).readers
  · rw [opened]
    exact (openPort_opens { h with lookups } site.opening port).readers

theorem start_readers (h : Hub) (site : Site) :
    (h.start site).registry = h.registry ∧ (h.start site).reads = h.reads := by
  have natives (names : List String) (g : Hub) :
      (names.foldl (openNative site) g).registry = g.registry ∧
        (names.foldl (openNative site) g).reads = g.reads := by
    induction names generalizing g with
    | nil => exact ⟨rfl, rfl⟩
    | cons name names ih =>
      obtain ⟨registry, reads⟩ := ih (openNative site g name)
      obtain ⟨registry', reads'⟩ := openNative_readers site g name
      exact ⟨registry.trans registry', reads.trans reads'⟩
  unfold start
  split
  · exact ⟨rfl, rfl⟩
  · exact natives h.config.nativePorts { h with running := true }

theorem disappeared_readers (h : Hub) (port : Port) :
    (h.disappeared port).registry = h.registry ∧ (h.disappeared port).reads = h.reads := by
  obtain ⟨_, _, disappeared⟩ := h.disappeared_eq port
  rw [disappeared]
  exact ⟨rfl, rfl⟩

theorem consume_readers (h : Hub) (site : Site) :
    (h.consume site).registry = h.registry ∧ (h.consume site).reads = h.reads := by
  rcases h.consume_cases site with nothing | ⟨poller, change, rest, _, _, consumed⟩
  · rw [nothing]
    exact ⟨rfl, rfl⟩
  · let drained : Hub := { h with poller := some { poller with queue := rest } }
    rw [consumed]
    cases change with
    | appeared port => exact appeared_readers drained site port true
    | disappeared port => exact disappeared_readers drained port

theorem subscribeTo_enrolment (h : Hub) (site : Site) (key : Identifier) (name : String) :
    Enrolment h (.subscribeTo site key name) (h.subscribeTo site key (.listener name)).2 := by
  have attaches := attach_attaches h site key (.listener name)
  rw [subscribeTo_eq]
  generalize (h.attach site key (.listener name)).1 = result at attaches
  generalize (h.attach site key (.listener name)).2 = after at attaches ⊢
  have listens : ∀ key' index,
      (key', Subscriber.reader index) ∈ (h.registry.subscribeTo key (.listener name)).2.filtered ↔
        (key', Subscriber.reader index) ∈ h.registry.filtered := by
    intro key' index
    rw [Registry.mem_subscribeTo]
    simp
  cases attaches with
  | served found => exact .kept listens (.refl h.reads) rfl
  | shared unserved resolved found => exact .kept listens (.refl h.reads) rfl
  | opened unserved resolved free defined granted started =>
    exact .kept listens (.refl h.reads) rfl
  | refused unserved => exact .of_same rfl rfl
  | unstarted unserved resolved granted refused => exact .of_same rfl rfl

theorem beginRead_enrolment {h : Hub} (orderly : h.Orderly) (site : Site) (key : Identifier)
    (timeout : Option Span) :
    Enrolment h (.beginRead site key timeout) (h.beginRead site key timeout) := by
  have bounded : ∀ live ∈ h.sessions, live.source < h.sources.length :=
    fun live member => orderly.bounded member
  have begins := beginRead_begins bounded site key timeout
  generalize h.beginRead site key timeout = after at begins ⊢
  cases begins with
  | served lookups member => exact .begun _ rfl rfl rfl
  | opened resolved free defined granted started => exact .begun _ rfl rfl rfl
  | refused read finished => exact .refused read finished rfl rfl
  | unstarted read finished started stopped idle => exact .refused read finished rfl rfl

theorem unsubscribe_enrolment (h : Hub) (name : String) :
    Enrolment h (.unsubscribe name) (h.unsubscribe (.listener name)) := by
  obtain ⟨_, unsubscribed⟩ := h.unsubscribe_eq (.listener name)
  rw [unsubscribed]
  refine .kept ?_ (.refl h.reads) rfl
  intro key index
  change _ ∈ (h.registry.without (.listener name)).filtered ↔ _
  rw [Registry.mem_without]
  simp

theorem unsubscribeFrom_enrolment (h : Hub) (key : Identifier) (name : String) :
    Enrolment h (.unsubscribeFrom key name) (h.unsubscribeFrom key (.listener name)) := by
  obtain ⟨_, unsubscribed⟩ := h.unsubscribeFrom_eq key (.listener name)
  rw [unsubscribed]
  refine .kept ?_ (.refl h.reads) rfl
  intro key' index
  change _ ∈ (h.registry.unsubscribeFrom key (.listener name)).2.filtered ↔ _
  rw [Registry.mem_unsubscribeFrom]
  simp

theorem endRead_enrolment (h : Hub) (index : Nat) :
    Enrolment h (.endRead index) (h.endRead index) := by
  rcases h.endRead_cases index with nothing | ⟨read, at_index, pending⟩
  · rw [nothing]
    exact .of_same rfl rfl
  · obtain ⟨_, ended⟩ := endRead_eq at_index pending
    rw [ended]
    exact .ended at_index rfl rfl rfl

theorem awaits_endRead {h : Hub} {index : Nat} {read : Read} (at_index : h.reads[index]? = some read)
    (pending : read.isPending = true) {other : Nat} {read' : Read} :
    (h.endRead index).Awaits other read' ↔ other ≠ index ∧ h.Awaits other read' := by
  obtain ⟨_, ended⟩ := endRead_eq at_index pending
  have reads : (h.endRead index).reads =
      h.reads.set index { read with result := some read.outcome } :=
    by rw [ended]
  have filtered : ∀ entry, entry ∈ (h.endRead index).registry.filtered ↔
      entry ∈ h.registry.filtered ∧ entry ≠ (read.key, .reader index) := by
    intro entry
    rw [ended]
    exact Registry.mem_unsubscribeFrom
  constructor
  · rintro ⟨later, waits, entered⟩
    have different : other ≠ index := by
      rintro rfl
      have bound : other < h.reads.length := (List.getElem?_eq_some_iff.mp at_index).1
      rw [reads, List.getElem?_set_self bound, Option.some.injEq] at later
      rw [← later] at waits
      cases waits
    rw [reads, List.getElem?_set_ne different.symm] at later
    exact ⟨different, later, waits, ((filtered _).mp entered).1⟩
  · rintro ⟨different, earlier, waits, entered⟩
    refine ⟨?_, waits, (filtered _).mpr ⟨entered, ?_⟩⟩
    · rw [reads, List.getElem?_set_ne different.symm]
      exact earlier
    · intro same
      exact different (Subscriber.reader.inj (Prod.mk.inj same).2)

theorem notify_enrolment (h : Hub) (index : Nat) :
    Enrolment h (.notify index) (h.notify index) := by
  cases noted : h.notices[index]? with
  | none =>
    rw [notify_absent noted]
    exact .of_same rfl rfl
  | some i =>
    obtain ⟨_, _, _, notified⟩ := notify_eq noted
    rw [notified]
    exact .dismissed rfl (fun entry entered => (mem_unplugged.mp entered).1) rfl

theorem takeUp_length (h : Hub) (lane : Nat) : (h.takeUp lane).reads.length = h.reads.length := by
  unfold takeUp
  split
  · rename_i subscriber event _
    cases subscriber with
    | listener name => rfl
    | reader index => exact List.length_modify _ _ _
  · rfl

theorem takeUp_enrolment (h : Hub) (lane : Nat) : Enrolment h (.takeUp lane) (h.takeUp lane) := by
  have length := h.takeUp_length lane
  obtain ⟨_, _, taken, answered⟩ := h.takeUp_eq lane
  rw [taken] at length ⊢
  exact .kept (fun _ _ => .rfl) answered length

theorem report_enrolment {h : Hub} (orderly : h.Orderly) (index : Nat) (signal : Signal) :
    Enrolment h (.report index signal) (h.report index signal) := by
  obtain ⟨_, reported⟩ := report_eq orderly.distinct index signal
  rw [reported]
  exact .of_same rfl rfl

theorem stop_enrolment (h : Hub) : Enrolment h .stop h.stop := by
  by_cases running : h.running = true
  · obtain ⟨_, stopped⟩ := stop_eq running
    rw [stopped]
    exact .dismissed rfl (List.forall_mem_nil _) rfl
  · have nothing : h.stop = h := if_neg running
    rw [nothing]
    exact .of_same rfl rfl

theorem discard_enrolment (h : Hub) : Enrolment h .discard (h.move .discard) := by
  by_cases held : h.isHeld = true
  · have nothing : h.move .discard = h := if_pos held
    rw [nothing]
    exact .of_same rfl rfl
  · have given : h.move .discard = h.discard := if_neg held
    rw [given]
    exact .dismissed rfl (List.forall_mem_nil _) rfl

theorem subscribe_enrolment (h : Hub) (name : String) :
    Enrolment h (.subscribe name) (h.subscribe (.listener name)) := by
  refine .kept ?_ (.refl h.reads) rfl
  intro key index
  change _ ∈ (h.registry.subscribe (.listener name)).2.filtered ↔ _
  unfold Registry.subscribe
  split <;> exact .rfl

theorem move_enrolment {h : Hub} (orderly : h.Orderly) (m : Move) : Enrolment h m (h.move m) := by
  cases m with
  | start site => exact .of_same (h.start_readers site).1 (h.start_readers site).2
  | stop => exact stop_enrolment h
  | subscribe name => exact subscribe_enrolment h name
  | unsubscribe name => exact unsubscribe_enrolment h name
  | subscribeTo site key name => exact subscribeTo_enrolment h site key name
  | unsubscribeFrom key name => exact unsubscribeFrom_enrolment h key name
  | appeared site port =>
    obtain ⟨registry, reads⟩ := h.appeared_readers site port false
    exact .of_same registry reads
  | disappeared port =>
    obtain ⟨registry, reads⟩ := h.disappeared_readers port
    exact .of_same registry reads
  | beginRead site key timeout => exact beginRead_enrolment orderly site key timeout
  | endRead index => exact endRead_enrolment h index
  | report source signal => exact report_enrolment orderly source signal
  | notify index => exact notify_enrolment h index
  | poll ports => exact .of_same rfl rfl
  | refill => exact .of_same rfl rfl
  | consume site =>
    obtain ⟨registry, reads⟩ := h.consume_readers site
    exact .of_same registry reads
  | takeUp lane => exact takeUp_enrolment h lane
  | finish lane panicked => exact .of_same rfl rfl
  | discard => exact discard_enrolment h

theorem run_enrolled (config : Config) (moves : List Move) :
    ((fresh config).run moves).Enrolled := by
  refine run_induct (fun _ => True) Enrolled ?_ ?_ fun _ _ => trivial
  · intro key index entered
    cases entered
  · intro h m orderly _ enrolled
    exact (move_enrolment orderly m).enrolled enrolled

theorem run_attentive (config : Config) {moves : List Move}
    (heedful : ∀ m ∈ moves, m.dismisses = false) : ((fresh config).run moves).Attentive := by
  refine run_induct (fun m => m.dismisses = false) Attentive ?_ ?_ heedful
  · intro index read at_index
    cases at_index
  · intro h m orderly heedful attentive
    exact (move_enrolment orderly m).attentive heedful attentive

end Hub

end MeterHub
