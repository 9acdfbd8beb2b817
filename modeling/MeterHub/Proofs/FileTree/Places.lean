import MeterHub.FileTree

/-!
What is where in a file tree. A place is looked at without what is below it, so that a tree which
gains a directory or a file is another one at that place alone. Steps that could be taken before can
be taken after that, and lead to the same place.
-/

set_option autoImplicit false
set_option relaxedAutoImplicit false

namespace MeterHub

theorem seq_eq_ok_iff {ε α β : Type} {first : Except ε α} {next : α → Except ε β} {b : β} :
    (first >>= next) = .ok b ↔ ∃ a, first = .ok a ∧ next a = .ok b := by
  cases first with
  | error problem => exact iff_of_false nofun nofun
  | ok a => exact ⟨fun done => ⟨a, rfl, done⟩, fun ⟨_, same, done⟩ => Except.ok.inj same ▸ done⟩

namespace FileTree

/-- What is at a place, apart from what is below it. -/
inductive Entry
  | file (content : Content)
  | directory
deriving DecidableEq

def top : FileTree → Entry
  | .file content => .file content
  | .directory _ => .directory

def look (tree : FileTree) (place : Place) : Option Entry := (tree.entry? place).map top

theorem look_directory (entries : List (String × FileTree)) (name : String) (names : Place) :
    look (.directory entries) (name :: names) =
      (entries.lookup name).bind fun below => below.look names := by
  simp only [look, entry?]
  cases entries.lookup name <;> rfl

theorem entry?_append (tree : FileTree) (above below : Place) :
    tree.entry? (above ++ below) = (tree.entry? above).bind fun entry => entry.entry? below := by
  induction above generalizing tree with
  | nil => rfl
  | cons name names ih =>
    cases tree with
    | file content => rfl
    | directory entries =>
      simp only [List.cons_append, entry?]
      cases entries.lookup name with
      | none => rfl
      | some entry => exact ih entry

theorem holdsDirectory_iff {tree : FileTree} {place : Place} :
    tree.holdsDirectory place = true ↔ tree.look place = some .directory := by
  unfold look holdsDirectory
  cases tree.entry? place with
  | none => exact iff_of_false nofun nofun
  | some entry =>
    cases entry with
    | file content => exact iff_of_false nofun nofun
    | directory entries => exact iff_of_true rfl rfl

theorem look_eq_none_iff {tree : FileTree} {place : Place} :
    tree.look place = none ↔ tree.entry? place = none := Option.map_eq_none_iff

theorem look_above {tree : FileTree} {above : Place} {name : String} {names : Place}
    (here : tree.look (above ++ name :: names) ≠ none) : tree.look above = some .directory := by
  unfold look at *
  rw [entry?_append] at here
  match found : tree.entry? above with
  | none => exact absurd (by rw [found]; rfl) here
  | some (.file content) => exact absurd (by rw [found]; rfl) here
  | some (.directory entries) => rfl

theorem lookup_first (name other : String) (entry : FileTree)
    (entries : List (String × FileTree)) :
    List.lookup other ((name, entry) :: entries) =
      if other = name then some entry else entries.lookup other := by
  rw [List.lookup_cons]
  by_cases found : other = name
  · simp [found]
  · rw [beq_eq_false_iff_ne.mpr found, if_neg found]

theorem lookup_bind (name other : String) (entry : FileTree)
    (entries : List (String × FileTree)) :
    (bind name entry entries).lookup other =
      if other = name then some entry else entries.lookup other := by
  induction entries with
  | nil => exact lookup_first name other entry []
  | cons first entries ih =>
    obtain ⟨n, e⟩ := first
    unfold bind
    by_cases same : n = name
    · rw [if_pos (beq_iff_eq.mpr same), lookup_first, lookup_first, same]
      by_cases found : other = name <;> simp [found]
    · rw [if_neg (by simpa using same), lookup_first, lookup_first, ih]
      by_cases found : other = n <;> simp [found, same]

theorem put_below {entries : List (String × FileTree)} {name : String} {below : FileTree}
    (found : entries.lookup name = some below) {names : Place} (further : names ≠ [])
    (entry : FileTree) :
    put (.directory entries) (name :: names) entry =
      .directory (bind name (below.put names entry) entries) := by
  cases names with
  | nil => exact absurd rfl further
  | cons next names => simp only [put, found]

/-- An entry that has nothing below it, put in a directory in place of nothing or of a file,
changes what is at its place and nothing else. -/
theorem look_put {tree entry : FileTree} {place : Place} {name : String}
    (room : tree.look place = some .directory)
    (free : tree.look (place ++ [name]) ≠ some .directory)
    (leaf : ∀ n names, entry.look (n :: names) = none) (other : Place) :
    (tree.put (place ++ [name]) entry).look other =
      if other = place ++ [name] then some entry.top else tree.look other := by
  -- along the names that lead to the directory: each of them binds the tree below it anew
  induction place generalizing tree other with
  | nil =>
    cases tree with
    | file content => exact nomatch room
    | directory entries =>
      cases other with
      | nil => rfl
      | cons n names =>
        simp only [List.nil_append, put, look_directory, lookup_bind, List.cons.injEq]
        by_cases same : n = name
        · subst same
          cases names with
          | nil => simp [look, entry?]
          | cons next names =>
            have nothing : look (.directory entries) ([n] ++ next :: names) = none :=
              Classical.not_not.mp fun here => free (look_above here)
            rw [List.singleton_append, look_directory] at nothing
            simp [leaf, nothing]
        · simp [same]
  | cons m above ih =>
    cases tree with
    | file content => exact nomatch room
    | directory entries =>
      rw [look_directory] at room
      obtain ⟨below, found, inside⟩ := Option.bind_eq_some_iff.mp room
      have unused : below.look (above ++ [name]) ≠ some .directory := by
        rwa [List.cons_append, look_directory, found] at free
      rw [List.cons_append, put_below found (by simp)]
      cases other with
      | nil => rfl
      | cons n names =>
        simp only [look_directory, lookup_bind, List.cons.injEq]
        by_cases same : n = m
        · subst same
          simp [found, ih inside unused]
        · simp [same]

/-- Where a step leads. Above the root is the root. -/
def follow (here : Place) : Step → Place
  | .up => here.dropLast
  | .down name => here ++ [name]

def placeOf (steps : List Step) : Place := steps.foldl follow []

theorem placeOf_concat (steps : List Step) (step : Step) :
    placeOf (steps ++ [step]) = follow (placeOf steps) step := by
  simp [placeOf]

/-- A step can be taken: from a directory, and down only to an entry whose name is none too long. -/
def Leads (tree : FileTree) (here : Place) (step : Step) : Prop :=
  tree.look here = some .directory ∧
    ∀ name, step = .down name → isTooLong name = false ∧ tree.look (here ++ [name]) ≠ none

theorem walk_cons_eq_ok_iff {tree : FileTree} {here place : Place} {step : Step}
    {steps : List Step} :
    tree.walk here (step :: steps) = .ok place ↔
      tree.Leads here step ∧ tree.walk (follow here step) steps = .ok place := by
  unfold Leads
  rw [← holdsDirectory_iff]
  cases step with
  | up =>
    rw [walk]
    cases held : tree.holdsDirectory here <;> simp [follow]
  | down name =>
    rw [walk]
    cases held : tree.holdsDirectory here with
    | false => simp
    | true =>
      cases long : isTooLong name with
      | true => simp [long]
      | false =>
        cases found : tree.entry? (here ++ [name]) <;>
          simp [long, found, look_eq_none_iff, follow]

theorem walk_concat_eq_ok_iff {tree : FileTree} {here place : Place} {steps : List Step}
    {step : Step} :
    tree.walk here (steps ++ [step]) = .ok place ↔
      ∃ near, tree.walk here steps = .ok near ∧ tree.Leads near step ∧
        place = follow near step := by
  induction steps generalizing here with
  | nil =>
    rw [List.nil_append, walk_cons_eq_ok_iff]
    simp [walk, eq_comm]
  | cons first steps ih =>
    rw [List.cons_append, walk_cons_eq_ok_iff, ih]
    simp only [walk_cons_eq_ok_iff, and_assoc, exists_and_left]

theorem walk_eq {tree : FileTree} {here place : Place} {steps : List Step}
    (walked : tree.walk here steps = .ok place) : place = steps.foldl follow here := by
  induction steps generalizing here with
  | nil => exact (Except.ok.inj walked).symm
  | cons step steps ih => exact ih (walk_cons_eq_ok_iff.mp walked).2

theorem placeOf_down {tree : FileTree} {place : Place} {steps : List Step}
    (walked : tree.walk [] steps = .ok place) (name : String) :
    placeOf (steps ++ [.down name]) = place ++ [name] := by
  rw [placeOf_concat, walk_eq walked]
  rfl

theorem length_foldl_follow_le (here : Place) (steps : List Step) :
    (steps.foldl follow here).length ≤ here.length + steps.length := by
  induction steps generalizing here with
  | nil => exact Nat.le_refl _
  | cons step steps ih =>
    have first : (follow here step).length ≤ here.length + 1 := by
      cases step with
      | up => simp only [follow, List.length_dropLast]; omega
      | down name => simp [follow]
    have later := ih (follow here step)
    simp only [List.foldl_cons, List.length_cons]
    omega

/-- Nothing but directories is on the way to a place, as far as there is anything. -/
def IsOpen (tree : FileTree) (place : Place) : Prop :=
  ∀ above, above <+: place → tree.look above = some .directory ∨ tree.look above = none

theorem walk_down {tree : FileTree} {here names : Place} (room : tree.look here = some .directory)
    (isOpen : tree.IsOpen (here ++ names)) (short : ∀ n ∈ names, isTooLong n = false) :
    tree.walk here (names.map .down) =
      if tree.look (here ++ names) = none then .error .notFound else .ok (here ++ names) := by
  induction names generalizing here with
  | nil => simp [walk, room]
  | cons n names ih =>
    have held := holdsDirectory_iff.mpr room
    obtain ⟨first, others⟩ := List.forall_mem_cons.mp short
    rw [List.append_cons] at isOpen ⊢
    rw [List.map_cons, walk]
    rcases isOpen (here ++ [n]) (List.prefix_append ..) with there | nothing
    · have found : tree.entry? (here ++ [n]) ≠ none :=
        mt look_eq_none_iff.mpr (there ▸ Option.some_ne_none _)
      simpa [held, first, found] using ih there isOpen others
    · have below : tree.look (here ++ [n] ++ names) = none := by
        cases names with
        | nil => rw [List.append_nil, nothing]
        | cons next names =>
          exact Classical.not_not.mp fun deeper => by simp [look_above deeper] at nothing
      rw [below, if_pos rfl]
      simp [held, first, look_eq_none_iff.mp nothing]

theorem IsOpen.above {tree : FileTree} {place above : Place} (isOpen : tree.IsOpen place)
    (along : above <+: place) : tree.IsOpen above :=
  fun _ shorter => isOpen _ (shorter.trans along)

theorem IsOpen.walk {tree : FileTree} {names : Place} (isOpen : tree.IsOpen names)
    (short : ∀ n ∈ names, isTooLong n = false) :
    tree.walk [] (names.map .down) =
      if tree.look names = none then .error .notFound else .ok names := by
  rcases isOpen [] (List.nil_prefix ..) with there | nothing
  · exact walk_down there isOpen short
  · exact nomatch nothing

/-- One tree has all directories of another one, and something wherever that one has anything. -/
structure Keeps (before after : FileTree) : Prop where
  directory : ∀ place, before.look place = some .directory → after.look place = some .directory
  entry : ∀ place, before.look place ≠ none → after.look place ≠ none

theorem Keeps.walk {before after : FileTree} (keeps : Keeps before after) {here place : Place}
    {steps : List Step} (walked : before.walk here steps = .ok place) :
    after.walk here steps = .ok place := by
  induction steps generalizing here with
  | nil => exact walked
  | cons step steps ih =>
    obtain ⟨⟨room, down⟩, further⟩ := walk_cons_eq_ok_iff.mp walked
    refine walk_cons_eq_ok_iff.mpr ⟨⟨keeps.directory _ room, fun name same => ?_⟩, ih further⟩
    exact ⟨(down name same).1, keeps.entry _ (down name same).2⟩

theorem keeps_put {tree entry : FileTree} {place : Place} {name : String}
    (room : tree.look place = some .directory)
    (free : tree.look (place ++ [name]) ≠ some .directory)
    (leaf : ∀ n names, entry.look (n :: names) = none) :
    Keeps tree (tree.put (place ++ [name]) entry) where
  directory other held := by
    have different : other ≠ place ++ [name] := by
      rintro rfl
      exact free held
    rw [look_put room free leaf, if_neg different, held]
  entry other held := by
    rw [look_put room free leaf]
    split
    · exact nofun
    · exact held

/-- A tree is another one with nothing but new directories, which stand where there was nothing
and only at some places. -/
def Adds (new : Place → Prop) (before after : FileTree) : Prop :=
  ∀ place, after.look place = before.look place ∨
    before.look place = none ∧ after.look place = some .directory ∧ new place

namespace Adds

variable {new : Place → Prop} {first second third : FileTree}

theorem refl (tree : FileTree) : Adds new tree tree := fun _ => .inl rfl

theorem mono {more : Place → Prop} (adds : Adds new first second)
    (wider : ∀ place, new place → more place) : Adds more first second :=
  fun place => (adds place).imp id fun added => ⟨added.1, added.2.1, wider place added.2.2⟩

theorem trans (one : Adds new first second) (two : Adds new second third) :
    Adds new first third := by
  intro place
  rcases one place with same | ⟨nothing, made, listed⟩
  · rw [← same]
    exact two place
  · refine .inr ⟨nothing, ?_, listed⟩
    rcases two place with same | ⟨gone, _⟩
    · rw [same, made]
    · exact nomatch made.symm.trans gone

end Adds

end FileTree

end MeterHub
