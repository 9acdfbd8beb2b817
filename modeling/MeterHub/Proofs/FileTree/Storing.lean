import Mathlib.Data.List.Induction
import MeterHub.Proofs.FileTree.Places

/-!
What is left behind where a file is stored. Making directories adds those that were missing on the
way and nothing else, whether or not all of them can be made, and writing a file changes one place.
Where nothing is in the way, the file is stored.
-/

set_option autoImplicit false
set_option relaxedAutoImplicit false

namespace MeterHub.FileTree

theorem checkNames_eq_ok_iff {steps : List Step} :
    checkNames steps = .ok () ↔ ∀ step ∈ steps, step.isUnspeakable = false := by
  unfold checkNames
  cases unspeakable : steps.any Step.isUnspeakable with
  | true =>
    obtain ⟨step, listed, bad⟩ := List.any_eq_true.mp unspeakable
    exact iff_of_false nofun fun all => by simp [all step listed] at bad
  | false => exact iff_of_true rfl (by simpa using unspeakable)

theorem approach_eq_ok {tree : FileTree} {steps : List Step} {place : Place} {name : String}
    (near : tree.approach steps = .ok (place, some name)) :
    ∃ before, steps = before ++ [.down name] ∧ checkNames steps = .ok () ∧
      tree.walk [] before = .ok place ∧ tree.look place = some .directory := by
  obtain ⟨_, named, near⟩ := seq_eq_ok_iff.mp near
  obtain ⟨here, walked, near⟩ := seq_eq_ok_iff.mp near
  cases room : tree.holdsDirectory here with
  | false => simp [room] at near
  | true =>
    cases last : steps.getLast? with
    | none => simp [room, last, pure, Except.pure] at near
    | some step =>
      cases step with
      | up => simp [room, last, pure, Except.pure] at near
      | down name' =>
        obtain ⟨rfl, rfl⟩ : here = place ∧ name' = name := by
          simpa [room, last, pure, Except.pure] using near
        obtain ⟨before, rfl⟩ := List.getLast?_eq_some_iff.mp last
        rw [List.dropLast_concat] at walked
        exact ⟨before, rfl, named, walked, holdsDirectory_iff.mp room⟩

theorem approach_concat {tree : FileTree} {before : List Step} {step : Step} {place : Place}
    (named : checkNames (before ++ [step]) = .ok ()) (walked : tree.walk [] before = .ok place)
    (room : tree.look place = some .directory) :
    tree.approach (before ++ [step]) =
      .ok (place, match step with | .down name => some name | .up => none) := by
  have held := holdsDirectory_iff.mpr room
  cases step <;>
    simp [approach, named, walked, held, Bind.bind, Except.bind, pure, Except.pure]

theorem makeDirectory_down {tree : FileTree} {before : List Step} {name : String} {place : Place}
    (named : checkNames (before ++ [.down name]) = .ok ())
    (walked : tree.walk [] before = .ok place) (room : tree.look place = some .directory)
    (short : isTooLong name = false) :
    tree.makeDirectory (before ++ [.down name]) =
      if tree.look (place ++ [name]) = none then .ok (tree.put (place ++ [name]) (.directory []))
      else .error .alreadyExists := by
  have near := approach_concat named walked room
  cases found : tree.entry? (place ++ [name]) <;>
    simp [makeDirectory, near, short, found, look, Bind.bind, Except.bind, pure, Except.pure]

theorem makeDirectory_adds {tree made : FileTree} {steps : List Step}
    (success : tree.makeDirectory steps = .ok made) : Adds (· = placeOf steps) tree made := by
  obtain ⟨⟨place, name?⟩, near, done⟩ := seq_eq_ok_iff.mp success
  cases name? with
  | none => exact nomatch done
  | some name =>
    obtain ⟨before, rfl, named, walked, room⟩ := approach_eq_ok near
    have short : isTooLong name = false := by
      cases long : isTooLong name with
      | false => rfl
      | true => simp [long] at done
    rw [makeDirectory_down named walked room short] at success
    split at success
    · rename_i nothing
      obtain rfl := Except.ok.inj success
      intro other
      rw [look_put room (by simp [nothing]) (fun _ _ => rfl), placeOf_down walked]
      split
      · rename_i same
        exact .inr ⟨same ▸ nothing, rfl, same⟩
      · exact .inl rfl
    · exact nomatch success

theorem ensureDirectory_adds {tree made : FileTree} {steps : List Step}
    (success : tree.ensureDirectory steps = .ok made) : Adds (· = placeOf steps) tree made := by
  unfold ensureDirectory at success
  split at success
  · split at success
    · split at success
      · exact Except.ok.inj success ▸ .refl tree
      · exact nomatch success
    · exact nomatch success
  · exact makeDirectory_adds success

theorem ensureBackwards_adds (tree : FileTree) (steps : List Step) :
    Adds (fun place => ∃ way, way <+: steps.reverse ∧ place = placeOf way) tree
      (tree.ensureBackwards steps).2 := by
  induction steps generalizing tree with
  | nil => exact .refl tree
  | cons last before ih =>
    have here {tree made : FileTree}
        (success : tree.ensureDirectory (last :: before).reverse = .ok made) :
        Adds (fun place => ∃ way, way <+: (last :: before).reverse ∧ place = placeOf way)
          tree made :=
      (ensureDirectory_adds success).mono fun _ same => ⟨_, List.prefix_rfl, same⟩
    have above (tree : FileTree) :
        Adds (fun place => ∃ way, way <+: (last :: before).reverse ∧ place = placeOf way)
          tree (tree.ensureBackwards before).2 := by
      refine (ih tree).mono fun _ ⟨way, along, same⟩ => ⟨way, along.trans ?_, same⟩
      rw [List.reverse_cons]
      exact List.prefix_append ..
    unfold ensureBackwards
    split
    · exact here ‹_›
    · have reached := above tree
      split
      · rename_i made done
        rw [done] at reached
        split
        · exact reached.trans (here ‹_›)
        · exact reached
      · rename_i failed _
        exact reached
    · exact .refl tree

theorem ensureDirectory_present {tree : FileTree} {before : List Step} {step : Step}
    {place : Place} (named : checkNames (before ++ [step]) = .ok ())
    (walked : tree.walk [] (before ++ [step]) = .ok place)
    (there : tree.look place = some .directory) :
    tree.ensureDirectory (before ++ [step]) = .ok tree := by
  obtain ⟨near, reached, ⟨room, down⟩, -⟩ := walk_concat_eq_ok_iff.mp walked
  have exists_already : tree.makeDirectory (before ++ [step]) = .error .alreadyExists := by
    cases step with
    | up => simp [makeDirectory, approach_concat named reached room, Bind.bind, Except.bind]
    | down name =>
      obtain ⟨short, taken⟩ := down name rfl
      rw [makeDirectory_down named reached room short, if_neg taken]
  simp [ensureDirectory, exists_already, walked, holdsDirectory_iff.mpr there]

theorem makeDirectories_present {tree : FileTree} {steps : List Step} {place : Place}
    (named : checkNames steps = .ok ()) (walked : tree.walk [] steps = .ok place)
    (there : tree.look place = some .directory) : tree.makeDirectories steps = (.ok (), tree) := by
  rcases List.eq_nil_or_concat steps with rfl | ⟨before, step, rfl⟩
  · rfl
  · rw [List.concat_eq_append] at *
    have present := ensureDirectory_present named walked there
    simp [makeDirectories, ensureBackwards, present]

theorem makeDirectories_adds (tree : FileTree) (steps : List Step) :
    Adds (fun place => ∃ way, way <+: steps ∧ place = placeOf way) tree
      (tree.makeDirectories steps).2 := by
  have added := tree.ensureBackwards_adds steps.reverse
  rwa [List.reverse_reverse] at added

/-- An entry can have the name. -/
def IsFit (name : String) : Prop :=
  isTooLong name = false ∧ (Step.down name).isUnspeakable = false

theorem checkNames_down {names : Place} (fit : ∀ n ∈ names, IsFit n) :
    checkNames (names.map .down) = .ok () :=
  checkNames_eq_ok_iff.mpr (List.forall_mem_map.mpr fun n listed => (fit n listed).2)

theorem Adds.isOpen {new : Place → Prop} {before after : FileTree} (adds : Adds new before after)
    {place : Place} (isOpen : before.IsOpen place) : after.IsOpen place := by
  intro above along
  rcases adds above with same | ⟨_, made, _⟩
  · rw [same]
    exact isOpen above along
  · exact .inl made

theorem ensureDirectory_open {tree : FileTree} {names : Place} {name : String}
    (fit : ∀ n ∈ names ++ [name], IsFit n) (isOpen : tree.IsOpen (names ++ [name]))
    (room : tree.look names = some .directory) :
    ∃ made, tree.ensureDirectory ((names ++ [name]).map .down) = .ok made ∧
      made.look (names ++ [name]) = some .directory := by
  have named := checkNames_down fit
  have short : ∀ n ∈ names ++ [name], isTooLong n = false := fun n listed => (fit n listed).1
  have near := (isOpen.above (List.prefix_append ..)).walk fun n listed =>
    short n (List.mem_append_left _ listed)
  have whole := isOpen.walk short
  rw [room, if_neg nofun] at near
  rw [List.map_append] at named whole ⊢
  rcases isOpen _ List.prefix_rfl with there | nothing
  · rw [there, if_neg nofun] at whole
    exact ⟨tree, ensureDirectory_present named whole there, there⟩
  · refine ⟨tree.put (names ++ [name]) (.directory []), ?_, ?_⟩
    · have made := makeDirectory_down named near room (short name (by simp))
      rw [if_pos nothing] at made
      simp only [List.map_cons, List.map_nil, ensureDirectory, made]
    · rw [look_put room (by simp [nothing]) (fun _ _ => rfl), if_pos rfl]
      rfl

theorem ensureDirectory_missing {tree : FileTree} {names : Place} {name : String}
    (fit : ∀ n ∈ names ++ [name], IsFit n) (isOpen : tree.IsOpen names)
    (nothing : tree.look names = none) :
    tree.ensureDirectory ((names ++ [name]).map .down) = .error .notFound := by
  have named := checkNames_down fit
  have near := isOpen.walk fun n listed => (fit n (List.mem_append_left _ listed)).1
  rw [nothing, if_pos rfl] at near
  rw [List.map_append] at named ⊢
  change checkNames (names.map .down ++ [.down name]) = .ok () at named
  have refused : tree.makeDirectory (names.map .down ++ [.down name]) = .error .notFound := by
    simp [makeDirectory, approach, named, near, Bind.bind, Except.bind]
  simp only [List.map_cons, List.map_nil, ensureDirectory, refused]

theorem makeDirectories_open {tree : FileTree} {names : Place} (fit : ∀ n ∈ names, IsFit n)
    (isOpen : tree.IsOpen names) :
    ∃ made, tree.makeDirectories (names.map .down) = (.ok (), made) ∧
      made.look names = some .directory := by
  induction names using List.reverseRecOn with
  | nil =>
    rcases isOpen [] List.prefix_rfl with there | nothing
    · exact ⟨tree, rfl, there⟩
    · exact nomatch nothing
  | append_singleton names name ih =>
    have before := List.prefix_append names [name]
    have unfolded : tree.makeDirectories ((names ++ [name]).map .down) =
        tree.ensureBackwards (.down name :: (names.map .down).reverse) := by
      simp [makeDirectories]
    have steps : (Step.down name :: (names.map .down).reverse).reverse =
        (names ++ [name]).map .down := by simp
    rw [unfolded, ensureBackwards, steps]
    rcases isOpen names before with room | nothing
    · obtain ⟨made, success, there⟩ := ensureDirectory_open fit isOpen room
      exact ⟨made, by rw [success], there⟩
    · rw [ensureDirectory_missing fit (isOpen.above before) nothing]
      obtain ⟨near, success, room⟩ := ih (fun n listed => fit n (List.mem_append_left _ listed))
        (isOpen.above before)
      have added := tree.makeDirectories_adds (names.map .down)
      change tree.ensureBackwards (names.map .down).reverse = (.ok (), near) at success
      rw [makeDirectories, success] at added
      obtain ⟨made, success', there⟩ := ensureDirectory_open fit (added.isOpen isOpen) room
      exact ⟨made, by simp only [success, success'], there⟩

/-- A path names a file that can be written: its last step goes down from a directory that is
there, by a name that is none too long, to something that is no directory. -/
structure Lands (tree : FileTree) (path : Path) (place : Place) (name : String) : Prop where
  bare : path.ending = .bare
  speakable : checkNames path.steps = .ok ()
  last : path.steps = path.parent ++ [.down name]
  near : tree.walk [] path.parent = .ok place
  room : tree.look place = some .directory
  short : isTooLong name = false
  free : tree.look (place ++ [name]) ≠ some .directory

theorem write_eq_ok {tree after : FileTree} {path : Path} {content : Content}
    (success : tree.write path content = .ok after) :
    ∃ place name, tree.Lands path place name ∧
      tree.put (place ++ [name]) (.file content) = after := by
  unfold write at success
  split at success
  · obtain ⟨_, _, refused⟩ := seq_eq_ok_iff.mp success
    exact nomatch refused
  · rename_i notDot
    obtain ⟨⟨place, name?⟩, near, done⟩ := seq_eq_ok_iff.mp success
    cases name? with
    | none => exact nomatch done
    | some name =>
      obtain ⟨before, steps, named, walked, room⟩ := approach_eq_ok near
      have parent : path.parent = before := by simp [Path.parent, steps]
      have notSlash : path.ending ≠ .slash := fun slash => by simp [slash] at done
      have bare : path.ending = .bare := by
        cases ending : path.ending with
        | bare => rfl
        | slash => exact absurd ending notSlash
        | dot => exact absurd ending notDot
      have short : isTooLong name = false := by
        cases long : isTooLong name with
        | false => rfl
        | true => simp [notSlash, long] at done
      have unheld : tree.holdsDirectory (place ++ [name]) = false := by
        cases held : tree.holdsDirectory (place ++ [name]) with
        | false => rfl
        | true => simp [notSlash, short, held] at done
      have written : tree.put (place ++ [name]) (.file content) = after := by
        simpa [notSlash, short, unheld, pure, Except.pure] using done
      have free : tree.look (place ++ [name]) ≠ some .directory :=
        fun full => by simp [holdsDirectory_iff.mpr full] at unheld
      exact ⟨place, name, ⟨bare, named, parent ▸ steps, parent ▸ walked, room, short, free⟩, written⟩

namespace Lands

variable {tree : FileTree} {path : Path} {place : Place} {name : String}

theorem target (lands : tree.Lands path place name) : placeOf path.steps = place ++ [name] := by
  rw [lands.last, placeOf_down lands.near]

theorem write_eq (lands : tree.Lands path place name) (content : Content) :
    tree.write path content = .ok (tree.put (place ++ [name]) (.file content)) := by
  have named := lands.speakable
  rw [lands.last] at named
  have near := approach_concat named lands.near lands.room
  rw [← lands.last] at near
  have free : tree.holdsDirectory (place ++ [name]) = false :=
    Bool.eq_false_iff.mpr fun held => lands.free (holdsDirectory_iff.mp held)
  simp [write, lands.bare, near, lands.short, free, Bind.bind, Except.bind, pure, Except.pure]

theorem look_written (lands : tree.Lands path place name) (content : Content) (other : Place) :
    (tree.put (place ++ [name]) (.file content)).look other =
      if other = placeOf path.steps then some (.file content) else tree.look other := by
  rw [look_put lands.room lands.free fun _ _ => rfl, lands.target]
  rfl

theorem locate_written (lands : tree.Lands path place name) (content : Content) :
    (tree.put (place ++ [name]) (.file content)).locate path = .ok (place ++ [name]) := by
  have keeps : Keeps tree (tree.put (place ++ [name]) (.file content)) :=
    keeps_put lands.room lands.free fun _ _ => rfl
  have there := lands.look_written content (place ++ [name])
  rw [if_pos lands.target.symm] at there
  have walked : (tree.put (place ++ [name]) (.file content)).walk [] path.steps =
      .ok (place ++ [name]) := by
    rw [lands.last, walk_concat_eq_ok_iff]
    refine ⟨place, keeps.walk lands.near, ⟨keeps.directory _ lands.room, ?_⟩, rfl⟩
    rintro name' same
    obtain rfl := Step.down.inj same
    exact ⟨lands.short, by simp [there]⟩
  simp [locate, lands.speakable, walked, lands.bare, Bind.bind, Except.bind, pure, Except.pure]

theorem readText_written (lands : tree.Lands path place name) (s : String) :
    (tree.put (place ++ [name]) (.file (.text s))).readText path = .ok s := by
  have there := lands.look_written (.text s) (place ++ [name])
  rw [if_pos lands.target.symm] at there
  obtain ⟨entry, found, file⟩ := Option.map_eq_some_iff.mp there
  cases entry with
  | directory entries => exact nomatch file
  | file content =>
    obtain rfl := Entry.file.inj file
    simp [readText, lands.locate_written, found, Bind.bind, Except.bind, pure, Except.pure]

end Lands

theorem readText_eq_notFound_iff {tree : FileTree} {path : Path} :
    tree.readText path = .error .notFound ↔ tree.locate path = .error .notFound := by
  unfold readText
  cases tree.locate path with
  | error problem => simp [Bind.bind, Except.bind]
  | ok place =>
    refine iff_of_false (fun failed => ?_) nofun
    simp only [Bind.bind, Except.bind, pure, Except.pure] at failed
    split at failed <;> exact nomatch failed

/-- One tree is another one with a file at the end of a path, and with directories where they were
missing on the way there. -/
structure Stored (path : Path) (content : Content) (before after : FileTree) : Prop where
  target : after.look (placeOf path.steps) = some (.file content)
  elsewhere : ∀ place, place ≠ placeOf path.steps →
    after.look place = before.look place ∨
      before.look place = none ∧ after.look place = some .directory ∧
        ∃ way, way <+: path.parent ∧ place = placeOf way

theorem store_eq_ok {tree after : FileTree} {path : Path} {content : Content}
    (success : tree.store path content = (.ok (), after)) :
    ∃ made place name, (tree.makeDirectories path.parent).2 = made ∧
      made.Lands path place name ∧ made.put (place ++ [name]) (.file content) = after := by
  unfold store at success
  split at success
  · exact nomatch success
  · rename_i made prepared
    split at success
    · rename_i written wrote
      obtain rfl : written = after := congrArg Prod.snd success
      obtain ⟨place, name, lands, put⟩ := write_eq_ok wrote
      exact ⟨made, place, name, by rw [prepared], lands, put⟩
    · exact nomatch success

theorem Lands.store_eq {tree : FileTree} {path : Path} {place : Place} {name : String}
    (lands : tree.Lands path place name) (content : Content) :
    tree.store path content = (.ok (), tree.put (place ++ [name]) (.file content)) := by
  have named : checkNames path.parent = .ok () :=
    checkNames_eq_ok_iff.mpr fun step listed =>
      checkNames_eq_ok_iff.mp lands.speakable step (List.dropLast_subset _ listed)
  simp [store, makeDirectories_present named lands.near lands.room, lands.write_eq]

/-- A tree takes a file: the directory for it is there, or nothing is in the way of making it. -/
inductive Admits (tree : FileTree) (path : Path) : Prop
  | there {place : Place} {name : String} (lands : tree.Lands path place name)
  | clear {names : Place} {name : String} (plain : path = ⟨(names ++ [name]).map .down, .bare⟩)
      (fit : ∀ n ∈ names ++ [name], IsFit n) (isOpen : tree.IsOpen names)
      (free : tree.look (names ++ [name]) ≠ some .directory)

theorem makeDirectories_free {tree : FileTree} {names : Place} {name : String}
    (free : tree.look (names ++ [name]) ≠ some .directory) :
    (tree.makeDirectories (names.map .down)).2.look (names ++ [name]) ≠ some .directory := by
  rcases tree.makeDirectories_adds (names.map .down) (names ++ [name]) with
    same | ⟨_, _, way, along, same⟩
  · rwa [same]
  · have longer : (names ++ [name]).length ≤ way.length := by
      simpa [same, placeOf] using length_foldl_follow_le [] way
    have shorter := along.length_le
    simp only [List.length_append, List.length_singleton, List.length_map] at longer shorter
    omega

theorem Admits.store {tree : FileTree} {path : Path} (admits : tree.Admits path)
    (content : Content) : ∃ after, tree.store path content = (.ok (), after) := by
  cases admits with
  | there lands => exact ⟨_, lands.store_eq content⟩
  | @clear names name plain fit isOpen free =>
    have parent : path.parent = names.map .down := by simp [plain, Path.parent]
    have fit_above : ∀ n ∈ names, IsFit n := fun n listed => fit n (List.mem_append_left _ listed)
    obtain ⟨made, success, room⟩ := makeDirectories_open fit_above isOpen
    have added := tree.makeDirectories_adds (names.map .down)
    have unused := makeDirectories_free free
    rw [success] at added unused
    have near := (added.isOpen isOpen).walk fun n listed => (fit_above n listed).1
    rw [room, if_neg nofun] at near
    have lands : made.Lands path names name := {
      bare := by rw [plain]
      speakable := plain ▸ checkNames_down fit
      last := by rw [parent, plain, List.map_append]; rfl
      near := by rw [parent, near]
      room
      short := (fit name (by simp)).1
      free := unused }
    refine ⟨made.put (names ++ [name]) (.file content), ?_⟩
    simp only [FileTree.store, parent, success, lands.write_eq]

theorem store_stored {tree after : FileTree} {path : Path} {content : Content}
    (success : tree.store path content = (.ok (), after)) : Stored path content tree after := by
  obtain ⟨_, place, name, rfl, lands, rfl⟩ := store_eq_ok success
  refine ⟨?_, fun other elsewhere => ?_⟩
  · rw [lands.look_written, if_pos rfl]
  · rw [lands.look_written, if_neg elsewhere]
    exact tree.makeDirectories_adds path.parent other

theorem readText_store {tree after : FileTree} {path : Path} {s : String}
    (success : tree.store path (.text s) = (.ok (), after)) : after.readText path = .ok s := by
  obtain ⟨_, place, name, rfl, lands, rfl⟩ := store_eq_ok success
  exact lands.readText_written s

end MeterHub.FileTree
