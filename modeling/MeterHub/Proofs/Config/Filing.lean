import MeterHub.Config.Files
import MeterHub.Proofs.Config.Writing
import MeterHub.Proofs.FileTree.Storing

/-!
What saving and loading a configuration does to a file tree. Only a configuration without a flaw
reaches a file, and only where a path leads nowhere does loading write one.
-/

set_option autoImplicit false
set_option relaxedAutoImplicit false

namespace MeterHub.Config

theorem save_of_invalid {c : Config} (flawed : c.validate ≠ .ok ()) (tree : FileTree)
    (path : FileTree.Path) :
    ∃ reason, c.save tree path = (.error (.invalidConfiguration reason), tree) := by
  cases flaw : c.flaw? with
  | none => exact absurd (by rw [validate, flaw]) flawed
  | some reason => exact ⟨reason, by simp only [save, validate, flaw]⟩

theorem save_eq_ok {c : Config} {tree after : FileTree} {path : FileTree.Path}
    (success : c.save tree path = (.ok (), after)) :
    c.validate = .ok () ∧ tree.store path (.text c.toJson.indented) = (.ok (), after) := by
  unfold save at success
  split at success
  · exact nomatch success
  · rename_i valid
    split at success
    · rename_i stored wrote
      obtain rfl : stored = after := congrArg Prod.snd success
      exact ⟨valid, wrote⟩
    · exact nomatch success

theorem save_of_admits {c : Config} (valid : c.validate = .ok ()) {tree : FileTree}
    {path : FileTree.Path} (admits : tree.Admits path) :
    ∃ after, c.save tree path = (.ok (), after) := by
  obtain ⟨after, stored⟩ := admits.store (.text c.toJson.indented)
  exact ⟨after, by simp only [save, valid, stored]⟩

theorem load_of_text {tree : FileTree} {path : FileTree.Path} {s : String}
    (read : tree.readText path = .ok s) : load tree path = (ofText s, tree) := by
  simp only [load, read]

theorem load_saved {c : Config} {tree after : FileTree} {path : FileTree.Path}
    (success : c.save tree path = (.ok (), after)) : load after path = (.ok c, after) := by
  obtain ⟨valid, stored⟩ := save_eq_ok success
  have indented := (ReadsBack.of_node c.ofNode_toJson).2
  rw [load_of_text (FileTree.readText_store stored), ofText_of_read indented valid]

theorem load_of_found {tree : FileTree} {path : FileTree.Path}
    (found : tree.locate path ≠ .error .notFound) : (load tree path).2 = tree := by
  have readable : tree.readText path ≠ .error .notFound :=
    fun missing => found (FileTree.readText_eq_notFound_iff.mp missing)
  unfold load
  split
  · rfl
  · exact absurd ‹_› readable
  · rfl

theorem load_of_missing {tree : FileTree} {path : FileTree.Path}
    (missing : tree.locate path = .error .notFound) :
    load tree path =
      ((save {} tree path).1.map fun _ => {}, (save {} tree path).2) := by
  simp only [load, FileTree.readText_eq_notFound_iff.mpr missing]

/-- A configuration with a flaw is refused and the tree is left as it is, directories included; any
other one is saved where the tree takes a file. Saving adds the missing directories and the one
file, from which the configuration is read back. Loading leaves the tree as it is unless the path
leads nowhere; there, if it succeeds, as it does where the tree takes a file, it returns the default
configuration and leaves a file from which that is read again and again. -/
theorem save_load (c : Config) (tree : FileTree) (path : FileTree.Path) :
    (c.validate ≠ .ok () →
      ∃ reason, c.save tree path = (.error (.invalidConfiguration reason), tree)) ∧
    (c.validate = .ok () → tree.Admits path → ∃ after, c.save tree path = (.ok (), after)) ∧
    (∀ after, c.save tree path = (.ok (), after) →
      FileTree.Stored path (.text c.toJson.indented) tree after ∧
        load after path = (.ok c, after)) ∧
    (tree.locate path ≠ .error .notFound → (load tree path).2 = tree) ∧
    (tree.locate path = .error .notFound →
      (tree.Admits path → ∃ loaded after, load tree path = (.ok loaded, after)) ∧
      ∀ loaded after, load tree path = (.ok loaded, after) →
        loaded = {} ∧
          FileTree.Stored path (.text (toJson {}).indented) tree after ∧
          load after path = (.ok {}, after)) := by
  refine ⟨fun flawed => save_of_invalid flawed tree path, fun valid => save_of_admits valid,
    fun after success => ?_, load_of_found,
    fun missing => ⟨fun admits => ?_, fun loaded after success => ?_⟩⟩
  · exact ⟨FileTree.store_stored (save_eq_ok success).2, load_saved success⟩
  · obtain ⟨after, saved⟩ := save_of_admits (c := {}) rfl admits
    exact ⟨{}, after, by rw [load_of_missing missing, saved]; rfl⟩
  · rw [load_of_missing missing] at success
    cases saved : save {} tree path with
    | mk outcome made =>
      rw [saved] at success
      obtain ⟨done, rfl⟩ := Prod.mk.inj success
      cases outcome with
      | error failure => exact nomatch done
      | ok _ =>
        obtain rfl := Except.ok.inj done
        exact ⟨rfl, FileTree.store_stored (save_eq_ok saved).2, load_saved saved⟩

/-- A path through two directories that are missing, one of which it leaves again, in a tree with
some bytes that are no text: loading makes both of them and the file, and does nothing the second
time; a configuration with a blank port is refused there, one without a mode replaces what was in
the file, and nothing is in the way of saving it in another directory that is missing. -/
theorem save_load_missing :
    let bytes : FileTree := .file (.binary [255])
    let tree : FileTree := .directory [("raw", bytes)]
    let path : FileTree.Path := ⟨[.down "x", .up, .down "y", .down "hub.json"], .bare⟩
    let made (c : Config) : FileTree :=
      .directory [("raw", bytes), ("x", .directory []),
        ("y", .directory [("hub.json", .file (.text c.toJson.indented))])]
    let modeless : Config := { defaultMode := none }
    load tree path = (.ok {}, made {}) ∧ load (made {}) path = (.ok {}, made {}) ∧
      (load tree ⟨[.down "raw"], .bare⟩).2 = tree ∧
      (∃ reason, save { nativePorts := [""] } tree path =
        (.error (.invalidConfiguration reason), tree)) ∧
      modeless.save (made {}) path = (.ok (), made modeless) ∧
      load (made modeless) path = (.ok modeless, made modeless) ∧
      ∃ after, modeless.save tree ⟨[.down "z", .down "hub.json"], .bare⟩ = (.ok (), after) := by
  intro bytes tree path made modeless
  have first : load tree path = (.ok {}, made {}) := rfl
  have again : modeless.save (made {}) path = (.ok (), made modeless) := rfl
  have isOpen : tree.IsOpen ["z"] := by
    intro above along
    rcases List.prefix_cons_iff.mp along with rfl | ⟨_, rfl, nothing⟩
    · exact .inl rfl
    · exact .inr (List.prefix_nil.mp nothing ▸ rfl)
  have fit : ∀ n ∈ ["z"] ++ ["hub.json"], FileTree.IsFit n := by
    intro n listed
    rcases List.mem_pair.mp listed with rfl | rfl
    · exact ⟨rfl, rfl⟩
    · exact ⟨rfl, rfl⟩
  have admits : tree.Admits ⟨[.down "z", .down "hub.json"], .bare⟩ := .clear rfl fit isOpen nofun
  refine ⟨first, ?_, ?_, ?_, again, ?_, (save_load modeless tree _).2.1 rfl admits⟩
  · exact ((save_load {} tree path).2.2.2.2 rfl).2 _ _ first |>.2.2
  · exact (save_load {} tree ⟨[.down "raw"], .bare⟩).2.2.2.1 nofun
  · exact (save_load { nativePorts := [""] } tree path).1 nofun
  · exact ((save_load modeless (made {}) path).2.2.1 _ again).2

end MeterHub.Config
