import MeterHub.Config.Json
import MeterHub.FileTree

/-!
Configurations in files. A configuration with a flaw is never written, and a file that is there is
never changed by loading it.
-/

set_option autoImplicit false
set_option relaxedAutoImplicit false

namespace MeterHub.Config

/-- Writes a configuration to a file, in indented form, and makes the directories on its way. -/
def save (c : Config) (tree : FileTree) (path : FileTree.Path) : Except Failure Unit × FileTree :=
  match c.validate with
  | .error failure => (.error failure, tree)
  | .ok () =>
    match tree.store path (.text c.toJson.indented) with
    | (.ok (), tree) => (.ok (), tree)
    | (.error problem, tree) => (.error (.file problem), tree)

/-- Reads the configuration of a file. Where there is none, the default configuration is written
there and returned. -/
def load (tree : FileTree) (path : FileTree.Path) : Except Failure Config × FileTree :=
  match tree.readText path with
  | .ok s => (ofText s, tree)
  | .error .notFound =>
    let c : Config := {}
    let (result, tree) := c.save tree path
    (result.map fun _ => c, tree)
  | .error problem => (.error (.file problem), tree)

end MeterHub.Config
