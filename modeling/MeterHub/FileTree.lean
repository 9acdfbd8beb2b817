import MeterHub.Failure
import MeterHub.FileTree.Path

/-!
File trees: directories of named files and directories. Every step of a path is taken from a
directory that is there, also a step that leads up again.
-/

set_option autoImplicit false
set_option relaxedAutoImplicit false

namespace MeterHub

/-- What a file holds: a text, or bytes that are none. -/
inductive Content
  | text (s : String)
  | binary (bytes : List UInt8)
deriving DecidableEq

/-- Bytes as a content: a text, if they are the UTF-8 form of one. -/
def Content.ofBytes (bytes : List UInt8) : Content :=
  match String.fromUTF8? ⟨bytes.toArray⟩ with
  | some s => .text s
  | none => .binary bytes

inductive FileTree
  | file (content : Content)
  | directory (entries : List (String × FileTree))

namespace FileTree

/-- Where an entry is: the names that lead to it from the root. -/
abbrev Place := List String

def entry? : FileTree → Place → Option FileTree
  | entry, [] => some entry
  | .file _, _ :: _ => none
  | .directory entries, name :: names =>
    match entries.lookup name with
    | some entry => entry.entry? names
    | none => none

/-- Entries with a name bound anew, in its old place if it had one. -/
def bind (name : String) (entry : FileTree) : List (String × FileTree) → List (String × FileTree)
  | [] => [(name, entry)]
  | (n, e) :: entries =>
    if n == name then (name, entry) :: entries else (n, e) :: bind name entry entries

/-- The tree with an entry put at a place in a directory that is there. Elsewhere the tree stays as
it is. -/
def put : FileTree → Place → FileTree → FileTree
  | tree, [], _ => tree
  | .file content, _ :: _, _ => .file content
  | .directory entries, [name], entry => .directory (bind name entry entries)
  | .directory entries, name :: names, entry =>
    match entries.lookup name with
    | some below => .directory (bind name (below.put names entry) entries)
    | none => .directory entries

def holdsDirectory (tree : FileTree) (place : Place) : Bool :=
  match tree.entry? place with
  | some (.directory _) => true
  | _ => false

/-- The place that steps lead to from a place. Above the root is the root. -/
def walk (tree : FileTree) (here : Place) : List Step → Except FileProblem Place
  | [] => .ok here
  | step :: steps =>
    if !tree.holdsDirectory here then .error .notADirectory
    else
      match step with
      | .up => tree.walk here.dropLast steps
      | .down name =>
        if isTooLong name then .error .invalidName
        else if (tree.entry? (here ++ [name])).isNone then .error .notFound
        else tree.walk (here ++ [name]) steps

/-- Names that cannot be spoken are refused before any step is taken. -/
def checkNames (steps : List Step) : Except FileProblem Unit :=
  if steps.any Step.isUnspeakable then .error .invalidInput else .ok ()

def locate (tree : FileTree) (path : Path) : Except FileProblem Place := do
  checkNames path.steps
  let place ← tree.walk [] path.steps
  if path.ending = .bare || tree.holdsDirectory place then return place
  else .error .notADirectory

/-- The directory from which the last step is taken, and the name of that step unless it leads up
or there is none. -/
def approach (tree : FileTree) (steps : List Step) :
    Except FileProblem (Place × Option String) := do
  checkNames steps
  let place ← tree.walk [] steps.dropLast
  if !tree.holdsDirectory place then .error .notADirectory
  else
    match steps.getLast? with
    | some (.down name) => return (place, some name)
    | _ => return (place, none)

def readText (tree : FileTree) (path : Path) : Except FileProblem String := do
  match tree.entry? (← tree.locate path) with
  | some (.file (.text s)) => return s
  | some (.file (.binary _)) => .error .invalidData
  | _ => .error .isADirectory

def makeDirectory (tree : FileTree) (steps : List Step) : Except FileProblem FileTree := do
  match ← tree.approach steps with
  | (_, none) => .error .alreadyExists
  | (place, some name) =>
    if isTooLong name then .error .invalidName
    else if (tree.entry? (place ++ [name])).isSome then .error .alreadyExists
    else return tree.put (place ++ [name]) (.directory [])

def ensureDirectory (tree : FileTree) (steps : List Step) : Except FileProblem FileTree :=
  match tree.makeDirectory steps with
  | .error .alreadyExists =>
    match tree.walk [] steps with
    | .ok place => if tree.holdsDirectory place then .ok tree else .error .alreadyExists
    | .error _ => .error .alreadyExists
  | outcome => outcome

/-- Makes a directory, and before it those on its way that are missing. The steps are given from
the last to the first. What was made stays, also where a directory further on cannot be made. -/
def ensureBackwards (tree : FileTree) : List Step → Except FileProblem Unit × FileTree
  | [] => (.ok (), tree)
  | last :: before =>
    match tree.ensureDirectory (last :: before).reverse with
    | .ok made => (.ok (), made)
    | .error .notFound =>
      match tree.ensureBackwards before with
      | (.ok (), tree) =>
        match tree.ensureDirectory (last :: before).reverse with
        | .ok made => (.ok (), made)
        | .error problem => (.error problem, tree)
      | failed => failed
    | .error problem => (.error problem, tree)

/-- Makes a directory and those on its way. -/
def makeDirectories (tree : FileTree) (steps : List Step) : Except FileProblem Unit × FileTree :=
  tree.ensureBackwards steps.reverse

/-- Writes a file in a directory that is there. A path that can only lead to a directory does not
take a file, whether the directory is there or not. -/
def write (tree : FileTree) (path : Path) (content : Content) : Except FileProblem FileTree := do
  if path.ending = .dot then
    let _ ← tree.locate path
    .error .isADirectory
  else
    match ← tree.approach path.steps with
    | (_, none) => .error .isADirectory
    | (place, some name) =>
      if path.ending = .slash then .error .isADirectory
      else if isTooLong name then .error .invalidName
      else if tree.holdsDirectory (place ++ [name]) then .error .isADirectory
      else return tree.put (place ++ [name]) (.file content)

def store (tree : FileTree) (path : Path) (content : Content) :
    Except FileProblem Unit × FileTree :=
  match tree.makeDirectories path.parent with
  | (.error problem, tree) => (.error problem, tree)
  | (.ok (), tree) =>
    match tree.write path content with
    | .ok written => (.ok (), written)
    | .error problem => (.error problem, tree)

end FileTree

end MeterHub
