/-!
Paths in a file tree: the steps that lead to an entry, and what is written behind the last of them.
A dot stands for the directory one is in, two dots lead up to the directory around it, and several
slashes are as good as one.
-/

set_option autoImplicit false
set_option relaxedAutoImplicit false

namespace MeterHub

namespace FileTree

/-- One step on a path. -/
inductive Step
  /-- To the entry of a name. -/
  | down (name : String)
  /-- To the directory around the present one. -/
  | up
deriving DecidableEq

/-- What follows the last step of a path. Behind a slash or a dot the path only leads to
directories. -/
inductive Ending
  | bare
  | slash
  | dot
deriving DecidableEq

/-- A path from the root of a tree. Without any step it leads to the root itself. -/
structure Path where
  steps : List Step
  ending : Ending := .bare
deriving DecidableEq

namespace Path

/-- Whether a piece of a written path leads nowhere. -/
def isIdle (piece : String) : Bool := piece == "" || piece == "."

/-- The step that a piece of a written path stands for. -/
def step (piece : String) : Step := if piece == ".." then .up else .down piece

/-- The ending that the idle pieces behind the last step make. -/
def endingOf (pieces : List String) : Ending :=
  if pieces.contains "." then .dot else if pieces.isEmpty then .bare else .slash

def ofText (s : String) : Path :=
  let pieces := s.splitOn "/"
  { steps := (pieces.filter fun piece => !isIdle piece).map step
    ending := endingOf (pieces.reverse.takeWhile isIdle) }

def parent (path : Path) : List Step := path.steps.dropLast

end Path

def nameLimit : Nat := 255

def isTooLong (name : String) : Bool := nameLimit < name.utf8ByteSize

/-- Whether a step holds the character that no name may hold. -/
def Step.isUnspeakable : Step → Bool
  | .down name => name.toList.contains '\x00'
  | .up => false

end FileTree

end MeterHub
