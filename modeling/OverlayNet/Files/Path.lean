import OverlayNet.Text.Bytes

set_option autoImplicit false

/-! # Paths

A path is a text whose parts are separated by slashes. It starts at the root of the file system if
it starts with a slash, and at the current directory otherwise. -/

namespace OverlayNet

structure Path where
  text : String
deriving DecidableEq, Repr

namespace Path

def parts (path : Path) : List String :=
  (path.text.toList.splitOn '/').map String.ofList

def isAbsolute (path : Path) : Bool :=
  path.text.toList.head? == some '/'

/-- The path of an entry of a directory. A path that starts at the root stands for itself. An empty
name leaves a slash at the end. -/
def join (directory : Path) (name : String) : Path :=
  if (⟨name⟩ : Path).isAbsolute then ⟨name⟩
  else
    match directory.text.toList.getLast? with
    | none => ⟨name⟩
    | some '/' => ⟨directory.text ++ name⟩
    | some _ => ⟨directory.text ++ "/" ++ name⟩

/-- The path with a text added to its last name. -/
def appendName (path : Path) (ending : String) : Path :=
  ⟨path.text ++ ending⟩

/-- The parts that lead somewhere: empty parts and dots are left out, except for a first part that
is empty or a dot. -/
def components (path : Path) : List String :=
  match path.parts with
  | [] => []
  | first :: rest =>
      let leading := if first = "" ∧ rest = [] then [] else [first]
      leading ++ rest.filter fun part => part ≠ "" && part ≠ "."

/-- The ways to the directories above, the nearest first. -/
def above (path : Path) : List (List String) :=
  let components := path.components
  (List.range (components.length - 1)).map fun dropped =>
    components.take (components.length - 1 - dropped)

end Path

end OverlayNet
