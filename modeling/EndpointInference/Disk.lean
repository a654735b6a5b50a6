/-!
A directory of files, by their paths. A path may hold empty parts and parts for the directory
itself, which are left out.
-/

namespace EndpointInference

structure Disk where
  files : List (String × String) := []

inductive ReadFault
  | missing
  | isDirectory
deriving DecidableEq, Repr

def ReadFault.text : ReadFault → String
  | missing => "No such file or directory (os error 2)"
  | isDirectory => "Is a directory (os error 21)"

namespace Disk

/-- The parts of a path that say where it leads. -/
def parts (path : List Char) : List (List Char) :=
  (path.splitOn '/').filter fun part => part != [] && part != ['.']

def isRelative : List Char → Bool
  | [] => false
  | first :: _ => first != '/'

def read (disk : Disk) (path : String) : Except ReadFault String :=
  let wanted := parts path.toList
  if !isRelative path.toList then .error .missing
  else
    match disk.files.find? fun (name, _) => parts name.toList == wanted with
    | some (_, content) => .ok content
    | none =>
      if wanted.isEmpty || disk.files.any fun (name, _) => wanted.isPrefixOf (parts name.toList) then
        .error .isDirectory
      else .error .missing

end Disk

end EndpointInference
