import Schemata.Json.Reader
import Schemata.Text.Split
import Schemata.Yaml.Document

/-!
# Files of the command line

* `FileFault` : why a file cannot be read or written;
* `extension?`, `parseDocument` : the document in a file, in YAML where its extension says so and
  otherwise in JSON;
* `FileAccess` : reading and writing files by name, in any monad, and reading documents out of them;
* `Directory` : a directory of plain files as a value, and the access to it.
-/

namespace Schemata.Command

/-- Why a file cannot be read or written. -/
inductive FileFault where
  | notFound | notDirectory | isDirectory
  | other (text : String)
  deriving DecidableEq, Repr

def FileFault.message : FileFault → String
  | notFound => "No such file or directory (os error 2)"
  | notDirectory => "Not a directory (os error 20)"
  | isDirectory => "Is a directory (os error 21)"
  | other text => text

/-! ## Names -/

/-- The parts of a name between slashes, without those that lead nowhere. -/
def nameParts (name : String) : List String :=
  ((Text.pieces '/' name.toList).map String.ofList).filter fun part => part != "" && part != "."

/-- What follows the last dot of a file name, unless that dot begins it. -/
def extension? (name : String) : Option String :=
  match (nameParts name).getLast? with
  | none | some ".." => none
  | some file =>
    match (Text.pieces '.' file.toList).reverse with
    | last :: before :: others =>
      if before.isEmpty && others.isEmpty then none else some (String.ofList last)
    | _ => none

def isYaml (name : String) : Bool :=
  (extension? name).any fun extension => ["yaml", "yml"].contains extension.toLower

/-! ## Documents -/

inductive DocumentError where
  | json (error : Json.ReadError)
  | yaml (error : Yaml.Error)

def DocumentError.message : DocumentError → String
  | json e => e.message
  | yaml e => e.message

def parseDocument (name content : String) : Except DocumentError Json :=
  if isYaml name then (Yaml.parse content).mapError .yaml else (Json.parse content).mapError .json

/-! ## Access to files -/

/-- Reading and writing files by name. How the document is read that is in a file may be replaced. -/
structure FileAccess (m : Type → Type) where
  read : (name : String) → m (Except FileFault String)
  write : (name content : String) → m (Except FileFault Unit)
  parse : (name content : String) → Except DocumentError Json := parseDocument

/-! ## A directory -/

/-- A directory of plain files, with their contents. -/
structure Directory where
  files : List (String × String) := []

namespace Directory

/-- The file that a name means, seen from the directory. With a slash or a dot at its end the name means a
directory; there is none within this one. -/
def locate (d : Directory) (name : String) : Except FileFault String :=
  let written := (Text.pieces '/' name.toList).map String.ofList
  let isFile (part : String) : Bool := (d.files.lookup part).isSome
  if written.head? = some "" then .error .notFound
  else
    match nameParts name with
    | [] | [".."] => .error .isDirectory
    | [part] =>
      if written.getLast? = some part then .ok part
      else if isFile part then .error .notDirectory else .error .notFound
    | part :: _ => if isFile part then .error .notDirectory else .error .notFound

def read (d : Directory) (name : String) : Except FileFault String := do
  match d.files.lookup (← d.locate name) with
  | some content => return content
  | none => throw .notFound

def write (d : Directory) (name content : String) : Except FileFault Directory := do
  let file ← d.locate name
  return ⟨d.files.filter (fun entry => entry.1 != file) ++ [(file, content)]⟩

def access : FileAccess (StateM Directory) where
  read name := return (← get).read name
  write name content := do
    match (← get).write name content with
    | .ok d => set d; return .ok ()
    | .error fault => return .error fault

end Directory

end Schemata.Command
