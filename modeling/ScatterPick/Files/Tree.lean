import ScatterPick.Bytes
import ScatterPick.Files.Path

/-!
# File trees

Files and directories as data, with the failures that a system reports.
-/

namespace ScatterPick.Files

/-- Why the system refuses. -/
inductive Refusal where
  | missing
  | occupied
  | notDirectory
  | isDirectory
  /-- A file that is no text. -/
  | notText
  deriving DecidableEq, Repr

/-- The wording of a refusal. -/
def Refusal.message : Refusal → String
  | missing => "No such file or directory (os error 2)"
  | occupied => "File exists (os error 17)"
  | notDirectory => "Not a directory (os error 20)"
  | isDirectory => "Is a directory (os error 21)"
  | notText => "stream did not contain valid UTF-8"

/-- What stands at a path. -/
inductive Entry where
  | file (bytes : Bytes)
  | directory (entries : List (String × Entry))

/-- A tree of files below a root directory. -/
structure Tree where
  entries : List (String × Entry)

namespace Tree

/-- The tree without files. -/
def empty : Tree := ⟨[]⟩

/-- The entry with a name. -/
def find? (entries : List (String × Entry)) (name : String) : Option Entry :=
  (entries.find? (·.1 == name)).map (·.2)

/-- Replaces or adds the entry with a name. -/
def put (entries : List (String × Entry)) (name : String) (e : Entry) : List (String × Entry) :=
  if entries.any (·.1 == name) then entries.map fun p => if p.1 == name then (name, e) else p
  else entries ++ [(name, e)]

/-- The entry at the end of some names. -/
def walk (entries : List (String × Entry)) : List String → Except Refusal Entry
  | [] => .ok (.directory entries)
  | name :: rest =>
    match find? entries name with
    | none => .error .missing
    | some (.directory inner) => walk inner rest
    | some (.file bytes) => if rest.isEmpty then .ok (.file bytes) else .error .notDirectory

/-- Whether a path asks for a directory by its last character. -/
def wantsDirectory (path : String) : Bool := path.toList.getLast? = some '/'

/-- The entry at a path. -/
def get (t : Tree) (path : String) : Except Refusal Entry :=
  if path.isEmpty then .error .missing
  else
    match walk t.entries (names path) with
    | .ok (.file bytes) => if wantsDirectory path then .error .notDirectory else .ok (.file bytes)
    | e => e

/-- Puts an entry at the end of some names, unless `check` refuses because of what stands there. -/
def place (check : Option Entry → Except Refusal Unit) (e : Entry)
    (entries : List (String × Entry)) : List String → Except Refusal (List (String × Entry))
  | [] => (check (some (.directory entries))).map fun _ => entries
  | [name] => (check (find? entries name)).map fun _ => put entries name e
  | name :: rest =>
    match find? entries name with
    | none => .error .missing
    | some (.file _) => .error .notDirectory
    | some (.directory inner) => (place check e inner rest).map fun inner =>
        put entries name (.directory inner)

/-- Reads a file. -/
def read (t : Tree) (path : String) : Except Refusal Bytes := do
  match ← t.get path with
  | .file bytes => return bytes
  | .directory _ => throw .isDirectory

/-- Reads a file of text. -/
def readText (t : Tree) (path : String) : Except Refusal String := do
  match (← t.read path).text? with
  | some text => return text
  | none => throw .notText

/-- Writes a file; only a directory is in the way. -/
def write (t : Tree) (path : String) (bytes : Bytes) : Except Refusal Tree := do
  if path.isEmpty then throw .missing
  let check : Option Entry → Except Refusal Unit
    | some (.directory _) => .error .isDirectory
    | some (.file _) => if wantsDirectory path then .error .notDirectory else .ok ()
    | none => if wantsDirectory path then .error .isDirectory else .ok ()
  return ⟨← place check (.file bytes) t.entries (names path)⟩

/-- Makes a directory where nothing stands. -/
def makeDirectory (t : Tree) (path : String) : Except Refusal Tree := do
  if path.isEmpty then throw .missing
  let check : Option Entry → Except Refusal Unit
    | some _ => .error .occupied
    | none => .ok ()
  return ⟨← place check (.directory []) t.entries (names path)⟩

/-- Whether a directory stands at a path. -/
def isDirectory (t : Tree) (path : String) : Bool :=
  match t.get path with
  | .ok (.directory _) => true
  | _ => false

/-- Whether anything stands at a path. -/
def contains (t : Tree) (path : String) : Bool :=
  match t.get path with
  | .ok _ => true
  | .error _ => false

/-- Makes a directory with the ones around it; the fuel bounds their number. -/
def makeAround (t : Tree) (path : String) : Nat → Except Refusal Tree
  | 0 => .error .missing
  | fuel + 1 =>
    if path.isEmpty then .ok t
    else
      match t.makeDirectory path with
      | .ok t => .ok t
      | .error .missing =>
        match parent? path with
        | none => .error .missing
        | some outer => do
          let t ← t.makeAround outer fuel
          match t.makeDirectory path with
          | .ok t => return t
          | .error e => if t.isDirectory path then return t else throw e
      | .error e => if t.isDirectory path then .ok t else .error e

/-- Makes a directory with the ones around it. -/
def makeDirectories (t : Tree) (path : String) : Except Refusal Tree :=
  t.makeAround path (path.length + 1)

end Tree

end ScatterPick.Files
