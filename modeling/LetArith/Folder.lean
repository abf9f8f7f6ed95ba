import LetArith.Text.Utf8

namespace LetArith

/-- Why a path does not lead to a file, or a file cannot be used: the number by which an operating
    system knows the obstacle, and its wording. -/
structure Obstacle where
  code : Nat
  text : String
  deriving DecidableEq, Repr

namespace Obstacle

def missing : Obstacle := ⟨2, "No such file or directory"⟩

def notFolder : Obstacle := ⟨20, "Not a directory"⟩

def isFolder : Obstacle := ⟨21, "Is a directory"⟩

def nameTooLong : Obstacle := ⟨36, "File name too long"⟩

/-- The obstacles that the shape of a path can put in the way. -/
def known : List Obstacle := [missing, notFolder, isFolder, nameTooLong]

end Obstacle

/-- Why something that was begun to be written is not written to its end. -/
inductive Interruption where
  /-- An obstacle arises, such as that there is no room left. -/
  | blocked (obstacle : Obstacle)
  /-- The text has no encoding. The wording tells why. -/
  | unencodable (wording : String)
  deriving DecidableEq, Repr

/-- The wording of an interruption. No path is named in it. -/
def Interruption.message : Interruption → String
  | .blocked obstacle => "[Errno " ++ toString obstacle.code ++ "] " ++ obstacle.text
  | .unencodable wording => wording

/-- What there is to do at a place: to pass it as a folder on the way, or to open a file there. -/
inductive Access where
  | passing
  | reading
  | writing
  deriving DecidableEq, Repr

/-- The folders and files of a file system, each with the names that lead to it from the root, and
    whatever can go wrong with them. Nothing is assumed about its state. -/
structure Folder where
  folders : List (List String) := []
  files : List (List String × List UInt8) := []
  /-- The names of the working folder, where relative paths begin. It and the folders that hold it
      are there. -/
  work : List String := []
  /-- Where names lead: to themselves, unless they are those of a link. -/
  links : List String → List String := id
  /-- The files that take what is written to them and keep nothing of it. -/
  sinks : List (List String) := []
  /-- Why a folder cannot be passed or a file not be opened even though a path leads there, if so. -/
  bars : Access → List String → Option Obstacle := fun _ _ => none
  /-- How many bytes of a content a file takes before it is interrupted, and by what, if it is. -/
  cuts : List String → List UInt8 → Option (Nat × Interruption) := fun _ _ => none

/-- A path: where it begins, its components, and whether it insists on a folder by ending in a
    slash. -/
structure Path where
  absolute : Bool
  components : List String
  insists : Bool
  deriving DecidableEq, Repr

/-- The parts of a text between slashes. -/
def Path.parts : List Char → List (List Char)
  | [] => [[]]
  | c :: rest =>
    if c = '/' then [] :: parts rest
    else
      match parts rest with
      | [] => [[c]]
      | part :: others => (c :: part) :: others

/-- The path that a text spells. Repeated slashes count as one. -/
def Path.ofString (text : String) : Path :=
  { absolute := text.toList.head? == some '/'
    components := ((Path.parts text.toList).filter (· ≠ [])).map String.ofList
    insists := text.toList.getLast? == some '/' }

/-- The most bytes that a component may have. -/
def Path.longestName : Nat := 255

/-- The most bytes that a whole path may have. -/
def Path.longestPath : Nat := 4095

namespace Folder

/-- Whether there is a folder of some names. -/
def isFolder (d : Folder) (names : List String) : Bool :=
  names.isPrefixOf d.work || d.folders.contains names

/-- The content of the file of some names. -/
def content? (d : Folder) (names : List String) : Option (List UInt8) := d.files.lookup names

/-- Whether there is something of some names. -/
def holds (d : Folder) (names : List String) : Bool := d.isFolder names || (d.content? names).isSome

/-- Where a name leads from a folder. -/
def child (d : Folder) (place : List String) (name : String) : List String :=
  d.links (place ++ [name])

/-- Goes on unless a place is barred. -/
def unbarred (d : Folder) (access : Access) (names : List String) : Except Obstacle Unit :=
  match d.bars access names with
  | some obstacle => .error obstacle
  | none => .ok ()

/-- One component from a place on. The obstacles on the way are reported at the first component where
    there is one. -/
def enter (d : Folder) (place : List String) (name : String) : Except Obstacle (List String) := do
  d.unbarred .passing place
  if !d.isFolder place then .error .notFolder
  else if name = "." then .ok place
  else if name = ".." then .ok place.dropLast
  else if Path.longestName < name.utf8ByteSize then .error .nameTooLong
  else if d.holds (d.child place name) then .ok (d.child place name)
  else .error .missing

/-- Several components from a place on. -/
def follow (d : Folder) (place names : List String) : Except Obstacle (List String) :=
  names.foldlM d.enter place

/-- Where a path begins. -/
def origin (d : Folder) (path : Path) : List String := if path.absolute then [] else d.work

/-- The content of the file to which a path leads. -/
def read (d : Folder) (path : String) : Except Obstacle (List UInt8) :=
  if Path.longestPath < path.utf8ByteSize then .error .nameTooLong
  else do
    let route := Path.ofString path
    let names ← d.follow (d.origin route) route.components
    match d.content? names with
    | some content =>
      if route.insists then .error .notFolder
      else do
        d.unbarred .reading names
        pure content
    | none => .error .isFolder

/-- The names to which a path leads if a file may be opened there for writing, be it new or not. -/
def target (d : Folder) (path : String) : Except Obstacle (List String) :=
  if Path.longestPath < path.utf8ByteSize then .error .nameTooLong
  else do
    let route := Path.ofString path
    let place ← d.follow (d.origin route) route.components.dropLast
    match route.components.getLast? with
    | none => .error .isFolder
    | some name =>
      d.unbarred .passing place
      if !d.isFolder place then .error .notFolder
      else if route.insists || name = "." || name = ".." then .error .isFolder
      else if Path.longestName < name.utf8ByteSize then .error .nameTooLong
      else if d.isFolder (d.child place name) then .error .isFolder
      else do
        d.unbarred .writing (d.child place name)
        pure (d.child place name)

/-- The file system with a content at some names, in the file there or in a new one, unless that
    file keeps nothing. -/
def put (d : Folder) (names : List String) (content : List UInt8) : Folder :=
  if names ∈ d.sinks then d
  else if (d.files.lookup names).isSome then
    { d with files := d.files.map fun file => if file.1 = names then (names, content) else file }
  else { d with files := d.files ++ [(names, content)] }

/-- Writes a content to an opened file, as far as the file takes it. -/
def fill (d : Folder) (names : List String) (content : List UInt8) : Folder × Option Interruption :=
  match d.cuts names content with
  | none => (d.put names content, none)
  | some (taken, interruption) => (d.put names (content.take taken), some interruption)

end Folder

end LetArith
