import ScriptAssist.Files.Failure
import ScriptAssist.Files.Listed

/-!
# Files

A tree of folders and files, a working directory in it, and the operations that scripts, projects
and toolchains need: telling what is at a path, reading, listing, writing and removing. Paths are
followed segment by segment; a segment can only be entered from a folder.
-/

namespace ScriptAssist

/-- The names that lead from the root to a place in the tree. -/
abbrev Place := List Text

/-- What stands at a place. -/
inductive Entry where
  | folder
  | file (content : Bytes) (executable : Bool)
  deriving DecidableEq, Repr

/-- Whether an entry is a folder. -/
def Entry.isFolder : Entry → Bool
  | .folder => true
  | .file .. => false

/-- The entries of a tree by their places, and the working directory. -/
structure Files where
  entries : List (Place × Entry)
  workingDir : Place
  deriving Repr

namespace Files

/-- The longest name an entry may have, in bytes. -/
def maxNameSize : Nat := 255

/-- The longest path that may be used, in bytes. -/
def maxPathSize : Nat := 4095

/-- What stands at a place. The root is a folder. -/
def entryAt? (files : Files) (place : Place) : Option Entry :=
  if place = [] then some .folder else files.entries.lookup place

/-- Follows segments from a place. -/
def follow (files : Files) : Place → List Text → Except SystemError Place
  | place, [] => .ok place
  | place, segment :: rest =>
    if (files.entryAt? place).any Entry.isFolder then
      if Path.isFiller segment then files.follow place rest
      else if segment = ['.', '.'] then files.follow place.dropLast rest
      else if maxNameSize < Utf8.byteSize segment then .error .nameTooLong
      else if (files.entryAt? (place ++ [segment])).isSome then
        files.follow (place ++ [segment]) rest
      else .error .notFound
    else .error .notADirectory

/-- Refuses paths that cannot name anything, however long they are. -/
def checkNaming (path : Path) : Except SystemError Unit :=
  if path.text.contains '\x00' then .error .nulInPath
  else if path.text.isEmpty then .error .notFound
  else .ok ()

/-- Refuses paths that are too long. -/
def checkSize (path : Path) : Except SystemError Unit :=
  if maxPathSize < Utf8.byteSize path.text then .error .nameTooLong else .ok ()

/-- Refuses paths that cannot be used. -/
def checkPath (path : Path) : Except SystemError Unit := do
  checkNaming path
  checkSize path

/-- Where following a path starts. -/
def startOf (files : Files) (path : Path) : Place :=
  if path.isAbsolute then [] else files.workingDir

/-- The place a path leads to. -/
def locate (files : Files) (path : Path) : Except SystemError Place := do
  checkPath path
  files.follow (files.startOf path) path.segments

/-- What a path leads to. -/
def lookup? (files : Files) (path : Path) : Option Entry :=
  match files.locate path with
  | .ok place => files.entryAt? place
  | .error _ => none

/-- Whether a path leads to a file. -/
def isFile (files : Files) (path : Path) : Bool :=
  (files.lookup? path).any fun entry => !entry.isFolder

/-- Whether a path leads to a folder. -/
def isFolder (files : Files) (path : Path) : Bool :=
  (files.lookup? path).any Entry.isFolder

/-- The content of the file at a path. -/
def read (files : Files) (path : Path) : Except SystemError Bytes := do
  let place ← files.locate path
  match files.entryAt? place with
  | some (.file content _) => .ok content
  | some .folder => .error .isADirectory
  | none => .error .notFound

/-- The text of the file at a path, if it is well-formed. -/
def readText? (files : Files) (path : Path) : Option Text :=
  match files.read path with
  | .ok content => Utf8.decode? content
  | .error _ => none

/-- The path of a place, from the root. -/
def pathOf (place : Place) : Path :=
  ⟨'/' :: Text.joinWith ['/'] place⟩

/-- The path from the root that leads where `path` does. As `path` is followed one name at a time,
only the path found must not be too long. -/
def canonical (files : Files) (path : Path) : Except SystemError Path := do
  checkNaming path
  let place ← files.follow (files.startOf path) path.segments
  checkSize (pathOf place)
  .ok (pathOf place)

/-- The path from the root that leads where `path` does, if there is one. -/
def canonical? (files : Files) (path : Path) : Option Path :=
  (files.canonical path).toOption

/-- The name of an entry whose place is directly below `place`. -/
def nameBelow? (place : Place) (below : Place) : Option Text :=
  match below.getLast? with
  | some name => if below = place ++ [name] then some name else none
  | none => none

/-- The names of the entries directly below a place. -/
def namesAt (files : Files) (place : Place) : List Text :=
  files.entries.filterMap fun item => nameBelow? place item.1

/-- What the folders of the tree list. In a folder with a long path, the path of a file may be too
long to lead to it. -/
def listings (files : Files) : Listings := fun folder =>
  match files.locate folder with
  | .ok place =>
    if (files.entryAt? place).any Entry.isFolder then
      some ((files.namesAt place).map fun name =>
        ⟨Utf8.encode name, files.isFile (folder.child name)⟩)
    else none
  | .error _ => none

/-- Puts an entry at a place. -/
def putEntry (files : Files) (place : Place) (entry : Entry) : Files :=
  { files with entries := (place, entry) :: files.entries.filter fun below => below.1 ≠ place }

/-- Removes what stands at a place. -/
def removeEntry (files : Files) (place : Place) : Files :=
  { files with entries := files.entries.filter fun below => below.1 ≠ place }

/-- The place a new entry at this path would have: its folder must be there. -/
def placeFor (files : Files) (path : Path) : Except SystemError Place := do
  checkPath path
  match path.segments.reverse with
  | [] => .error .notFound
  | name :: before =>
    let folder ← files.follow (files.startOf path) before.reverse
    if !(files.entryAt? folder).any Entry.isFolder then .error .notADirectory
    else if Path.isFiller name || name = ['.', '.'] then .error .isADirectory
    else if maxNameSize < Utf8.byteSize name then .error .nameTooLong
    else .ok (folder ++ [name])

/-- Writes a file, replacing its content if it is already there. -/
def write (files : Files) (path : Path) (content : Bytes) : Except SystemError Files := do
  let place ← files.placeFor path
  match files.entryAt? place with
  | some .folder => .error .isADirectory
  | some (.file _ executable) => .ok (files.putEntry place (.file content executable))
  | none => .ok (files.putEntry place (.file content false))

/-- Removes the file at a path. -/
def remove (files : Files) (path : Path) : Except SystemError Files := do
  let place ← files.locate path
  if (files.entryAt? place).any Entry.isFolder then .error .isADirectory
  else .ok (files.removeEntry place)

/-- Makes the folders along some segments that are not there yet. -/
def makeFoldersFrom (files : Files) : Place → List Text → Except SystemError Files
  | _, [] => .ok files
  | place, segment :: rest =>
    if Path.isFiller segment then files.makeFoldersFrom place rest
    else if segment = ['.', '.'] then files.makeFoldersFrom place.dropLast rest
    else if maxNameSize < Utf8.byteSize segment then .error .nameTooLong
    else
      let below := place ++ [segment]
      match files.entryAt? below with
      | some .folder => files.makeFoldersFrom below rest
      | some (.file ..) => .error (if rest.all Path.isFiller then .alreadyExists else .notADirectory)
      | none => (files.putEntry below .folder).makeFoldersFrom below rest

/-- Makes a folder, and those that lead to it. -/
def makeFolders (files : Files) (path : Path) : Except SystemError Files :=
  if path.text.contains '\x00' then .error .nulInPath
  else files.makeFoldersFrom (files.startOf path) path.segments

end Files

end ScriptAssist
