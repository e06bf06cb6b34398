import ScriptAssist.Files.Path
import ScriptAssist.Text.Utf8

/-!
# Listed files

What folders list: entries by the bytes of their names, which need not encode any text. Names are
sorted as bytes, taken apart as bytes and then read leniently, to be shown and to be compared with
words.
-/

namespace ScriptAssist

/-- An entry as a folder lists it. -/
structure Listed where
  name : Bytes
  /-- Whether the path of the entry leads to a file. -/
  isFile : Bool
  deriving DecidableEq, Repr

/-- What each folder lists, or nothing if it cannot be read. -/
abbrev Listings := Path → Option (List Listed)

/-- A file in a folder, by the bytes of its name. -/
structure ListedFile where
  folder : Path
  name : Bytes
  deriving DecidableEq, Repr

namespace ListedFile

/-- The name as it is shown. -/
def shownName (file : ListedFile) : Text :=
  Utf8.decodeLossy file.name

/-- The path as it is shown. -/
def path (file : ListedFile) : Path :=
  file.folder.child file.shownName

/-- The name without its extension. -/
def stem (file : ListedFile) : Text :=
  match Path.splitAtPoint? Utf8.point file.name with
  | some (stem, _) => Utf8.decodeLossy stem
  | none => file.shownName

/-- The extension with its point, empty if there is none. -/
def pointedExtension (file : ListedFile) : Text :=
  match Path.splitAtPoint? Utf8.point file.name with
  | some (_, extension) => '.' :: Utf8.decodeLossy extension
  | none => []

end ListedFile

namespace Listings

/-- The names of the files that a folder lists, in ascending order. -/
def fileNames (listings : Listings) (folder : Path) : List Bytes :=
  let files := ((listings folder).getD []).filter Listed.isFile
  (files.map Listed.name).mergeSort

/-- The files that a folder lists, in the order of their names; none if it cannot be read. -/
def filesIn (listings : Listings) (folder : Path) : List ListedFile :=
  (listings.fileNames folder).map (.mk folder)

end Listings

end ScriptAssist
