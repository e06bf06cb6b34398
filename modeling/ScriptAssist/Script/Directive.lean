import ScriptAssist.Answer.Completion
import ScriptAssist.Files.Tree
import ScriptAssist.Script.Region
import ScriptAssist.Text.Caret

/-!
# Directives

Comments of a special form tell the toolchain what a script needs. This file finds the directive
under a caret, the file its argument names, and what can be told about it.
-/

namespace ScriptAssist.Directive

/-- What every directive starts with. -/
def start : Text :=
  "//css_".toList

/-- The directives, each with what it does. -/
def table : List (Text × Text) :=
  [("//css_include", "Includes a script file into the compilation."),
    ("//css_inc", "Alias of //css_include."),
    ("//css_reference", "References an assembly."),
    ("//css_ref", "Alias of //css_reference."),
    ("//css_args", "Engine command-line arguments applied to the script."),
    ("//css_dir", "Adds a directory to the probing search directories."),
    ("//css_nuget", "References a NuGet package."),
    ("//css_import", "Imports a script as a namespace-renamed module."),
    ("//css_resource", "Embeds a resource file into the compiled assembly."),
    ("//css_res", "Alias of //css_resource."),
    ("//css_precompiler", "Custom precompiler applied before compilation."),
    ("//css_pc", "Alias of //css_precompiler."),
    ("//css_prescript", "Script to run before the main script."),
    ("//css_pre", "Alias of //css_prescript."),
    ("//css_postscript", "Script to run after the main script."),
    ("//css_post", "Alias of //css_postscript."),
    ("//css_ignore_namespace", "Namespace not to resolve into an assembly reference."),
    ("//css_winapp", "Builds the script as a Windows application."),
    ("//css_co", "Compiler options passed to the C# compiler.")].map
      fun row => (row.1.toList, row.2.toList)

/-- What is under a caret: a directive, or the file argument of one. -/
inductive Hit where
  | directive (name : Text)
  | argument (directive word : Text)
  deriving DecidableEq, Repr

/-- The extensions that the argument of a directive may leave out, if it names a file. -/
def extensions? (directive : Text) : Option (List Text) :=
  if directive = "//css_inc".toList || directive = "//css_include".toList then
    some [".cs".toList]
  else if directive = "//css_ref".toList || directive = "//css_reference".toList then
    some [".dll".toList, ".exe".toList]
  else none

/-- The directive that a line without blanks around it starts with. -/
def ofLine (line : Text) : Text :=
  Text.wordAt .path line 2

/-- Whether the caret is on a directive or its line. -/
def isAt (code : Text) (caret : Nat) : Bool :=
  Text.startsWith start (Text.wordAt .path code caret)
    || Text.startsWith start (Text.lineAt code caret)

/-- What is under the caret, if it is on a directive or its line. A caret on no word is on the
directive. -/
def parseAt (code : Text) (caret : Nat) : Option Hit :=
  let word := Text.wordAt .path code caret
  let directive := ofLine (Text.lineAt code caret)
  if !isAt code caret then none
  else if Text.startsWith start word then some (.directive word)
  else if word.isEmpty || (extensions? directive).isNone then some (.directive directive)
  else some (.argument directive word)

/-- Whether an argument names a file: by its name, or by its name without one of the
extensions. -/
def isNamedBy (extensions : List Text) (word : Text) (file : ListedFile) : Bool :=
  file.shownName = word || (file.stem = word && extensions.contains file.pointedExtension)

/-- The first listed file in the search directories that the argument of a directive names. -/
def findListed (listings : Listings) (searchDirs : List Path) (directive word : Text) :
    Option ListedFile := do
  let extensions ← extensions? directive
  if word.isEmpty then none
  else (searchDirs.flatMap listings.filesIn).find? (isNamedBy extensions word)

/-- The path of the first file in the search directories that the argument of a directive names. -/
def lookupFile (files : Files) (searchDirs : List Path) (directive word : Text) : Option Path :=
  (findListed files.listings searchDirs directive word).map ListedFile.path

/-- What a proposal or a tooltip says about a file. -/
def fileNote (file : Path) : Text :=
  "File: ".toList ++ file.text

/-- The listed files that the argument of a directive could name. -/
def listedCompletions (listings : Listings) (searchDirs : List Path) (directive : Text) :
    List Completion :=
  match extensions? directive with
  | none => []
  | some extensions =>
    let fitting := (searchDirs.flatMap listings.filesIn).filter fun file =>
      extensions.contains file.pointedExtension
    fitting.map fun file => .plain file.shownName .file (fileNote file.path)

/-- The files that the argument of a directive could name. -/
def fileCompletions (files : Files) (searchDirs : List Path) (directive : Text) :
    List Completion :=
  listedCompletions files.listings searchDirs directive

/-- A proposal for each directive. -/
def completions : List Completion :=
  table.map fun row => .plain row.1 .directive row.2

/-- What can be told about a directive. -/
def describe (directive : Text) : Option Text :=
  (table.find? fun row => row.1 = directive).map fun row =>
    "Directive: ".toList ++ row.1 ++ '\n' :: row.2

/-- The line of a help text that starts with the directive, as a region of the help file. -/
def regionIn (helpFile : Path) (help directive : Text) : Region :=
  match (Text.lines help).findIdx? fun line => (Text.words line).head? = some directive with
  | some index => .atLine helpFile.text (Int32.ofNat index + 1)
  | none => .empty

end ScriptAssist.Directive
