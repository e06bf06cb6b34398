import ScriptAssist.Text.Basic

/-!
# Paths

A path is kept as it was written and compared by its components: repeated slashes, points between
slashes and a final slash do not count, a point at the start of a relative path does, and two
points are a component like any other.
-/

namespace ScriptAssist

/-- A path as it was written. -/
structure Path where
  text : Text
  deriving DecidableEq, Repr

namespace Path

/-- A part of a path that counts when paths are compared. -/
inductive Component where
  | root
  | here
  | up
  | named (name : Text)
  deriving DecidableEq, Repr

/-- The path of these characters, for fixed names. -/
def ofString (s : String) : Path :=
  ⟨s.toList⟩

/-- Whether the path starts at the root. -/
def isAbsolute (p : Path) : Bool :=
  p.text.head? = some '/'

/-- The pieces between slashes, without the empty one in front of the root. -/
def segments (p : Path) : List Text :=
  let pieces := p.text.splitOn '/'
  if p.isAbsolute then pieces.drop 1 else pieces

/-- Whether a segment adds nothing to the segments before it. -/
def isFiller (segment : Text) : Bool :=
  segment = [] || segment = ['.']

/-- The component a segment stands for, if it is not a filler. -/
def componentOf? (segment : Text) : Option Component :=
  if isFiller segment then none
  else if segment = ['.', '.'] then some .up
  else some (.named segment)

/-- The components of a path. -/
def components (p : Path) : List Component :=
  let body := p.segments.filterMap componentOf?
  if p.isAbsolute then .root :: body
  else if p.segments.head? = some ['.'] then .here :: body
  else body

/-- Whether two paths have the same components. -/
def sameAs (p q : Path) : Bool :=
  p.components = q.components

/-- Whether a path is among some paths, by its components. -/
def isAmong (p : Path) (paths : List Path) : Bool :=
  paths.any fun q => q.sameAs p

/-- The segments up to the last that is no filler; a point that starts a relative path counts. -/
def withoutFillers (p : Path) (segments : List Text) : List Text :=
  let kept := (segments.reverse.dropWhile isFiller).reverse
  if kept.isEmpty && !p.isAbsolute && segments.head? = some ['.'] then [['.']] else kept

/-- The path without its last component, or nothing if there is no component to leave out. -/
def parent? (p : Path) : Option Path :=
  match (p.withoutFillers p.segments).reverse with
  | [] => none
  | _ :: before =>
    let rest := Text.joinWith ['/'] (p.withoutFillers before.reverse)
    some ⟨if p.isAbsolute then '/' :: rest else rest⟩

/-- The last component, if it is a name. -/
def fileName? (p : Path) : Option Text :=
  match p.components.getLast? with
  | some (.named name) => some name
  | _ => none

/-- The last component as a text, empty if it is not a name. -/
def fileName (p : Path) : Text :=
  p.fileName?.getD []

/-- The two sides of the last point of a name, unless nothing stands before it. -/
def splitAtPoint? {α : Type} [DecidableEq α] (point : α) (name : List α) :
    Option (List α × List α) :=
  let extension := Text.tailAfter (fun c => c = point) name
  let stem := (name.take (name.length - extension.length)).dropLast
  if extension.length = name.length || stem.isEmpty then none else some (stem, extension)

/-- What follows the last point of the file name, if something stands before that point. -/
def extension? (p : Path) : Option Text :=
  (splitAtPoint? '.' p.fileName).map Prod.snd

/-- The extension with its point, empty if there is none. -/
def pointedExtension (p : Path) : Text :=
  match p.extension? with
  | some extension => '.' :: extension
  | none => []

/-- The path `q` seen from the directory `p`. -/
def join (p q : Path) : Path :=
  if q.isAbsolute then q
  else if p.text.isEmpty || p.text.getLast? = some '/' then ⟨p.text ++ q.text⟩
  else ⟨p.text ++ '/' :: q.text⟩

/-- The entry of the directory `p` with this name. -/
def child (p : Path) (name : Text) : Path :=
  p.join ⟨name⟩

theorem sameAs_refl (p : Path) : p.sameAs p = true := by
  simp [sameAs]

theorem sameAs_symm {p q : Path} (h : p.sameAs q = true) : q.sameAs p = true := by
  simp only [sameAs, decide_eq_true_eq] at *
  exact h.symm

theorem sameAs_trans {p q r : Path} (h : p.sameAs q = true) (h' : q.sameAs r = true) :
    p.sameAs r = true := by
  simp only [sameAs, decide_eq_true_eq] at *
  exact h.trans h'

example : (ofString "a//b").sameAs (ofString "a/./b/") = true := by decide

example : (ofString "./a").sameAs (ofString "a") = false := by decide

example : ["a//b", "/a", "a", "./a", "/x//a", "a/."].map (fun s => (ofString s).parent?)
    = [some (ofString "a"), some (ofString "/"), some (ofString ""), some (ofString "."),
      some (ofString "/x"), some (ofString "")] := by decide

example : ["", "/"].map (fun s => (ofString s).parent?) = [none, none] := by decide

example : ["x.tar.gz", ".profile", "end.", ".."].map (fun s => (ofString s).extension?)
    = [some "gz".toList, none, some [], none] := by decide

end Path

end ScriptAssist
