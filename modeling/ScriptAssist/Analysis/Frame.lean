import ScriptAssist.Json.Reader
import ScriptAssist.Text.Blank

/-!
# Frames

Messages travel in frames: header lines, one of which gives the size of the body, a blank line, and
the body. A block without a size, and a body that is no message, are passed over.
-/

namespace ScriptAssist.Frame

/-- What the header line with the size starts with. -/
def sizeLabel : Text :=
  "Content-Length:".toList

/-- A message in its frame. -/
def write (message : Json) : Bytes :=
  let body := message.toText
  let head := sizeLabel ++ ' ' :: Text.ofNat (Utf8.byteSize body) ++ ['\r', '\n', '\r', '\n']
  Utf8.encode (head ++ body)

/-- The first line with the line feed that ends it, and what follows; nothing if no line has
ended. -/
def cutLine? : Bytes → Option (Bytes × Bytes)
  | [] => none
  | b :: bytes =>
    if b = Utf8.lineFeed then some ([b], bytes)
    else (cutLine? bytes).map fun cut => (b :: cut.1, cut.2)

theorem length_lt_of_cutLine? {bytes line rest : Bytes} (h : cutLine? bytes = some (line, rest)) :
    rest.length < bytes.length := by
  induction bytes generalizing line with
  | nil => simp [cutLine?] at h
  | cons b bytes ih =>
    rw [cutLine?] at h
    split at h
    · simp only [Option.some.injEq, Prod.mk.injEq] at h
      simp [h.2]
    · simp only [Option.map_eq_some_iff, Prod.mk.injEq] at h
      obtain ⟨⟨line', rest'⟩, hcut, -, hrest⟩ := h
      dsimp only at hrest
      subst hrest
      have hlt := ih hcut
      simp only [List.length_cons]
      omega

/-- Whether a header line is the blank one that ends the header. -/
def isBlankLine (line : Text) : Bool :=
  line = ['\r', '\n'] || line = ['\n']

/-- The size that a header line gives, if it is the line for that. A size that cannot be read is
none. -/
def size? (line : Text) : Option Nat :=
  (Text.after? sizeLabel line).map fun value =>
    (Text.toNat? UInt64.size (Text.trim value)).getD 0

/-- A header: its size and what follows it, not all there yet with the bytes of the line that has
not ended, or not even text. -/
inductive Header where
  | complete (size : Nat) (rest : Bytes)
  | unfinished (line : Bytes)
  | broken
  deriving DecidableEq, Repr

/-- Reads header lines up to the blank one, when the lines before gave the size. The last line that
gives a size counts. -/
def readHeader (size : Nat) (bytes : Bytes) : Header :=
  match _h : cutLine? bytes with
  | none => .unfinished bytes
  | some (line, rest) =>
    match Utf8.decode? line with
    | none => .broken
    | some line =>
      if isBlankLine line then .complete size rest
      else readHeader ((size? line).getD size) rest
termination_by bytes.length
decreasing_by exact length_lt_of_cutLine? _h

theorem length_lt_of_readHeader {size size' : Nat} {bytes rest : Bytes}
    (h : readHeader size bytes = .complete size' rest) : rest.length < bytes.length := by
  fun_induction readHeader size bytes with
  | case1 => simp at h
  | case2 => simp at h
  | case3 size bytes line rest' hcut text _ _ =>
    simp only [Header.complete.injEq] at h
    exact h.2 ▸ length_lt_of_cutLine? hcut
  | case4 size bytes line rest' hcut text _ _ ih =>
    exact Nat.lt_trans (ih h) (length_lt_of_cutLine? hcut)

/-- The greatest size of a body that can be held at all. -/
def maxBodySize : Nat := 9223372036854775807

/-- What can be read from some bytes: a message and what follows it, nothing until more bytes of a
header or of a body arrive, nothing ever since a header is not text, or nothing ever since a body
is too large to be waited for. -/
inductive Reading where
  | message (value : Json) (rest : Bytes)
  | inHeader (line : Bytes)
  | inBody
  | broken
  | stuck

/-- Reads the next message. -/
def read (bytes : Bytes) : Reading :=
  match _h : readHeader 0 bytes with
  | .unfinished line => .inHeader line
  | .broken => .broken
  | .complete size rest =>
    if size = 0 then read rest
    else if maxBodySize < size then .stuck
    else if rest.length < size then .inBody
    else
      match Json.ofBytes? (rest.take size) with
      | some value => .message value (rest.drop size)
      | none => read (rest.drop size)
termination_by bytes.length
decreasing_by
  · exact length_lt_of_readHeader _h
  · have := length_lt_of_readHeader _h
    simp only [List.length_drop]
    omega

theorem length_lt_of_read {bytes rest : Bytes} {value : Json}
    (h : read bytes = .message value rest) : rest.length < bytes.length := by
  fun_induction read bytes with
  | case1 => simp at h
  | case2 => simp at h
  | case3 bytes rest' hhead ih => exact Nat.lt_trans (ih h) (length_lt_of_readHeader hhead)
  | case4 => simp at h
  | case5 => simp at h
  | case6 bytes size rest' hhead _ _ _ value' _ =>
    have := length_lt_of_readHeader hhead
    simp only [Reading.message.injEq] at h
    rw [← h.2, List.length_drop]
    omega
  | case7 bytes size rest' hhead _ _ _ _ ih =>
    have := length_lt_of_readHeader hhead
    have := ih h
    simp only [List.length_drop] at this
    omega

/-- How reading comes to an end: with the end of the bytes, or with a failure. -/
inductive Ending where
  | closed
  | failed
  deriving DecidableEq, Repr

/-- All messages in bytes after which no more arrive, and how reading them ends. A header may be
cut off by the end of the bytes, a body may not. -/
def readAll (bytes : Bytes) : List Json × Ending :=
  match _h : read bytes with
  | .message value rest =>
    let (values, ending) := readAll rest
    (value :: values, ending)
  | .inHeader line => ([], if (Utf8.decode? line).isSome then .closed else .failed)
  | .inBody | .broken | .stuck => ([], .failed)
termination_by bytes.length
decreasing_by exact length_lt_of_read _h

end ScriptAssist.Frame
