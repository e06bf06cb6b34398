import Mathlib.Tactic.SplitIfs
import ScriptAssist.Analysis.Frame
import ScriptAssist.Proofs.Encoding
import ScriptAssist.Proofs.Numerals

/-!
# Streams of frames

A stream is made of blocks: messages in their frames, frames whose body is no message, and headers
without a size. Reading finds the messages and passes over all the rest, and it is at the start of
the next block behind each of them, whatever the bodies hold.
-/

namespace ScriptAssist.Frame

open Utf8

/-! ### Blocks -/

inductive LineEnd where
  | lineFeed
  | carriageReturn
  deriving DecidableEq, Repr

def LineEnd.text : LineEnd → Text
  | .lineFeed => ['\n']
  | .carriageReturn => ['\r', '\n']

/-- A header line: any text on one line that is not blank. -/
structure HeaderLine where
  content : Text
  ending : LineEnd
  single : '\n' ∉ content
  notBlank : isBlankLine (content ++ ending.text) = false

def HeaderLine.text (line : HeaderLine) : Text :=
  line.content ++ line.ending.text

/-- The size that header lines declare: the one on the last line that has one, a size that cannot
be read counting as zero. -/
def declaredSize (header : List HeaderLine) : Nat :=
  ((header.filterMap fun line => size? line.text).getLast?).getD 0

def headerBytes (header : List HeaderLine) (blank : LineEnd) : Bytes :=
  (header.flatMap fun line => encode line.text) ++ encode blank.text

/-- What a stream is made of. Bodies are no larger than can be held. -/
inductive Block where
  | message (value : Json) (holdable : byteSize value.toText ≤ maxBodySize)
  | noise (header : List HeaderLine) (blank : LineEnd) (body : Bytes)
      (sized : declaredSize header = body.length) (notEmpty : body ≠ [])
      (holdable : body.length ≤ maxBodySize) (noMessage : Json.ofBytes? body = none)
  | bare (header : List HeaderLine) (blank : LineEnd) (unsized : declaredSize header = 0)

def Block.bytes : Block → Bytes
  | .message value _ => write value
  | .noise header blank body .. => headerBytes header blank ++ body
  | .bare header blank _ => headerBytes header blank

def Block.message? : Block → Option Json
  | .message value _ => some value
  | _ => none

/-! ### Header lines -/

lemma cutLine?_append {front : Bytes} (hfront : lineFeed ∉ front) (rest : Bytes) :
    cutLine? (front ++ lineFeed :: rest) = some (front ++ [lineFeed], rest) := by
  induction front with
  | nil => simp [cutLine?]
  | cons b front ih =>
    have hb : b ≠ lineFeed := (List.ne_of_not_mem_cons hfront).symm
    rw [List.cons_append, cutLine?, if_neg hb, ih (List.not_mem_of_not_mem_cons hfront)]
    rfl

lemma LineEnd.exists_text_eq (ending : LineEnd) :
    ∃ front, ending.text = front ++ ['\n'] ∧ '\n' ∉ front := by
  cases ending with
  | lineFeed => exact ⟨[], rfl, by simp⟩
  | carriageReturn => exact ⟨['\r'], rfl, by decide⟩

/-- A text that ends with its only line feed is cut off as a line, and is what is read of it. -/
lemma readHeader_encode {content : Text} (hcontent : '\n' ∉ content) (ending : LineEnd)
    (size : Nat) (rest : Bytes) :
    readHeader size (encode (content ++ ending.text) ++ rest) =
      if isBlankLine (content ++ ending.text) then .complete size rest
      else readHeader ((size? (content ++ ending.text)).getD size) rest := by
  obtain ⟨front, hending, hfront⟩ := ending.exists_text_eq
  have hnone : lineFeed ∉ encode (content ++ front) :=
    lineFeed_notMem_encode (by simp [hcontent, hfront])
  have hline : encode (content ++ ending.text) = encode (content ++ front) ++ [lineFeed] := by
    rw [hending, ← List.append_assoc, encode_append]
    rfl
  have hcut : cutLine? (encode (content ++ ending.text) ++ rest) =
      some (encode (content ++ ending.text), rest) := by
    rw [hline, List.append_assoc, List.singleton_append, cutLine?_append hnone]
  rw [readHeader]
  split
  · next hnoLine =>
    rw [hcut] at hnoLine
    exact absurd hnoLine (by simp)
  · next line behind hsome =>
    simp only [hcut, Option.some.injEq, Prod.mk.injEq] at hsome
    obtain ⟨rfl, rfl⟩ := hsome
    rw [decode?_encode]

lemma readHeader_line (line : HeaderLine) (size : Nat) (rest : Bytes) :
    readHeader size (encode line.text ++ rest) =
      readHeader ((size? line.text).getD size) rest := by
  rw [HeaderLine.text, readHeader_encode line.single, if_neg (by simp [line.notBlank])]

lemma readHeader_blank (blank : LineEnd) (size : Nat) (rest : Bytes) :
    readHeader size (encode blank.text ++ rest) = .complete size rest := by
  have hblank := readHeader_encode List.not_mem_nil blank size rest
  rw [List.nil_append] at hblank
  rw [hblank, if_pos (by cases blank <;> rfl)]

lemma readHeader_headerBytes (header : List HeaderLine) (blank : LineEnd) (rest : Bytes) :
    readHeader 0 (headerBytes header blank ++ rest) = .complete (declaredSize header) rest := by
  -- the size that the lines before gave is kept until a line gives another one
  have hlines : ∀ size, readHeader size (headerBytes header blank ++ rest) =
      .complete (((header.filterMap fun line => size? line.text).getLast?).getD size) rest := by
    induction header with
    | nil => exact fun size => readHeader_blank blank size rest
    | cons line header ih =>
      intro size
      rw [headerBytes, List.flatMap_cons, List.append_assoc, List.append_assoc, readHeader_line,
        ← List.append_assoc, ← headerBytes, ih]
      cases hsize : size? line.text with
      | none => simp [hsize]
      | some found => simp [hsize, List.getLast?_cons]
  exact hlines 0

/-! ### Blocks are read one by one -/

lemma read_of_bare {header : List HeaderLine} (hsize : declaredSize header = 0)
    (blank : LineEnd) (rest : Bytes) : read (headerBytes header blank ++ rest) = read rest := by
  have hheader := readHeader_headerBytes header blank rest
  rw [read]
  split
  · next h => simp [hheader] at h
  · next h => simp [hheader] at h
  · next size behind h =>
    simp only [hheader, hsize, Header.complete.injEq] at h
    rw [if_pos h.1.symm, h.2]

/-- Behind a header with a size, the body of that size is looked at as a whole. -/
lemma read_of_body {header : List HeaderLine} {body : Bytes}
    (hsize : declaredSize header = body.length) (hbody : body ≠ [])
    (hholdable : body.length ≤ maxBodySize) (blank : LineEnd) (rest : Bytes) :
    read (headerBytes header blank ++ (body ++ rest)) =
      match Json.ofBytes? body with
      | some value => .message value rest
      | none => read rest := by
  have hheader := readHeader_headerBytes header blank (body ++ rest)
  have hpositive : body.length ≠ 0 := by simpa using hbody
  rw [read]
  split
  · next h => simp [hheader] at h
  · next h => simp [hheader] at h
  · next size behind h =>
    simp only [hheader, hsize, Header.complete.injEq] at h
    obtain ⟨rfl, rfl⟩ := h
    have hheld : ¬ maxBodySize < body.length := by omega
    have harrived : ¬ (body ++ rest).length < body.length := by simp
    rw [if_neg hpositive, if_neg hheld, if_neg harrived]
    cases hvalue : Json.ofBytes? body with
    | some value => simp [hvalue]
    | none => simp [hvalue]

/-! ### Written messages -/

lemma lineFeed_notMem_sizeLabel : '\n' ∉ sizeLabel := by
  decide

lemma not_isBlankLine_of_length {line : Text} (h : 2 < line.length) : isBlankLine line = false := by
  have hcrlf : line ≠ ['\r', '\n'] := fun heq => by simp [heq] at h
  have hlf : line ≠ ['\n'] := fun heq => by simp [heq] at h
  simp [isBlankLine, hcrlf, hlf]

def sizeLine (size : Nat) : HeaderLine where
  content := sizeLabel ++ ' ' :: Text.ofNat size
  ending := .carriageReturn
  single := by simp [lineFeed_notMem_sizeLabel, Text.lineFeed_notMem_ofNat]
  notBlank := by
    have hlabel : 2 < sizeLabel.length := by decide
    refine not_isBlankLine_of_length ?_
    rw [List.length_append, List.length_append]
    omega

lemma size?_sizeLine {size : Nat} (h : size < UInt64.size) :
    size? (sizeLine size).text = some size := by
  have hvalue : Text.after? sizeLabel (sizeLine size).text =
      some ([' '] ++ (Text.ofNat size ++ ['\r', '\n'])) := by
    rw [Text.after?_eq_some_iff]
    simp [HeaderLine.text, sizeLine, LineEnd.text]
  have htrim : Text.trim ([' '] ++ (Text.ofNat size ++ ['\r', '\n'])) = Text.ofNat size :=
    Text.trim_ofNat (List.forall_mem_singleton.2 rfl)
      (List.forall_mem_cons.2 ⟨rfl, List.forall_mem_singleton.2 rfl⟩) size
  rw [size?, hvalue, Option.map_some, htrim, Text.toNat?_ofNat h, Option.getD_some]

lemma write_eq (value : Json) :
    write value =
      headerBytes [sizeLine (byteSize value.toText)] .carriageReturn ++ encode value.toText := by
  unfold write
  simp [headerBytes, sizeLine, HeaderLine.text, LineEnd.text]

/-- A message is read back from its frame if its text is. -/
lemma read_write {value : Json} (hjson : Json.ofText? value.toText = some value)
    (hholdable : byteSize value.toText ≤ maxBodySize) (rest : Bytes) :
    read (write value ++ rest) = .message value rest := by
  have hlength : (encode value.toText).length = byteSize value.toText := length_encode _
  have hsize : declaredSize [sizeLine (byteSize value.toText)] =
      (encode value.toText).length := by
    have hsmall : byteSize value.toText < UInt64.size :=
      Nat.lt_of_le_of_lt hholdable (by decide)
    simp [declaredSize, size?_sizeLine hsmall, hlength]
  -- the text of a value is not empty, as nothing can be read from an empty text
  have hbody : encode value.toText ≠ [] := by
    intro hnil
    have htext : decode? [] = some value.toText := hnil ▸ decode?_encode value.toText
    have hnone : (decode? []).bind Json.ofText? = none := rfl
    rw [htext, Option.bind_some, hjson] at hnone
    exact absurd hnone (by simp)
  rw [write_eq, List.append_assoc, read_of_body hsize hbody (hlength ▸ hholdable)]
  simp [Json.ofBytes?, decode?_encode, hjson]

/-! ### A whole stream -/

lemma readAll_eq (bytes : Bytes) :
    readAll bytes =
      match read bytes with
      | .message value rest => (value :: (readAll rest).1, (readAll rest).2)
      | .inHeader line => ([], if (decode? line).isSome then .closed else .failed)
      | .inBody | .broken | .stuck => ([], .failed) := by
  rw [readAll]
  split <;> next h => simp only [h]

lemma readAll_congr {bytes bytes' : Bytes} (h : read bytes = read bytes') :
    readAll bytes = readAll bytes' := by
  rw [readAll_eq bytes, h, ← readAll_eq]

lemma read_nil : read [] = .inHeader [] := by
  have hheader : readHeader 0 [] = .unfinished [] := by
    rw [readHeader]
    rfl
  rw [read]
  split <;> simp_all

lemma readAll_nil : readAll [] = ([], .closed) := by
  rw [readAll_eq, read_nil]
  rfl

/-- A block gives its message, if it has one, and leaves reading at the start of what follows. -/
lemma readAll_block {block : Block}
    (hjson : ∀ value ∈ block.message?, Json.ofText? value.toText = some value) (rest : Bytes) :
    readAll (block.bytes ++ rest) =
      (block.message?.toList ++ (readAll rest).1, (readAll rest).2) := by
  cases block with
  | message value holdable =>
    have hread : read (write value ++ rest) = .message value rest :=
      read_write (hjson value rfl) holdable rest
    rw [Block.bytes, readAll_eq, hread]
    rfl
  | noise header blank body sized notEmpty holdable noMessage =>
    have hread := read_of_body sized notEmpty holdable blank rest
    simp only [noMessage] at hread
    rw [Block.bytes, List.append_assoc, readAll_congr hread]
    rfl
  | bare header blank unsized =>
    rw [Block.bytes, readAll_congr (read_of_bare unsized blank rest)]
    rfl

/-- Reading a stream of blocks gives exactly its messages, in order, and then finds the end. -/
theorem readAll_flatMap_bytes {blocks : List Block}
    (hjson : ∀ value ∈ blocks.filterMap Block.message?,
      Json.ofText? value.toText = some value) :
    readAll (blocks.flatMap Block.bytes) = (blocks.filterMap Block.message?, .closed) := by
  induction blocks with
  | nil => exact readAll_nil
  | cons block blocks ih =>
    have hhead : ∀ value ∈ block.message?, Json.ofText? value.toText = some value :=
      fun value hvalue => hjson value (List.mem_filterMap.2 ⟨block, List.mem_cons_self, hvalue⟩)
    have htail := ih fun value hvalue => hjson value <| by
      obtain ⟨other, hother, hmessage⟩ := List.mem_filterMap.1 hvalue
      exact List.mem_filterMap.2 ⟨other, List.mem_cons_of_mem _ hother, hmessage⟩
    rw [List.flatMap_cons, readAll_block hhead, htail]
    cases hmessage : block.message? <;> simp [hmessage]

/-- A header without a size, a frame whose body looks like a header, and two messages. -/
def mixedBlocks : List Block :=
  [.bare [⟨"Größe: 2".toList, .lineFeed, by decide, by decide⟩] .carriageReturn (by decide),
    .message (.arr [.str "é\n".toList]) (by decide),
    .noise [⟨"Content-Length: 7".toList, .lineFeed, by decide, by decide⟩,
        ⟨"Content-Length: +019".toList, .carriageReturn, by decide, by decide⟩]
      .lineFeed (encode "Content-Length: 1\n\n".toList) (by decide) (by decide) (by decide)
      (by decide),
    .message (.obj [("id".toList, .int 7)]) (by decide)]

theorem readAll_mixedBlocks :
    (∀ value ∈ mixedBlocks.filterMap Block.message?, Json.ofText? value.toText = some value) ∧
      readAll (mixedBlocks.flatMap Block.bytes) =
        ([.arr [.str "é\n".toList], .obj [("id".toList, .int 7)]], .closed) := by
  have hjson : ∀ value ∈ mixedBlocks.filterMap Block.message?,
      Json.ofText? value.toText = some value := by
    have hmessages : mixedBlocks.filterMap Block.message? =
        [.arr [.str "é\n".toList], .obj [("id".toList, .int 7)]] := rfl
    rw [hmessages]
    intro value hvalue
    simp only [List.mem_cons, List.not_mem_nil, or_false] at hvalue
    obtain rfl | rfl := hvalue
    · rfl
    · rfl
  exact ⟨hjson, readAll_flatMap_bytes hjson⟩

end ScriptAssist.Frame
