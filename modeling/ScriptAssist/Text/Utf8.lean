import ScriptAssist.Text.Basic

/-!
# UTF-8

Texts as bytes. Reading bytes goes through a machine that takes one byte at a time and gives a
character for each well-formed sequence and a gap for each longest sequence that no character
continues. A strict reader refuses gaps; a lenient one puts a replacement character in each.
-/

namespace ScriptAssist

/-- A string of bytes. -/
abbrev Bytes := List UInt8

namespace Utf8

/-- The bytes of `s`. -/
def encode (s : Text) : Bytes :=
  s.flatMap String.utf8EncodeChar

/-- How many bytes `s` takes. -/
def byteSize (s : Text) : Nat :=
  s.foldr (fun c size => c.utf8Size + size) 0

/-- Where the reader stands: between characters, or inside one, with the number of bytes still
owed, the bounds of the next one and the value of those read. -/
inductive Reader where
  | between
  | inside (owed : Nat) (low high : UInt8) (value : Nat)
  deriving DecidableEq, Repr

/-- Reads the first byte of a character. -/
def Reader.start (b : UInt8) : List (Option Char) × Reader :=
  let n := b.toNat
  if n < 0x80 then ([some (Char.ofNat n)], .between)
  else if n < 0xC2 then ([none], .between)
  else if n < 0xE0 then ([], .inside 1 0x80 0xBF (n - 0xC0))
  else if n = 0xE0 then ([], .inside 2 0xA0 0xBF 0)
  else if n = 0xED then ([], .inside 2 0x80 0x9F 0xD)
  else if n < 0xF0 then ([], .inside 2 0x80 0xBF (n - 0xE0))
  else if n = 0xF0 then ([], .inside 3 0x90 0xBF 0)
  else if n < 0xF4 then ([], .inside 3 0x80 0xBF (n - 0xF0))
  else if n = 0xF4 then ([], .inside 3 0x80 0x8F 4)
  else ([none], .between)

/-- Reads one byte: the characters and gaps it completes, and where the reader stands then. -/
def Reader.step : Reader → UInt8 → List (Option Char) × Reader
  | .between, b => Reader.start b
  | .inside owed low high value, b =>
    if low ≤ b && b ≤ high then
      let value := value * 64 + (b.toNat - 0x80)
      if owed ≤ 1 then ([some (Char.ofNat value)], .between)
      else ([], .inside (owed - 1) 0x80 0xBF value)
    else
      let (found, reader) := Reader.start b
      (none :: found, reader)

/-- The characters and gaps in `bytes` for a reader that stands at the given place. -/
def scanFrom : Reader → Bytes → List (Option Char)
  | .between, [] => []
  | .inside .., [] => [none]
  | reader, b :: bytes =>
    let (found, reader) := reader.step b
    found ++ scanFrom reader bytes

/-- The characters and gaps in `bytes`. -/
def scan (bytes : Bytes) : List (Option Char) :=
  scanFrom .between bytes

/-- The text `bytes` encodes, if it is well-formed. -/
def decode? (bytes : Bytes) : Option Text :=
  (scan bytes).mapM id

/-- The text `bytes` encodes, with a replacement character for each gap. -/
def decodeLossy (bytes : Bytes) : Text :=
  (scan bytes).map fun found => found.getD '\uFFFD'

/-- The byte that ends a line. -/
def lineFeed : UInt8 := 10

/-- The byte in front of an extension. -/
def point : UInt8 := 0x2E

/-- The byte order mark, which a text file may start with. -/
def byteOrderMark : Char :=
  '\uFEFF'

/-- `s` without the byte order mark it may start with. -/
def dropByteOrderMark (s : Text) : Text :=
  if s.head? = some byteOrderMark then s.drop 1 else s

@[simp] theorem byteSize_nil : byteSize [] = 0 := rfl

@[simp] theorem byteSize_cons (c : Char) (s : Text) :
    byteSize (c :: s) = c.utf8Size + byteSize s := by
  simp [byteSize]

@[simp] theorem byteSize_append (s t : Text) : byteSize (s ++ t) = byteSize s + byteSize t := by
  induction s with
  | nil => simp
  | cons c s ih => simp [ih, Nat.add_assoc]

@[simp] theorem encode_nil : encode [] = [] := rfl

@[simp] theorem encode_cons (c : Char) (s : Text) :
    encode (c :: s) = String.utf8EncodeChar c ++ encode s := rfl

@[simp] theorem encode_append (s t : Text) : encode (s ++ t) = encode s ++ encode t :=
  List.flatMap_append

@[simp] theorem length_encode (s : Text) : (encode s).length = byteSize s := by
  induction s with
  | nil => rfl
  | cons c s ih => simp [ih]

example : decodeLossy [0x61, 0xE2, 0x82, 0x62, 0xC3, 0xA9, 0xFF] = "a\uFFFDbé\uFFFD".toList := by
  decide

example : decode? [0xF0, 0x9F, 0x98, 0x80] = some "😀".toList := by
  decide

end Utf8

end ScriptAssist
