import ScriptAssist.Json.Value
import ScriptAssist.Text.Utf8

/-!
# Reading messages

The value a text denotes. Blanks may stand around every token, strings must not hold control
characters or lone surrogates, arrays and objects may be nested 127 deep, and nothing but blanks
may follow the value.
-/

namespace ScriptAssist.Json

/-- What a string literal is made of: characters, and code units of 16 bits given by number. -/
inductive Piece where
  | char (c : Char)
  | unit (n : Nat)
  deriving DecidableEq, Repr

/-- The character an escape of one letter stands for. -/
def unescape? (c : Char) : Option Char :=
  if c = '"' || c = '\\' || c = '/' then some c
  else if c = 'b' then some '\x08'
  else if c = 'f' then some '\x0c'
  else if c = 'n' then some '\n'
  else if c = 'r' then some '\r'
  else if c = 't' then some '\t'
  else none

/-- The number four hexadecimal digits denote. -/
def unit? (a b c d : Char) : Option Nat := do
  let a ← Text.hexValue? a
  let b ← Text.hexValue? b
  let c ← Text.hexValue? c
  let d ← Text.hexValue? d
  some (((a * 16 + b) * 16 + c) * 16 + d)

/-- Reads the pieces of a string literal up to its closing quote; those read before are given in
reverse. -/
def readPieces (read : List Piece) : Text → Option (List Piece × Text)
  | [] => none
  | c :: s =>
    if c = '"' then some (read.reverse, s)
    else if c = '\\' then
      match s with
      | 'u' :: a :: b :: c :: d :: s =>
        match unit? a b c d with
        | some n => readPieces (.unit n :: read) s
        | none => none
      | e :: s =>
        match unescape? e with
        | some c => readPieces (.char c :: read) s
        | none => none
      | [] => none
    else if c.toNat < 0x20 then none
    else readPieces (.char c :: read) s

/-- Whether `n` is the first unit of a surrogate pair. -/
def isLeading (n : Nat) : Bool :=
  0xD800 ≤ n && n < 0xDC00

/-- Whether `n` is the second unit of a surrogate pair. -/
def isTrailing (n : Nat) : Bool :=
  0xDC00 ≤ n && n < 0xE000

/-- The text the pieces denote, if every surrogate is paired. -/
def joinPieces : List Piece → Option Text
  | [] => some []
  | .char c :: pieces => (joinPieces pieces).map fun s => c :: s
  | .unit n :: pieces =>
    if isLeading n then
      match pieces with
      | .unit m :: pieces =>
        if isTrailing m then
          let c := Char.ofNat (0x10000 + (n - 0xD800) * 0x400 + (m - 0xDC00))
          (joinPieces pieces).map fun s => c :: s
        else none
      | _ => none
    else if isTrailing n then none
    else (joinPieces pieces).map fun s => Char.ofNat n :: s

/-- Reads a string literal whose opening quote has been read. -/
def readString (s : Text) : Option (Text × Text) := do
  let (pieces, rest) ← readPieces [] s
  let text ← joinPieces pieces
  some (text, rest)

/-- Whether `c` may stand between tokens. -/
def isSpace (c : Char) : Bool :=
  c = ' ' || c = '\n' || c = '\t' || c = '\r'

/-- `s` from its first token on. -/
def skipSpaces (s : Text) : Text :=
  s.dropWhile isSpace

/-- Reads the items of an array from the first on. -/
def readItems (value : Text → Option (Json × Text)) : Nat → Text → Option (List Json × Text)
  | 0, _ => none
  | fuel + 1, s => do
    let (item, rest) ← value s
    match skipSpaces rest with
    | ',' :: rest =>
      let (items, rest) ← readItems value fuel rest
      some (item :: items, rest)
    | ']' :: rest => some ([item], rest)
    | _ => none

/-- Reads the fields of an object from the first on. -/
def readFields (value : Text → Option (Json × Text)) :
    Nat → Text → Option (List (Text × Json) × Text)
  | 0, _ => none
  | fuel + 1, s =>
    match skipSpaces s with
    | '"' :: s => do
      let (name, rest) ← readString s
      match skipSpaces rest with
      | ':' :: rest =>
        let (item, rest) ← value rest
        match skipSpaces rest with
        | ',' :: rest =>
          let (fields, rest) ← readFields value fuel rest
          some ((name, item) :: fields, rest)
        | '\x7d' :: rest => some ([(name, item)], rest)
        | _ => none
      | _ => none
    | _ => none

/-- Reads an array whose opening bracket has been read. -/
def readArray (value : Text → Option (Json × Text)) (s : Text) : Option (Json × Text) :=
  match skipSpaces s with
  | ']' :: rest => some (.arr [], rest)
  | s => (readItems value s.length s).map fun read => (.arr read.1, read.2)

/-- Reads an object whose opening brace has been read. -/
def readObject (value : Text → Option (Json × Text)) (s : Text) : Option (Json × Text) :=
  match skipSpaces s with
  | '\x7d' :: rest => some (.obj [], rest)
  | s => (readFields value s.length s).map fun read => (ofFields read.1, read.2)

/-- Reads a value that holds no array and no object, given its first character. -/
def readScalar (c : Char) (s : Text) : Option (Json × Text) :=
  if c = '"' then (readString s).map fun read => (.str read.1, read.2)
  else if c = 'n' then (Text.after? "ull".toList s).map fun rest => (.null, rest)
  else if c = 't' then (Text.after? "rue".toList s).map fun rest => (.bool true, rest)
  else if c = 'f' then (Text.after? "alse".toList s).map fun rest => (.bool false, rest)
  else (Number.read (c :: s)).map fun read => (.num read.1, read.2)

/-- Reads a value in which arrays and objects are nested at most that deep. -/
def readValue : Nat → Text → Option (Json × Text)
  | 0, s =>
    match skipSpaces s with
    | [] => none
    | c :: s => if c = '[' || c = '\x7b' then none else readScalar c s
  | depth + 1, s =>
    match skipSpaces s with
    | [] => none
    | c :: s =>
      if c = '[' then readArray (readValue depth) s
      else if c = '\x7b' then readObject (readValue depth) s
      else readScalar c s

/-- How deep arrays and objects may be nested. -/
def maxDepth : Nat := 127

/-- The value the whole text denotes. -/
def ofText? (s : Text) : Option Json := do
  let (value, rest) ← readValue maxDepth s
  if (skipSpaces rest).isEmpty then some value else none

/-- The value the bytes denote, if they are well-formed UTF-8. -/
def ofBytes? (bytes : Bytes) : Option Json :=
  (Utf8.decode? bytes).bind ofText?

end ScriptAssist.Json
