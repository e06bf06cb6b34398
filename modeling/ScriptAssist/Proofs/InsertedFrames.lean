import ScriptAssist.Proofs.FrameStream

/-!
# Streams with inserted messages

What has been read from some bytes is read when more bytes follow, unless reading waits for them. So
a frame gives its message whatever follows it, and reading a part of it waits for the rest. A stream
into which frames have been inserted is read like the stream without them, except for the messages
in these frames.
-/

namespace ScriptAssist.Frame

variable {bytes more part missing line rest : Bytes} {size size' : Nat} {message? : Option Json}

/-! ### More bytes -/

lemma cutLine?_append_of_some (h : cutLine? bytes = some (line, rest)) (more : Bytes) :
    cutLine? (bytes ++ more) = some (line, rest ++ more) := by
  induction bytes generalizing line with
  | nil => exact absurd h (by simp [cutLine?])
  | cons b bytes ih =>
    rw [List.cons_append, cutLine?]
    rw [cutLine?] at h
    split_ifs at h ⊢
    · obtain ⟨rfl, rfl⟩ := Prod.mk.inj (Option.some.inj h)
      rfl
    · obtain ⟨⟨line', rest'⟩, hcut, hcons⟩ := Option.map_eq_some_iff.mp h
      obtain ⟨rfl, rfl⟩ := Prod.mk.inj hcons
      rw [ih hcut]
      rfl

/-- The header with more bytes behind it. -/
def Header.followedBy (more : Bytes) : Header → Header
  | .complete size rest => .complete size (rest ++ more)
  | .unfinished line => .unfinished (line ++ more)
  | .broken => .broken

def Header.isUnfinished : Header → Bool
  | .unfinished _ => true
  | _ => false

lemma readHeader_eq (size : Nat) (bytes : Bytes) :
    readHeader size bytes =
      match cutLine? bytes with
      | none => .unfinished bytes
      | some (line, rest) =>
        match Utf8.decode? line with
        | none => .broken
        | some line =>
          if isBlankLine line then .complete size rest
          else readHeader ((size? line).getD size) rest := by
  rw [readHeader]
  split
  · next h => exact h ▸ rfl
  · next h => exact h ▸ rfl

lemma readHeader_append (h : (readHeader size bytes).isUnfinished = false) (more : Bytes) :
    readHeader size (bytes ++ more) = (readHeader size bytes).followedBy more := by
  fun_induction readHeader size bytes with
  | case1 => exact absurd h (by simp [Header.isUnfinished])
  | case2 size bytes line rest hcut hnone =>
    rw [readHeader_eq, cutLine?_append_of_some hcut]
    simp only [hnone]
    rfl
  | case3 size bytes line rest hcut text htext hblank =>
    rw [readHeader_eq, cutLine?_append_of_some hcut]
    simp only [htext, hblank, if_true]
    rfl
  | case4 size bytes line rest hcut text htext hblank ih =>
    rw [readHeader_eq, cutLine?_append_of_some hcut]
    simp only [htext, hblank, if_false, Bool.false_eq_true]
    exact ih h

/-- The reading with more bytes behind it. -/
def Reading.followedBy (more : Bytes) : Reading → Reading
  | .message value rest => .message value (rest ++ more)
  | .inHeader line => .inHeader (line ++ more)
  | .inBody => .inBody
  | .broken => .broken
  | .stuck => .stuck

/-- Whether reading waits for more bytes. -/
def Reading.isUnfinished : Reading → Bool
  | .inHeader _ | .inBody => true
  | _ => false

/-- Whether nothing will be read any more. -/
def Reading.isOver : Reading → Bool
  | .broken | .stuck => true
  | _ => false

section

variable {reading : Reading}

lemma Reading.not_message_of_isUnfinished (h : reading.isUnfinished = true) :
    ∀ message rest, reading ≠ .message message rest := by
  rintro message rest rfl
  exact absurd h (by simp [Reading.isUnfinished])

lemma Reading.not_message_of_isOver (h : reading.isOver = true) :
    ∀ message rest, reading ≠ .message message rest := by
  rintro message rest rfl
  exact absurd h (by simp [Reading.isOver])

lemma Reading.isUnfinished_or (reading : Reading) :
    (∃ message rest, reading = .message message rest) ∨ reading.isUnfinished = true ∨
      reading.isOver = true := by
  cases reading <;> simp [Reading.isUnfinished, Reading.isOver]

lemma Reading.isUnfinished_of_isOver (h : reading.isOver = true) :
    reading.isUnfinished = false := by
  cases reading <;> simp_all [Reading.isUnfinished, Reading.isOver]

lemma Reading.followedBy_of_isOver (h : reading.isOver = true) (more : Bytes) :
    reading.followedBy more = reading := by
  cases reading <;> simp_all [Reading.followedBy, Reading.isOver]

end

lemma read_of_complete (h : readHeader 0 bytes = .complete size rest) :
    read bytes =
      if size = 0 then read rest
      else if maxBodySize < size then .stuck
      else if rest.length < size then .inBody
      else
        match Json.ofBytes? (rest.take size) with
        | some value => .message value (rest.drop size)
        | none => read (rest.drop size) := by
  rw [read]
  split
  · next hother => exact absurd (h.symm.trans hother) (by simp)
  · next hother => exact absurd (h.symm.trans hother) (by simp)
  · next hsame =>
    obtain ⟨rfl, rfl⟩ := Header.complete.inj (h.symm.trans hsame)
    rfl

lemma readHeader_append_of_complete (h : readHeader 0 bytes = .complete size rest) (more : Bytes) :
    readHeader 0 (bytes ++ more) = .complete size (rest ++ more) := by
  rw [readHeader_append (by rw [h]; rfl), h]
  rfl

/-- What has been read from some bytes is read when there are more. -/
lemma read_append (h : (read bytes).isUnfinished = false) (more : Bytes) :
    read (bytes ++ more) = (read bytes).followedBy more := by
  fun_induction read bytes with
  | case1 => exact absurd h (by simp [Reading.isUnfinished])
  | case2 bytes hbroken =>
    have hmore : readHeader 0 (bytes ++ more) = .broken := by
      rw [readHeader_append (by rw [hbroken]; rfl), hbroken]
      rfl
    rw [read]
    split
    · next hother => exact absurd (hmore.symm.trans hother) (by simp)
    · rfl
    · next hother => exact absurd (hmore.symm.trans hother) (by simp)
  | case3 bytes rest hhead ih =>
    rw [read_of_complete (readHeader_append_of_complete hhead more), if_pos rfl]
    exact ih h
  | case4 bytes size rest hhead hsize hlarge =>
    rw [read_of_complete (readHeader_append_of_complete hhead more), if_neg hsize, if_pos hlarge]
    rfl
  | case5 => exact absurd h (by simp [Reading.isUnfinished])
  | case6 bytes size rest hhead hsize hheld harrived value hvalue =>
    have hlength : size ≤ rest.length := by omega
    rw [read_of_complete (readHeader_append_of_complete hhead more), if_neg hsize, if_neg hheld,
      if_neg (by simp; omega), List.take_append_of_le_length hlength,
      List.drop_append_of_le_length hlength, hvalue]
    rfl
  | case7 bytes size rest hhead hsize hheld harrived hnone ih =>
    have hlength : size ≤ rest.length := by omega
    rw [read_of_complete (readHeader_append_of_complete hhead more), if_neg hsize, if_neg hheld,
      if_neg (by simp; omega), List.take_append_of_le_length hlength,
      List.drop_append_of_le_length hlength, hnone]
    exact ih h

lemma read_append_of_isOver (h : (read bytes).isOver = true) (more : Bytes) :
    read (bytes ++ more) = read bytes := by
  rw [read_append (Reading.isUnfinished_of_isOver h), Reading.followedBy_of_isOver h]

/-- No message has been read yet from bytes in which none is read with more behind them. -/
lemma isUnfinished_or_isOver_of_append (h : (read (bytes ++ more)).isOver = true) :
    (read bytes).isUnfinished = true ∨ (read bytes).isOver = true := by
  rcases (read bytes).isUnfinished_or with ⟨message, rest, hread⟩ | hneither
  · have hmore := read_append (by rw [hread]; rfl) more
    rw [hread] at hmore
    exact absurd hmore (Reading.not_message_of_isOver h _ _)
  · exact hneither

/-! ### Frames -/

/-- Whatever follows these bytes, they are read as the message, or passed over if there is none, and
reading is then at the start of what follows. -/
def Gives (bytes : Bytes) (message? : Option Json) : Prop :=
  ∀ rest, read (bytes ++ rest) =
    match message? with
    | some message => .message message rest
    | none => read rest

lemma gives_write {message : Json} (hjson : Json.ofText? message.toText = some message)
    (hholdable : Utf8.byteSize message.toText ≤ maxBodySize) :
    Gives (write message) (some message) :=
  fun rest => read_write hjson hholdable rest

/-- Reading waits for the rest of a frame. -/
lemma Gives.isUnfinished_of_append (h : Gives (part ++ missing) message?)
    (hmissing : missing ≠ []) :
    (read part).isUnfinished = true := by
  by_contra hfinished
  rw [Bool.not_eq_true] at hfinished
  have hends : ∀ reading : Reading, reading.isUnfinished = false →
      reading.followedBy missing ≠ .inHeader [] ∧
        ∀ message, reading.followedBy missing ≠ .message message [] := by
    intro reading hreading
    cases reading <;> simp_all [Reading.followedBy, Reading.isUnfinished]
  have hwhole := h []
  rw [List.append_nil, read_append hfinished] at hwhole
  cases message? with
  | none => exact (hends _ hfinished).1 (hwhole.trans read_nil)
  | some message => exact (hends _ hfinished).2 message hwhole

/-- Whether reading takes the same course, whatever follows. -/
def ReadsLike (bytes bytes' : Bytes) : Prop :=
  ∀ more, read (bytes ++ more) = read (bytes' ++ more)

lemma ReadsLike.append {bytes bytes' : Bytes} (h : ReadsLike bytes bytes') (more : Bytes) :
    ReadsLike (bytes ++ more) (bytes' ++ more) := by
  intro behind
  rw [List.append_assoc, List.append_assoc]
  exact h (more ++ behind)

lemma ReadsLike.read_eq {bytes bytes' : Bytes} (h : ReadsLike bytes bytes') :
    read bytes = read bytes' := by
  simpa using h []

lemma Gives.readsLike (h : Gives bytes none) (more : Bytes) : ReadsLike (bytes ++ more) more := by
  intro behind
  rw [List.append_assoc]
  exact h (more ++ behind)

/-! ### Streams with inserted messages -/

/-- Bytes, each with whether it was inserted. -/
abbrev Stream := List (UInt8 × Bool)

namespace Stream

def marked (isInserted : Bool) (bytes : Bytes) : Stream :=
  bytes.map fun b => (b, isInserted)

abbrev own (bytes : Bytes) : Stream :=
  marked false bytes

abbrev inserted (bytes : Bytes) : Stream :=
  marked true bytes

/-- The bytes with those that were inserted, -/
def all (stream : Stream) : Bytes :=
  stream.map Prod.fst

/-- and without them. -/
def kept (stream : Stream) : Bytes :=
  (stream.filter fun b => !b.2).map Prod.fst

@[simp] lemma all_append (s t : Stream) : (s ++ t).all = s.all ++ t.all := List.map_append

@[simp] lemma kept_append (s t : Stream) : (s ++ t).kept = s.kept ++ t.kept := by
  rw [kept, List.filter_append, List.map_append, ← kept, ← kept]

@[simp] lemma all_marked (isInserted : Bool) (bytes : Bytes) :
    (marked isInserted bytes).all = bytes := by
  simp [all, marked, Function.comp_def]

@[simp] lemma kept_marked (isInserted : Bool) (bytes : Bytes) :
    (marked isInserted bytes).kept = if isInserted then [] else bytes := by
  cases isInserted <;> simp [kept, marked, List.filter_map, Function.comp_def]

lemma marked_eq_append_iff {isInserted : Bool} {bytes : Bytes} {s t : Stream} :
    marked isInserted bytes = s ++ t ↔
      ∃ a b, bytes = a ++ b ∧ marked isInserted a = s ∧ marked isInserted b = t :=
  List.map_eq_append_iff

lemma marked_append (isInserted : Bool) (a b : Bytes) :
    marked isInserted (a ++ b) = marked isInserted a ++ marked isInserted b :=
  List.map_append

lemma exists_all_eq {bytes : Bytes} {stream : Stream} (h : bytes <+: stream.all) :
    ∃ chunk later, stream = chunk ++ later ∧ chunk.all = bytes := by
  obtain ⟨rest, hrest⟩ := h
  obtain ⟨chunk, later, rfl, hchunk, -⟩ := List.map_eq_append_iff.mp hrest.symm
  exact ⟨chunk, later, rfl, hchunk⟩

lemma exists_kept_eq {bytes : Bytes} {stream : Stream} (h : bytes <+: stream.kept) :
    ∃ chunk later, stream = chunk ++ later ∧ chunk.kept = bytes := by
  obtain ⟨rest, hrest⟩ := h
  obtain ⟨_, _, hfilter, hchunk, -⟩ := List.map_eq_append_iff.mp hrest.symm
  obtain ⟨chunk, later, rfl, rfl, -⟩ := List.filter_eq_append_iff.mp hfilter
  exact ⟨chunk, later, rfl, hchunk⟩

end Stream

/-- Whether a message is a notification or a request. -/
def CarriesMethod (message : Json) : Prop :=
  (message.field? "method".toList).isSome = true

/-- A stream into which some of these messages, if they carry a method, have been inserted between
frames, or where nothing is read any more. What comes behind the last of them may be any bytes. -/
inductive WithInserted (messages : Set Json) : Stream → Prop where
  | rest (bytes : Bytes) : WithInserted messages (.own bytes)
  | ended {bytes : Bytes} {stream : Stream} (isOver : (read bytes).isOver = true)
      (after : WithInserted messages stream) : WithInserted messages (.own bytes ++ stream)
  | block {bytes : Bytes} {message? : Option Json} {stream : Stream} (gives : Gives bytes message?)
      (after : WithInserted messages stream) : WithInserted messages (.own bytes ++ stream)
  | insert {bytes : Bytes} {message : Json} {stream : Stream} (gives : Gives bytes (some message))
      (mem : message ∈ messages) (method : CarriesMethod message)
      (after : WithInserted messages stream) : WithInserted messages (.inserted bytes ++ stream)

/-- The bytes that have not been read start with an inserted message; reading without the inserted
messages passes over it. -/
structure StartsInserted (messages : Set Json) (unread later : Stream) (message : Json)
    (behind : Stream) : Prop where
  mem : message ∈ messages
  method : CarriesMethod message
  framed : ∃ bytes, Gives bytes (some message)
  reads : read unread.all = .message message behind.all
  passed : ReadsLike unread.kept behind.kept
  after : WithInserted messages (behind ++ later)

/-- The bytes that have not been read start with a message that is also found without the inserted
ones, or they do not start with a message. -/
inductive ReadsAlike (messages : Set Json) (unread later : Stream) : Prop where
  | message (message : Json) (behind : Stream)
      (reads : read unread.all = .message message behind.all)
      (reads' : read unread.kept = .message message behind.kept)
      (after : WithInserted messages (behind ++ later))
  | unfinished (reads : (read unread.all).isUnfinished = true)
      (reads' : (read unread.kept).isUnfinished = true)
  | ended (reads : (read unread.all).isOver = true)
      (same : read unread.kept = read unread.all)

variable {messages : Set Json} {unread later stream : Stream}

/-- A front of a stream ends in a block or takes in all of it. -/
lemma exists_part_or_behind {front : Stream} (h : unread ++ later = front ++ stream) :
    (∃ missing, front = unread ++ missing ∧ missing ≠ []) ∨
      ∃ behind, unread = front ++ behind ∧ stream = behind ++ later := by
  rcases List.append_eq_append_iff.mp h with ⟨missing, hfront, hlater⟩ | ⟨behind, hunread, hstream⟩
  · by_cases hmissing : missing = []
    · exact .inr ⟨[], by simp [hfront, hmissing], by simp [hlater, hmissing]⟩
    · exact .inl ⟨missing, hfront, hmissing⟩
  · exact .inr ⟨behind, hunread, hstream⟩

/-- Own bytes that are not read as a message are passed over. -/
lemma read_passOver {front : Bytes} (gives : Gives front none) (unread : Stream) :
    read (Stream.own front ++ unread).all = read unread.all ∧
      ReadsLike (Stream.own front ++ unread).kept unread.kept :=
  ⟨by simpa using gives unread.all, by simpa using gives.readsLike unread.kept⟩

lemma StartsInserted.passOver {front : Bytes} {message : Json} {behind : Stream}
    (gives : Gives front none) (h : StartsInserted messages unread later message behind) :
    StartsInserted messages (.own front ++ unread) later message behind := by
  obtain ⟨hall, hkept⟩ := read_passOver gives unread
  exact { h with
    reads := hall.trans h.reads
    passed := fun more => (hkept more).trans (h.passed more) }

lemma ReadsAlike.passOver {front : Bytes} (gives : Gives front none)
    (h : ReadsAlike messages unread later) : ReadsAlike messages (.own front ++ unread) later := by
  obtain ⟨hall, hkept⟩ := read_passOver gives unread
  cases h with
  | message message behind reads reads' after =>
    exact .message message behind (hall.trans reads) (hkept.read_eq.trans reads') after
  | unfinished reads reads' => exact .unfinished (hall ▸ reads) (hkept.read_eq ▸ reads')
  | ended reads same => exact .ended (hall ▸ reads) (hkept.read_eq.trans (same.trans hall.symm))

/-- Own bytes without a message are read alike. -/
lemma readsAlike_own (h : (read bytes).isUnfinished = true ∨ (read bytes).isOver = true) :
    ReadsAlike messages (.own bytes) later := by
  rcases h with h | h
  · exact .unfinished (by simpa using h) (by simpa using h)
  · exact .ended (by simpa using h) (by simp)

/-- What is read next is an inserted message, or it is the same with and without those. -/
lemma WithInserted.next (h : WithInserted messages (unread ++ later)) :
    (∃ message behind, StartsInserted messages unread later message behind) ∨
      ReadsAlike messages unread later := by
  generalize hstream : unread ++ later = stream at h
  induction h generalizing unread with
  | rest bytes =>
    obtain ⟨a, b, rfl, rfl, rfl⟩ := Stream.marked_eq_append_iff.mp hstream.symm
    rcases (read a).isUnfinished_or with ⟨message, rest, hread⟩ | hneither
    · refine .inr (.message message (.own rest) (by simpa using hread) (by simpa using hread) ?_)
      rw [← Stream.marked_append]
      exact .rest _
    · exact .inr (readsAlike_own hneither)
  | @ended bytes stream isOver after =>
    rcases exists_part_or_behind hstream with ⟨missing, hfront, -⟩ | ⟨behind, rfl, -⟩
    · obtain ⟨part, rest, rfl, rfl, rfl⟩ := Stream.marked_eq_append_iff.mp hfront
      exact .inr (readsAlike_own (isUnfinished_or_isOver_of_append isOver))
    · have hall := read_append_of_isOver isOver behind.all
      have hkept := read_append_of_isOver isOver behind.kept
      exact .inr (.ended (by simpa [hall] using isOver) (by simp [hall, hkept]))
  | @block bytes message? stream gives after ih =>
    rcases exists_part_or_behind hstream with ⟨missing, hfront, hmissing⟩ | ⟨behind, rfl, hbehind⟩
    · -- a part of an own block
      obtain ⟨part, rest, rfl, rfl, rfl⟩ := Stream.marked_eq_append_iff.mp hfront
      have hunfinished := gives.isUnfinished_of_append (by simpa [Stream.marked] using hmissing)
      exact .inr (readsAlike_own (.inl hunfinished))
    · cases message? with
      | none =>
        rcases ih hbehind.symm with ⟨message, beyond, hstarts⟩ | halike
        · exact .inl ⟨message, beyond, hstarts.passOver gives⟩
        · exact .inr (halike.passOver gives)
      | some message =>
        exact .inr (.message message behind (by simpa using gives behind.all)
          (by simpa using gives behind.kept) (hbehind ▸ after))
  | @insert bytes message stream gives mem method after ih =>
    rcases exists_part_or_behind hstream with ⟨missing, hfront, hmissing⟩ | ⟨behind, rfl, hbehind⟩
    · -- a part of an inserted frame
      obtain ⟨part, rest, rfl, rfl, rfl⟩ := Stream.marked_eq_append_iff.mp hfront
      have hunfinished := gives.isUnfinished_of_append (by simpa [Stream.marked] using hmissing)
      exact .inr (.unfinished (by simpa using hunfinished)
        (by simp [read_nil, Reading.isUnfinished]))
    · exact .inl ⟨message, behind, {
        mem := mem
        method := method
        framed := ⟨bytes, gives⟩
        reads := by simpa using gives behind.all
        passed := fun more => by simp
        after := hbehind ▸ after }⟩

end ScriptAssist.Frame
