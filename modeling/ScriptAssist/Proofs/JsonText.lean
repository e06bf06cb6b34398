import ScriptAssist.Proofs.JsonTokens

/-!
# Texts of messages

The text of a value without reals is read back as the value, with the fields of its objects in
order. It is one line.
-/

namespace ScriptAssist.Json

/-- A value without reals, with whole numbers of 64 bits, and with arrays and objects nested at most
that deep. -/
def Printable : Nat → Json → Prop
  | _, .null | _, .bool _ | _, .str _ => True
  | _, .num (.int i) => Int64.minValue.toInt ≤ i ∧ i < UInt64.size
  | _, .num (.real _) => False
  | 0, .arr _ | 0, .obj _ => False
  | depth + 1, .arr items => ∀ item ∈ items, Printable depth item
  | depth + 1, .obj fields => ∀ field ∈ fields, Printable depth field.2

/-- What may stand behind a value. -/
def Follows (rest : Text) : Prop :=
  ∀ c, rest.head? = some c → c = ',' ∨ c = ']' ∨ c = '\x7d'

/-- The value is read off the front of every text that starts with its own. -/
def ReadsBack (read : Text → Option (Json × Text)) (value : Json) : Prop :=
  ∀ rest, Follows rest → read (value.toText ++ rest) = some (value.sorted, rest)

variable {depth : Nat} {value : Json} {items : List Json} {fields : List (Text × Json)}
  {rest : Text} {read : Text → Option (Json × Text)}

lemma Printable.zero (h : Printable depth value) (hitems : ∀ items, value ≠ .arr items)
    (hfields : ∀ fields, value ≠ .obj fields) : Printable 0 value := by
  cases depth with
  | zero => exact h
  | succ depth =>
    cases value with
    | null | bool b | str s => trivial
    | num n =>
      cases n with
      | int i => exact h
      | real x => exact h
    | arr items => exact absurd rfl (hitems items)
    | obj fields => exact absurd rfl (hfields fields)

lemma follows_nil : Follows [] := by
  simp [Follows]

lemma follows_cons {c : Char} (h : c = ',' ∨ c = ']' ∨ c = '\x7d') : Follows (c :: rest) := by
  intro d hd
  obtain rfl := Option.some.inj hd
  exact h

lemma Follows.endsNumeral (h : Follows rest) : Number.EndsNumeral rest := by
  intro c hc
  obtain rfl | rfl | rfl := h c hc <;> decide

lemma skipSpaces_cons {c : Char} {s : Text} (h : isSpace c = false) :
    skipSpaces (c :: s) = c :: s := by
  rw [skipSpaces, List.dropWhile_cons, if_neg (by simp [h])]

/-! ### Scalars -/

lemma readScalar_toText (h : Printable 0 value) (hrest : Follows rest) :
    ∃ c s, value.toText ++ rest = c :: s ∧ isSpace c = false ∧ c ≠ '[' ∧ c ≠ '\x7b' ∧ c ≠ ']' ∧
      readScalar c s = some (value.sorted, rest) := by
  cases value with
  | null => exact ⟨'n', _, rfl, by decide, by decide, by decide, by decide, rfl⟩
  | bool b =>
    cases b with
    | true => exact ⟨'t', _, rfl, by decide, by decide, by decide, by decide, rfl⟩
    | false => exact ⟨'f', _, rfl, by decide, by decide, by decide, by decide, rfl⟩
  | str s =>
    refine ⟨'"', s.flatMap escape ++ '"' :: rest, by simp [toText, quote], by decide, by decide,
      by decide, by decide, ?_⟩
    rw [readScalar, if_pos rfl, readString_flatMap_escape]
    rfl
  | num n =>
    cases n with
    | real x => exact h.elim
    | int i =>
      have hread := Number.read_ofInt h.1 h.2 hrest.endsNumeral
      have htext : (Json.num (.int i)).toText = Text.ofInt i := rfl
      obtain ⟨c, s, hi, hc⟩ := Number.exists_cons_ofInt i
      have hfirst : c ∉ ['"', 'n', 't', 'f', '[', '\x7b', ']', ' ', '\n', '\t', '\r'] := by
        have hall : ['"', 'n', 't', 'f', '[', '\x7b', ']', ' ', '\n', '\t', '\r'].all
            (fun d => d ≠ '-' && !d.isDigit) = true := by decide
        intro hmem
        have hother := List.all_eq_true.1 hall c hmem
        simp only [Bool.and_eq_true, decide_eq_true_eq, Bool.not_eq_true'] at hother
        exact hc.elim hother.1 (by simp [hother.2])
      simp only [List.mem_cons, List.not_mem_nil, or_false, not_or] at hfirst
      obtain ⟨hquote, hn, ht, hf, harray, hobject, hclose, hblank⟩ := hfirst
      rw [hi, List.cons_append] at hread
      refine ⟨c, s ++ rest, by rw [htext, hi, List.cons_append], by simp [isSpace, hblank], harray,
        hobject, hclose, ?_⟩
      rw [readScalar, if_neg hquote, if_neg hn, if_neg ht, if_neg hf, hread]
      rfl
  | arr items => exact h.elim
  | obj fields => exact h.elim

lemma readValue_of_scalar (h : Printable 0 value) (depth : Nat) :
    ReadsBack (readValue depth) value := by
  intro rest hrest
  obtain ⟨c, s, htext, hspace, harray, hobject, -, hread⟩ := readScalar_toText h hrest
  rw [htext]
  cases depth with
  | zero =>
    rw [readValue, skipSpaces_cons hspace]
    dsimp only
    rw [if_neg (by simp [harray, hobject]), hread]
  | succ depth =>
    rw [readValue, skipSpaces_cons hspace]
    dsimp only
    rw [if_neg harray, if_neg hobject, hread]

/-! ### Arrays -/

lemma length_le_itemsText (items : List Json) : items.length ≤ (itemsText items).length := by
  induction items with
  | nil => exact Nat.zero_le _
  | cons item items ih =>
    simp only [itemsText, List.length_cons, List.length_append]
    omega

lemma follows_itemsText (items : List Json) (rest : Text) :
    Follows (itemsText items ++ ']' :: rest) := by
  cases items with
  | nil => exact follows_cons (.inr (.inl rfl))
  | cons item items => exact follows_cons (.inl rfl)

lemma readItems_itemsText (hitems : ∀ item ∈ items, ReadsBack read item) (hne : items ≠ [])
    {fuel : Nat} (hfuel : items.length ≤ fuel) (rest : Text) :
    readItems read fuel ((itemsText items).drop 1 ++ ']' :: rest) =
      some (sortedItems items, rest) := by
  -- The text of items has a comma before each of them; that of the first is dropped.
  induction items generalizing fuel with
  | nil => exact absurd rfl hne
  | cons item items ih =>
    have htext : (itemsText (item :: items)).drop 1 ++ ']' :: rest =
        item.toText ++ (itemsText items ++ ']' :: rest) := by
      simp [itemsText]
    have hread := hitems item List.mem_cons_self _ (follows_itemsText items rest)
    cases fuel with
    | zero => exact absurd hfuel (by simp)
    | succ fuel =>
      rw [htext, readItems, hread, Option.bind_eq_bind, Option.bind_some]
      dsimp only
      cases items with
      | nil => rfl
      | cons next items =>
        have hnext : itemsText (next :: items) ++ ']' :: rest =
            ',' :: ((itemsText (next :: items)).drop 1 ++ ']' :: rest) := by
          simp [itemsText]
        have hrest := ih (fun other hother => hitems other (List.mem_cons_of_mem _ hother))
          (by simp) (Nat.le_of_succ_le_succ hfuel)
        rw [hnext, skipSpaces_cons (by decide)]
        change (readItems read fuel ((itemsText (next :: items)).drop 1 ++ ']' :: rest) >>=
          fun found => some (item.sorted :: found.1, found.2)) = _
        rw [hrest]
        rfl

/-- A value's text starts with no blank and closes nothing. -/
lemma toText_eq_cons (h : Printable depth value) :
    ∃ c s, value.toText = c :: s ∧ isSpace c = false ∧ c ≠ ']' := by
  have hscalar : Printable 0 value →
      ∃ c s, value.toText = c :: s ∧ isSpace c = false ∧ c ≠ ']' := by
    intro hscalar
    obtain ⟨c, s, htext, hspace, -, -, hclose, -⟩ := readScalar_toText hscalar follows_nil
    exact ⟨c, s, by simpa using htext, hspace, hclose⟩
  cases value with
  | arr items => exact ⟨'[', _, rfl, by decide, by decide⟩
  | obj fields => exact ⟨'\x7b', _, rfl, by decide, by decide⟩
  | null | bool b | str s | num n => exact hscalar (h.zero (by simp) (by simp))

lemma readArray_itemsText (hitems : ∀ item ∈ items, Printable depth item)
    (hread : ∀ item ∈ items, ReadsBack read item) (rest : Text) :
    readArray read ((itemsText items).drop 1 ++ ']' :: rest) =
      some ((Json.arr items).sorted, rest) := by
  cases items with
  | nil => rfl
  | cons item items =>
    obtain ⟨c, s, htext, hspace, hclose⟩ := toText_eq_cons (hitems item List.mem_cons_self)
    have hfuel : (item :: items).length ≤
        ((itemsText (item :: items)).drop 1 ++ ']' :: rest).length := by
      have hlength := length_le_itemsText (item :: items)
      simp only [List.length_append, List.length_drop, List.length_cons] at hlength ⊢
      omega
    have hall := readItems_itemsText hread (by simp) hfuel rest
    have hstart : (itemsText (item :: items)).drop 1 ++ ']' :: rest =
        c :: (s ++ (itemsText items ++ ']' :: rest)) := by
      simp [itemsText, htext]
    rw [hstart] at hall ⊢
    rw [readArray, skipSpaces_cons hspace]
    split
    · next heq => exact absurd (List.cons.inj heq).1 hclose
    · rw [hall]
      rfl

/-! ### Objects -/

lemma length_le_fieldsText (fields : List (Text × Json)) :
    fields.length ≤ (fieldsText fields).length := by
  induction fields with
  | nil => exact Nat.zero_le _
  | cons field fields ih =>
    simp only [fieldsText, List.length_cons, List.length_append]
    omega

lemma follows_fieldsText (fields : List (Text × Json)) (rest : Text) :
    Follows (fieldsText fields ++ '\x7d' :: rest) := by
  cases fields with
  | nil => exact follows_cons (.inr (.inr rfl))
  | cons field fields => exact follows_cons (.inl rfl)

lemma fieldsText_cons (name : Text) (value : Json) (fields : List (Text × Json)) (rest : Text) :
    (fieldsText ((name, value) :: fields)).drop 1 ++ '\x7d' :: rest =
      '"' :: (name.flatMap escape ++
        '"' :: ':' :: (value.toText ++ (fieldsText fields ++ '\x7d' :: rest))) := by
  simp [fieldsText, quote]

lemma readFields_fieldsText (hfields : ∀ field ∈ fields, ReadsBack read field.2)
    (hne : fields ≠ []) {fuel : Nat} (hfuel : fields.length ≤ fuel) (rest : Text) :
    readFields read fuel ((fieldsText fields).drop 1 ++ '\x7d' :: rest) =
      some (sortedFields fields, rest) := by
  induction fields generalizing fuel with
  | nil => exact absurd rfl hne
  | cons field fields ih =>
    obtain ⟨name, value⟩ := field
    have hread := hfields (name, value) List.mem_cons_self _ (follows_fieldsText fields rest)
    cases fuel with
    | zero => exact absurd hfuel (by simp)
    | succ fuel =>
      rw [fieldsText_cons, readFields, skipSpaces_cons (by decide)]
      change (readString _ >>= _) = _
      rw [readString_flatMap_escape]
      change (read _ >>= _) = _
      rw [hread, Option.bind_eq_bind, Option.bind_some]
      dsimp only
      cases fields with
      | nil => rfl
      | cons next fields =>
        have hnext : fieldsText (next :: fields) ++ '\x7d' :: rest =
            ',' :: ((fieldsText (next :: fields)).drop 1 ++ '\x7d' :: rest) := by
          simp [fieldsText]
        have hrest := ih (fun other hother => hfields other (List.mem_cons_of_mem _ hother))
          (by simp) (Nat.le_of_succ_le_succ hfuel)
        rw [hnext, skipSpaces_cons (by decide)]
        change (readFields read fuel ((fieldsText (next :: fields)).drop 1 ++ '\x7d' :: rest) >>=
          fun found => some ((name, value.sorted) :: found.1, found.2)) = _
        rw [hrest]
        rfl

lemma readObject_fieldsText (hread : ∀ field ∈ fields, ReadsBack read field.2) (rest : Text) :
    readObject read ((fieldsText fields).drop 1 ++ '\x7d' :: rest) =
      some ((Json.obj fields).sorted, rest) := by
  cases fields with
  | nil => rfl
  | cons field fields =>
    have hfuel : (field :: fields).length ≤
        ((fieldsText (field :: fields)).drop 1 ++ '\x7d' :: rest).length := by
      have hlength := length_le_fieldsText (field :: fields)
      simp only [List.length_append, List.length_drop, List.length_cons] at hlength ⊢
      omega
    have hall := readFields_fieldsText hread (by simp) hfuel rest
    rw [fieldsText_cons] at hall ⊢
    rw [readObject, skipSpaces_cons (by decide)]
    change Option.map _ (readFields read _ _) = _
    rw [hall]
    rfl

/-! ### Values -/

/-- A value is read back with its fields in order, whatever follows it. -/
theorem readsBack_readValue (h : Printable depth value) : ReadsBack (readValue depth) value := by
  -- The reader allows one level less inside each array and object, and so does `Printable`.
  induction depth generalizing value with
  | zero => exact readValue_of_scalar h 0
  | succ depth ih =>
    cases value with
    | null | bool b | str s | num n =>
      exact readValue_of_scalar (h.zero (by simp) (by simp)) (depth + 1)
    | arr items =>
      intro rest hrest
      have htext : (Json.arr items).toText ++ rest =
          '[' :: ((itemsText items).drop 1 ++ ']' :: rest) := by
        simp [toText]
      rw [htext, readValue, skipSpaces_cons (by decide)]
      dsimp only
      rw [if_pos rfl, readArray_itemsText h fun item hitem => ih (h item hitem)]
    | obj fields =>
      intro rest hrest
      have htext : (Json.obj fields).toText ++ rest =
          '\x7b' :: ((fieldsText fields).drop 1 ++ '\x7d' :: rest) := by
        simp [toText]
      rw [htext, readValue, skipSpaces_cons (by decide)]
      dsimp only
      rw [if_neg (by decide), if_pos rfl,
        readObject_fieldsText fun field hfield => ih (h field hfield)]

theorem ofText?_toText (h : Printable maxDepth value) :
    ofText? value.toText = some value.sorted := by
  have hread := readsBack_readValue h [] follows_nil
  rw [List.append_nil] at hread
  rw [ofText?, hread]
  rfl

/-! ### One line -/

lemma lineFeed_notMem_itemsText (hitems : ∀ item ∈ items, '\n' ∉ item.toText) :
    '\n' ∉ itemsText items := by
  induction items with
  | nil => simp [itemsText]
  | cons item items ih =>
    have hitem : '\n' ∉ item.toText := hitems item List.mem_cons_self
    have hrest : '\n' ∉ itemsText items := ih fun other hother =>
      hitems other (List.mem_cons_of_mem _ hother)
    simp [itemsText, hitem, hrest]

lemma lineFeed_notMem_fieldsText (hfields : ∀ field ∈ fields, '\n' ∉ field.2.toText) :
    '\n' ∉ fieldsText fields := by
  induction fields with
  | nil => simp [fieldsText]
  | cons field fields ih =>
    have hvalue : '\n' ∉ field.2.toText := hfields field List.mem_cons_self
    have hrest : '\n' ∉ fieldsText fields := ih fun other hother =>
      hfields other (List.mem_cons_of_mem _ hother)
    simp [fieldsText, lineFeed_notMem_quote, hvalue, hrest]

lemma lineFeed_notMem_scalar (h : Printable 0 value) : '\n' ∉ value.toText := by
  cases value with
  | null => decide
  | bool b => cases b <;> decide
  | str s => exact lineFeed_notMem_quote s
  | num n =>
    cases n with
    | int i => exact Text.lineFeed_notMem_ofInt i
    | real x => exact h.elim
  | arr items => exact h.elim
  | obj fields => exact h.elim

/-- Line breaks in strings are escaped, and there are none between the tokens. -/
theorem lineFeed_notMem_toText (h : Printable depth value) : '\n' ∉ value.toText := by
  induction depth generalizing value with
  | zero => exact lineFeed_notMem_scalar h
  | succ depth ih =>
    cases value with
    | null | bool b | str s | num n => exact lineFeed_notMem_scalar (h.zero (by simp) (by simp))
    | arr items =>
      have hitems : '\n' ∉ itemsText items :=
        lineFeed_notMem_itemsText fun item hitem => ih (h item hitem)
      have htail : '\n' ∉ (itemsText items).tail := fun hmem => hitems (List.mem_of_mem_tail hmem)
      simp [toText, htail]
    | obj fields =>
      have hfields : '\n' ∉ fieldsText fields :=
        lineFeed_notMem_fieldsText fun field hfield => ih (h field hfield)
      have htail : '\n' ∉ (fieldsText fields).tail := fun hmem =>
        hfields (List.mem_of_mem_tail hmem)
      simp [toText, htail]

end ScriptAssist.Json
