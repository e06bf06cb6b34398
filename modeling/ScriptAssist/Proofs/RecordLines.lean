import ScriptAssist.Proofs.Compositions
import ScriptAssist.Proofs.JsonRecords

/-!
# Records on lines

The records of a rich reply stand on lines of their own, one for each, and each is decoded to what
it was made from.
-/

namespace ScriptAssist

open Json

/-! ### Parts of records -/

lemma Region.isFaithful_int32 (depth : Nat) :
    IsFaithful depth (fun n : Int32 => .int n.toInt) int32? where
  printable n := by
    have hlow : Int64.minValue.toInt ≤ n.toInt := Int.le_trans (by decide) n.le_toInt
    have hhigh : n.toInt < UInt64.size := Int.lt_of_lt_of_le n.toInt_lt (by decide)
    exact printable_int hlow hhigh depth
  read_sorted n := by
    have hbounds : Int32.minValue.toInt ≤ n.toInt ∧ n.toInt ≤ Int32.maxValue.toInt := by
      have hlow := n.le_toInt
      have hhigh := n.toInt_lt
      have hmin : Int32.minValue.toInt = -2 ^ 31 := by decide
      have hmax : Int32.maxValue.toInt = 2 ^ 31 - 1 := by decide
      omega
    show ((Number.int n.toInt).toInt? Int32.minValue.toInt Int32.maxValue.toInt).map Int32.ofInt =
      some n
    rw [Number.toInt?, if_pos (by simp only [hbounds, decide_true, Bool.and_self]), Option.map_some,
      Int32.ofInt_toInt]

lemma CompletionKind.isFaithful (depth : Nat) :
    IsFaithful depth (fun kind : CompletionKind => .str kind.name) ofJson? where
  printable kind := (isFaithful_text depth).printable kind.name
  read_sorted kind := congrArg some (ofName_name kind)

lemma Project.isFaithful_path (depth : Nat) :
    IsFaithful depth (fun path : Path => .str path.text) path? where
  printable path := (isFaithful_text depth).printable path.text
  read_sorted _ := rfl

lemma Context.isFaithful_position (depth : Nat) :
    IsFaithful depth (fun position : UInt64 => .int position.toNat) position? where
  printable position := by
    have hlow : Int64.minValue.toInt ≤ position.toNat :=
      Int.le_trans (by decide) (Int.natCast_nonneg position.toNat)
    have hhigh : (position.toNat : Int) < UInt64.size := Int.ofNat_lt.2 position.toNat_lt
    exact printable_int hlow hhigh depth
  read_sorted position := by
    have hsize := position.toNat_lt
    have hbounds : (0 : Int) ≤ position.toNat ∧ (position.toNat : Int) ≤ UInt64.size - 1 := by
      rw [UInt64.size]
      omega
    show ((Number.int position.toNat).toInt? 0 (UInt64.size - 1)).map
      (fun i => UInt64.ofNat i.toNat) = some position
    rw [Number.toInt?, if_pos (by simp only [hbounds, decide_true, Bool.and_self]), Option.map_some,
      Int.toNat_natCast, UInt64.ofNat_toNat]

/-! ### Records -/

lemma Region.isFaithful (depth : Nat) : IsFaithful (depth + 1) Region.toJson Region.ofJson? :=
  .record (fun _ => rfl) (by decide)
    (fun region => by
      simp [(isFaithful_text depth).printable, (isFaithful_int32 depth).printable,
        (isFaithful_bool depth).printable])
    fun region => by
      simp [required, (isFaithful_text depth).read_sorted, (isFaithful_int32 depth).read_sorted,
        (isFaithful_bool depth).read_sorted]

lemma Member.isFaithful (depth : Nat) : IsFaithful (depth + 1) Member.toJson Member.ofJson? :=
  .record (fun _ => rfl) (by decide)
    (fun item => by
      simp [(isFaithful_text depth).printable, (Region.isFaithful_int32 depth).printable])
    fun item => by
      simp [required, (isFaithful_text depth).read_sorted,
        (Region.isFaithful_int32 depth).read_sorted]

lemma Completion.isFaithful (depth : Nat) :
    IsFaithful (depth + 2) Completion.toJson Completion.ofJson? :=
  .record (fun _ => rfl) (by decide)
    (fun item => by
      simp [(isFaithful_text (depth + 1)).printable, (isFaithful_bool (depth + 1)).printable,
        (isFaithful_texts depth).printable])
    fun item => by
      simp [required, Json.optional, (isFaithful_text depth).read_sorted,
        (CompletionKind.isFaithful depth).read_sorted, (isFaithful_bool depth).read_sorted,
        (isFaithful_texts depth).read_sorted]

lemma Source.isFaithful (depth : Nat) : IsFaithful (depth + 1) Source.toJson Source.ofJson? :=
  .record (fun _ => rfl) (by decide)
    (fun source => by simp [(isFaithful_text depth).printable])
    fun source => by simp [required, (isFaithful_text depth).read_sorted]

lemma Project.isFaithful (depth : Nat) :
    IsFaithful (depth + 2) Project.toJson Project.ofJson? :=
  .record (fun _ => rfl) (by decide)
    (fun project => by
      simp [(isFaithful_text (depth + 1)).printable, (isFaithful_texts depth).printable])
    fun project => by
      have hpaths : ∀ paths : List Path,
          list? path? (texts (paths.map Path.text)).sorted = some paths := by
        intro paths
        rw [texts, List.map_map]
        exact (isFaithful_path depth).list.read_sorted paths
      simp [required, hpaths, (isFaithful_texts depth).read_sorted,
        (isFaithful_path depth).read_sorted]

lemma Context.isFaithful (depth : Nat) :
    IsFaithful (depth + 3) Context.toJson Context.ofJson? :=
  .record (fun _ => rfl) (by decide)
    (fun context => by
      simp [(isFaithful_text (depth + 2)).printable, (isFaithful_position (depth + 2)).printable,
        (isFaithful_texts (depth + 1)).printable, (Source.isFaithful depth).list.printable])
    fun context => by
      simp [required, (isFaithful_text depth).read_sorted, (isFaithful_position depth).read_sorted,
        (isFaithful_texts depth).read_sorted, (Source.isFaithful depth).list.read_sorted]

/-! ### Lines -/

section Lines

variable {α : Type} {write : α → Json} {read : Json → Option α} {records : List α}

/-- The lines of a text are these records, one on each line. -/
def IsListing (read : Json → Option α) (records : List α) (s : Text) : Prop :=
  (s.splitOn '\n').map (fun line => (ofText? line).bind read) = records.map some

lemma isListing_joinLines (h : IsFaithful maxDepth write read) (hne : records ≠ []) :
    IsListing read records (Text.joinLines (records.map fun a => (write a).toText)) := by
  have hlines : ∀ line ∈ records.map fun a => (write a).toText, '\n' ∉ line := by
    intro line hline
    obtain ⟨a, -, rfl⟩ := List.mem_map.1 hline
    exact (h.read_text a).2
  rw [IsListing, Text.splitOn_joinLines hlines (by simpa using hne), List.map_map]
  exact List.map_congr_left fun a _ => (h.read_text a).1

/-- Objects on lines have no blanks around them. -/
lemma trim_joinLines_toText {fields : α → List (Text × Json)} (hne : records ≠ []) :
    Text.trim (Text.joinLines (records.map fun a => (Json.obj (fields a)).toText)) =
      Text.joinLines (records.map fun a => (Json.obj (fields a)).toText) := by
  have hlines : (records.map fun a => (Json.obj (fields a)).toText) ≠ [] := by simpa using hne
  have hhead : ∀ line ∈ records.map fun a => (Json.obj (fields a)).toText,
      line.head? = some '\x7b' := by
    intro line hline
    obtain ⟨a, -, rfl⟩ := List.mem_map.1 hline
    rfl
  have hlast : ∀ line ∈ records.map fun a => (Json.obj (fields a)).toText,
      line.getLast? = some '\x7d' := by
    intro line hline
    obtain ⟨a, -, rfl⟩ := List.mem_map.1 hline
    exact List.getLast?_concat
  refine Text.trim_eq_self (fun c hc => ?_) fun c hc => ?_
  · rw [Text.head?_joinLines hlines hhead] at hc
    obtain rfl := Option.some.inj hc
    decide
  · rw [Text.getLast?_joinLines hlines hlast] at hc
    obtain rfl := Option.some.inj hc
    decide

end Lines

lemma Completion.listing_rich (items : List Completion) :
    listing true items = Text.joinLines (items.map Completion.toRich) := by
  cases items with
  | nil => rfl
  | cons item items => exact trim_joinLines_toText (List.cons_ne_nil item items)

/-- A name that no kind has stands for something unresolved. -/
lemma CompletionKind.ofJson?_of_unknown {name : Text}
    (h : ∀ kind : CompletionKind, kind.name ≠ name) : ofJson? (.str name) = some .unresolved := by
  have hnone : all.find? (fun kind => kind.name = name) = none :=
    List.find?_eq_none.2 fun kind _ => by simpa using h kind
  rw [ofJson?, ofName, hnone]
  rfl

lemma Completion.ofJson?_of_required (display insert : Text) (kind : CompletionKind) :
    ofJson? (.obj [("displayText".toList, .str display), ("completionText".toList, .str insert),
      ("kind".toList, .str kind.name)]) = some ⟨display, insert, kind, false, [], []⟩ := by
  have hparts : (Json.obj [("displayText".toList, .str display),
      ("completionText".toList, .str insert), ("kind".toList, .str kind.name)]).parts?
        ["displayText".toList, "completionText".toList, "kind".toList, "hasOverloads".toList,
          "invokeParameters".toList, "description".toList] =
      some [some (.str display), some (.str insert), some (.str kind.name), none, none, none] := rfl
  have hkind : CompletionKind.ofJson? (.str kind.name) = some kind :=
    congrArg some (CompletionKind.ofName_name kind)
  rw [ofJson?, hparts]
  simp [required, Json.optional, text?, hkind]

/-! ### Rich replies -/

namespace Session

variable {assistant : Assistant} {document : Document} {session after : Session} {text : Text}
  {caret : UInt64}

lemma exists_regions_of_references (hrich : document.rich = true)
    (h : (references assistant document caret).result session = (.ok (some text), after)) :
    ∃ regions : List Region, text = Text.joinLines (regions.map Region.toRich) := by
  obtain ⟨found, _, -, hask⟩ := Action.ok_of_result_bind h
  obtain ⟨regions, _, -, hsettle⟩ := Action.ok_of_result_bind hask
  obtain rfl := Option.some.inj (Except.ok.inj (congrArg Prod.fst hsettle))
  exact ⟨_, by simp only [hrich, if_true]; rfl⟩

lemma exists_items_of_codeMap
    (h : (codeMap assistant document .rich).result session = (.ok (some text), after)) :
    ∃ items : List Member, text = Outline.render .rich items := by
  obtain ⟨code, _, -, hdecorate⟩ := Action.ok_of_result_bind h
  obtain ⟨decoration, _, -, hask⟩ := Action.ok_of_result_bind hdecorate
  obtain ⟨items, _, -, hreply⟩ := Action.ok_of_result_bind hask
  obtain rfl := Option.some.inj (Except.ok.inj (congrArg Prod.fst hreply))
  exact ⟨_, rfl⟩

lemma exists_items_of_completion (hrich : document.rich = true)
    (h : (completion assistant document caret).result session = (.ok (some text), after)) :
    ∃ items : List Completion, text = Completion.listing true items := by
  obtain ⟨items, _, -, hreply⟩ := Action.ok_of_result_bind h
  obtain rfl := Option.some.inj (Except.ok.inj (congrArg Prod.fst hreply))
  exact ⟨items, by rw [hrich]⟩

end Session

/-- Rich listings of members, regions and proposals have a line for each record, in order, which is
read back as that record; projects and contexts are read back from their texts. A kind that is not
known is read as unresolved, and the parts of a proposal that have a default may be left out. The
rich replies about references, members and proposals are such listings. -/
theorem rich_listings_read_back :
    (∀ items : List Member, items ≠ [] →
      IsListing Member.ofJson? items (Outline.render .rich items)) ∧
    (∀ regions : List Region, regions ≠ [] →
      IsListing Region.ofJson? regions (Text.joinLines (regions.map Region.toRich))) ∧
    (∀ items : List Completion, items ≠ [] →
      IsListing Completion.ofJson? items (Completion.listing true items)) ∧
    (∀ project : Project, (Json.ofText? project.toRich).bind Project.ofJson? = some project) ∧
    (∀ context : Context,
      (Json.ofText? context.toJson.toText).bind Context.ofJson? = some context) ∧
    (∀ name, (∀ kind : CompletionKind, kind.name ≠ name) →
      CompletionKind.ofJson? (.str name) = some .unresolved) ∧
    (∀ (display insert : Text) (kind : CompletionKind),
      Completion.ofJson? (.obj [("displayText".toList, .str display),
        ("completionText".toList, .str insert), ("kind".toList, .str kind.name)]) =
          some ⟨display, insert, kind, false, [], []⟩) ∧
    ∀ (assistant : Assistant) (document : Document) (caret : UInt64) (session after : Session)
      (text : Text), document.rich = true →
      ((Session.references assistant document caret).result session = (.ok (some text), after) →
        ∃ regions : List Region, text = Text.joinLines (regions.map Region.toRich)) ∧
      ((Session.codeMap assistant document .rich).result session = (.ok (some text), after) →
        ∃ items : List Member, text = Outline.render .rich items) ∧
      ((Session.completion assistant document caret).result session = (.ok (some text), after) →
        ∃ items : List Completion, text = Completion.listing true items) :=
  ⟨fun _ => isListing_joinLines (Member.isFaithful 126),
    fun _ => isListing_joinLines (Region.isFaithful 126),
    fun items hne => by
      rw [Completion.listing_rich]
      exact isListing_joinLines (Completion.isFaithful 125) hne,
    fun project => ((Project.isFaithful 125).read_text project).1,
    fun context => ((Context.isFaithful 124).read_text context).1,
    fun _ => CompletionKind.ofJson?_of_unknown, Completion.ofJson?_of_required,
    fun _ _ _ _ _ _ hrich => ⟨Session.exists_regions_of_references hrich,
      Session.exists_items_of_codeMap, Session.exists_items_of_completion hrich⟩⟩

/-- A proposal with quotes, line breaks and a control character in its texts. -/
def trickyCompletion : Completion where
  display := "a\"b\\".toList
  insert := "\n\r\t\x07\x7f".toList
  kind := .nameSpace
  hasOverloads := true
  parameters := ["😀".toList, []]
  description := "\x7d\n\x7b".toList

theorem rich_listings_read_back_tricky :
    IsListing Completion.ofJson? [trickyCompletion, trickyCompletion]
        (Completion.listing true [trickyCompletion, trickyCompletion]) ∧
      IsListing Region.ofJson? [⟨"a\nb".toList, Int32.minValue, -1, Int32.maxValue, true⟩]
        (Region.toRich ⟨"a\nb".toList, Int32.minValue, -1, Int32.maxValue, true⟩) ∧
      CompletionKind.ofJson? (.str "Method".toList) = some .unresolved :=
  ⟨rich_listings_read_back.2.2.1 _ (by decide), rich_listings_read_back.2.1 [_] (by decide),
    rich_listings_read_back.2.2.2.2.2.1 _ fun kind => by cases kind <;> decide⟩

end ScriptAssist
