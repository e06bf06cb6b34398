import ScriptAssist.Proofs.CaretLines

/-!
# Entries of completions

A plain reply about completions has an entry for each proposal, on a line of its own: what is
shown, a tab, the kind, a bar and what is inserted. No kind has a bar in its name, so an entry is
taken apart at its first tab and the next bar if nothing that is shown has a tab.
-/

namespace ScriptAssist

open Text

namespace Completion

variable {item : Completion} {items : List Completion}

/-! ### Entries -/

/-- What is shown for a proposal: its text, and for a method how it is called. -/
def shown (item : Completion) : Text :=
  item.display ++ item.callShape.1

def inserted (item : Completion) : Text :=
  item.insert ++ item.callShape.2

/-- The parts of an entry: up to its first tab, up to the next bar, and the rest. -/
def entryParts? (line : Text) : Option (Text × Text × Text) := do
  let (shown, rest) ← cutAtChar? '\t' line
  let (kind, inserted) ← cutAtChar? '|' rest
  some (shown, kind, inserted)

lemma toLine_eq (item : Completion) :
    item.toLine = item.shown ++ '\t' :: (item.kind.name ++ '|' :: item.inserted) := by
  simp [toLine, shown, inserted]

lemma bar_notMem_name (kind : CompletionKind) : '|' ∉ kind.name := by
  cases kind <;> decide

/-- The first tab of an entry is the one behind the text that is shown, if that has none. -/
lemma entryParts?_toLine_iff :
    entryParts? item.toLine = some (item.shown, item.kind.name, item.inserted) ↔
      '\t' ∉ item.shown := by
  rw [toLine_eq]
  constructor
  · intro hparts
    obtain ⟨⟨front, rest⟩, hcut, hrest⟩ := Option.bind_eq_some_iff.mp hparts
    obtain ⟨⟨kind, inserted⟩, -, hsome⟩ := Option.bind_eq_some_iff.mp hrest
    simp only [Option.some.injEq, Prod.mk.injEq] at hsome
    rw [← hsome.1]
    exact (append_of_cutAtChar? hcut).2
  · intro htab
    rw [entryParts?, cutAtChar?_append htab]
    dsimp only [bind, Option.bind_some]
    rw [cutAtChar?_append (bar_notMem_name item.kind)]
    rfl

/-! ### Listings -/

/-- Whether what is shown and inserted for a proposal stays on one line. -/
structure IsOneLine (item : Completion) : Prop where
  display : '\n' ∉ item.display
  insert : '\n' ∉ item.insert

instance (item : Completion) : Decidable (IsOneLine item) :=
  decidable_of_iff ('\n' ∉ item.display ∧ '\n' ∉ item.insert)
    ⟨fun ⟨hdisplay, hinsert⟩ => ⟨hdisplay, hinsert⟩, fun h => ⟨h.display, h.insert⟩⟩

/-- Whether no blank stands at either end of the entries: the first text that is shown does not
start with one, nor is it empty, and the last text that is inserted does not end with one. -/
structure HasInkEnds (items : List Completion) : Prop where
  first : ∀ item, items.head? = some item → ∃ c, item.shown.head? = some c ∧ isBlank c = false
  last : ∀ item, items.getLast? = some item → EndsInk item.inserted

lemma lineFeed_notMem_toLine (h : item.IsOneLine) : '\n' ∉ item.toLine := by
  have hshape : '\n' ∉ item.callShape.1 ∧ '\n' ∉ item.callShape.2 := by
    unfold callShape
    split_ifs <;> decide
  have hkind : '\n' ∉ item.kind.name := by
    cases item.kind <;> decide
  simp [toLine, h.display, h.insert, hshape, hkind]

/-- What an entry ends with: the bar, if nothing is inserted. -/
lemma endsInk_toLine_iff : EndsInk item.toLine ↔ EndsInk item.inserted := by
  rw [EndsInk, EndsInk, toLine_eq, List.append_cons, ← List.append_assoc, List.getLast?_append_cons,
    List.getLast?_cons]
  cases item.inserted.getLast? with
  | none => simpa using (by decide : isBlank '|' = false)
  | some c => simp

/-- What an entry starts with: the tab, if nothing is shown. -/
lemma startsInk_toLine_iff :
    StartsInk item.toLine ↔ ∃ c, item.shown.head? = some c ∧ isBlank c = false := by
  rw [StartsInk, toLine_eq, List.head?_append, List.head?_cons]
  cases item.shown.head? with
  | none => simpa using (by decide : isBlank '\t' = true)
  | some c => simp

lemma startsInk_joinLines_iff {rest : List Completion} :
    StartsInk (joinLines ((item :: rest).map toLine)) ↔ StartsInk item.toLine := by
  have hne : item.toLine ≠ [] := by simp [toLine_eq]
  have hfirst := List.head?_eq_some_head hne
  rw [StartsInk, StartsInk, List.map_cons, head?_joinLines_of_head? rfl hfirst, hfirst]

lemma endsInk_joinLines_iff (h : items.getLast? = some item) :
    EndsInk (joinLines (items.map toLine)) ↔ EndsInk item.toLine := by
  have hne : item.toLine ≠ [] := by simp [toLine_eq]
  have hlast := List.getLast?_eq_some_getLast hne
  have hline : (items.map toLine).getLast? = some item.toLine := by
    rw [List.getLast?_map, h, Option.map_some]
  rw [EndsInk, EndsInk, getLast?_joinLines_of_getLast? hline hlast, hlast]

/-- A listing is its entries on their lines exactly if these have no blank at either end: blanks
there are trimmed off. -/
lemma listing_plain_eq_iff (hne : items ≠ []) :
    listing false items = joinLines (items.map toLine) ↔ HasInkEnds items := by
  have hlisting : listing false items = trim (joinLines (items.map toLine)) := rfl
  have hlast := List.getLast?_eq_some_getLast hne
  obtain ⟨item, rest, rfl⟩ := List.exists_cons_of_ne_nil hne
  rw [hlisting, trim_eq_self_iff, startsInk_joinLines_iff, startsInk_toLine_iff,
    endsInk_joinLines_iff hlast, endsInk_toLine_iff]
  constructor
  · rintro ⟨hfirst, hend⟩
    refine ⟨?_, fun other hother => ?_⟩
    · rintro other ⟨⟩
      exact hfirst
    · rw [hlast, Option.some.injEq] at hother
      rwa [← hother]
  · exact fun h => ⟨h.first item rfl, h.last _ hlast⟩

lemma splitOn_entries (hne : items ≠ []) (hlines : ∀ item ∈ items, item.IsOneLine) :
    (joinLines (items.map toLine)).splitOn '\n' = items.map toLine := by
  apply splitOn_joinLines
  · intro line hline
    obtain ⟨item, hitem, rfl⟩ := List.mem_map.mp hline
    exact lineFeed_notMem_toLine (hlines item hitem)
  · simpa using hne

lemma map_entryParts?_iff :
    (items.map toLine).map entryParts? =
        (items.map fun item => some (item.shown, item.kind.name, item.inserted)) ↔
      ∀ item ∈ items, '\t' ∉ item.shown := by
  rw [List.map_map, List.map_inj_left]
  exact forall₂_congr fun item _ => entryParts?_toLine_iff

end Completion

/-! ### Replies -/

namespace Session

variable {assistant : Assistant} {document : Document} {session after : Session}
  {items : List Completion} {caret : UInt64}

lemma result_completion
    (h : (completions assistant document caret).result session = (.ok items, after)) :
    (completion assistant document caret).result session =
      (.ok (some (Completion.listing document.rich items)), after) := by
  rw [completion, Action.result_bind_of_ok h, Action.result_pure]

/-- The plain reply about proposals on one line is their entries, joined by line feeds, if these
have no blank at either end. Its lines are the entries, and exactly if no text that is shown has a
tab, what is shown, the kind and what is inserted are read back from each of them. -/
theorem entries_stay_intact (hplain : document.rich = false)
    (hitems : (completions assistant document caret).result session = (.ok items, after))
    (hne : items ≠ []) (hlines : ∀ item ∈ items, item.IsOneLine)
    (hends : Completion.HasInkEnds items) :
    ∃ reply, (completion assistant document caret).result session = (.ok (some reply), after) ∧
      reply = joinLines (items.map Completion.toLine) ∧
      reply.splitOn '\n' = items.map Completion.toLine ∧
      ((reply.splitOn '\n').map Completion.entryParts? =
          (items.map fun item => some (item.shown, item.kind.name, item.inserted)) ↔
        ∀ item ∈ items, '\t' ∉ item.shown) := by
  have hreply := result_completion hitems
  rw [hplain, (Completion.listing_plain_eq_iff hne).mpr hends] at hreply
  have hsplit := Completion.splitOn_entries hne hlines
  refine ⟨_, hreply, rfl, hsplit, ?_⟩
  rw [hsplit]
  exact Completion.map_entryParts?_iff

/-- An engine that has the same proposals for every caret. -/
def proposer (items : List Completion) : Assistant where
  engine _ query :=
    match query with
    | .completion _ => .ok items
    | _ => .error .connectionLost
  load := loneAssistant.load

/-- Proposals with blanks, tabs, bars and empty texts. -/
def paddedProposals : List Completion :=
  [⟨"a ".toList, " |a\t".toList, .field, false, [], []⟩,
    ⟨" b".toList, "b ".toList, .method, false, ["int c".toList], []⟩,
    ⟨[], "d e".toList, .method, true, [], []⟩,
    ⟨"  ".toList, [], .keyword, false, [], []⟩]

theorem entries_stay_intact_padded :
    ∃ reply, ((completion (proposer paddedProposals) ⟨accentedScript, false⟩ 30).result
        loneSession).1 = .ok (some reply) ∧
      reply.splitOn '\n' = ["a \tfield| |a\t", " b(..)\tmethod|b ", "(...)\tmethod|d e",
        "  \tkeyword|"].map String.toList ∧
      (reply.splitOn '\n').map Completion.entryParts? =
        [some ("a ".toList, "field".toList, " |a\t".toList),
          some (" b(..)".toList, "method".toList, "b ".toList),
          some ("(...)".toList, "method".toList, "d e".toList),
          some ("  ".toList, "keyword".toList, [])] := by
  have hends : Completion.HasInkEnds paddedProposals := by
    constructor
    · rintro item ⟨⟩
      exact ⟨'a', rfl, by decide⟩
    · rintro item ⟨⟩ c hc
      exact nomatch (show none = some c from hc)
  obtain ⟨reply, hreply, -, hsplit, hparts⟩ :=
    @entries_stay_intact (proposer paddedProposals) ⟨accentedScript, false⟩ loneSession _
      paddedProposals 30 rfl (Prod.ext rfl rfl) (by decide) (by decide) hends
  exact ⟨reply, congrArg Prod.fst hreply, hsplit.trans (by decide), hparts.mpr (by decide)⟩

/-- Proposals with blanks at both ends of their entries, and a tab in a text that is shown. -/
def tabbedProposals : List Completion :=
  [⟨" a".toList, "a".toList, .field, false, [], []⟩,
    ⟨"b\tc".toList, "d ".toList, .field, false, [], []⟩]

/-- Blanks at both ends are lost, and what is shown is cut at its own tab. -/
theorem tabbed_entries_not_intact :
    (∀ item ∈ tabbedProposals, item.IsOneLine) ∧
      ∃ reply, ((completion (proposer tabbedProposals) ⟨accentedScript, false⟩ 30).result
          loneSession).1 = .ok (some reply) ∧
        reply ≠ joinLines (tabbedProposals.map Completion.toLine) ∧
        (reply.splitOn '\n').map Completion.entryParts? =
          [some ("a".toList, "field".toList, "a".toList),
            some ("b".toList, "c\tfield".toList, "d".toList)] := by
  have hitems : (completions (proposer tabbedProposals) ⟨accentedScript, false⟩ 30).result
      loneSession = (.ok tabbedProposals, _) := Prod.ext rfl rfl
  exact ⟨by decide, _, congrArg Prod.fst (result_completion hitems), by decide, by decide⟩

end Session

end ScriptAssist
