import ScriptAssist.Json.Record
import ScriptAssist.Proofs.JsonText

/-!
# Records in order

Putting the fields of a record in order loses none of them, as long as their names are different. So
a record can be read from its text if each of its parts can.
-/

namespace ScriptAssist.Json

variable {α : Type} {depth : Nat} {name : Text} {value : Json} {fields sorted : List (Text × Json)}

/-! ### Fields in order -/

lemma sortedItems_eq_map (items : List Json) : sortedItems items = items.map Json.sorted := by
  induction items with
  | nil => rfl
  | cons item items ih => rw [sortedItems, ih, List.map_cons]

lemma sortedFields_eq_map (fields : List (Text × Json)) :
    sortedFields fields = fields.map fun field => (field.1, field.2.sorted) := by
  induction fields with
  | nil => rfl
  | cons field fields ih => rw [sortedFields, ih, List.map_cons]

lemma insertField_perm (h : name ∉ fields.map Prod.fst) :
    (insertField name value fields).Perm ((name, value) :: fields) := by
  induction fields with
  | nil => exact .refl _
  | cons field fields ih =>
    rw [List.map_cons] at h
    rw [insertField, if_neg (List.ne_of_not_mem_cons h)]
    split
    · exact .refl _
    · exact ((ih (List.not_mem_of_not_mem_cons h)).cons field).trans (.swap _ _ _)

lemma foldl_insertField_perm (h : ((fields ++ sorted).map Prod.fst).Nodup) :
    (fields.foldl (fun sorted field => insertField field.1 field.2 sorted) sorted).Perm
      (fields ++ sorted) := by
  -- What is sorted already grows; the names that are left have to differ from all of it.
  induction fields generalizing sorted with
  | nil => exact .refl _
  | cons field fields ih =>
    have hnodup : field.1 ∉ (fields ++ sorted).map Prod.fst ∧
        ((fields ++ sorted).map Prod.fst).Nodup := List.nodup_cons.1 h
    have hnew : field.1 ∉ sorted.map Prod.fst := fun hmem => hnodup.1 (by simp_all)
    have hinsert : (fields ++ insertField field.1 field.2 sorted).Perm
        (field :: (fields ++ sorted)) :=
      ((insertField_perm hnew).append_left fields).trans List.perm_middle
    have hrest := ih ((hinsert.map Prod.fst).nodup_iff.2 h)
    exact hrest.trans hinsert

lemma lookup_of_mem (h : (fields.map Prod.fst).Nodup) (hmem : (name, value) ∈ fields) :
    fields.lookup name = some value := by
  induction fields with
  | nil => exact absurd hmem (by simp)
  | cons field fields ih =>
    obtain ⟨hnew, hnodup⟩ := List.nodup_cons.1 h
    obtain rfl | hrest := List.mem_cons.1 hmem
    · exact List.lookup_cons_self
    · have hne : name ≠ field.1 := by
        rintro rfl
        exact hnew (List.mem_map.2 ⟨_, hrest, rfl⟩)
      rw [List.lookup_cons, beq_false_of_ne hne]
      exact ih hnodup hrest

lemma field?_of_mem (h : (fields.map Prod.fst).Nodup) (hmem : (name, value) ∈ fields) :
    (Json.obj fields).field? name = some value := by
  refine lookup_of_mem ?_ (List.mem_reverse.2 hmem)
  rw [List.map_reverse]
  exact (List.reverse_perm _).nodup_iff.2 h

/-- Each part of a record is found behind its name when the fields have been put in order. -/
theorem parts?_sorted {names : List Text} (hnames : fields.map Prod.fst = names)
    (hnodup : names.Nodup) :
    (Json.obj fields).sorted.parts? names = some (fields.map fun field => some field.2.sorted) := by
  subst hnames
  have hnames : (sortedFields fields).map Prod.fst = fields.map Prod.fst := by
    rw [sortedFields_eq_map, List.map_map]
    rfl
  have hperm : ((sortedFields fields).foldl
      (fun sorted field => insertField field.1 field.2 sorted) []).Perm (sortedFields fields) := by
    have hsorted : ((sortedFields fields ++ []).map Prod.fst).Nodup := by
      rwa [List.append_nil, hnames]
    have hfold := foldl_insertField_perm hsorted
    rwa [List.append_nil] at hfold
  have hfield : ∀ field ∈ fields,
      (Json.obj fields).sorted.field? field.1 = some field.2.sorted := by
    intro field hmem
    refine field?_of_mem ?_ (hperm.mem_iff.2 ?_)
    · rwa [(hperm.map Prod.fst).nodup_iff, hnames]
    · rw [sortedFields_eq_map]
      exact List.mem_map_of_mem hmem
  show some ((fields.map Prod.fst).map fun name => (Json.obj fields).sorted.field? name) = _
  rw [List.map_map]
  exact congrArg some (List.map_congr_left hfield)

/-! ### Faithful forms -/

/-- Values are written so that they can be printed, and are read again from what was written, once
its fields are in order. -/
structure IsFaithful (depth : Nat) (write : α → Json) (read : Json → Option α) : Prop where
  printable : ∀ a, Printable depth (write a)
  read_sorted : ∀ a, read (write a).sorted = some a

section

variable {write : α → Json} {read : Json → Option α}

/-- What is written is read again from its text, which is one line. -/
theorem IsFaithful.read_text (h : IsFaithful maxDepth write read) (a : α) :
    (ofText? (write a).toText).bind read = some a ∧ '\n' ∉ (write a).toText := by
  refine ⟨?_, lineFeed_notMem_toText (h.printable a)⟩
  rw [ofText?_toText (h.printable a), Option.bind_some, h.read_sorted]

lemma isFaithful_text (depth : Nat) : IsFaithful depth .str text? where
  printable s := by
    cases depth with
    | zero => trivial
    | succ depth => trivial
  read_sorted s := rfl

lemma isFaithful_bool (depth : Nat) : IsFaithful depth .bool bool? where
  printable b := by
    cases depth with
    | zero => trivial
    | succ depth => trivial
  read_sorted b := rfl

lemma printable_int {i : Int} (hlow : Int64.minValue.toInt ≤ i) (hhigh : i < UInt64.size)
    (depth : Nat) : Printable depth (.int i) := by
  cases depth with
  | zero => exact ⟨hlow, hhigh⟩
  | succ depth => exact ⟨hlow, hhigh⟩

lemma IsFaithful.list (h : IsFaithful depth write read) :
    IsFaithful (depth + 1) (fun items => .arr (items.map write)) (list? read) where
  printable items := by
    intro item hitem
    obtain ⟨a, -, rfl⟩ := List.mem_map.1 hitem
    exact h.printable a
  read_sorted items := by
    show (sortedItems (items.map write)).mapM read = some items
    rw [sortedItems_eq_map]
    induction items with
    | nil => rfl
    | cons a items ih =>
      rw [List.map_cons, List.map_cons, List.mapM_cons, h.read_sorted, ih]
      rfl

lemma isFaithful_texts (depth : Nat) : IsFaithful (depth + 1) texts (list? text?) :=
  (isFaithful_text depth).list

/-- A record is written faithfully if each of its parts can be printed and the parts make up the
record again. -/
lemma IsFaithful.record {fields : α → List (Text × Json)} {names : List Text}
    {build : List (Option Json) → Option α} (hnames : ∀ a, (fields a).map Prod.fst = names)
    (hnodup : names.Nodup) (hprintable : ∀ a, ∀ field ∈ fields a, Printable depth field.2)
    (hbuild : ∀ a, build ((fields a).map fun field => some field.2.sorted) = some a) :
    IsFaithful (depth + 1) (fun a => .obj (fields a)) fun value =>
      (value.parts? names).bind build where
  printable := hprintable
  read_sorted a := by
    rw [parts?_sorted (hnames a) hnodup, Option.bind_some, hbuild]

end

end ScriptAssist.Json
