import Mathlib.Data.List.Induction
import ScriptAssist.Proofs.Numerals
import ScriptAssist.Service.Request

/-!
# Fields of requests

Every field of a request holds what the last argument for it says, and its default if there is no
such argument. So neither arguments for other fields make a difference to it, nor what addresses no
field at all.
-/

namespace ScriptAssist.Request

/-! ### Fields -/

@[reducible] def Field.Value : Field → Type
  | .script | .rawFile | .operation | .toolchain | .processName | .start => Option Text
  | .caret | .timeout => UInt64
  | .port => UInt16
  | .client | .process => Option UInt32
  | .listen | .exit | .kill | .rich | .shortTooltips => Bool

/-- What a field holds. -/
def get (request : Request) : (field : Field) → field.Value
  | .script => request.script
  | .rawFile => request.rawFile
  | .operation => request.operation
  | .caret => request.caret
  | .listen => request.listen
  | .port => request.port
  | .timeout => request.timeout
  | .client => request.client
  | .exit => request.exit
  | .toolchain => request.toolchain
  | .kill => request.kill
  | .process => request.process
  | .processName => request.processName
  | .start => request.start
  | .rich => request.rich
  | .shortTooltips => request.shortTooltips

lemma ext_get {request request' : Request}
    (h : ∀ field, request.get field = request'.get field) : request = request' := by
  have hall : ∀ field ∈ Field.all, request.get field = request'.get field :=
    fun field _ => h field
  cases request
  cases request'
  simpa [Field.all, get] using hall

/-- What a field holds once it has been set to a value. -/
def Field.read (field : Field) (value : Text) : field.Value :=
  (default.assign value field).get field

lemma get_assign_self (request : Request) (value : Text) (field : Field) :
    (request.assign value field).get field = field.read value := by
  cases field <;> rfl

lemma get_assign_of_ne {field other : Field} (h : field ≠ other) (request : Request)
    (value : Text) : (request.assign value field).get other = request.get other := by
  cases field <;> cases other <;> trivial

/-! ### Values -/

/-- `n` is the number that a value writes, whatever blanks are around it, or the fallback if it
writes none below the bound. -/
def Denotes (bound fallback : Nat) (value : Text) (n : Nat) : Prop :=
  (n < bound ∧ Text.IsNumeral n (Text.trim value)) ∨
    n = fallback ∧ ∀ m < bound, ¬ Text.IsNumeral m (Text.trim value)

lemma number?_eq_some_iff {bound : Nat} {value : Text} {n : Nat} :
    number? bound value = some n ↔ n < bound ∧ Text.IsNumeral n (Text.trim value) :=
  Text.toNat?_eq_some_iff

lemma denotes_iff {bound fallback : Nat} {value : Text} {n : Nat} :
    Denotes bound fallback value n ↔ (number? bound value).getD fallback = n := by
  cases hnumber : number? bound value with
  | some m =>
    obtain ⟨hm, hnumeral⟩ := number?_eq_some_iff.1 hnumber
    constructor
    · rintro (h | ⟨-, hnone⟩)
      · exact Option.some.inj (hnumber.symm.trans (number?_eq_some_iff.2 h))
      · exact absurd hnumeral (hnone m hm)
    · rintro rfl
      exact .inl ⟨hm, hnumeral⟩
  | none =>
    constructor
    · rintro (h | ⟨rfl, -⟩)
      · exact absurd (hnumber.symm.trans (number?_eq_some_iff.2 h)) (by simp)
      · rfl
    · rintro rfl
      refine .inr ⟨rfl, fun m hm hnumeral => ?_⟩
      exact absurd (hnumber.symm.trans (number?_eq_some_iff.2 ⟨hm, hnumeral⟩)) (by simp)

/-- What the value of a field has to be after a given value: texts stand for themselves, an empty
name for none, a number for itself if it has as many bits as the field, and zero for no process. -/
def Field.Takes : (field : Field) → Text → field.Value → Prop
  | .script, value, x | .rawFile, value, x | .operation, value, x | .toolchain, value, x
  | .start, value, x => x = some value
  | .processName, value, x => x = if value = [] then none else some value
  | .caret, value, x => Denotes UInt64.size 0 value x.toNat
  | .timeout, value, x => Denotes UInt64.size defaultTimeout.toNat value x.toNat
  | .port, value, x => Denotes UInt16.size defaultPort.toNat value x.toNat
  | .client, value, x | .process, value, x =>
    ∀ pid, x = some pid ↔ pid ≠ 0 ∧ Text.IsNumeral pid.toNat (Text.trim value)
  | .listen, value, x | .exit, value, x | .kill, value, x | .rich, value, x =>
    x = true ↔ Text.toLower (Text.trim value) ∈ ["".toList, "1".toList, "true".toList]
  | .shortTooltips, value, x => x = true ↔ Text.trim value = "1".toList

/-- A word that is read from a value denotes what the value does. -/
lemma denotes_toNat_iff {Word : Type} {ofNat : Nat → Word} {toNat : Word → Nat} {bound : Nat}
    (hofNat : ∀ word, ofNat (toNat word) = word) (htoNat : ∀ n < bound, toNat (ofNat n) = n)
    {value : Text} {fallback word : Word} :
    Denotes bound (toNat fallback) value (toNat word) ↔
      ((number? bound value).map ofNat).getD fallback = word := by
  rw [denotes_iff]
  cases hnumber : number? bound value with
  | none =>
    constructor
    · intro heq
      rw [Option.map_none, Option.getD_none, ← hofNat fallback, ← hofNat word]
      exact congrArg ofNat heq
    · exact fun heq => congrArg toNat heq
  | some n =>
    have hn := htoNat n (number?_eq_some_iff.1 hnumber).1
    constructor
    · intro heq
      rw [Option.map_some, Option.getD_some, ← hofNat word]
      exact congrArg ofNat heq
    · rintro rfl
      exact hn.symm

lemma isOn_eq_true_iff {value : Text} :
    isOn value = true ↔
      Text.toLower (Text.trim value) ∈ ["".toList, "1".toList, "true".toList] := by
  simp [isOn, or_assoc]

lemma process?_eq_some_iff {value : Text} {pid : UInt32} :
    process? value = some pid ↔ pid ≠ 0 ∧ Text.IsNumeral pid.toNat (Text.trim value) := by
  simp only [process?, Option.map_eq_some_iff, Option.filter_eq_some_iff, number?_eq_some_iff,
    decide_eq_true_eq]
  constructor
  · rintro ⟨n, ⟨⟨hn, hnumeral⟩, hne⟩, rfl⟩
    have hword : (UInt32.ofNat n).toNat = n := UInt32.toNat_ofNat_of_lt' hn
    refine ⟨fun hzero => hne ?_, by rwa [hword]⟩
    rw [← hword, hzero]
    rfl
  · rintro ⟨hne, hnumeral⟩
    refine ⟨pid.toNat, ⟨⟨pid.toNat_lt, hnumeral⟩, fun hzero => hne ?_⟩, UInt32.ofNat_toNat⟩
    exact UInt32.toNat_inj.1 hzero

lemma Field.takes_iff {field : Field} {value : Text} {x : field.Value} :
    field.Takes value x ↔ field.read value = x := by
  have hword64 : ∀ n < UInt64.size, (UInt64.ofNat n).toNat = n := fun _ => UInt64.toNat_ofNat_of_lt'
  have hword16 : ∀ n < UInt16.size, (UInt16.ofNat n).toNat = n := fun _ => UInt16.toNat_ofNat_of_lt'
  have hprocess : ∀ x : Option UInt32,
      (∀ pid, x = some pid ↔ pid ≠ 0 ∧ Text.IsNumeral pid.toNat (Text.trim value)) ↔
        process? value = x := by
    intro x
    constructor
    · exact fun h => Option.ext fun pid => process?_eq_some_iff.trans (h pid).symm
    · rintro rfl pid
      exact process?_eq_some_iff
  have hswitch : ∀ (on x : Bool) (P : Prop), (on = true ↔ P) → ((x = true ↔ P) ↔ on = x) := by
    intro on x P hon
    rw [← hon]
    exact Iff.trans ⟨Iff.symm, Iff.symm⟩ Bool.eq_iff_iff.symm
  cases field with
  | script | rawFile | operation | toolchain | start => exact eq_comm
  | processName =>
    refine eq_comm.trans ?_
    cases value with
    | nil => exact Iff.rfl
    | cons c value => exact Iff.rfl
  | caret =>
    have hread : Field.caret.read value =
        ((number? UInt64.size value).map UInt64.ofNat).getD 0 :=
      (Option.getD_map UInt64.ofNat 0 (number? UInt64.size value)).symm
    have hdenotes : Denotes UInt64.size (0 : UInt64).toNat value x.toNat ↔ _ :=
      denotes_toNat_iff (fun _ => UInt64.ofNat_toNat) hword64
    rw [hread]
    exact hdenotes
  | timeout => exact denotes_toNat_iff (fun _ => UInt64.ofNat_toNat) hword64
  | port => exact denotes_toNat_iff (fun _ => UInt16.ofNat_toNat) hword16
  | client | process => exact hprocess x
  | listen | exit | kill | rich => exact hswitch _ _ _ isOn_eq_true_iff
  | shortTooltips => exact hswitch _ _ _ decide_eq_true_iff

/-! ### Arguments -/

/-- A text gives a field a value as `-name:value`, the name in any case, and a flag the empty value
as `-name` alone. Carriage returns at the end do not count. -/
inductive Field.Addressed (field : Field) : Text → Text → Prop
  | value {name value returns : Text} (named : Text.toLower name = field.name)
      (ended : value.getLast? ≠ some '\r') (ending : ∀ c ∈ returns, c = '\r') :
      Addressed field ('-' :: name ++ ':' :: value ++ returns) value
  | flag {name returns : Text} (flag : field.isFlag = true)
      (named : Text.toLower name = field.name) (ending : ∀ c ∈ returns, c = '\r') :
      Addressed field ('-' :: name ++ returns) []

def Argument.field : Argument → Field
  | .value field _ | .flag field => field

/-- The value an argument gives to its field. -/
def Argument.given : Argument → Text
  | .value _ text => text
  | .flag _ => []

/-- The value that a text gives to a field, if it addresses it. -/
def Field.value? (field : Field) (s : Text) : Option Text :=
  ((Argument.ofText? s).filter fun argument => argument.field = field).map Argument.given

lemma Field.ofName?_eq_some_iff {field : Field} {name : Text} :
    ofName? name = some field ↔ Text.toLower name = field.name := by
  constructor
  · intro h
    have hname := List.find?_some h
    simpa [eq_comm] using hname
  · intro h
    rw [ofName?, h]
    cases field <;> decide

lemma Field.notMem_of_toLower_eq {field : Field} {name : Text} {c : Char}
    (h : Text.toLower name = field.name) (hc : c.toLower ∉ field.name) : c ∉ name := by
  intro hmem
  apply hc
  rw [← h]
  exact List.mem_map_of_mem hmem

lemma Field.colon_notMem_name (field : Field) : Char.toLower ':' ∉ field.name := by
  cases field <;> decide

lemma Field.carriageReturn_notMem_name (field : Field) : Char.toLower '\r' ∉ field.name := by
  cases field <;> decide

lemma Argument.ofText?_of_token {s token : Text}
    (h : Text.dropEndWhile (fun c => c = '\r') s = '-' :: token) :
    ofText? s =
      match Text.cutAtChar? ':' token with
      | some (name, text) => (Field.ofName? name).map fun field => .value field text
      | none => ((Field.ofName? token).filter Field.isFlag).map .flag := by
  unfold ofText?
  rw [h]
  rfl

lemma Argument.ofText?_of_value {field : Field} {name value returns : Text}
    (named : Text.toLower name = field.name) (ended : value.getLast? ≠ some '\r')
    (ending : ∀ c ∈ returns, c = '\r') :
    ofText? ('-' :: name ++ ':' :: value ++ returns) = some (.value field value) := by
  have hlast : ∀ c, ('-' :: (name ++ ':' :: value)).getLast? = some c →
      decide (c = '\r') = false := by
    intro c hc
    rw [← List.cons_append, List.getLast?_append_cons] at hc
    refine decide_eq_false fun hreturn => ?_
    subst hreturn
    cases value with
    | nil => simp at hc
    | cons first value => exact ended (by rwa [List.getLast?_cons_cons] at hc)
  have hkept : Text.dropEndWhile (fun c => c = '\r') ('-' :: name ++ ':' :: value ++ returns) =
      '-' :: (name ++ ':' :: value) := by
    rw [Text.dropEndWhile_append (by simpa using ending), List.cons_append,
      Text.dropEndWhile_eq_self hlast]
  have hcolon : ':' ∉ name := Field.notMem_of_toLower_eq named field.colon_notMem_name
  rw [ofText?_of_token hkept, Text.cutAtChar?_append hcolon]
  simp [Field.ofName?_eq_some_iff.2 named]

lemma Argument.ofText?_of_flag {field : Field} {name returns : Text} (flag : field.isFlag = true)
    (named : Text.toLower name = field.name) (ending : ∀ c ∈ returns, c = '\r') :
    ofText? ('-' :: name ++ returns) = some (.flag field) := by
  have hreturn : '\r' ∉ name := Field.notMem_of_toLower_eq named field.carriageReturn_notMem_name
  have hlast : ∀ c, ('-' :: name).getLast? = some c → decide (c = '\r') = false := by
    intro c hc
    refine decide_eq_false fun hc' => ?_
    subst hc'
    exact hreturn (by simpa using List.mem_of_getLast? hc)
  have hkept : Text.dropEndWhile (fun c => c = '\r') ('-' :: name ++ returns) = '-' :: name := by
    rw [Text.dropEndWhile_append (by simpa using ending), Text.dropEndWhile_eq_self hlast]
  have hcolon : ':' ∉ name := Field.notMem_of_toLower_eq named field.colon_notMem_name
  rw [ofText?_of_token hkept, Text.cutAtChar?_eq_none hcolon]
  simp [Field.ofName?_eq_some_iff.2 named, flag]

/-- An argument is read from a text only if the text addresses its field, and a flag only from the
name of a flag. -/
lemma Argument.addressed_of_ofText? {s : Text} {argument : Argument}
    (h : ofText? s = some argument) :
    argument.field.Addressed s argument.given ∧
      ∀ field, argument = .flag field → field.isFlag = true := by
  obtain ⟨returns, hs, hreturns⟩ :=
    Text.exists_eq_dropEndWhile_append (fun c => decide (c = '\r')) s
  have hlast : ∀ c, (Text.dropEndWhile (fun c => decide (c = '\r')) s).getLast? = some c →
      decide (c = '\r') = false := fun _ => Text.getLast?_dropEndWhile
  have hending : ∀ c ∈ returns, c = '\r' := fun c hc => by simpa using hreturns c hc
  unfold ofText? at h
  split at h
  · next token hkept =>
    rw [hkept] at hs hlast
    split at h
    · next name value hcut =>
      obtain ⟨field, hfield, rfl⟩ := Option.map_eq_some_iff.1 h
      obtain ⟨rfl, -⟩ := Text.append_of_cutAtChar? hcut
      have hended : value.getLast? ≠ some '\r' := by
        intro hvalue
        have hreturn := hlast '\r' (by simp [List.getLast?_cons, hvalue])
        exact absurd hreturn (by decide)
      refine ⟨?_, fun other hother => absurd hother (by simp)⟩
      rw [hs]
      exact .value (Field.ofName?_eq_some_iff.1 hfield) hended hending
    · next hcut =>
      obtain ⟨field, hfield, rfl⟩ := Option.map_eq_some_iff.1 h
      obtain ⟨hname, hflag⟩ := Option.filter_eq_some_iff.1 hfield
      refine ⟨?_, fun other hother => ?_⟩
      · rw [hs]
        exact .flag hflag (Field.ofName?_eq_some_iff.1 hname) hending
      · obtain rfl := Argument.flag.inj hother
        exact hflag
  · exact absurd h (by simp)

lemma Field.value?_eq_some_iff {field : Field} {s value : Text} :
    field.value? s = some value ↔ field.Addressed s value := by
  constructor
  · intro h
    obtain ⟨argument, hargument, rfl⟩ := Option.map_eq_some_iff.1 h
    obtain ⟨hread, hfield⟩ := Option.filter_eq_some_iff.1 hargument
    obtain rfl := of_decide_eq_true hfield
    exact (Argument.addressed_of_ofText? hread).1
  · intro h
    cases h with
    | value named ended ending =>
      rw [value?, Argument.ofText?_of_value named ended ending]
      simp [Argument.field, Argument.given]
    | flag flag named ending =>
      rw [value?, Argument.ofText?_of_flag flag named ending]
      simp [Argument.field, Argument.given]

/-! ### Lists of arguments -/

lemma raise_eq_assign {field : Field} (h : field.isFlag = true) (request : Request) :
    request.raise field = request.assign [] field := by
  cases field <;> trivial

lemma apply_of_ofText? {s : Text} {argument : Argument} (h : Argument.ofText? s = some argument)
    (request : Request) :
    request.apply argument = request.assign argument.given argument.field := by
  cases argument with
  | value field text => rfl
  | flag field => exact raise_eq_assign ((Argument.addressed_of_ofText? h).2 field rfl) request

lemma ofArguments_append (arguments : List Text) (s : Text) :
    ofArguments (arguments ++ [s]) =
      match Argument.ofText? s with
      | some argument => (ofArguments arguments).assign argument.given argument.field
      | none => ofArguments arguments := by
  rw [ofArguments, List.filterMap_append, List.foldl_append, ← ofArguments]
  cases h : Argument.ofText? s with
  | none => simp [h]
  | some argument => simp [h, apply_of_ofText? h]

/-- Each field holds what the last argument for it says. -/
lemma get_ofArguments (arguments : List Text) (field : Field) :
    (ofArguments arguments).get field =
      ((arguments.filterMap field.value?).getLast?.map field.read).getD (default.get field) := by
  induction arguments using List.reverseRecOn with
  | nil => rfl
  | append_singleton arguments s ih =>
    rw [ofArguments_append, List.filterMap_append]
    cases h : Argument.ofText? s with
    | none => simp [Field.value?, h, ih]
    | some argument =>
      by_cases hfield : argument.field = field
      · subst hfield
        simp [Field.value?, h, get_assign_self]
      · simp [Field.value?, h, hfield, get_assign_of_ne hfield, ih]

/-- How a line ends makes no difference to the argument on it. -/
lemma ofText?_dropLineBreak (line : Text) :
    Argument.ofText? (Text.dropLineBreak (line ++ ['\n'])) = Argument.ofText? line := by
  obtain hline | hline := Text.dropLineBreak_append line
  · rw [hline]
  · have hreturn : Text.dropEndWhile (fun c => c = '\r') line =
        Text.dropEndWhile (fun c => c = '\r') (Text.dropLineBreak (line ++ ['\n'])) := by
      rw [hline, Text.dropEndWhile_append (by simp), ← hline]
    unfold Argument.ofText?
    rw [hreturn]

lemma filterMap_lines (payload : Text) :
    (Text.lines payload).filterMap Argument.ofText? =
      (payload.splitOn '\n').filterMap Argument.ofText? := by
  -- A line takes many characters off the payload at once, so the induction is on its length.
  induction hlength : payload.length using Nat.strong_induction_on generalizing payload with
  | _ length ih =>
    by_cases hmem : '\n' ∈ payload
    · obtain ⟨line, rest, rfl, hline⟩ := List.eq_append_cons_of_mem hmem
      have hrest := ih rest.length (by simp at hlength; omega) rest rfl
      rw [Text.lines] at hrest
      rw [Text.lines, Text.linesInclusive_append hline,
        List.splitOn_append_cons_self_of_not_mem hline, List.map_cons, List.filterMap_cons,
        List.filterMap_cons, ofText?_dropLineBreak, hrest]
    · rw [List.splitOn_eq_singleton hmem]
      by_cases hempty : payload = []
      · subst hempty
        rfl
      · rw [Text.lines, Text.linesInclusive_of_notMem hmem hempty, List.map_singleton,
          Text.dropLineBreak_eq_self hmem]

/-- The pieces between the line feeds of a payload are its arguments. -/
lemma parse_eq_ofArguments_splitOn (payload : Text) :
    parse payload = ofArguments (payload.splitOn '\n') := by
  rw [parse, ofArguments, filterMap_lines, ofArguments]

/-- Each field is decoded from the last argument that addresses it, and has its default if there is
none. So a request rests, field by field, on what its arguments say about that field, in order; and
a payload is the list of its lines. -/
theorem get_ofArguments_eq_last :
    (∀ (field : Field) (s value : Text), field.value? s = some value ↔ field.Addressed s value) ∧
    (∀ (arguments : List Text) (field : Field),
      match (arguments.filterMap field.value?).getLast? with
      | some value => ∀ x, (ofArguments arguments).get field = x ↔ field.Takes value x
      | none => (ofArguments arguments).get field = default.get field) ∧
    (∀ arguments arguments' : List Text,
      (∀ field : Field, arguments.filterMap field.value? = arguments'.filterMap field.value?) →
        ofArguments arguments = ofArguments arguments') ∧
    ∀ payload : Text, parse payload = ofArguments (Text.lines payload) ∧
      parse payload = ofArguments (payload.splitOn '\n') := by
  refine ⟨fun _ _ _ => Field.value?_eq_some_iff, fun arguments field => ?_,
    fun arguments arguments' hsame => ext_get fun field => ?_,
    fun payload => ⟨rfl, parse_eq_ofArguments_splitOn payload⟩⟩
  · have hget := get_ofArguments arguments field
    split
    · next value hvalue =>
      intro x
      rw [hget, hvalue, Field.takes_iff]
      rfl
    · next hnone =>
      rw [hget, hnone]
      rfl
  · rw [get_ofArguments, get_ofArguments, hsame field]

/-- Arguments in any order and case, with texts among them that address nothing. -/
def mixedArguments : List Text :=
  ["-PORT:1".toList, "listen".toList, "-Listen\r".toList, "-port: +2 \r\r".toList,
    "-port".toList, "-script:C:\\a.cs".toList]

def tidyArguments : List Text :=
  ["-script:C:\\a.cs".toList, "-port:1".toList, "-port: +2 ".toList, "-listen:".toList]

theorem get_ofArguments_eq_last_mixed :
    (∀ field : Field, mixedArguments.filterMap field.value? =
        tidyArguments.filterMap field.value?) ∧
      ofArguments mixedArguments = ofArguments tidyArguments ∧
      (ofArguments mixedArguments).get .port = (2 : UInt16) := by
  have hsame : ∀ field : Field,
      mixedArguments.filterMap field.value? = tidyArguments.filterMap field.value? := by
    intro field
    cases field <;> decide
  exact ⟨hsame, get_ofArguments_eq_last.2.2.1 _ _ hsame, by decide⟩

end ScriptAssist.Request
