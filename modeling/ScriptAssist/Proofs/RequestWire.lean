import ScriptAssist.Proofs.RequestFields

/-!
# Requests as payloads

The payload for a request has a line for each field that a client sends. It is read back as that
request, up to the three fields that concern the server alone, as long as every text fits on a line
and says what it says there. A request that comes from a payload is always like that.
-/

namespace ScriptAssist.Request

/-- The texts in a request. -/
def texts (request : Request) : List Text :=
  [request.operation, request.script, request.rawFile, request.toolchain, request.start,
    request.processName].filterMap id

/-- No text of the request breaks its line or ends in a return, an empty name stands for no name and
zero for no process. -/
structure IsSendable (request : Request) : Prop where
  oneLine : ∀ text ∈ request.texts, '\n' ∉ text
  ended : ∀ text ∈ request.texts, text.getLast? ≠ some '\r'
  processName : request.processName ≠ some []
  client : request.client ≠ some 0
  process : request.process ≠ some 0

/-- The part of the request that a payload carries. -/
def carried (request : Request) : Request :=
  { request with
    listen := default.listen
    port := default.port
    timeout := default.timeout }

/-! ### What is sent -/

/-- The value that the payload for a request gives to a field. -/
def sent (request : Request) : Field → Option Text
  | .script => request.script
  | .rawFile => request.rawFile
  | .operation => request.operation
  | .caret => some (Text.ofNat request.caret.toNat)
  | .listen | .port | .timeout => none
  | .client => request.client.map fun pid => Text.ofNat pid.toNat
  | .exit => if request.exit then some [] else none
  | .toolchain => request.toolchain
  | .kill => if request.kill then some [] else none
  | .process => request.process.map fun pid => Text.ofNat pid.toNat
  | .processName => request.processName
  | .start => request.start
  | .rich => if request.rich then some [] else none
  | .shortTooltips => if request.shortTooltips then some ['1'] else none

/-- The line for a field: for a flag its name alone. -/
def Field.line (field : Field) (value : Text) : Text :=
  if field.isFlag then flagLine field else valueLine field value

/-- The fields of a payload in their order. -/
def wireOrder : List Field :=
  [.operation, .script, .rawFile, .caret, .client, .toolchain, .start, .kill, .process,
    .processName, .rich, .shortTooltips, .exit]

lemma wireLines_eq (request : Request) :
    request.wireLines =
      wireOrder.flatMap fun field => ((request.sent field).map field.line).toList := by
  have hmap : ∀ (ids : Option UInt32) (line : Text → Text),
      (ids.map fun pid => Text.ofNat pid.toNat).map line =
        ids.map fun pid => line (Text.ofNat pid.toNat) := fun ids line => Option.map_map ..
  have hflag : ∀ (on : Bool) (value : Text) (line : Text → Text),
      ((if on then some value else none).map line).toList = if on then [line value] else [] := by
    intro on value line
    cases on <;> rfl
  simp only [wireOrder, List.flatMap_cons, List.flatMap_nil, sent, hmap, hflag, List.append_nil]
  simp only [wireLines, List.append_assoc]
  rfl

lemma wireLines_ne_nil (request : Request) : request.wireLines ≠ [] := by
  rw [wireLines_eq]
  intro hnil
  have hcaret := List.flatMap_eq_nil_iff.1 hnil .caret (by decide)
  exact absurd hcaret (by simp [sent])

lemma Field.toLower_name (field : Field) : Text.toLower field.name = field.name := by
  cases field <;> decide

lemma Field.lineFeed_notMem_name (field : Field) : '\n' ∉ field.name := by
  cases field <;> decide

/-- A line addresses its own field and gives it the value, if that has no return at its end. -/
lemma value?_line {field other : Field} {value : Text} (ended : value.getLast? ≠ some '\r')
    (flag : field.isFlag = true → value = []) :
    other.value? (field.line value) = if field = other then some value else none := by
  have hargument : ∃ argument, Argument.ofText? (field.line value) = some argument ∧
      argument.field = field ∧ argument.given = value := by
    unfold Field.line
    split
    · next hflag =>
      have hread : Argument.ofText? ('-' :: field.name ++ []) = some (.flag field) :=
        Argument.ofText?_of_flag hflag field.toLower_name (by simp)
      rw [List.append_nil] at hread
      exact ⟨.flag field, hread, rfl, (flag hflag).symm⟩
    · have hread : Argument.ofText? ('-' :: field.name ++ ':' :: value ++ []) =
          some (.value field value) :=
        Argument.ofText?_of_value field.toLower_name ended (by simp)
      rw [List.append_nil] at hread
      exact ⟨.value field value, hread, rfl, rfl⟩
  obtain ⟨argument, hread, hfield, hgiven⟩ := hargument
  rw [Field.value?, hread, Option.filter_some, hfield]
  by_cases hother : field = other
  · simp [hother, hgiven]
  · simp [hother]

section Sent

variable {request : Request} {field : Field} {value : Text}

lemma eq_nil_of_sent (h : request.sent field = some value) (hflag : field.isFlag = true) :
    value = [] := by
  cases field with
  | exit | kill | rich =>
    obtain ⟨-, hvalue⟩ := Option.ite_none_right_eq_some.1 h
    exact (Option.some.inj hvalue).symm
  | listen => exact absurd h (by simp [sent])
  | _ => exact absurd hflag (by decide)

/-- What is sent is a text of the request, a numeral, nothing or a one. -/
lemma sent_cases (h : request.sent field = some value) :
    value ∈ request.texts ∨ ∀ c ∈ value, c.isDigit = true := by
  have htext : ∀ {held : Option Text}, held = some value →
      held ∈ [request.operation, request.script, request.rawFile, request.toolchain, request.start,
        request.processName] → value ∈ request.texts := by
    rintro held rfl hmem
    exact List.mem_filterMap.2 ⟨some value, hmem, rfl⟩
  have hnumeral : ∀ {ids : Option UInt32},
      (ids.map fun pid => Text.ofNat pid.toNat) = some value → ∀ c ∈ value, c.isDigit = true := by
    intro ids hids
    obtain ⟨pid, -, rfl⟩ := Option.map_eq_some_iff.1 hids
    exact fun c => Text.isDigit_of_mem_ofNat
  cases field with
  | script | rawFile | operation | toolchain | processName | start =>
    exact .inl (htext h (by simp [sent]))
  | caret =>
    obtain rfl := Option.some.inj h
    exact .inr fun c => Text.isDigit_of_mem_ofNat
  | client | process => exact .inr (hnumeral h)
  | exit | kill | rich =>
    obtain rfl := eq_nil_of_sent h rfl
    exact .inr (by simp)
  | shortTooltips =>
    obtain ⟨-, hone⟩ := Option.ite_none_right_eq_some.1 h
    obtain rfl := Option.some.inj hone
    refine .inr fun c hc => ?_
    rw [List.mem_singleton.1 hc]
    rfl
  | listen | port | timeout => exact absurd h (by simp [sent])

lemma lineFeed_notMem_sent (hrequest : request.IsSendable) (h : request.sent field = some value) :
    '\n' ∉ value := by
  obtain htext | hdigits := sent_cases h
  · exact hrequest.oneLine value htext
  · exact fun hmem => absurd (hdigits '\n' hmem) (by decide)

lemma getLast?_sent (hrequest : request.IsSendable) (h : request.sent field = some value) :
    value.getLast? ≠ some '\r' := by
  obtain htext | hdigits := sent_cases h
  · exact hrequest.ended value htext
  · exact fun hlast => absurd (hdigits '\r' (List.mem_of_getLast? hlast)) (by decide)

end Sent

/-! ### What is read back -/

lemma filterMap_wireLines {request : Request} (hrequest : request.IsSendable) (field : Field) :
    request.wireLines.filterMap field.value? = (request.sent field).toList := by
  have hline : ∀ other : Field,
      (((request.sent other).map other.line).toList).filterMap field.value? =
        if other = field then (request.sent field).toList else [] := by
    intro other
    cases hsent : request.sent other with
    | none =>
      split
      · next hother =>
        rw [← hother, hsent]
        rfl
      · rfl
    | some value =>
      have hvalue : field.value? (other.line value) = if other = field then some value else none :=
        value?_line (getLast?_sent hrequest hsent) (eq_nil_of_sent hsent)
      rw [Option.map_some, Option.toList_some, List.filterMap_cons, hvalue]
      by_cases hother : other = field
      · rw [if_pos hother, if_pos hother, ← hother, hsent]
        rfl
      · rw [if_neg hother, if_neg hother]
        rfl
  rw [wireLines_eq, List.filterMap_flatMap]
  simp only [hline]
  -- A field has at most one place in the order, and nothing is sent for those that have none.
  cases field <;> simp [wireOrder, sent]

lemma isNumeral_trim_ofNat (n : Nat) : Text.IsNumeral n (Text.trim (Text.ofNat n)) := by
  have hread : Text.toNat? (n + 1) (Text.ofNat n) = some n := Text.toNat?_ofNat n.lt_succ_self
  have htrim : Text.trim ([] ++ (Text.ofNat n ++ [])) = Text.ofNat n :=
    Text.trim_ofNat (by simp) (by simp) n
  rw [List.nil_append, List.append_nil] at htrim
  rw [htrim]
  exact (Text.toNat?_eq_some_iff.1 hread).2

lemma read_caret_ofNat (caret : UInt64) :
    Field.caret.read (Text.ofNat caret.toNat) = caret :=
  Field.takes_iff.1 (.inl ⟨caret.toNat_lt, isNumeral_trim_ofNat caret.toNat⟩)

lemma process?_ofNat {pid : UInt32} (hpid : pid ≠ 0) :
    process? (Text.ofNat pid.toNat) = some pid :=
  process?_eq_some_iff.2 ⟨hpid, isNumeral_trim_ofNat pid.toNat⟩

/-- What is sent for a field is read back. -/
lemma read_sent {request : Request} (hrequest : request.IsSendable) (field : Field) :
    ((request.sent field).map field.read).getD (default.get field) = request.carried.get field := by
  have htext : ∀ held : Option Text, (held.map some).getD none = held := by
    intro held
    cases held <;> rfl
  have hswitch : ∀ (on : Bool) (value : Text) (read : Text → Bool), read value = true →
      ((if on then some value else none).map read).getD false = on := by
    intro on value read hread
    cases on
    · rfl
    · exact hread
  have hprocess : ∀ held : Option UInt32, held ≠ some 0 →
      ((held.map fun pid => Text.ofNat pid.toNat).map process?).getD none = held := by
    intro held hheld
    cases held with
    | none => rfl
    | some pid => exact process?_ofNat fun hpid => hheld (congrArg some hpid)
  cases field with
  | script => exact htext request.script
  | rawFile => exact htext request.rawFile
  | operation => exact htext request.operation
  | toolchain => exact htext request.toolchain
  | start => exact htext request.start
  | caret => exact read_caret_ofNat request.caret
  | listen | port | timeout => rfl
  | client => exact hprocess request.client hrequest.client
  | process => exact hprocess request.process hrequest.process
  | processName =>
    have hname := hrequest.processName
    show (request.processName.map Field.processName.read).getD none = request.processName
    cases hheld : request.processName with
    | none => rfl
    | some name =>
      cases name with
      | nil => exact absurd hheld hname
      | cons c name => rfl
  | exit => exact hswitch request.exit [] isOn rfl
  | kill => exact hswitch request.kill [] isOn rfl
  | rich => exact hswitch request.rich [] isOn rfl
  | shortTooltips =>
    exact hswitch request.shortTooltips ['1'] (fun value => Text.trim value = ['1']) rfl

lemma lineFeed_notMem_wireLines {request : Request} (hrequest : request.IsSendable) :
    ∀ line ∈ request.wireLines, '\n' ∉ line := by
  intro line hline
  rw [wireLines_eq] at hline
  obtain ⟨field, -, hfield⟩ := List.mem_flatMap.1 hline
  obtain ⟨value, hsent, rfl⟩ := Option.map_eq_some_iff.1 (Option.mem_toList.1 hfield)
  have hname : '\n' ∉ field.name := field.lineFeed_notMem_name
  have hvalue : '\n' ∉ value := lineFeed_notMem_sent hrequest hsent
  unfold Field.line flagLine valueLine
  split
  · simp [hname]
  · simp [hname, hvalue]

lemma parse_toWire {request : Request} (hrequest : request.IsSendable) :
    parse request.toWire = request.carried := by
  have hlines : request.toWire.splitOn '\n' = request.wireLines :=
    Text.splitOn_joinLines (lineFeed_notMem_wireLines hrequest) request.wireLines_ne_nil
  refine ext_get fun field => ?_
  rw [parse_eq_ofArguments_splitOn, hlines, get_ofArguments, filterMap_wireLines hrequest,
    ← read_sent hrequest field]
  cases request.sent field <;> rfl

/-! ### What payloads give -/

/-- A field that has not its default was addressed, and holds what it was given last. -/
lemma exists_addressed_of_get_ne {arguments : List Text} {field : Field}
    (h : (ofArguments arguments).get field ≠ default.get field) :
    ∃ s ∈ arguments, ∃ value, field.Addressed s value ∧
      (ofArguments arguments).get field = field.read value := by
  rw [get_ofArguments] at h ⊢
  cases hlast : (arguments.filterMap field.value?).getLast? with
  | none => exact absurd (by rw [hlast]; rfl) h
  | some value =>
    obtain ⟨s, hs, hvalue⟩ := List.mem_filterMap.1 (List.mem_of_getLast? hlast)
    exact ⟨s, hs, value, Field.value?_eq_some_iff.1 hvalue, rfl⟩

lemma Field.Addressed.getLast? {field : Field} {s value : Text} (h : field.Addressed s value) :
    value.getLast? ≠ some '\r' := by
  cases h with
  | value named ended ending => exact ended
  | flag flag named ending => simp

lemma Field.Addressed.subset {field : Field} {s value : Text} (h : field.Addressed s value) :
    value ⊆ s := by
  intro c hc
  cases h with
  | value named ended ending => simp [hc]
  | flag flag named ending => exact absurd hc (by simp)

lemma eq_of_read_processName {value name : Text}
    (h : Field.processName.read value = some name) : value = name ∧ name ≠ [] := by
  cases value with
  | nil => exact absurd h (by simp [Field.read, assign, get])
  | cons c value =>
    obtain rfl := Option.some.inj h
    exact ⟨rfl, List.cons_ne_nil c value⟩

/-- Every text of a request was given by an argument. -/
lemma exists_addressed_of_mem_texts {arguments : List Text} {text : Text}
    (h : text ∈ (ofArguments arguments).texts) :
    ∃ s ∈ arguments, ∃ field : Field, field.Addressed s text := by
  have hfield : ∀ (field : Field) {held : field.Value},
      (ofArguments arguments).get field = held → held ≠ default.get field →
      (∀ value, field.read value = held → value = text) →
      ∃ s ∈ arguments, ∃ field : Field, field.Addressed s text := by
    rintro field held rfl hne hread
    obtain ⟨s, hs, value, haddressed, hget⟩ := exists_addressed_of_get_ne hne
    obtain rfl := hread value hget.symm
    exact ⟨s, hs, field, haddressed⟩
  have hgiven : some text ≠ none := Option.some_ne_none text
  obtain ⟨held, hmem, rfl⟩ := List.mem_filterMap.1 h
  simp only [List.mem_cons, List.not_mem_nil, or_false] at hmem
  obtain h | h | h | h | h | h := hmem
  · exact hfield .operation h.symm hgiven fun _ => Option.some.inj
  · exact hfield .script h.symm hgiven fun _ => Option.some.inj
  · exact hfield .rawFile h.symm hgiven fun _ => Option.some.inj
  · exact hfield .toolchain h.symm hgiven fun _ => Option.some.inj
  · exact hfield .start h.symm hgiven fun _ => Option.some.inj
  · exact hfield .processName h.symm hgiven fun _ hread => (eq_of_read_processName hread).1

lemma isSendable_parse (payload : Text) : (parse payload).IsSendable := by
  rw [parse_eq_ofArguments_splitOn]
  have hread : ∀ (field : Field) (held : field.Value),
      (ofArguments (payload.splitOn '\n')).get field = held → held ≠ default.get field →
      ∃ value, field.read value = held := by
    rintro field held rfl hne
    obtain ⟨-, -, value, -, hget⟩ := exists_addressed_of_get_ne hne
    exact ⟨value, hget.symm⟩
  refine ⟨fun text htext => ?_, fun text htext => ?_, fun hname => ?_, fun hclient => ?_,
    fun hpid => ?_⟩
  · obtain ⟨s, hs, field, haddressed⟩ := exists_addressed_of_mem_texts htext
    exact fun hmem => Text.not_mem_of_mem_splitOn hs (haddressed.subset hmem)
  · obtain ⟨s, -, field, haddressed⟩ := exists_addressed_of_mem_texts htext
    exact haddressed.getLast?
  · obtain ⟨value, hvalue⟩ := hread .processName _ hname (Option.some_ne_none [])
    exact (eq_of_read_processName hvalue).2 rfl
  · obtain ⟨value, hvalue⟩ := hread .client _ hclient (Option.some_ne_none 0)
    exact (process?_eq_some_iff.1 hvalue).1 rfl
  · obtain ⟨value, hvalue⟩ := hread .process _ hpid (Option.some_ne_none 0)
    exact (process?_eq_some_iff.1 hvalue).1 rfl

/-- The payload for a request that can be sent is read back as what it carries of the request. Every
request read from a payload can be sent, so sending it on changes nothing that a payload carries. -/
theorem parse_toWire_eq_carried :
    (∀ request : Request, request.IsSendable → parse request.toWire = request.carried) ∧
    (∀ payload : Text, (parse payload).IsSendable) ∧
    ∀ payload : Text, parse (parse payload).toWire = (parse payload).carried :=
  ⟨fun _ => parse_toWire, isSendable_parse, fun payload => parse_toWire (isSendable_parse payload)⟩

/-- A request whose texts look like other arguments. -/
def trickyRequest : Request :=
  { default with
    script := some "-pos:7".toList
    rawFile := some "".toList
    operation := some "a\r: b".toList
    listen := true
    port := 1
    client := some 42
    processName := some " ".toList
    start := some "-exit".toList
    rich := true }

theorem parse_toWire_trickyRequest :
    trickyRequest.IsSendable ∧
      parse trickyRequest.toWire = { trickyRequest with listen := false, port := defaultPort } := by
  have hsendable : trickyRequest.IsSendable := by
    refine ⟨?_, ?_, ?_, ?_, ?_⟩ <;> decide
  exact ⟨hsendable, parse_toWire_eq_carried.1 trickyRequest hsendable⟩

end ScriptAssist.Request
