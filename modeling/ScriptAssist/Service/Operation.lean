import ScriptAssist.Service.Request

/-!
# Operations

What a request asks about its script. Some operations take an argument behind a colon; of an
argument with colons of its own only the last part counts.
-/

namespace ScriptAssist

/-- An operation on a script. -/
inductive Operation where
  | references
  | suggestUsings (word : Text)
  | resolve
  | completion
  | tooltip (hint : Text)
  | memberInfo (hint : Option Text)
  | project
  | codeMap
  | codeMapTree
  | format
  deriving DecidableEq, Repr

namespace Operation

/-- The operation of this name, which was given without an argument. -/
def ofName? (name : Text) : Option Operation :=
  if name = "references".toList then some .references
  else if name = "resolve".toList then some .resolve
  else if name = "completion".toList then some .completion
  else if name = "project".toList then some .project
  else if name = "codemap".toList then some .codeMap
  else if name = "codemap_vscode".toList then some .codeMapTree
  else if name = "format".toList then some .format
  else if name = "memberinfo".toList then some (.memberInfo none)
  else none

/-- The operation of this name with an argument. -/
def ofCall? (name argument : Text) : Option Operation :=
  if name = "suggest_usings".toList then some (.suggestUsings argument)
  else if name = "tooltip".toList then some (.tooltip argument)
  else if name = "memberinfo".toList then some (.memberInfo (some argument))
  else none

/-- The operation a text names. -/
def parse? (s : Text) : Option Operation :=
  let s := Text.trim s
  match Text.cutAtChar? ':' s with
  | none => ofName? s
  | some (name, _) => ofCall? name (Text.tailAfter (fun c => c = ':') s)

/-- The name of an operation. -/
def name : Operation → Text
  | .references => "references".toList
  | .suggestUsings _ => "suggest_usings".toList
  | .resolve => "resolve".toList
  | .completion => "completion".toList
  | .tooltip _ => "tooltip".toList
  | .memberInfo _ => "memberinfo".toList
  | .project => "project".toList
  | .codeMap => "codemap".toList
  | .codeMapTree => "codemap_vscode".toList
  | .format => "format".toList

/-- The argument of an operation that has one. -/
def argument? : Operation → Option Text
  | .suggestUsings word => some word
  | .tooltip hint => some hint
  | .memberInfo hint => hint
  | _ => none

end Operation

/-- The operation a request asks for. -/
def Request.operation? (request : Request) : Option Operation :=
  request.operation.bind Operation.parse?

end ScriptAssist
