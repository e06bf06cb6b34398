import ScriptAssist.Machine.Basic

/-!
# Engines

An engine answers queries. What it answers may depend on everything it can see of the machine,
also on what it was asked before.
-/

namespace ScriptAssist

/-- Something that answers queries. -/
abbrev Engine := Machine → (query : Query) → Except Failure query.Answer

end ScriptAssist
