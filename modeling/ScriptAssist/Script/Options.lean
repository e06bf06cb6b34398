import ScriptAssist.Text.Blank

/-!
# Options

Whether a script is to be wrapped into a class is an option of the toolchain. The toolchain's
configuration has a default, and the lines of a script that give options override it.
-/

namespace ScriptAssist.Options

/-- What an option of a script says about wrapping, if it is about that. -/
def setting? (option : Text) : Option Bool :=
  let name := Text.toLower (option.dropWhile fun c => c = '/' || c = '-')
  if name = "ac".toList || name = "ac:1".toList || name = "autoclass".toList
      || name = "autoclass:1".toList then some true
  else if name = "ac:0".toList || name = "autoclass:0".toList then some false
  else none

/-- Whether `c` is a space or a tab. -/
def isGap (c : Char) : Bool :=
  c = ' ' || c = '\t'

/-- What stands on a line of options behind the name of the directive. -/
def argumentsOf? (line : Text) : Option Text :=
  match Text.after? "//css_args".toList (line.dropWhile isGap) with
  | some (c :: rest) => if isGap c then some (rest.dropWhile isGap) else none
  | _ => none

/-- The options on a line, if it is one of options. -/
def ofLine (line : Text) : List Text :=
  match argumentsOf? line with
  | some arguments => arguments.splitOnP fun c => c = ',' || c = ';' || Text.isBlank c
  | none => []

/-- What the script says about wrapping, in order. -/
def settings (s : Text) : List Bool :=
  (s.splitOn '\n').flatMap fun line => (ofLine line).filterMap setting?

/-- Whether the script is to be wrapped: what it says last, or else the default. -/
def wantsClass (s : Text) (default : Bool) : Bool :=
  (settings s).foldl (fun _ setting => setting) default

/-- The words of a configuration that turn wrapping on. -/
def enablingWords : List Text :=
  ["-ac".toList, "-autoclass".toList, "-ac:1".toList, "-autoclass:1".toList]

/-- The default arguments in the text of a configuration. -/
def defaultArguments? (config : Text) : Option Text := do
  let (_, rest) ← Text.cutAt? "<defaultArguments>".toList config
  let (arguments, _) ← Text.cutAt? "</defaultArguments>".toList rest
  some arguments

/-- Whether a configuration turns wrapping on for every script. -/
def enabledBy (config : Text) : Bool :=
  match defaultArguments? config with
  | some arguments => (Text.words arguments).any fun word => enablingWords.contains word
  | none => false

end ScriptAssist.Options
