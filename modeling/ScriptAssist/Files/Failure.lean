import ScriptAssist.Files.Path
import ScriptAssist.Text.Numeral

/-!
# Failures

What can go wrong, as causes, with the wording in one place. A failure may have another one as its
cause; its text is the chain of all of them, outermost first.
-/

namespace ScriptAssist

/-- A refusal of the operating system. -/
inductive SystemError where
  | notFound
  | permissionDenied
  | alreadyExists
  | notADirectory
  | isADirectory
  | nameTooLong
  | argumentsTooLong
  | nulInPath
  | nulInArgument
  deriving DecidableEq, Repr

/-- The wording of a refusal, with its number where it has one. -/
def SystemError.message : SystemError → Text
  | .notFound => "No such file or directory (os error 2)".toList
  | .permissionDenied => "Permission denied (os error 13)".toList
  | .alreadyExists => "File exists (os error 17)".toList
  | .notADirectory => "Not a directory (os error 20)".toList
  | .isADirectory => "Is a directory (os error 21)".toList
  | .argumentsTooLong => "Argument list too long (os error 7)".toList
  | .nameTooLong => "File name too long (os error 36)".toList
  | .nulInPath => "file name contained an unexpected NUL byte".toList
  | .nulInArgument => "nul byte found in provided data".toList

/-- Why a request, or a step of one, failed. -/
inductive Failure where
  /-- The file a request names is not there. -/
  | fileNotFound (path : Text)
  /-- The script to analyse is empty. -/
  | emptySource
  /-- A program to start was given with more than one list of arguments. -/
  | invalidPopen
  /-- The arguments of a program to start have a quote that is not closed. -/
  | unclosedQuote (args : Text)
  | toolchainUnavailable (location : Path)
  | engineUnavailable (path : Path)
  | cannotRead (path : Path) (cause : SystemError)
  | cannotReadProjectFile (path : Path) (cause : SystemError)
  | cannotCreateScript (cause : SystemError)
  | cannotWrite (path : Path) (cause : SystemError)
  | cannotStart (program : Text) (cause : SystemError)
  | cannotRun (path : Path) (cause : SystemError)
  /-- A program ended with a status other than zero. -/
  | exited (path : Path) (status : Nat) (complaint : Text)
  | system (cause : SystemError)
  /-- The engine's connection ended before the answer came. -/
  | connectionLost
  /-- The engine's connection no longer takes queries. -/
  | connectionClosed
  /-- The engine's answer has another form than the query asks for. -/
  | unexpectedReply (method : Text)
  /-- A collaborator's own report: its message and those of its causes. -/
  | reported (outermost : Text) (causes : List Text)
  deriving DecidableEq, Repr

namespace Failure

/-- The messages of a failure and of its causes, outermost first. -/
def chain : Failure → List Text
  | .fileNotFound path => ["File '".toList ++ path ++ "' doesn't exist".toList]
  | .emptySource => ["The file containing code is empty".toList]
  | .invalidPopen => ["Invalid 'popen' arguments. Must be <exe>[|<args>]".toList]
  | .unclosedQuote args =>
    ["Invalid 'popen' arguments: ".toList ++ args, "missing closing quote".toList]
  | .toolchainUnavailable location => ["Cannot load script toolchain from ".toList ++ location.text]
  | .engineUnavailable path => ["Cannot start analysis engine ".toList ++ path.text]
  | .cannotRead path cause => ["Cannot read ".toList ++ path.text, cause.message]
  | .cannotReadProjectFile path cause =>
    ["Cannot read project file ".toList ++ path.text, cause.message]
  | .cannotCreateScript cause => ["Cannot create temporary script".toList, cause.message]
  | .cannotWrite path cause => ["Cannot write ".toList ++ path.text, cause.message]
  | .cannotStart program cause => ["Failed to start '".toList ++ program ++ ['\''], cause.message]
  | .cannotRun path cause => ["Failed to run ".toList ++ path.text, cause.message]
  | .exited path status complaint =>
    [path.text ++ " exited with exit status: ".toList ++ Text.ofNat status ++ ": ".toList
      ++ complaint]
  | .system cause => [cause.message]
  | .connectionLost => ["Analysis engine connection lost".toList]
  | .connectionClosed => ["Analysis engine sender closed".toList]
  | .unexpectedReply method =>
    ["Unexpected '".toList ++ method ++ "' response from analysis engine".toList]
  | .reported outermost causes => outermost :: causes

/-- The message of the failure itself. -/
def outermost (failure : Failure) : Text :=
  failure.chain.headD []

/-- The messages of the failure and its causes, joined by colons. -/
def message (failure : Failure) : Text :=
  Text.joinWith ": ".toList failure.chain

end Failure

end ScriptAssist
