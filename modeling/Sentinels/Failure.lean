import Sentinels.Json.Fault

/-!
# Failures

What can go wrong in a run, as causes. The wording of each is given in one place.
-/

set_option autoImplicit false

namespace Sentinels

/-- The patterns of a configuration. -/
inductive PatternRole
  | tag
  | block
  | sentinel
deriving DecidableEq, Repr

/--
The reasons for which a file cannot be read. Where the system gives another one, it is kept in the
system's words and in the form that is meant for the log.
-/
inductive ReadError
  | notFound
  | notDirectory
  | isDirectory
  | invalidUtf8
  | other (description details : Text)
deriving DecidableEq, Repr

/-- The reasons for which a run fails. -/
inductive Failure
  | unreadable (path : Text)
  | configRead (path : Text) (cause : ReadError)
  | configParse (path : Text) (cause : Json.Refusal)
  | invalidPattern (role : PatternRole) (source : Text)
  | missingGroup (role : PatternRole) (group : Text)
deriving DecidableEq, Repr

/-- The word for the role of a pattern. -/
def PatternRole.text : PatternRole → Text
  | .tag => "tag".toList
  | .block => "block".toList
  | .sentinel => "sentinel".toList

/-- The wording of a failure to read. -/
def ReadError.message : ReadError → Text
  | .notFound => "No such file or directory (os error 2)".toList
  | .notDirectory => "Not a directory (os error 20)".toList
  | .isDirectory => "Is a directory (os error 21)".toList
  | .invalidUtf8 => "stream did not contain valid UTF-8".toList
  | .other description _ => description

/-- A failure of the system in the form that is meant for the log. -/
def systemDetails (code : Nat) (kind words : Text) : Text :=
  "Os \x7b code: ".toList ++ Text.ofNat code ++ ", kind: ".toList ++ kind ++
    ", message: ".toList ++ words.quoted ++ " \x7d".toList

/-- A failure to read in the form that is meant for the log. -/
def ReadError.details : ReadError → Text
  | .notFound => systemDetails 2 "NotFound".toList "No such file or directory".toList
  | .notDirectory => systemDetails 20 "NotADirectory".toList "Not a directory".toList
  | .isDirectory => systemDetails 21 "IsADirectory".toList "Is a directory".toList
  | .invalidUtf8 =>
    "Error \x7b kind: InvalidData, message: ".toList ++ ReadError.invalidUtf8.message.quoted ++
      " \x7d".toList
  | .other _ details => details

/--
The wording of a failure. What is wrong with the source of a pattern is told in the words of the
library that compiles it, `complaint`.
-/
def Failure.message (complaint : Text → Text) : Failure → Text
  | .unreadable path => "Invalid file/address provided: ".toList ++ path
  | .configRead path cause =>
    "cannot read config ".toList ++ path ++ ": ".toList ++ cause.message
  | .configParse path cause =>
    "invalid config JSON in ".toList ++ path ++ ": ".toList ++ cause.message
  | .invalidPattern role source =>
    "invalid ".toList ++ role.text ++ " pattern: ".toList ++ complaint source
  | .missingGroup role group =>
    role.text ++ " pattern has no ".toList ++ Json.backquoted group ++ " capture group".toList

end Sentinels
