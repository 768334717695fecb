import Sentinels.Report

/-!
# The console

What a run prints besides its results depends on its surroundings: what the environment asks the
logger for, what the logger writes in front of a message, and the words of the libraries that
compile patterns and read arguments.
-/

set_option autoImplicit false

namespace Sentinels

/--
The surroundings of a run: the events that the environment asks to be logged, if it says so; what
the logger writes in front of the message of an event, such as the time and the severity; why the
source of a pattern is refused; and what is printed where arguments are refused.
-/
structure Console where
  filter? : Option (Event → Bool)
  heading : Event → Text
  complaint : Text → Text
  usageError : List Text → Text

namespace Console

variable (console : Console)

/-- Is the event logged? Unless the environment says otherwise, warnings are. -/
def accepts (event : Event) : Bool :=
  match console.filter? with
  | some filter => filter event
  | none => event.severity == .warning

/-- The line that is logged for an event. -/
def line (event : Event) : Text := console.heading event ++ event.message ++ ['\n']

/-- The log of some events. -/
def log (events : List Event) : Text := (events.filter console.accepts).flatMap console.line

/-- The line that reports an error. -/
def errorLine (error : Failure) : Text :=
  "error: ".toList ++ error.message console.complaint ++ ['\n']

end Console

end Sentinels
