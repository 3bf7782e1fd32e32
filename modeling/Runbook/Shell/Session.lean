import Runbook.Command.Perform
import Runbook.Shell.Words
/-! Sessions: lines of input that are carried out one after the other, with a prompt before
each of them. -/
namespace Runbook.Shell

/-- What a line asks for. -/
inductive Line where
  | blank
  | unterminated
  | close
  | command (name : String) (args : List String)
  deriving DecidableEq, Repr

def Line.read (text : String) : Line :=
  match splitWords text with
  | none => .unterminated
  | some [] => .blank
  | some (name :: args) => if name = "close" then .close else .command name args

def defaultPrompt : String := "ctlrun >>> "

def unknownCommand (name : String) : List String :=
  ["Unknown command: " ++ name, "Use 'help' to see all available commands"]

/-- Writes the failure of a command; other answers need no word. -/
def writeFailure (answer : Answer) (w : World) : World :=
  match answer with
  | .error f => w.writeLine .text ("Error: " ++ f.message)
  | .ok _ => w

def runCommand (e : Engine) (name : String) (args : List String) (w : World) :
    Course World Unit :=
  match w.command? name with
  | none => .done () (w.writeLines .text (unknownCommand name))
  | some c => (c.perform e args .text w).bind fun answer w => .done () (writeFailure answer w)

/-- Carries out a line. -/
def respond (e : Engine) (w : World) : Line → Course World Unit
  | .blank | .close => .done () w
  | .unterminated => .done () (w.writeLine .text unterminated)
  | .command name args => runCommand e name args w

/-- Goes on with further lines until one closes the session or the shutdown is triggered. -/
def serve (e : Engine) (prompt : String) : List String → World → Course World Unit
  | [], w => .done () w
  | text :: rest, w =>
    if w.shutdown then .done () w
    else
      match Line.read text with
      | .close => .done () w
      | line => (respond e w line).bind fun _ w => serve e prompt rest (w.write .text prompt)

/-- A session over a whole input. -/
def session (e : Engine) (prompt input : String) (w : World) : Course World Unit :=
  serve e prompt (Text.lines input) (w.write .text prompt)

end Runbook.Shell
