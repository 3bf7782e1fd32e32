import Runbook.Command.Perform
import Runbook.Text.Json
import Runbook.Web.Target
/-! Requests over the network: a sign of life, the actions of the loaded control file, and the
commands. -/
namespace Runbook.Web

structure Response where
  status : Nat
  body : String
  deriving DecidableEq, Repr

inductive Method where
  | get
  /-- The same as `get`, but the body stays away. -/
  | head
  | post
  | other
  deriving DecidableEq, Repr

def Method.ofName : String → Method
  | "GET" => .get
  | "HEAD" => .head
  | "POST" => .post
  | _ => .other

/-- What a path leads to. -/
inductive Route where
  | health
  | action (segment : List Char)
  | command (segment : List Char)
  deriving DecidableEq, Repr

namespace Route

def ofSegments? : List (List Char) → Option Route
  | [[], top] => if String.ofList top = "health" then some health else none
  | [[], top, name] =>
    if name.isEmpty then none
    else if String.ofList top = "actions" then some (action name)
    else if String.ofList top = "commands" then some (command name)
    else none
  | _ => none

def allows : Route → Method → Bool
  | health, method => method = .get ∨ method = .head
  | _, method => method ≠ .other

end Route

namespace Response

def ofStatus (status : Nat) : Response := ⟨status, ""⟩

/-- An error as an object. -/
def ofError (status : Nat) (message : String) : Response :=
  ⟨status, Text.Json.compactObject
    [("error", Text.Json.string message), ("status", toString status)]⟩

def malformed (parameter : String) : Response :=
  ⟨400, "Invalid URL: Invalid UTF-8 in \x60" ++ parameter ++ "\x60"⟩

end Response

def actionResponse (action : String) (answer : Answer) (text : String) : Response :=
  match answer with
  | .ok success => ⟨if success then 200 else 500, text⟩
  | .error f => .ofError 500 (Engine.escaped action f)

/-- Runs an action of the control file, with the query as its variables. -/
def runAction (e : Engine) (control? : Option ControlFile) (action : String)
    (pairs : List (String × String)) (w : World) : Course World Response :=
  match control? with
  | none => .done (.ofError 404 "no control file loaded") w
  | some control =>
    (collecting (e.runControl control action (.ofList pairs) .text) w).map
      fun ((answer, _), text) => actionResponse action answer text

def commandResponse (answer : Answer) (text : String) : Response :=
  match answer with
  | .ok true => ⟨200, text⟩
  | .ok false => .ofError 400 (Text.trimEnd text)
  | .error f => .ofError 422 f.message

/-- Runs a command, with the values of the query as its arguments. -/
def runCommand (e : Engine) (name : String) (pairs : List (String × String)) (w : World) :
    Course World Response :=
  match w.command? name with
  | none => .done (.ofError 404 ("Unknown command: " ++ name)) w
  | some c =>
    (collecting (c.perform e (pairs.map Prod.snd) .text) w).map fun (answer, text) =>
      commandResponse answer text

def follow (e : Engine) (control? : Option ControlFile) (pairs : List (String × String))
    (w : World) : Route → Course World Response
  | .health => .done ⟨200, "ok"⟩ w
  | .action segment =>
    match Target.segmentText? segment with
    | some action => runAction e control? action pairs w
    | none => .done (.malformed "action") w
  | .command segment =>
    match Target.segmentText? segment with
    | some name => runCommand e name pairs w
    | none => .done (.malformed "name") w

/-- Answers a request. -/
def handle (e : Engine) (control? : Option ControlFile) (method : Method) (target : Target)
    (w : World) : Course World Response :=
  match Route.ofSegments? target.segments with
  | none => .done (.ofStatus 404) w
  | some route =>
    if route.allows method then
      (follow e control? target.pairs w route).map fun response =>
        if method = .head then .ofStatus response.status else response
    else .done (.ofStatus 405) w

end Runbook.Web
