import Runbook.Number.Numeral
import Runbook.Text.Blank
/-! Settings of the program, from the variables of its environment whose names have a common
beginning. The names of the settings are read in any mixture of cases. -/
namespace Runbook

structure Settings where
  host : String
  shellPort : Option Nat
  httpPort : Option Nat
  prompt : String
  defaultAction : String
  deriving DecidableEq, Repr

inductive SettingsFault where
  | duplicate (setting : String)
  /-- A port that is no number, with the name as it was written. -/
  | badPort (fault : NumeralFault) (value name : String)
  deriving DecidableEq, Repr

def SettingsFault.message : SettingsFault → String
  | .duplicate setting => "duplicate field \x60" ++ setting ++ "\x60"
  | .badPort fault value name =>
    fault.message ++ " while parsing value '" ++ value ++ "' provided by " ++ name

namespace Settings

def default : Settings := ⟨"0.0.0.0", none, none, "ctlrun >>> ", "actions"⟩

def beginning : String := "CTLRUN_"

/-- What follows the common beginning in the name of a variable. A beginning that is repeated
counts once. -/
def settingName? (name : String) : Option String :=
  if name.startsWith beginning then some (name.dropWhile beginning).toString else none

def names : List String := ["host", "shell_port", "http_port", "prompt", "default_action"]

def readPort (value name : String) : Except SettingsFault Nat :=
  (Numeral.natural Numeral.maxUnsigned16 value.toList).mapError (.badPort · value name)

/-- One setting; `name` is how it was written. -/
def set (s : Settings) (setting name value : String) : Except SettingsFault Settings :=
  match setting with
  | "host" => .ok { s with host := value }
  | "shell_port" => (readPort value name).map fun port => { s with shellPort := some port }
  | "http_port" => (readPort value name).map fun port => { s with httpPort := some port }
  | "prompt" => .ok { s with prompt := value }
  | "default_action" => .ok { s with defaultAction := value }
  | _ => .ok s

/-- Reads the settings one after the other. The first fault counts. -/
def readFrom (s : Settings) (seen : List String) :
    List (String × String) → Except SettingsFault Settings
  | [] => .ok s
  | (name, value) :: rest =>
    let setting := Text.lowerAscii name
    if seen.contains setting then .error (.duplicate setting)
    else
      match s.set setting name value with
      | .error fault => .error fault
      | .ok s => readFrom s (if names.contains setting then setting :: seen else seen) rest

def read (environment : List (String × String)) : Except SettingsFault Settings :=
  readFrom default []
    (environment.filterMap fun e => (settingName? e.1).map fun name => (name, e.2))

def bindAddress (s : Settings) (port : Nat) : String := s.host ++ ":" ++ toString port

end Settings

end Runbook
