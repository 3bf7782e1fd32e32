import Runbook.Bench.Basic
import Runbook.Clock
import Runbook.LogFilter
import Runbook.Run.Event
/-! What runs act on: the bench, the files, the clock, and the texts that runs write. A text
that is captured takes the place of the caller's text while the capture lasts. -/
namespace Runbook

/-- What the actions of one run share. -/
structure Frame where
  control : ControlFile
  vars : Variables
  /-- The paths of the output files that the run has opened, in order. -/
  opened : List String

namespace Frame

/-- A run that has opened no file. -/
def fresh (control : ControlFile) (vars : Variables) : Frame := ⟨control, vars, []⟩

def setVar (f : Frame) (name value : String) : Frame := { f with vars := f.vars.set name value }

end Frame

/-- How an action is repeated in the background: with variables and output files of its own. -/
structure Repetition where
  frame : Frame
  /-- Milliseconds between the end of one run and the next one. -/
  interval : Nat

/-- Time has to pass between two runs. -/
def Repetition.pause (r : Repetition) : Nat := max r.interval 1

structure World where
  bench : Bench
  files : FileTree
  clock : Clock
  shutdown : Bool
  /-- The repeated actions as they were at their start, in the order of that. -/
  repetitions : Table Repetition
  /-- Those of them that nobody has begun to repeat yet. -/
  starting : List (String × Repetition)
  catalogue : List Command
  logFilter : LogFilter
  /-- What has been written to the caller. -/
  text : String
  /-- What has been written to the console. -/
  console : String

namespace World

/-- A world in which nothing has happened. -/
def fresh (catalogue : List Command) (logFilter : LogFilter) (clock : Clock)
    (files : FileTree) : World where
  bench := .fresh
  files := files
  clock := clock
  shutdown := false
  repetitions := .empty
  starting := []
  catalogue := catalogue
  logFilter := logFilter
  text := ""
  console := ""

def write (w : World) (sink : Sink) (s : String) : World :=
  match sink with
  | .text => { w with text := w.text ++ s }
  | .console => { w with console := w.console ++ s }
  | .file path => { w with files := w.files.append path (Text.toBytes s) }

def writeLine (w : World) (sink : Sink) (line : String) : World := w.write sink (line ++ "\n")

def writeLines (w : World) (sink : Sink) (lines : List String) : World :=
  lines.foldl (·.writeLine sink) w

def count (w : World) (name : String) : World := { w with bench := w.bench.count name }

def command? (w : World) (name : String) : Option Command := Command.find? w.catalogue name

/-- Triggers the shutdown; it cannot be taken back. -/
def shutDown (w : World) : World := { w with shutdown := true }

def now (w : World) : Nat := w.clock.elapsed

def setNow (w : World) (now : Nat) : World := { w with clock := { w.clock with elapsed := now } }

/-- Begins to repeat an action, unless an action of that name is repeated already. -/
def repeatAction (w : World) (action : String) (frame : Frame) (interval : Nat) : World :=
  if w.repetitions.contains action then w
  else
    { w with
      repetitions := w.repetitions.set action ⟨frame, interval⟩
      starting := w.starting ++ [(action, ⟨frame, interval⟩)] }

/-- Lets the operations in the background come to their end, as they do while a run waits and
when a front end has got its answer. -/
def settle (w : World) : World := { w with bench := w.bench.finishJobs w.files }

/-- The names of the repeated actions, by increasing name. -/
def repeating (w : World) : List String := w.repetitions.sorted.map Prod.fst

@[simp] theorem write_text (w : World) (s : String) : (w.write .text s).text = w.text ++ s := rfl

@[simp] theorem shutdown_write (w : World) (sink : Sink) (s : String) :
    (w.write sink s).shutdown = w.shutdown := by
  cases sink <;> rfl

@[simp] theorem bench_write (w : World) (sink : Sink) (s : String) :
    (w.write sink s).bench = w.bench := by
  cases sink <;> rfl

end World

end Runbook
