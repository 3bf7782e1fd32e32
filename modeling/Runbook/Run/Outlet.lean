import Runbook.Run.Engine
/-! Where an action writes: to its output file, else into the variable it assigns, else where
its caller writes. -/
namespace Runbook.Outlet

/-- Opens an output file for appending; a path is opened once in a run. -/
def openFile (path : String) (frame : Frame) (w : World) : Except PathFault (Frame × World) :=
  if frame.opened.contains path then .ok (frame, w)
  else
    (w.files.openAppend path).map fun files =>
      ({ frame with opened := frame.opened ++ [path] }, { w with files })

def assignIgnored (action : String) : String :=
  "WARNING: assign is ignored when outputFile is specified in action '" ++ action ++ "'"

def cannotOpen (path action : String) (fault : PathFault) : String :=
  "Cannot open output file '" ++ path ++ "' for action '" ++ action ++ "': " ++ fault.message

/-- There is no outlet when the output file cannot be opened; the caller is told. -/
def resolve (d : Descriptor) (caller : Sink) (frame : Frame) (w : World) :
    Course World (Option Outlet × Frame) :=
  match d.outputPath?, d.assignName? with
  | none, some name => .done (some (.capture name), frame) w
  | none, none => .done (some .caller, frame) w
  | some path, assign? =>
    (if assign?.isSome then w.sayLine caller (assignIgnored d.name) else .done () w).bind
      fun _ w =>
      match openFile path frame w with
      | .ok (frame, w) => .done (some (.file path), frame) w
      | .error fault =>
        (w.sayLine caller (cannotOpen path d.name fault)).map fun _ => (none, frame)

end Runbook.Outlet
