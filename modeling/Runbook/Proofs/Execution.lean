import Runbook.Proofs.Inversion
/-! What runs come to, put together from what their parts come to. -/
namespace Runbook

open Course

theorem Course.Ends.under {σ α : Type} {c : Course σ α} {path : List (Step σ)} {a : α} {s : σ}
    (h : c.Ends path a s) (layer : Layer) :
    (c.under layer).Ends (path.map (Step.under layer)) a s := Reaches.under h layer

/-- A round that begins before the shutdown and has no description is its body, and what that leads
to. -/
theorem Iteration.round_eq {call : Call} {plan : Plan} {loop? : Option LoopVariable} {body : Body}
    {index : Nat} {frame bound : Frame} {w : World} (running : w.shutdown = false)
    (binds : bind loop? plan.iterations index frame = bound)
    (quiet : describe .description call bound w = .done () w) :
    round call plan loop? body index frame w = after [(⟨[], .turned index⟩, w)]
      (((body bound w).under (.round index)).bind fun r w =>
        conclude call plan.policy r.1 r.2 w) := by
  subst binds
  rw [round, World.tell_eq, bind_after, bind_done, running, if_neg (by decide), bodyRound, quiet,
    bind_done]

namespace Outlet

variable {d : Descriptor} {caller : Sink} {frame : Frame} {w : World}

theorem resolve_caller (noFile : d.outputPath? = none) (noName : d.assignName? = none) :
    resolve d caller frame w = .done (some .caller, frame) w := by
  simp only [resolve, noFile, noName]

/-- A line is lost on the caller of an action that asks for a file and for a variable. -/
def notice (d : Descriptor) (caller : Sink) (w : World) : List (Event × World) :=
  if d.assignName?.isSome then
    [(⟨[], .wrote caller (assignIgnored d.name ++ "\n")⟩, w.writeLine caller (assignIgnored d.name))]
  else []

def noticed (d : Descriptor) (caller : Sink) (w : World) : World :=
  if d.assignName?.isSome then w.writeLine caller (assignIgnored d.name) else w

theorem resolve_file {output : String} (named : d.outputPath? = some output) :
    resolve d caller frame w = after (notice d caller w)
      (match openFile output frame (noticed d caller w) with
      | .ok (frame, w) => .done (some (.file output), frame) w
      | .error fault =>
        (World.sayLine (noticed d caller w) caller (cannotOpen output d.name fault)).map fun _ =>
          (none, frame)) := by
  simp only [resolve, named, notice, noticed]
  cases d.assignName? <;> rfl

end Outlet

namespace Action

variable {perform : Performer} {e : Engine} {call : Call} {frame opened left : Frame}
  {w w₁ w₂ : World} {path inside : List (Step World)} {outlet : Outlet} {answer : Answer}

theorem ends_invoke {d : Descriptor} (read : d = .read frame.control call.action frame.vars)
    (resolved : (Outlet.resolve d call.sink frame (w.count "actions.executed")).Ends path
      (some outlet, opened) w₁)
    (ran : (through (fun sink => carryOut perform e { call with sink } d) call.sink outlet opened
      w₁).Ends inside (answer, left) w₂) :
    (invoke perform e call frame w).Ends
      (.event ⟨[], .invoked d⟩ (w.count "actions.executed") ::
        (path ++ inside.map (Step.under (.action ⟨d, outlet⟩)))) (answer, left)
      (scheduled d answer left w₂) := by
  subst read
  have within := ran.under (.action ⟨.read frame.control call.action frame.vars, outlet⟩)
  refine .note (resolved.bind ?_)
  rw [← List.append_nil (inside.map _)]
  refine within.bind ?_
  match answer with
  | .ok true | .ok false | .error _ => exact .here

end Action

end Runbook
