import Runbook.Proofs.Conversing
import Runbook.Web.Service
/-! The shell and the network as two ways to the same commands. A command does the same whichever
way it is asked for, and what the one prints of its answer the other one sends back. -/
namespace Runbook

open Course

theorem Agree.symm {p q : List (Step World)} (h : Agree p q) : Agree q p := by
  induction h with
  | nil => exact .nil
  | event _ ih => exact .event ih
  | waited found _ ih => exact .waited found.symm ih

namespace FrontEnds

open Web (Method Target Response)

def ShellAsks (input name : String) (args : List String) : Prop :=
  ∃ line, Text.lines input = [line] ∧ Shell.splitWords line = some (name :: args)

/-- A request whose path asks for a command; the values of its query are the arguments. -/
def WebAsks (method : Method) (target : Target) (name : String) (args : List String) : Prop :=
  (method = .get ∨ method = .post) ∧
    (∃ segment, target.segments = [[], "commands".toList, segment] ∧
      Target.segmentText? segment = some name) ∧
    target.pairs.map Prod.snd = args

/-- What the shell prints and what the network sends back when a command comes to an answer, by
what it has written. -/
inductive Rendered (output : String) : Answer → String → Response → Prop
  | success : Rendered output (.ok true) output ⟨200, output⟩
  | refused : Rendered output (.ok false) output (.ofError 400 (Text.trimEnd output))
  | failed (f : Failure) :
      Rendered output (.error f) (output ++ ("Error: " ++ f.message ++ "\n"))
        (.ofError 422 f.message)

/-- A session and a request that ask for the same command, side by side from a world on. -/
structure Parallel (e : Engine) (prompt : String) (c : Command) (args : List String) (w : World)
    (path : List (Step World)) (w' : World) (path₀ : List (Step World)) (response : Response)
    (w₀ : World) (answer : Answer) (output printed : String) : Prop where
  /-- What the command comes to, and the text that it writes. -/
  ran : ∃ left, (c.perform e args .text (w.write .text prompt)).Ends path answer left ∧
    Appends (some .text) (w.write .text prompt) path left output
  rendered : Rendered output answer printed response
  prints : Appends (some .text) w path w' (prompt ++ (printed ++ prompt))
  /-- Both find the same while they wait. -/
  agree : Agree path path₀
  /-- Both leave the same but for the streams, to which the request writes nothing. -/
  same : w'.Same w₀
  silent : ∃ text, Appends none w path₀ w₀ text
  succeeded : response.status = 200 ↔ answer = .ok true
  refused : response.status = 400 ↔ answer = .ok false
  failed : response.status = 422 ↔ ∃ f, answer = .error f

section Ways

variable {e : Engine} {bound : Nat} {prompt input name : String} {args : List String}
  {method : Method} {target : Target} {control? : Option ControlFile} {w w' w₀ : World}
  {c : Command} {path path₀ : List (Step World)} {response : Response}

/-- A session over one line answers that line. -/
theorem session_eq (running : w.shutdown = false) (stays : name ≠ "close")
    (asks : ShellAsks input name args) :
    Shell.session e prompt input w =
      (Shell.runCommand e name args (w.write .text prompt)).bind fun _ w =>
        .done () (w.write .text prompt) := by
  obtain ⟨line, lines, words⟩ := asks
  have goesOn : ¬ Shell.Closes line := by
    rintro ⟨args', closes⟩
    rw [words] at closes
    exact stays (by simp_all)
  rw [Shell.session, lines, Shell.serve_cons (by simpa using running) goesOn,
    Shell.line_read_command goesOn words]
  rfl

theorem name_ne_empty (c : Command) : c.name ≠ "" := by
  cases c <;> decide

/-- A path without a name asks for nothing known. -/
theorem segment_ne_nil {segment : List Char} (decoded : Target.segmentText? segment = some name)
    (known : w.command? name = some c) : segment.isEmpty = false := by
  cases segment with
  | cons => rfl
  | nil =>
    have named : c.name = name := by simpa using List.find?_some known
    have empty : Target.segmentText? [] = some "" := by decide +kernel
    rw [empty] at decoded
    exact absurd (named.trans (Option.some.inj decoded).symm) (name_ne_empty c)

theorem ofSegments?_command (segment : List Char) :
    Web.Route.ofSegments? [[], "commands".toList, segment] =
      if segment.isEmpty then none else some (.command segment) := by
  cases segment <;> simp [Web.Route.ofSegments?]

/-- A request for a command is one for what its name stands for. -/
theorem handle_command {segment : List Char} (methods : method = .get ∨ method = .post)
    (segments : target.segments = [[], "commands".toList, segment])
    (decoded : Target.segmentText? segment = some name) (some_ : segment.isEmpty = false) :
    Web.handle e control? method target w = Web.runCommand e name target.pairs w := by
  have allowed : (Web.Route.command segment).allows method = true := by
    rcases methods with rfl | rfl <;> rfl
  have whole : ∀ response : Response,
      (if method = .head then .ofStatus response.status else response) = response := by
    rcases methods with rfl | rfl <;> simp
  simp only [Web.handle, segments, ofSegments?_command, some_, Bool.false_eq_true, if_false, allowed,
    if_true, Web.follow, decoded, whole]
  exact map_id _

theorem handle_known (asks : WebAsks method target name args) (known : w.command? name = some c) :
    Web.handle e control? method target w =
      (collecting (c.perform e args .text) w).map fun r => Web.commandResponse r.1 r.2 := by
  obtain ⟨methods, ⟨segment, segments, decoded⟩, rfl⟩ := asks
  rw [handle_command methods segments decoded (segment_ne_nil decoded known)]
  simp only [Web.runCommand, known]

theorem handle_unknown (e : Engine) (control? : Option ControlFile)
    (asks : WebAsks method target name args) (unknown : w.command? name = none) :
    ∃ response, Web.handle e control? method target w = .done response w ∧
      response.status = 404 := by
  obtain ⟨methods, ⟨segment, segments, decoded⟩, rfl⟩ := asks
  cases empty : segment.isEmpty with
  | true =>
    refine ⟨.ofStatus 404, ?_, rfl⟩
    simp only [Web.handle, segments, ofSegments?_command, empty, if_true]
  | false =>
    refine ⟨.ofError 404 ("Unknown command: " ++ name), ?_, rfl⟩
    rw [handle_command methods segments decoded empty]
    simp only [Web.runCommand, unknown]

theorem ends_session (running : w.shutdown = false) (stays : name ≠ "close")
    (asks : ShellAsks input name args) (known : w.command? name = some c) :
    (Shell.session e prompt input w).Ends path () w' ↔
      ∃ answer left, (c.perform e args .text (w.write .text prompt)).Ends path answer left ∧
        w' = (Shell.writeFailure answer left).write .text prompt := by
  have known' : (w.write .text prompt).command? name = some c := known
  rw [session_eq running stays asks]
  simp only [Shell.runCommand, known']
  constructor
  · intro ends
    obtain ⟨_, _, _, _, rfl, responded, prompted⟩ := ends_bind.mp ends
    obtain ⟨_, _, answer, left, rfl, ran, ended⟩ := ends_bind.mp responded
    obtain ⟨rfl, -, rfl⟩ := ends_done.mp ended
    obtain ⟨rfl, -, rfl⟩ := ends_done.mp prompted
    exact ⟨answer, left, by simpa using ran, rfl⟩
  · rintro ⟨answer, left, ran, rfl⟩
    have responded := ran.bind (f := fun answer w => done () (Shell.writeFailure answer w)) .here
    have prompted := responded.bind (f := fun _ w => done () (w.write .text prompt)) .here
    simpa using prompted

theorem ends_handle (control? : Option ControlFile) (asks : WebAsks method target name args)
    (known : w.command? name = some c) :
    (Web.handle e control? method target w).Ends path₀ response w₀ ↔
      ∃ r, (collecting (c.perform e args .text) w).Ends path₀ r w₀ ∧
        response = Web.commandResponse r.1 r.2 := by
  rw [handle_known asks known, ends_map]

/-- A command whose text is collected does what it does with the text of the shell. -/
theorem twin_collecting (bound : Nat) (prompt : String) (c : Command) (args : List String)
    (w : World) :
    let e := Action.engine Command.perform bound
    let first := w.write .text prompt
    Twin (Event.Strays none) none (some .text)
      (fun said (r : Answer × String) answer => r.1 = answer ∧ r.2 = said) "" w
      (collecting (c.perform e args .text) w) first (c.perform e args .text first) := by
  intro e first
  have runs : Runner.Doubles e.run := doubles_runner doubles_perform bound
  have same : World.Same { w with text := "" } first := ⟨_, w.console, rfl⟩
  have twin := doubles_perform e runs .text .text .text c args _ first (.stream (by simp)) same ""
  exact twin.muted rfl w.text

def printed (output : String) : Answer → String
  | .ok _ => output
  | .error f => output ++ ("Error: " ++ f.message ++ "\n")

theorem rendered (output : String) (answer : Answer) :
    Rendered output answer (printed output answer) (Web.commandResponse answer output) := by
  match answer with
  | .ok true => exact .success
  | .ok false => exact .refused
  | .error f => exact .failed f

theorem appends_printed {left : World} {output : String} (answer : Answer)
    (said : Appends (some .text) w path left output) :
    Appends (some .text) w path (Shell.writeFailure answer left) (printed output answer) := by
  cases answer with
  | ok success => exact said
  | error f =>
    have whole := said.append (Shell.appends_write left ("Error: " ++ f.message ++ "\n"))
    rwa [List.append_nil] at whole

theorem same_writeFailure (answer : Answer) (left : World) :
    left.Same (Shell.writeFailure answer left) := by
  cases answer with
  | ok success => exact .refl left
  | error f => exact ⟨_, left.console, rfl⟩

/-- Two runs of a command that do the same are rendered side by side. -/
theorem parallel {answer : Answer} {left : World} {output silent : String}
    (ran : (c.perform e args .text (w.write .text prompt)).Ends path answer left)
    (said : Appends (some .text) (w.write .text prompt) path left output)
    (agree : Agree path path₀) (same : left.Same w₀) (quiet : Appends none w path₀ w₀ silent) :
    Parallel e prompt c args w path ((Shell.writeFailure answer left).write .text prompt) path₀
      (Web.commandResponse answer output) w₀ answer output (printed output answer) where
  ran := ⟨left, ran, said⟩
  rendered := rendered output answer
  prints := by
    have answered := (appends_printed answer said).append (Shell.appends_write _ prompt)
    have whole := (Shell.appends_write w prompt).append answered
    simpa using whole
  agree := agree
  same := by
    have prompted : (Shell.writeFailure answer left).Same
        ((Shell.writeFailure answer left).write .text prompt) := ⟨_, _, rfl⟩
    exact ((same_writeFailure answer left).trans prompted).symm.trans same
  silent := ⟨silent, quiet⟩
  succeeded := by
    match answer with
    | .ok true | .ok false | .error _ => simp [Web.commandResponse, Response.ofError]
  refused := by
    match answer with
    | .ok true | .ok false | .error _ => simp [Web.commandResponse, Response.ofError]
  failed := by
    match answer with
    | .ok true | .ok false | .error _ => simp [Web.commandResponse, Response.ofError]

end Ways

end FrontEnds

end Runbook
