import Runbook.Proofs.Planning
/-! Arguments of commands by their places. A command asks for places without looking whether they
are there; it may, since its arguments have been counted before. -/
namespace Runbook

open Course

structure Beyond where
  place : Nat
  count : Nat
  deriving DecidableEq, Repr

section Places

variable {args : List String} {place : Nat}

def itemAt (args : List String) (place : Nat) : Except Beyond String :=
  match args[place]? with
  | some arg => .ok arg
  | none => .error ⟨place, args.length⟩

/-- The arguments from a place on. It may be the place right behind the last of them. -/
def restFrom (args : List String) (place : Nat) : Except Beyond (List String) :=
  if place ≤ args.length then .ok (args.drop place) else .error ⟨place, args.length⟩

theorem itemAt_ok_iff : (∃ arg, itemAt args place = .ok arg) ↔ place < args.length := by
  rw [itemAt]
  by_cases there : place < args.length
  · simp [there]
  · simp [there]

theorem restFrom_ok_iff : (∃ rest, restFrom args place = .ok rest) ↔ place ≤ args.length := by
  rw [restFrom]
  split <;> simp [*]

theorem pure_ok_iff {α : Type} (a : α) : (∃ b, (pure a : Except Beyond α) = .ok b) ↔ True :=
  iff_true_intro ⟨a, rfl⟩

theorem bind_ok_iff {α β : Type} {x : Except Beyond α} {f : α → Except Beyond β} :
    (∃ b, (x >>= f) = .ok b) ↔ ∃ a, x = .ok a ∧ ∃ b, f a = .ok b := by
  cases x <;> simp [Bind.bind, Except.bind]

end Places

namespace Command

/-- What a command is asked with these arguments. Each command asks for those at its own places, in
its own order; only an argument that may be missing is asked for by `head?` or `tail`. -/
def fetch (c : Command) (args : List String) : Except Beyond Request :=
  match c with
  | .help => return .help args.head?
  | .echo => return .echo args
  | .sleep => return .sleep (← itemAt args 0)
  | .currentTime => return .currentTime args.head?
  | .controlFile => do
    let rest ← restFrom args 1
    return .controlFile (← itemAt args 0) rest
  | .fail => return .fail args.head? args.tail
  | .quit => return .quit
  | .algorithmStart => return .bench (.startStorage (← itemAt args 0) (← restFrom args 1))
  | .algorithmStop => return .bench (.stopStorage args.head?)
  | .algorithmSelect => return .bench (.selectStorage (← itemAt args 0))
  | .algorithmList => return .bench .listStorages
  | .algorithmInfo => return .bench .describeStorage
  | .operationPrepare => return .bench (.prepare (← itemAt args 0) (← restFrom args 1))
  | .operationExecute => return .bench (.execute (← itemAt args 0) (← restFrom args 1))
  | .operationBgExecute =>
    return .bench (.executeInBackground (← itemAt args 0) (← restFrom args 1))
  | .operationWaitBg => return .bench .awaitBackground
  | .operationExecuteAgain => return .bench (.executeAgain args.head?)
  | .operationInfo => return .bench .describeOperation
  | .operationAnswer => return .bench (.answer args.head?)
  | .namedInstanceAdd => return .bench (.addInstance (← itemAt args 0) (← itemAt args 1))
  | .namedInstanceReplace => return .bench (.replaceInstance (← itemAt args 0) (← itemAt args 1))
  | .namedInstanceRemove => return .bench (.removeInstance (← itemAt args 0))
  | .namedInstanceList => return .bench .listInstances
  | .namedInstanceEcho => return .bench (.showInstance (← itemAt args 0))
  | .objectStreamOpen => do
    let type ← itemAt args 1
    return .bench (.openStream (← itemAt args 0) type (← itemAt args 2))
  | .objectStreamClose => return .bench (.closeStream (← itemAt args 0))
  | .objectStreamReset => return .bench (.resetStream (← itemAt args 0))
  | .statisticsGet => return .bench (.counters args)
  | .statisticsReset => return .bench .resetCounters
  | .loggingLevel => return .loggingLevel args.head?

/-- A command may do without further arguments exactly if it has as many as it takes at least. -/
theorem fetch_ok_iff (c : Command) (args : List String) :
    (∃ request, c.fetch args = .ok request) ↔ c.arity.least ≤ args.length := by
  cases c <;>
    simp only [fetch, arity, Arity.exactly, Arity.atLeast, Arity.atMost, bind_ok_iff, pure_ok_iff,
      and_true, exists_and_right, itemAt_ok_iff, restFrom_ok_iff, Nat.zero_le] <;>
    omega

example : fetch .objectStreamOpen ["f", "Text"] = .error ⟨2, 2⟩ := rfl

theorem fetch_of_read {c : Command} {args : List String} {request : Request}
    (h : Request.read c args = some request) : c.fetch args = .ok request := by
  rcases args with _ | ⟨a, _ | ⟨b, _ | ⟨d, _ | ⟨e, rest⟩⟩⟩⟩ <;> cases c <;>
    cases h <;> rfl

end Command

inductive Course.Answers {σ α : Type} : Course σ α → Prop
  | done {a : α} {s : σ} : Answers (.done a s)
  | note {event : Event} {s : σ} {next : Unit → Course σ α} (rest : Answers (next ())) :
      Answers (.note event s next)
  | wait {reason : Wait} {s : σ} {next : σ → Course σ α} (rest : ∀ s, Answers (next s)) :
      Answers (.wait reason s next)

section Answers

variable {σ α β : Type} {c : Course σ α} {f : α → σ → Course σ β}

theorem Course.Answers.bind (h : c.Answers) (later : ∀ a s, (f a s).Answers) :
    (c.bind f).Answers := by
  induction h with
  | done => exact later _ _
  | note _ ih => exact .note ih
  | wait _ ih => exact .wait ih

theorem Course.Answers.map {f : α → β} (h : c.Answers) : (c.map f).Answers :=
  h.bind fun _ _ => .done

end Answers

namespace World

variable (w : World) (sink : Sink)

theorem answers_sayLine (line : String) : (w.sayLine sink line).Answers := .note .done

theorem answers_sayLines (lines : List String) : (w.sayLines sink lines).Answers := by
  induction lines generalizing w with
  | nil => exact .done
  | cons line rest ih => exact (w.answers_sayLine sink line).bind fun _ w => ih w

theorem answers_sleep (milliseconds : Nat) : (w.sleep milliseconds).Answers := by
  rw [sleep]
  split
  · exact .done
  · exact .wait fun _ => .done

theorem written_writeLines (lines : List String) : w.Written (w.writeLines sink lines) := by
  induction lines generalizing w with
  | nil => rfl
  | cons line rest ih => exact (w.written_write sink (line ++ "\n")).trans (ih _)

end World

namespace Request

variable {e : Engine} {sink : Sink} {w : World}

/-- A request to run a control file that can be read, where the run does not come to its end. -/
def RunsOn (e : Engine) (sink : Sink) (w : World) (request : Request) : Prop :=
  ∃ path rest text, request = .controlFile path rest ∧ w.files.readText path = .ok text ∧
    ¬ (e.runControl (ControlFile.parse text) (actionAndVariables rest).1
      (actionAndVariables rest).2 sink w).Answers

/-- Nothing but such a run keeps a request from its answer. -/
theorem answers_perform (request : Request) (ends : ¬ request.RunsOn e sink w) :
    (request.perform e sink w).Answers := by
  cases request with
  | help name? => exact (w.answers_sayLines sink _).map
  | echo words => exact (w.answers_sayLine sink _).map
  | sleep milliseconds =>
    rw [perform, sleepFor]
    split
    · exact .done
    · exact (w.answers_sleep _).map
  | currentTime format? =>
    rw [perform, showTime]
    split
    · exact (w.answers_sayLine sink _).map
    · exact .done
  | controlFile path rest =>
    rw [perform, runFile]
    cases found : w.files.readText path with
    | error fault => exact (w.answers_sayLine sink _).map
    | ok text =>
      have ending := Classical.not_not.mp fun runsOn => ends ⟨path, rest, text, rfl, found, runsOn⟩
      exact ending.map
  | fail kind? words => exact .done
  | quit => exact (w.answers_sayLine sink _).bind fun _ _ => .note .done
  | loggingLevel filter? =>
    cases filter? with
    | none => exact (w.answers_sayLine sink _).map
    | some text =>
      rw [perform, showFilter]
      split
      · exact .done
      · exact (World.answers_sayLine _ sink _).map
  | bench request =>
    rw [perform, onBench]
    split
    · exact .note .done
    · exact .done

end Request

end Runbook
