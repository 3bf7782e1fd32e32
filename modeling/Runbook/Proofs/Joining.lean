import Runbook.Proofs.Accumulating
/-! Waiting for the operations in the background. Whoever notes what is started, what comes to its
end and what each wait answers, finds that a wait answers for all that was started since the wait
before it, in the order of the starts, however the operations end. -/
namespace Runbook.Bench

inductive Move where
  | start (o : Operation)
  /-- The operation at a place among those that nobody has waited for comes to its end. Those that
  end while somebody waits are told of before the wait. -/
  | completion (files : FileTree) (place : Nat)
  | wait (files : FileTree)
  /-- The bench becomes another one, but for its operations in the background. -/
  | other (bench : Bench)

/-- An operation that was started in the background, with the number of the storage that was
selected then, and with its result as soon as it has come to its end. -/
structure Errand where
  operation : Operation
  number : Nat
  result? : Option (Except Failure Operation)

namespace Errand

def ended (e : Errand) (result : Except Failure Operation) : Errand :=
  { e with result? := some (e.result?.getD result) }

def begun (e : Errand) : Operation × Nat := (e.operation, e.number)

def job (e : Errand) : Job :=
  match e.result? with
  | some result => .finished result
  | none => .running e.operation e.number

/-- Nothing ends twice. -/
theorem ended_of_isSome {e : Errand} (known : e.result?.isSome)
    (result : Except Failure Operation) : e.ended result = e := by
  obtain ⟨first, same⟩ := Option.isSome_iff_exists.mp known
  cases e
  cases same
  rfl

end Errand

/-- A wait that has come to its end: what it was for, and its answer. -/
structure Join where
  errands : List Errand
  answer : Except Failure (List Operation)

/-- A bench, with what is noted beside it. -/
structure Watched where
  bench : Bench
  /-- What has been started in the background at any time. -/
  started : List (Operation × Nat)
  /-- What has been started since the last wait. -/
  outstanding : List Errand
  joins : List Join

namespace Watched

def fresh : Watched := ⟨.fresh, [], [], []⟩

def complete (files : FileTree) (w : Watched) (place : Nat) : Watched :=
  { w with
    bench := w.bench.finishJob files place
    outstanding := w.outstanding.modify place fun e =>
      e.ended (w.bench.runOn files e.number e.operation).1 }

def completeAll (files : FileTree) (w : Watched) : Watched :=
  (List.range w.outstanding.length).foldl (complete files) w

def step (w : Watched) : Move → Watched
  | .start o =>
    match w.bench.selectedStorage, w.bench.startJob o with
    | .ok (_, number), .ok bench =>
      { w with
        bench
        started := w.started ++ [(o, number)]
        outstanding := w.outstanding ++ [⟨o, number, none⟩] }
    | _, _ => w
  | .completion files place => w.complete files place
  | .wait files =>
    let (answer, bench) := w.bench.waitJobs files
    { w with
      bench
      outstanding := []
      joins := w.joins ++ [⟨(w.completeAll files).outstanding, answer⟩] }
  | .other bench => { w with bench := { bench with jobs := w.bench.jobs } }

def after (w : Watched) (moves : List Move) : Watched := moves.foldl step w

end Watched

/-- The answer of a wait: all operations, in the order of their start, where none has failed, and
the failure of the one that was started first where some have. -/
structure Answers (answer : Except Failure (List Operation))
    (results : List (Except Failure Operation)) : Prop where
  done : ∀ os, answer = .ok os ↔ results = os.map .ok
  failed : ∀ f, answer = .error f ↔
    ∃ (os : List Operation) (later : List (Except Failure Operation)),
      results = os.map .ok ++ .error f :: later

variable {b : Bench} {w : Watched} {files : FileTree} {o : Operation} {number place : Nat}

section Answer

theorem joined_cons (o : Operation) (results : List (Except Failure Operation)) :
    joined (.ok o :: results) = (joined results).map (o :: ·) := by
  rw [joined, joined, List.mapM_cons, id_eq]
  cases results.mapM id <;> rfl

theorem joined_done (os : List Operation) : joined (os.map .ok) = .ok os := by
  induction os with
  | nil => rfl
  | cons o os ih =>
    rw [List.map_cons, joined_cons, ih]
    rfl

theorem joined_failed (os : List Operation) (f : Failure)
    (later : List (Except Failure Operation)) :
    joined (os.map .ok ++ .error f :: later) = .error f := by
  induction os with
  | nil => rfl
  | cons o os ih =>
    rw [List.map_cons, List.cons_append, joined_cons, ih]
    rfl

/-- Either no operation has failed, or one has failed first. -/
theorem done_or_failed (results : List (Except Failure Operation)) :
    (∃ os : List Operation, results = os.map .ok) ∨
      ∃ (os : List Operation) (f : Failure) (later : List (Except Failure Operation)),
        results = os.map .ok ++ .error f :: later := by
  induction results with
  | nil => exact .inl ⟨[], rfl⟩
  | cons result results ih =>
    cases result with
    | error f => exact .inr ⟨[], f, results, rfl⟩
    | ok o =>
      obtain ⟨os, rfl⟩ | ⟨os, f, later, rfl⟩ := ih
      · exact .inl ⟨o :: os, rfl⟩
      · exact .inr ⟨o :: os, f, later, rfl⟩

theorem answers_joined (results : List (Except Failure Operation)) :
    Answers (joined results) results := by
  refine ⟨fun os => ⟨fun answer => ?_, ?_⟩, fun f => ⟨fun answer => ?_, ?_⟩⟩
  · obtain ⟨os', rfl⟩ | ⟨os', f, later, rfl⟩ := done_or_failed results
    · rw [joined_done] at answer
      cases answer
      rfl
    · rw [joined_failed] at answer
      cases answer
  · rintro rfl
    exact joined_done os
  · obtain ⟨os', rfl⟩ | ⟨os', f', later, rfl⟩ := done_or_failed results
    · rw [joined_done] at answer
      cases answer
    · rw [joined_failed] at answer
      cases answer
      exact ⟨os', later, rfl⟩
  · rintro ⟨os, later, rfl⟩
    exact joined_failed os f later

end Answer

theorem jobs_runOn (b : Bench) (files : FileTree) (number : Nat) (o : Operation) :
    (b.runOn files number o).2.jobs = b.jobs := by
  obtain ⟨_, _, _, frame⟩ := runOn_frame b files number o
  rw [frame]

theorem jobs_execute (b : Bench) (files : FileTree) (o : Operation) :
    (b.execute files o).2.jobs = b.jobs := by
  unfold execute
  split
  · rfl
  · rename_i number _
    have kept := jobs_runOn { b with last := some o } files number o
    split <;> rename_i ran <;> rw [ran] at kept <;> exact kept

/-- A job that goes on ends with what its operation comes to, and no other job is touched. -/
theorem jobs_finishJob (b : Bench) (files : FileTree) (place : Nat) :
    (b.finishJob files place).jobs = b.jobs.modify place fun
      | .running o number => .finished (b.runOn files number o).1
      | job => job := by
  unfold finishJob
  rw [List.modify_eq_set_getElem?]
  cases found : b.jobs[place]? with
  | none => rfl
  | some job =>
    cases job with
    | finished result =>
      obtain ⟨inside, same⟩ := List.getElem?_eq_some_iff.mp found
      simpa using (same ▸ List.set_getElem_self inside).symm
    | running o number =>
      cases ran : b.runOn files number o with
      | mk result b' =>
        have kept : b'.jobs = b.jobs := by simpa [ran] using jobs_runOn b files number o
        cases result <;> simp [ran, kept]

theorem map_modify {α β : Type} {f : α → β} {g : α → α} {h : β → β} (same : ∀ a, f (g a) = h (f a))
    (l : List α) (i : Nat) : (l.modify i g).map f = (l.map f).modify i h := by
  induction l generalizing i with
  | nil => simp
  | cons a l ih => cases i <;> simp [same, ih]

namespace Watched

def Attends (w : Watched) : Prop := w.bench.jobs = w.outstanding.map Errand.job

theorem Attends.complete (h : w.Attends) (files : FileTree) (place : Nat) :
    (w.complete files place).Attends := by
  have same : ∀ e : Errand, (e.ended (w.bench.runOn files e.number e.operation).1).job =
      match e.job with
      | .running o number => .finished (w.bench.runOn files number o).1
      | job => job := by
    rintro ⟨o, number, result?⟩
    cases result? <;> rfl
  exact (jobs_finishJob ..).trans (h ▸ (map_modify same w.outstanding place).symm)

theorem begun_complete (w : Watched) (files : FileTree) (place : Nat) :
    (w.complete files place).outstanding.map Errand.begun = w.outstanding.map Errand.begun :=
  (map_modify (f := Errand.begun) (g := fun e : Errand =>
    e.ended (w.bench.runOn files e.number e.operation).1) (h := id) (fun _ => rfl) ..).trans
      (List.modify_id ..)

structure Completed (files : FileTree) (n : Nat) (w w' : Watched) : Prop where
  bench : w'.bench = (List.range n).foldl (fun b place => b.finishJob files place) w.bench
  attends : w'.Attends
  begun : w'.outstanding.map Errand.begun = w.outstanding.map Errand.begun
  ended : ∀ (i : Nat) (e : Errand), i < n → w'.outstanding[i]? = some e → e.result?.isSome
  kept : ∀ (i : Nat) (e : Errand), w.outstanding[i]? = some e → e.result?.isSome →
    w'.outstanding[i]? = some e

theorem Attends.completed (h : w.Attends) (files : FileTree) (n : Nat) :
    Completed files n w ((List.range n).foldl (Watched.complete files) w) := by
  induction n with
  | zero => exact ⟨rfl, h, rfl, by simp, fun _ _ found _ => found⟩
  | succ n ih =>
    rw [List.range_succ, List.foldl_append, List.foldl_cons, List.foldl_nil]
    generalize (List.range n).foldl (Watched.complete files) w = w' at ih
    refine ⟨?_, ih.attends.complete files n, ?_, fun i e early found => ?_,
      fun i e found known => ?_⟩
    · rw [List.range_succ, List.foldl_append, ← ih.bench]
      rfl
    · rw [begun_complete, ih.begun]
    · simp only [Watched.complete, List.getElem?_modify] at found
      cases old : w'.outstanding[i]? with
      | none => simp [old] at found
      | some e' =>
        by_cases last : n = i
        · obtain rfl : e'.ended _ = e := by simpa [old, last] using found
          rfl
        · obtain rfl : e' = e := by simpa [old, last] using found
          exact ih.ended i e' (by omega) old
    · have old := ih.kept i e found known
      by_cases last : n = i
      · simp [Watched.complete, old, last, Errand.ended_of_isSome known]
      · simp [Watched.complete, old, last]

/-- Where all has come to its end, the jobs are the results. -/
theorem Attends.results (h : w.Attends) (ended : ∀ e ∈ w.outstanding, e.result?.isSome) :
    w.outstanding.map Errand.result? = (w.bench.jobs.filterMap Job.result?).map some := by
  rw [h]
  generalize w.outstanding = errands at ended
  induction errands with
  | nil => rfl
  | cons e errands ih =>
    obtain ⟨first, others⟩ := List.forall_mem_cons.mp ended
    obtain ⟨result, known⟩ := Option.isSome_iff_exists.mp first
    have job : e.job = .finished result := by simp [Errand.job, known]
    rw [List.map_cons, List.map_cons, List.filterMap_cons, job, ih others, known]
    rfl

/-- What is noted accords with the bench. -/
structure Faithful (w : Watched) : Prop where
  attends : w.Attends
  started : w.started = (w.joins.flatMap Join.errands ++ w.outstanding).map Errand.begun
  joins : ∀ j ∈ w.joins, ∃ results, j.errands.map Errand.result? = results.map some ∧
    Answers j.answer results

theorem faithful_fresh : Faithful fresh := ⟨rfl, rfl, by simp [fresh]⟩

theorem Faithful.start (h : Faithful w) (o : Operation) : Faithful (w.step (.start o)) := by
  cases selected : w.bench.selectedStorage with
  | error f => simpa only [step, selected] using h
  | ok found =>
    have attends : w.bench.jobs = w.outstanding.map Errand.job := h.attends
    simp only [step, selected, startJob, Except.map]
    refine ⟨?_, ?_, h.joins⟩
    · simp [Attends, attends, Errand.job]
    · simp [h.started, Errand.begun]

theorem Faithful.completion (h : Faithful w) (files : FileTree) (place : Nat) :
    Faithful (w.step (.completion files place)) where
  attends := h.attends.complete files place
  started := by
    have begun := begun_complete w files place
    have started := h.started
    rw [List.map_append] at started ⊢
    exact started.trans (congrArg _ begun.symm)
  joins := h.joins

theorem Faithful.wait (h : Faithful w) (files : FileTree) : Faithful (w.step (.wait files)) := by
  have completed : Completed files w.outstanding.length w (w.completeAll files) :=
    h.attends.completed files w.outstanding.length
  have ended : ∀ e ∈ (w.completeAll files).outstanding, e.result?.isSome := by
    intro e member
    obtain ⟨i, found⟩ := List.mem_iff_getElem?.mp member
    have inside := (List.getElem?_eq_some_iff.mp found).1
    have length := congrArg List.length completed.begun
    rw [List.length_map, List.length_map] at length
    exact completed.ended i e (length ▸ inside) found
  have bench : w.bench.finishJobs files = (w.completeAll files).bench := by
    have length := congrArg List.length h.attends
    rw [List.length_map] at length
    rw [completed.bench, finishJobs, length]
  have started := h.started
  refine ⟨rfl, ?_, fun j member => ?_⟩
  · rw [List.map_append, ← completed.begun] at started
    simp [Watched.step, started]
  · obtain old | new := List.mem_append.mp member
    · exact h.joins j old
    · obtain rfl := List.mem_singleton.mp new
      refine ⟨_, completed.attends.results ended, ?_⟩
      rw [← bench]
      exact answers_joined _

theorem Faithful.step (h : Faithful w) (m : Move) : Faithful (w.step m) := by
  cases m with
  | start o => exact h.start o
  | completion files place => exact h.completion files place
  | wait files => exact h.wait files
  | other bench => exact ⟨h.attends, h.started, h.joins⟩

theorem Faithful.after (h : Faithful w) (moves : List Move) : Faithful (w.after moves) := by
  induction moves generalizing w with
  | nil => exact h
  | cons m moves ih => exact ih (h.step m)

theorem after_append (w : Watched) (moves more : List Move) :
    w.after (moves ++ more) = (w.after moves).after more :=
  List.foldl_append

end Watched

section Commands

/-- The list of the storages has nothing to do with the operations in the background. -/
theorem jobs_listing {request : Request} (listing : request.isListing = true) :
    (b.carryOut files request).2.jobs = b.jobs := by
  have effect : b.Effect (.request files request) (b.carryOut files request).2 :=
    effect_listing listing
  generalize (b.carryOut files request).2 = b' at effect
  cases effect with
  | refused => rfl
  | started done =>
    obtain ⟨s, after⟩ := start_eq_ok done
    rw [after]
    rfl
  | stopped _ done =>
    obtain ⟨_, _, _, _, _, after⟩ := stop_eq_ok done
    rw [after]
    rfl
  | selected done =>
    rw [select_eq_ok done]
  | reset => cases listing
  | plain plain =>
    cases request <;> simp [Request.isListing, Request.isAdministrative] at listing plain

def Request.isBackground : Request → Bool
  | .executeInBackground .. | .awaitBackground => true
  | _ => false

theorem jobs_withOperation {type : String} {args : List String}
    {next : Operation → Bench → Except Failure String × Bench}
    (kept : ∀ o b, (next o b).2.jobs = b.jobs) :
    (b.withOperation type args next).2.jobs = b.jobs := by
  unfold withOperation
  split
  · rename_i o b' made
    exact (kept o b').trans (beside_prepare made).jobs
  · rfl

/-- Other requests leave the operations in the background alone. -/
theorem jobs_carryOut (b : Bench) (files : FileTree) {request : Request}
    (other : request.isBackground = false) : (b.carryOut files request).2.jobs = b.jobs := by
  by_cases aside : request.isAside = true
  · exact (beside_carryOut b files aside).jobs
  cases request with
  | executeInBackground | awaitBackground => cases other
  | resetCounters => rfl
  | execute type args =>
    exact jobs_withOperation fun o b => jobs_execute b files o
  | executeAgain forgets? =>
    simp only [carryOut, executeAgain]
    split
    · rfl
    · split
      · rfl
      · exact jobs_execute b files _
  | startStorage | stopStorage | selectStorage => exact jobs_listing rfl
  | _ => exact absurd rfl aside

/-- What happens at a bench is some moves. -/
theorem Watched.change (w : Watched) (c : Change) :
    ∃ moves, (w.after moves).bench = w.bench.apply c := by
  have aside : ∀ b : Bench, b.jobs = w.bench.jobs → ∃ moves, (w.after moves).bench = b := by
    intro b same
    refine ⟨[.other b], ?_⟩
    rw [Watched.after, List.foldl_cons, List.foldl_nil, Watched.step, ← same]
  cases c with
  | invocation => exact aside _ rfl
  | completion files place => exact ⟨[.completion files place], rfl⟩
  | request files request =>
    by_cases other : request.isBackground = false
    · exact aside _ (jobs_carryOut w.bench files other)
    cases request with
    | awaitBackground => exact ⟨[.wait files], rfl⟩
    | executeInBackground type args =>
      cases made : w.bench.prepare type args with
      | error f => exact aside _ (by simp [apply, carryOut, withOperation, made])
      | ok p =>
        obtain ⟨o, b⟩ := p
        have same : b.jobs = w.bench.jobs := (beside_prepare made).jobs
        refine ⟨[.other b, .start o], ?_⟩
        simp only [Watched.after, List.foldl_cons, List.foldl_nil, Watched.step, apply, carryOut,
          withOperation, made, ← same]
        cases selected : b.selectedStorage with
        | error f => simp [selected, startJob, settleSilent, settle, Except.map]
        | ok found => simp [selected, startJob, settleSilent, settle, Except.map]
    | _ => exact absurd rfl other

theorem Watched.changes (w : Watched) (changes : List Change) :
    ∃ moves, (w.after moves).bench = w.bench.after changes := by
  induction changes generalizing w with
  | nil => exact ⟨[], rfl⟩
  | cons c changes ih =>
    obtain ⟨moves, first⟩ := w.change c
    obtain ⟨more, rest⟩ := ih (w.after moves)
    exact ⟨moves ++ more, by rw [after_append, rest, first]; rfl⟩

end Commands

/-- Whatever is started in the background, in whatever order it comes to its end and with whatever
results, and whatever else happens at the bench: what has been started is with the waits, each time
with the first one after the start, or still outstanding, in the order of the starts, and the bench
has a job for exactly what is outstanding. For each wait all that it joins has come to its end, some
of it before the wait and with the same result; the wait answers with all of the completed
operations in the order of their start where none has failed, and with the failure of the one that
was started first where some have. No job is left after it. A start is refused where no storage is
selected, and changes nothing then. All that is asked of a bench comes to such moves. -/
theorem starts_are_joined (moves : List Move) :
    let w := Watched.fresh.after moves
    w.started = (w.joins.flatMap Join.errands ++ w.outstanding).map Errand.begun ∧
    w.bench.jobs.length = w.outstanding.length ∧
    (∀ j ∈ w.joins, ∃ results, j.errands.map Errand.result? = results.map some ∧
      Answers j.answer results) ∧
    (∀ files, (w.step (.wait files)).bench.jobs = [] ∧
      ∃ errands, (w.step (.wait files)).joins =
          w.joins ++ [⟨errands, (w.bench.waitJobs files).1⟩] ∧
        errands.map Errand.begun = w.outstanding.map Errand.begun ∧
        ∀ (i : Nat) (e : Errand), w.outstanding[i]? = some e → e.result?.isSome →
          errands[i]? = some e) ∧
    (∀ o, ((∃ f, w.bench.startJob o = .error f) ↔ w.bench.hasSelected = false) ∧
      ((∃ f, w.bench.startJob o = .error f) → w.step (.start o) = w)) ∧
    ∀ changes, ∃ moves, (Watched.fresh.after moves).bench = Bench.fresh.after changes := by
  intro w
  have faithful : w.Faithful := Watched.faithful_fresh.after moves
  have attends : w.bench.jobs = w.outstanding.map Errand.job := faithful.attends
  refine ⟨faithful.started, by rw [attends, List.length_map], faithful.joins,
    fun files => ?_, fun o => ?_, Watched.fresh.changes⟩
  · have completed := faithful.attends.completed files w.outstanding.length
    exact ⟨rfl, _, rfl, completed.begun, completed.kept⟩
  · cases selected : w.bench.selectedStorage with
    | error f => simp [startJob, selected, Except.map, hasSelected, Except.toOption, Watched.step]
    | ok found => simp [startJob, selected, Except.map, hasSelected, Except.toOption]

end Runbook.Bench
