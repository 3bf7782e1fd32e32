import Runbook.Proofs.ControlText
import Runbook.Proofs.Doubling
import Runbook.Shell.Session
/-! Sessions as conversations. A session answers the lines of its input one after the other and
writes the prompt after each of them; what it writes is the prompts with the answers between them,
and what it leaves is what the commands of the lines leave. -/
namespace Runbook.Shell

open Course

section Lines

inductive Divided : List Char → List (List Char) → Prop
  | nil : Divided [] []
  /-- The last line counts without an ending when there is something in it. -/
  | last {line : List Char} (some : line ≠ []) (free : '\n' ∉ line) : Divided line [line]
  | ended {line rest : List Char} {lines : List (List Char)} (free : '\n' ∉ line)
      (bare : line.getLast? ≠ some '\r') (later : Divided rest lines) :
      Divided (line ++ '\n' :: rest) (line :: lines)
  /-- One carriage return belongs to the ending. -/
  | returned {line rest : List Char} {lines : List (List Char)} (free : '\n' ∉ line)
      (later : Divided rest lines) : Divided (line ++ '\r' :: '\n' :: rest) (line :: lines)

variable {s line rest : List Char} {lines : List (List Char)}

theorem Divided.cons_dropReturn (free : '\n' ∉ line) (later : Divided rest lines) :
    Divided (line ++ '\n' :: rest) (Text.dropReturn line :: lines) := by
  by_cases returns : line.getLast? = some '\r'
  · obtain ⟨front, rfl⟩ := List.getLast?_eq_some_iff.mp returns
    rw [Text.dropReturn, if_pos returns, List.dropLast_concat, List.append_assoc]
    apply Divided.returned _ later
    intro member
    exact free (List.mem_append_left _ member)
  · rw [Text.dropReturn, if_neg returns]
    exact .ended free returns later

/-- A text divides into lines in one way, which is how it is read. -/
theorem divided_iff : Divided s lines ↔ lines = Text.lineList s := by
  constructor
  · intro divided
    induction divided with
    | nil => rfl
    | last some free => rw [ControlFile.lineList_of_not_mem free, if_neg (by simpa using some)]
    | ended free bare _ ih =>
      rw [ControlFile.lineList_append free, Text.dropReturn, if_neg bare, ih]
    | @returned line rest _ free _ ih =>
      have noFeed : '\n' ∉ line ++ ['\r'] := by simpa using free
      have split : Text.lineList (line ++ ['\r'] ++ '\n' :: rest) = _ :=
        ControlFile.lineList_append noFeed
      rw [List.append_assoc] at split
      rw [ih]
      simpa [Text.dropReturn] using split.symm
  · rintro rfl
    induction s using ControlFile.line_induction with
    | none => exact .nil
    | last s some free =>
      rw [ControlFile.lineList_of_not_mem free, if_neg (by simpa using some)]
      exact .last some free
    | line s rest free ih =>
      rw [ControlFile.lineList_append free]
      exact .cons_dropReturn free ih

end Lines

def Closes (line : String) : Prop := ∃ args, splitWords line = some ("close" :: args)

/-- How a line is answered: what happens, what is written, and the world that is left. -/
inductive Answered (e : Engine) (line : String) (w : World) :
    List (Step World) → String → World → Prop
  | blank (words : splitWords line = some []) : Answered e line w [] "" w
  | unterminated (words : splitWords line = none) :
      Answered e line w [] "Unterminated quoted string\n"
        (w.write .text "Unterminated quoted string\n")
  | unknown {name : String} {args : List String} (words : splitWords line = some (name :: args))
      (none : w.command? name = none) :
      Answered e line w []
        ("Unknown command: " ++ name ++ "\nUse 'help' to see all available commands\n")
        (w.write .text
          ("Unknown command: " ++ name ++ "\nUse 'help' to see all available commands\n"))
  | answered {name : String} {args : List String} {c : Command} {path : List (Step World)}
      {success : Bool} {output : String} {left : World}
      (words : splitWords line = some (name :: args)) (known : w.command? name = some c)
      (ran : (c.perform e args .text w).Ends path (.ok success) left)
      (said : Appends (some .text) w path left output) : Answered e line w path output left
  | failed {name : String} {args : List String} {c : Command} {path : List (Step World)}
      {f : Failure} {output : String} {left : World}
      (words : splitWords line = some (name :: args)) (known : w.command? name = some c)
      (ran : (c.perform e args .text w).Ends path (.error f) left)
      (said : Appends (some .text) w path left output) :
      Answered e line w path (output ++ ("Error: " ++ f.message ++ "\n"))
        (left.write .text ("Error: " ++ f.message ++ "\n"))

structure Exchange where
  line : String
  path : List (Step World)
  output : String
  /-- Before the next prompt. -/
  left : World

/-- Lines are answered one after the other, each with a prompt after it. None of them comes after
the shutdown or closes the session. -/
inductive Conversed (e : Engine) (prompt : String) : World → List Exchange → World → Prop
  | nil {w : World} : Conversed e prompt w [] w
  | cons {w w' : World} {x : Exchange} {rest : List Exchange} (running : w.shutdown = false)
      (goesOn : ¬ Closes x.line) (answered : Answered e x.line w x.path x.output x.left)
      (later : Conversed e prompt (x.left.write .text prompt) rest w') :
      Conversed e prompt w (x :: rest) w'

/-- Nobody else writes to the text while a run waits. -/
def Undisturbed (path : List (Step World)) : Prop :=
  ∀ reason s now, .waited reason s now ∈ path → now.text = s.text

def transcript (prompt : String) (xs : List Exchange) : String :=
  prompt ++ String.join (xs.map fun x => x.output ++ prompt)

def Over (w : World) (rest : List String) : Prop :=
  w.shutdown = true ∨ rest = [] ∨ ∃ line more, rest = line :: more ∧ Closes line

def AtWork (e : Engine) (line : String) (w : World) (path : List (Step World)) : Prop :=
  ∃ name args c d, splitWords line = some (name :: args) ∧ w.command? name = some c ∧
    (c.perform e args .text w).Reaches path d

section Answers

variable {e : Engine} {line prompt output : String} {w w' : World} {path : List (Step World)}

theorem write_write (w : World) (s t : String) :
    (w.write .text s).write .text t = w.write .text (s ++ t) := by
  simp [World.write, String.append_assoc]

theorem writeLines_unknownCommand (w : World) (name : String) :
    w.writeLines .text (unknownCommand name) = w.write .text
      ("Unknown command: " ++ name ++ "\nUse 'help' to see all available commands\n") := by
  simp only [World.writeLines, unknownCommand, List.foldl_cons, List.foldl_nil, World.writeLine,
    write_write]
  congr 1
  simp only [String.append_assoc]
  rfl

theorem appends_write (w : World) (s : String) : Appends (some .text) w [] (w.write .text s) s :=
  adds_text.mpr ⟨rfl, rfl⟩

/-- What a command writes to the text. -/
theorem appends_of_performed {bound : Nat} {c : Command} {args : List String} {answer : Answer}
    (ran : (c.perform (Action.engine Command.perform bound) args .text w).Ends path answer w') :
    ∃ output, Appends (some .text) w path w' output := by
  have runs : Runner.Doubles (Action.engine Command.perform bound).run :=
    doubles_runner doubles_perform bound
  have stream : Paired .text .text .text := .stream (by simp)
  have twin := doubles_perform _ runs .text .text .text c args w w stream (.refl w) ""
  obtain ⟨_, _, _, output, _, _, _, _, said, _⟩ := twin.ends ran fun e _ => not_strays_none e
  exact ⟨output, said⟩

/-- The text of a run that nobody disturbs. -/
theorem text_of_appends (h : Appends (some .text) w path w' output) (alone : Undisturbed path) :
    w'.text = w.text ++ output := by
  induction path generalizing w output with
  | nil => exact (adds_text.mp h).1
  | cons step path ih =>
    have rest : Undisturbed path := fun reason s now member =>
      alone reason s now (List.mem_cons_of_mem _ member)
    cases step with
    | event _ s =>
      obtain ⟨u, v, rfl, adds, later⟩ := h
      rw [ih later rest, (adds_text.mp adds).1, String.append_assoc]
    | waited reason s now =>
      obtain ⟨u, v, rfl, adds, later⟩ := h
      have kept : now.text = s.text := alone reason s now List.mem_cons_self
      rw [ih later rest, kept, (adds_text.mp adds).1, String.append_assoc]

theorem Answered.appends (h : Answered e line w path output w') :
    Appends (some .text) w path w' output := by
  cases h with
  | blank => exact adds_nothing _ rfl
  | unterminated | unknown => exact appends_write w _
  | answered _ _ _ said => exact said
  | @failed _ _ _ _ f _ left _ _ _ said =>
    have whole := said.append (appends_write left ("Error: " ++ f.message ++ "\n"))
    rwa [List.append_nil] at whole

theorem line_read_eq_close : Line.read line = .close ↔ Closes line := by
  constructor
  · intro close
    unfold Line.read at close
    split at close
    · cases close
    · cases close
    · rename_i name args words
      split at close
      · rename_i named
        exact ⟨args, named ▸ words⟩
      · cases close
  · rintro ⟨args, words⟩
    simp [Line.read, words]

theorem line_read_command {name : String} {args : List String} (goesOn : ¬ Closes line)
    (words : splitWords line = some (name :: args)) : Line.read line = .command name args := by
  have other : name ≠ "close" := by
    rintro rfl
    exact goesOn ⟨args, words⟩
  simp [Line.read, words, other]

/-- What is said of a failure comes after all that a command does. -/
theorem ends_runCommand {e : Engine} {name : String} {args : List String} {c : Command}
    {answer : Answer} (known : w.command? name = some c)
    (ran : (c.perform e args .text w).Ends path answer w') :
    (runCommand e name args w).Ends path () (writeFailure answer w') := by
  have ended : (done () (writeFailure answer w')).Ends [] () (writeFailure answer w') := .here
  have whole := ran.bind (f := fun answer w => done () (writeFailure answer w)) ended
  rw [List.append_nil] at whole
  simpa only [runCommand, known] using whole

/-- A line is answered as its words say. -/
theorem ends_respond {bound : Nat} (goesOn : ¬ Closes line) :
    (respond (Action.engine Command.perform bound) w (Line.read line)).Ends path () w' ↔
      ∃ output, Answered (Action.engine Command.perform bound) line w path output w' := by
  constructor
  · intro ends
    rcases words : splitWords line with _ | _ | ⟨name, args⟩
    · rw [Line.read, words] at ends
      obtain ⟨rfl, _, rfl⟩ := ends_done.mp ends
      exact ⟨_, .unterminated words⟩
    · rw [Line.read, words] at ends
      obtain ⟨rfl, _, rfl⟩ := ends_done.mp ends
      exact ⟨_, .blank words⟩
    · rw [line_read_command goesOn words] at ends
      simp only [respond, runCommand] at ends
      split at ends
      · rename_i none
        obtain ⟨rfl, _, rfl⟩ := ends_done.mp ends
        rw [writeLines_unknownCommand]
        exact ⟨_, .unknown words none⟩
      · rename_i c known
        obtain ⟨path, last, answer, left, rfl, ran, ended⟩ := ends_bind.mp ends
        obtain ⟨rfl, _, rfl⟩ := ends_done.mp ended
        obtain ⟨output, said⟩ := appends_of_performed ran
        rw [List.append_nil]
        cases answer with
        | ok success => exact ⟨_, .answered words known ran said⟩
        | error f => exact ⟨_, .failed words known ran said⟩
  · rintro ⟨output, answered⟩
    cases answered with
    | blank words =>
      rw [Line.read, words]
      exact .here
    | unterminated words =>
      rw [Line.read, words]
      exact .here
    | unknown words none =>
      rw [line_read_command goesOn words, ← writeLines_unknownCommand]
      simp only [respond, runCommand, none]
      exact .here
    | answered words known ran =>
      rw [line_read_command goesOn words]
      exact ends_runCommand known ran
    | failed words known ran =>
      rw [line_read_command goesOn words]
      exact ends_runCommand known ran

end Answers

section Sessions

variable {bound : Nat} {prompt : String} {w w' : World} {lines : List String}
  {path : List (Step World)} {xs : List Exchange}

theorem Conversed.appends {e : Engine} (h : Conversed e prompt w xs w') :
    Appends (some .text) w (xs.flatMap Exchange.path) w'
      (String.join (xs.map fun x => x.output ++ prompt)) := by
  induction h with
  | nil => exact adds_nothing _ rfl
  | cons _ _ answered _ ih =>
    have said := (answered.appends.append (appends_write _ prompt)).append ih
    rw [List.append_nil] at said
    simpa [String.join_cons] using said

theorem serve_cons {e : Engine} {line : String} {rest : List String} (running : w.shutdown = false)
    (goesOn : ¬ Closes line) :
    serve e prompt (line :: rest) w =
      (respond e w (Line.read line)).bind fun _ w =>
        serve e prompt rest (w.write .text prompt) := by
  have other : Line.read line ≠ .close := fun close => goesOn (line_read_eq_close.mp close)
  simp only [serve, running]
  cases read : Line.read line with
  | close => exact absurd read other
  | _ => rfl

theorem serve_of_over {e : Engine} (finished : Over w lines) :
    serve e prompt lines w = .done () w := by
  cases lines with
  | nil => rfl
  | cons line rest =>
    rcases finished with down | none | ⟨_, _, same, closes⟩
    · simp [serve, down]
    · cases none
    · cases same
      rw [serve, line_read_eq_close.mpr closes, ite_self]

theorem not_over {line : String} (h : ¬ Over w (line :: lines)) :
    w.shutdown = false ∧ ¬ Closes line :=
  ⟨by simpa using fun down => h (.inl down),
    fun closes => h (.inr (.inr ⟨line, lines, rfl, closes⟩))⟩

/-- A session answers its lines one after the other until it is over. -/
theorem ends_serve :
    (serve (Action.engine Command.perform bound) prompt lines w).Ends path () w' ↔
      ∃ xs rest, lines = xs.map Exchange.line ++ rest ∧ path = xs.flatMap Exchange.path ∧
        Conversed (Action.engine Command.perform bound) prompt w xs w' ∧ Over w' rest := by
  constructor
  · intro ends
    induction lines generalizing w path with
    | nil =>
      obtain ⟨rfl, _, rfl⟩ := ends_done.mp ends
      exact ⟨[], [], rfl, rfl, .nil, .inr (.inl rfl)⟩
    | cons line rest ih =>
      by_cases finished : Over w (line :: rest)
      · rw [serve_of_over finished] at ends
        obtain ⟨rfl, _, rfl⟩ := ends_done.mp ends
        exact ⟨[], line :: rest, rfl, rfl, .nil, finished⟩
      · obtain ⟨running, goesOn⟩ := not_over finished
        rw [serve_cons running goesOn] at ends
        obtain ⟨inside, last, _, left, rfl, responded, later⟩ := ends_bind.mp ends
        obtain ⟨output, answered⟩ := (ends_respond goesOn).mp responded
        obtain ⟨xs, rest, rfl, rfl, conversed, finished⟩ := ih later
        exact ⟨⟨line, inside, output, left⟩ :: xs, rest, rfl, rfl,
          .cons running goesOn answered conversed, finished⟩
  · rintro ⟨xs, rest, rfl, rfl, conversed, finished⟩
    induction conversed with
    | nil =>
      rw [List.map_nil, List.nil_append, serve_of_over finished]
      exact .here
    | cons running goesOn answered _ ih =>
      rw [List.map_cons, List.cons_append, serve_cons running goesOn]
      exact Ends.bind ((ends_respond goesOn).mpr ⟨_, answered⟩) (ih finished)

/-- While a line is answered its command is at work, if it has one. -/
theorem reaches_respond {e : Engine} {line : String} {d : Course World Unit}
    (goesOn : ¬ Closes line) (h : (respond e w (Line.read line)).Reaches path d) :
    AtWork e line w path ∨ ∃ left, path = [] ∧ d = done () left := by
  rcases words : splitWords line with _ | _ | ⟨name, args⟩
  · rw [Line.read, words] at h
    exact .inr ⟨_, reaches_done.mp h⟩
  · rw [Line.read, words] at h
    exact .inr ⟨_, reaches_done.mp h⟩
  · rw [line_read_command goesOn words] at h
    simp only [respond, runCommand] at h
    split at h
    · exact .inr ⟨_, reaches_done.mp h⟩
    · rename_i c known
      apply Or.inl
      obtain ⟨d, ran, _⟩ | ⟨p, q, answer, left, rfl, some, ran, ended⟩ := reaches_bind_cases h
      · exact ⟨name, args, c, d, words, known, ran⟩
      · exact absurd (reaches_done.mp ended).1 some

/-- Wherever a session has come, it is over, or the next line is at work. -/
theorem reaches_serve {d : Course World Unit}
    (h : (serve (Action.engine Command.perform bound) prompt lines w).Reaches path d) :
    ∃ xs rest v, lines = xs.map Exchange.line ++ rest ∧
      Conversed (Action.engine Command.perform bound) prompt w xs v ∧
      ((Over v rest ∧ path = xs.flatMap Exchange.path) ∨
        ∃ line more inside, rest = line :: more ∧ ¬ Over v rest ∧
          path = xs.flatMap Exchange.path ++ inside ∧
          AtWork (Action.engine Command.perform bound) line v inside) := by
  induction lines generalizing w path with
  | nil =>
    obtain ⟨rfl, rfl⟩ := reaches_done.mp h
    exact ⟨[], [], w, rfl, .nil, .inl ⟨.inr (.inl rfl), rfl⟩⟩
  | cons line lines ih =>
    by_cases finished : Over w (line :: lines)
    · rw [serve_of_over finished] at h
      obtain ⟨rfl, rfl⟩ := reaches_done.mp h
      exact ⟨[], line :: lines, w, rfl, .nil, .inl ⟨finished, rfl⟩⟩
    · obtain ⟨running, goesOn⟩ := not_over finished
      rw [serve_cons running goesOn] at h
      -- Either the line is still at work, or the session has gone on behind it.
      have split : AtWork (Action.engine Command.perform bound) line w path ∨
          ∃ p q left, path = p ++ q ∧
            (respond (Action.engine Command.perform bound) w (Line.read line)).Ends p () left ∧
            (serve (Action.engine Command.perform bound) prompt lines
              (left.write .text prompt)).Reaches q d := by
        obtain ⟨d', within, rfl⟩ | ⟨p, q, _, left, rfl, _, ended, later⟩ := reaches_bind_cases h
        · rcases reaches_respond goesOn within with atWork | ⟨left, rfl, rfl⟩
          · exact .inl atWork
          · exact .inr ⟨[], [], left, rfl, within, .here⟩
        · exact .inr ⟨p, q, left, rfl, ended, later⟩
      rcases split with atWork | ⟨p, q, left, rfl, ended, later⟩
      · exact ⟨[], line :: lines, w, rfl, .nil,
          .inr ⟨line, lines, path, rfl, finished, rfl, atWork⟩⟩
      · obtain ⟨output, answered⟩ := (ends_respond goesOn).mp ended
        obtain ⟨xs, rest, v, rfl, conversed, come⟩ := ih later
        refine ⟨⟨line, p, output, left⟩ :: xs, rest, v, rfl,
          .cons running goesOn answered conversed, ?_⟩
        rcases come with ⟨finished, rfl⟩ | ⟨next, more, inside, rfl, goesOn, rfl, atWork⟩
        · exact .inl ⟨finished, rfl⟩
        · refine .inr ⟨next, more, inside, rfl, goesOn, ?_, atWork⟩
          rw [List.flatMap_cons, List.append_assoc]

/-- A session over an input, whatever its lines are and whatever their commands come to.

The input divides into lines at the line feeds. The session comes to its end along a path just when
that is the path of the first lines, answered in order, and the session is over then: after the
shutdown, at the end of the input, or before a line that closes it, of which nothing is heard. So a
line that says nothing, asks for nothing known or fails is followed by the next one, and what is
left is what the commands leave. Wherever a session has come before its end, the first lines are
answered and the command of the next one is at work.

What the session has written is the prompt, and after each line its output and the prompt again; it
is what the text has grown by, unless others write there while a command waits. After the shutdown
there is nothing but the first prompt. -/
theorem session_converses (bound : Nat) (prompt input : String) (w : World) :
    let e := Action.engine Command.perform bound
    let first := w.write .text prompt
    Divided input.toList ((Text.lines input).map String.toList) ∧
    (∀ path w', (session e prompt input w).Ends path () w' ↔
      ∃ xs rest, Text.lines input = xs.map Exchange.line ++ rest ∧
        path = xs.flatMap Exchange.path ∧ Conversed e prompt first xs w' ∧ Over w' rest) ∧
    (∀ path d, (session e prompt input w).Reaches path d →
      ∃ xs rest v, Text.lines input = xs.map Exchange.line ++ rest ∧
        Conversed e prompt first xs v ∧
        ((Over v rest ∧ path = xs.flatMap Exchange.path) ∨
          ∃ line more inside, rest = line :: more ∧ ¬ Over v rest ∧
            path = xs.flatMap Exchange.path ++ inside ∧ AtWork e line v inside)) ∧
    (∀ xs w', Conversed e prompt first xs w' →
      let path := xs.flatMap Exchange.path
      Appends (some .text) w path w' (transcript prompt xs) ∧
        (Undisturbed path → w'.text = w.text ++ transcript prompt xs)) ∧
    (w.shutdown = true → session e prompt input w = .done () first) := by
  intro e first
  refine ⟨?_, fun path w' => ends_serve, fun path d reached => reaches_serve reached,
    fun xs w' conversed => ?_, fun down => ?_⟩
  · have lines : (Text.lines input).map String.toList = Text.lineList input.toList := by
      simp [Text.lines, Function.comp_def]
    exact divided_iff.mpr lines
  · have said := (appends_write w prompt).append conversed.appends
    exact ⟨said, text_of_appends said⟩
  · apply serve_of_over
    exact .inl (by simpa using down)

example :
    let w := World.fresh Command.withLog ⟨[], []⟩ ⟨0, 0⟩ (FileTree.bare [])
    let input := "echo 'a b'\r\n\nno such\nquit\necho c\n"
    ((session (Action.engine Command.perform 3) "> " input w).direct?.map (·.2.2.text)) =
      some ("> a b\n> > Unknown command: no\n" ++
        "Use 'help' to see all available commands\n> Shutting down\n> ") := by
  decide +kernel

end Sessions

end Runbook.Shell
