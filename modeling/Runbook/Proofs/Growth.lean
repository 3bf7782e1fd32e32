import Runbook.FileTree
/-! How files grow. What is there stays where it is, and a file only gets longer, so a path that
could be opened once means the same file from then on. -/
namespace Runbook

def Node.Grows : Node → Node → Prop
  | .file old, .file new => old <+: new
  | .directory, .directory | .nullDevice, .nullDevice => True
  | _, _ => False

def Node.emptied : Node → Node
  | .file _ => .file []
  | other => other

namespace Node

theorem Grows.refl (n : Node) : n.Grows n := by
  cases n with
  | file content => exact List.prefix_refl content
  | directory | nullDevice => trivial

theorem Grows.trans {n m o : Node} (first : n.Grows m) (second : m.Grows o) : n.Grows o := by
  cases n <;> cases m <;> cases o <;> simp only [Grows] at first second ⊢
  exact first.trans second

theorem Grows.emptied {n m : Node} (h : n.Grows m) : m.emptied = n.emptied := by
  cases n <;> cases m <;> simp_all [Grows, Node.emptied]

theorem emptied_eq_directory {n : Node} : n.emptied = .directory ↔ n = .directory := by
  cases n <;> simp [Node.emptied]

end Node

namespace FileTree

def content (t : FileTree) (name : String) : Bytes :=
  match t.nodes.get? name with
  | some (.file bytes) => bytes
  | _ => []

/-- The full path of the file that a path means. -/
def target? (t : FileTree) (path : String) : Option String :=
  match t.locate path with
  | .error _ => none
  | .ok place =>
    match t.node? place with
    | some (.file _) => some (fullPath place)
    | _ => none

def Opened (t : FileTree) (path : String) : Prop :=
  ∃ place node, t.locate path = .ok place ∧ t.node? place = some node ∧ node ≠ .directory

/-- Nothing is lost from a tree. -/
structure Grows (t u : FileTree) : Prop where
  home : u.home = t.home
  node : ∀ name node, t.nodes.get? name = some node →
    ∃ node', u.nodes.get? name = some node' ∧ node.Grows node'

/-- Two trees that differ in nothing but what is in their files. -/
structure SameShape (t u : FileTree) : Prop where
  home : u.home = t.home
  node : ∀ name, (u.nodes.get? name).map Node.emptied = (t.nodes.get? name).map Node.emptied

section Grows

variable {t u v : FileTree} {path : String} {bytes : Bytes}

theorem Grows.refl (t : FileTree) : t.Grows t := ⟨rfl, fun _ node h => ⟨node, h, .refl node⟩⟩

theorem Grows.trans (first : t.Grows u) (second : u.Grows v) : t.Grows v where
  home := second.home.trans first.home
  node name node h := by
    obtain ⟨node', h', grown⟩ := first.node name node h
    obtain ⟨node'', h'', grown'⟩ := second.node name node' h'
    exact ⟨node'', h'', grown.trans grown'⟩

/-- Growing is what setting a node does, where that is new or has grown itself. -/
theorem grows_set {name : String} {node : Node}
    (h : ∀ old, t.nodes.get? name = some old → old.Grows node) :
    t.Grows { t with nodes := t.nodes.set name node } where
  home := rfl
  node other old found := by
    by_cases same : other = name
    · subst same
      exact ⟨node, by simp, h old found⟩
    · exact ⟨old, by simpa [same] using found, .refl old⟩

theorem Grows.node? (h : t.Grows u) {place : List String} {node : Node}
    (found : t.node? place = some node) : ∃ node', u.node? place = some node' ∧ node.Grows node' := by
  unfold FileTree.node? at found ⊢
  split at found
  · exact ⟨node, by simpa [‹place.isEmpty = true›] using found, .refl node⟩
  · simpa [*] using h.node _ _ found

theorem Grows.walk (h : t.Grows u) {here names place : List String}
    (found : t.walk here names = .ok place) : u.walk here names = .ok place := by
  induction names generalizing here with
  | nil => exact found
  | cons name rest ih =>
    unfold FileTree.walk at found ⊢
    cases node : t.node? here with
    | none => simp [node] at found
    | some n =>
      obtain ⟨n', node', grown⟩ := h.node? node
      cases n with
      | file _ | nullDevice => simp [node] at found
      | directory =>
        cases n' with
        | file _ | nullDevice => exact absurd grown id
        | directory =>
          simp only [node, node'] at found ⊢
          split
          · exact ih (by simpa [*] using found)
          split
          · exact ih (by simpa [*] using found)
          split
          · simp [*] at found
          · exact ih (by simpa [*] using found)

theorem Grows.locate (h : t.Grows u) {place : List String} (found : t.locate path = .ok place) :
    u.locate path = .ok place := by
  unfold FileTree.locate at found ⊢
  cases checked : check path with
  | error _ => simp [checked, bind, Except.bind] at found
  | ok _ =>
    simp only [checked, bind, Except.bind, origin, h.home] at found ⊢
    exact h.walk found

/-- What can be appended to once can be so for good. -/
theorem Opened.mono (h : t.Opened path) (grows : t.Grows u) : u.Opened path := by
  obtain ⟨place, node, located, found, other⟩ := h
  obtain ⟨node', found', grown⟩ := grows.node? found
  refine ⟨place, node', grows.locate located, found', ?_⟩
  rintro rfl
  exact other (Node.emptied_eq_directory.mp grown.emptied.symm)

/-- A path that has been opened means the same file for good. -/
theorem Opened.target? (h : t.Opened path) (grows : t.Grows u) : u.target? path = t.target? path := by
  obtain ⟨place, node, located, found, _⟩ := h
  obtain ⟨node', found', grown⟩ := grows.node? found
  simp only [FileTree.target?, located, grows.locate located, found, found']
  cases node <;> cases node' <;> simp_all [Node.Grows]

theorem Grows.content (h : t.Grows u) (name : String) : t.content name <+: u.content name := by
  unfold FileTree.content
  cases found : t.nodes.get? name with
  | none => exact List.nil_prefix
  | some node =>
    obtain ⟨node', found', grown⟩ := h.node name node found
    cases node with
    | directory | nullDevice => exact List.nil_prefix
    | file old =>
      cases node' with
      | file new =>
        rw [found']
        exact grown
      | directory | nullDevice => exact absurd grown id

end Grows

section Append

variable {t u : FileTree} {path : String} {bytes : Bytes}

/-- Appending either does nothing or sets the node of a file. -/
theorem append_cases (t : FileTree) (path : String) (bytes : Bytes) :
    (t.target? path = none ∧ t.append path bytes = t) ∨
    ∃ place old, t.target? path = some (fullPath place) ∧
      t.nodes.get? (fullPath place) = some (.file old) ∧
      t.append path bytes =
        { t with nodes := t.nodes.set (fullPath place) (.file (old ++ bytes)) } := by
  unfold target? append
  cases t.locate path with
  | error _ => exact .inl ⟨rfl, rfl⟩
  | ok place =>
    cases found : t.node? place with
    | none => exact .inl ⟨by simp [found], by simp [found]⟩
    | some node =>
      cases node with
      | directory | nullDevice => exact .inl ⟨by simp [found], by simp [found]⟩
      | file old =>
        refine .inr ⟨place, old, by simp [found], ?_, by simp [found]⟩
        unfold node? at found
        split at found
        · cases found
        · exact found

theorem grows_append (t : FileTree) (path : String) (bytes : Bytes) :
    t.Grows (t.append path bytes) := by
  obtain ⟨_, same⟩ | ⟨place, old, _, found, same⟩ := append_cases t path bytes
  · rw [same]
    exact .refl t
  · rw [same]
    refine grows_set fun node again => ?_
    obtain rfl : Node.file old = node := by simpa [found] using again
    exact List.prefix_append old bytes

/-- Bytes go to the end of the file that is meant, and to no other one. -/
theorem content_append (t : FileTree) (path : String) (bytes : Bytes) (name : String) :
    (t.append path bytes).content name =
      t.content name ++ if t.target? path = some name then bytes else [] := by
  obtain ⟨target, same⟩ | ⟨place, old, target, found, same⟩ := append_cases t path bytes
  · simp [same, target]
  · by_cases other : fullPath place = name
    · subst other
      simp [same, target, content, found]
    · simp [same, target, content, other, Ne.symm other]

theorem sameShape_append (t : FileTree) (path : String) (bytes : Bytes) :
    t.SameShape (t.append path bytes) := by
  obtain ⟨_, same⟩ | ⟨place, old, _, found, same⟩ := append_cases t path bytes
  · rw [same]
    exact ⟨rfl, fun _ => rfl⟩
  · rw [same]
    refine ⟨rfl, fun name => ?_⟩
    by_cases here : name = fullPath place
    · subst here
      simp [found, Node.emptied]
    · simp [here]

def opening (t : FileTree) (path : String) : Except PathFault (List String) := do
  check path
  if let some outer := outerDirectory? path then
    let _ ← t.walk (t.origin path) outer
    throw .isDirectory
  let place ← t.locate path
  if t.node? place = some .directory then throw .isDirectory
  return place

def withFile (t : FileTree) (place : List String) : FileTree :=
  match t.node? place with
  | some _ => t
  | none => { t with nodes := t.nodes.set (fullPath place) (.file []) }

theorem openAppend_eq (t : FileTree) (path : String) :
    t.openAppend path = (t.opening path).map t.withFile := by
  unfold openAppend opening
  cases check path with
  | error _ => rfl
  | ok _ =>
    cases outerDirectory? path with
    | some outer => cases walked : t.walk (t.origin path) outer <;> simp [walked] <;> rfl
    | none =>
      cases located : t.locate path with
      | error _ => rfl
      | ok place =>
        rcases found : t.node? place with _ | _ | _ | _ <;>
          simp [bind, Except.bind, Except.map, pure, Except.pure, throw, throwThe,
            MonadExceptOf.throw, found, withFile]

theorem opening_eq_ok {place : List String} (h : t.opening path = .ok place) :
    t.locate path = .ok place ∧ t.node? place ≠ some .directory := by
  unfold opening at h
  cases checked : check path with
  | error _ => simp [checked, bind, Except.bind] at h
  | ok _ =>
    cases outer : outerDirectory? path with
    | some way =>
      cases walked : t.walk (t.origin path) way <;>
        simp [checked, outer, walked, bind, Except.bind, throw, throwThe, MonadExceptOf.throw] at h
    | none =>
      cases located : t.locate path with
      | error _ => simp [checked, outer, located, bind, Except.bind] at h
      | ok there =>
        by_cases directory : t.node? there = some .directory
        · simp [checked, outer, located, directory, bind, Except.bind, throw, throwThe,
            MonadExceptOf.throw] at h
        · obtain rfl : there = place := by
            simpa [checked, outer, located, directory, bind, Except.bind, pure, Except.pure] using h
          exact ⟨rfl, directory⟩

theorem withFile_spec (t : FileTree) (place : List String) :
    t.Grows (t.withFile place) ∧ (∃ node, (t.withFile place).node? place = some node ∧
      (t.node? place ≠ some .directory → node ≠ .directory)) ∧
    ∀ name, (t.withFile place).content name = t.content name := by
  unfold withFile
  cases found : t.node? place with
  | some node => exact ⟨.refl t, ⟨node, found, by simp⟩, fun _ => rfl⟩
  | none =>
    obtain ⟨inner, missing⟩ : place.isEmpty = false ∧ t.nodes.get? (fullPath place) = none := by
      unfold node? at found
      split at found
      · cases found
      · exact ⟨Bool.eq_false_iff.mpr ‹_›, found⟩
    refine ⟨grows_set fun old there => by simp [missing] at there, ⟨.file [], ?_, by simp⟩,
      fun name => ?_⟩
    · simp [node?, inner]
    · by_cases here : name = fullPath place
      · subst here
        simp [content, missing]
      · simp [content, here]

/-- Opening creates the file where it is missing, and changes no content. -/
theorem openAppend_eq_ok (h : t.openAppend path = .ok u) :
    t.Grows u ∧ u.Opened path ∧ ∀ name, u.content name = t.content name := by
  rw [openAppend_eq] at h
  cases opened : t.opening path with
  | error _ => simp [opened, Except.map] at h
  | ok place =>
    obtain rfl : t.withFile place = u := by simpa [opened, Except.map] using h
    obtain ⟨located, other⟩ := opening_eq_ok opened
    obtain ⟨grows, ⟨node, found, kind⟩, same⟩ := withFile_spec t place
    exact ⟨grows, ⟨place, node, grows.locate located, found, kind other⟩, same⟩

end Append

section Shape

variable {t u : FileTree}

theorem SameShape.node? (h : t.SameShape u) (place : List String) :
    (u.node? place).map Node.emptied = (t.node? place).map Node.emptied := by
  unfold FileTree.node?
  split
  · rfl
  · exact h.node _

/-- Paths are followed without a look into files. -/
theorem SameShape.walk (h : t.SameShape u) (here names : List String) :
    u.walk here names = t.walk here names := by
  induction names generalizing here with
  | nil => rfl
  | cons name rest ih =>
    have same := h.node? here
    unfold FileTree.walk
    cases found : t.node? here with
    | none =>
      obtain found' : u.node? here = none := by simpa [found] using same
      simp [found']
    | some n =>
      obtain ⟨n', found', emptied⟩ : ∃ n', u.node? here = some n' ∧ n'.emptied = n.emptied := by
        simpa [found] using same
      cases n <;> cases n' <;> simp_all [Node.emptied]

theorem SameShape.locate (h : t.SameShape u) (path : String) : u.locate path = t.locate path := by
  unfold FileTree.locate origin
  simp only [h.home, h.walk]

theorem SameShape.directory_iff (h : t.SameShape u) (place : List String) :
    u.node? place = some .directory ↔ t.node? place = some .directory := by
  have same := h.node? place
  have kind : ∀ node? : Option Node,
      node? = some .directory ↔ node?.map Node.emptied = some .directory := by
    simp [Option.map_eq_some_iff, Node.emptied_eq_directory]
  rw [kind, kind (t.node? place), same]

/-- Whether a path can be opened does not depend on what is in the files. -/
theorem SameShape.opening (h : t.SameShape u) (path : String) : u.opening path = t.opening path := by
  unfold FileTree.opening origin
  simp only [h.home, h.walk, h.locate, h.directory_iff]

/-- What could not be opened can still not be opened after something has been written. -/
theorem openAppend_append {path other : String} {bytes : Bytes} {fault : PathFault}
    (failed : t.openAppend path = .error fault) :
    (t.append other bytes).openAppend path = .error fault := by
  rw [openAppend_eq, (sameShape_append t other bytes).opening]
  rw [openAppend_eq] at failed
  cases opened : t.opening path with
  | error _ => simpa [opened, Except.map] using failed
  | ok _ => simp [opened, Except.map] at failed

/-- What could be opened can still be opened after something has been written. -/
theorem openAppend_append_ok {path other : String} {bytes : Bytes} {u : FileTree}
    (succeeds : t.openAppend path = .ok u) :
    ∃ v, (t.append other bytes).openAppend path = .ok v := by
  rw [openAppend_eq, (sameShape_append t other bytes).opening]
  rw [openAppend_eq] at succeeds
  cases opened : t.opening path with
  | error _ => simp [opened, Except.map] at succeeds
  | ok place => exact ⟨_, rfl⟩

end Shape

end FileTree

end Runbook
