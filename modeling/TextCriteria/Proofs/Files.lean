import TextCriteria.Files
import TextCriteria.Proofs.Entries

namespace TextCriteria

/-!
# Where paths lead

A path leads over directories only, so where it leads can be told from its names alone. A file that is removed
was on no way to anything else.

* `Path.after` — the place after one step; `Files.walk_cons`, what a step takes.
* `Files.place_eq` — the names of the place that a path leads to.
* `Files.walk_of_directories` — the same way among other files.
* `Files.at?_remove` — a file that is removed is not there.
-/

/-- The place after one step of a path. -/
def Path.after (place : Place) (step : String) : Place :=
  if step.isEmpty || step == "." then place
  else if step == ".." then place.dropLast
  else place ++ [step]

namespace Files

variable {f f' : Files} {path : String} {place q : Place} {steps : List String}

/-- A step can be taken in a directory. -/
theorem walk_cons {step : String} : f.walk place (step :: steps) = .ok q ↔
    f.node? place = some .directory ∧ f.walk (Path.after place step) steps = .ok q := by
  rw [walk]
  cases f.node? place with
  | none => simp
  | some node =>
    cases node with
    | file bytes => simp
    | directory =>
      unfold Path.after
      split_ifs <;> simp

/-- Where a way leads does not depend on the files. -/
theorem walk_eq (h : f.walk place steps = .ok q) : q = steps.foldl Path.after place := by
  induction steps generalizing place with
  | nil => exact (Except.ok.inj h).symm
  | cons step rest ih => exact ih (walk_cons.mp h).2

/-- A path leads somewhere if there is a way, and no character in it ends it early. -/
theorem place_eq_ok : f.place path = .ok q ↔ '\x00' ∉ path.toList ∧
    f.walk [] (Path.steps (Path.join Path.workingDirectory path)) = .ok q := by
  unfold place
  split_ifs with h <;> simp_all

theorem place_eq (h : f.place path = .ok q) :
    q = Path.names (Path.join Path.workingDirectory path) := walk_eq (place_eq_ok.mp h).2

/-- A way through directories leads where it did if these are still there. -/
theorem walk_of_directories (h : ∀ p, f.node? p = some .directory → f'.node? p = some .directory)
    (hwalk : f.walk place steps = .ok q) : f'.walk place steps = .ok q := by
  induction steps generalizing place with
  | nil => exact hwalk
  | cons step rest ih =>
    obtain ⟨hdirectory, hrest⟩ := walk_cons.mp hwalk
    exact walk_cons.mpr ⟨h place hdirectory, ih hrest⟩

/-- What is opened for lines is where its path leads. -/
theorem openForAppend_ok (h : f.openForAppend path = .ok (place, f')) :
    f.place path = .ok place := by
  unfold openForAppend at h
  cases hplace : f.place path with
  | error fault => simp [hplace] at h
  | ok q =>
    simp only [hplace] at h
    split at h
    · cases h
    · exact congrArg (fun r => Except.ok r.1) (Except.ok.inj h)
    · exact congrArg (fun r => Except.ok r.1) (Except.ok.inj h)

/-- What is removed is a file, and nothing else goes. -/
theorem remove_ok (h : f.remove path = .ok f') : ∃ place bytes, f.place path = .ok place ∧
    f.node? place = some (.file bytes) ∧ f' = ⟨f.nodes.filter fun n => n.1 != place⟩ := by
  unfold remove at h
  cases hplace : f.place path with
  | error fault => simp [hplace] at h
  | ok place =>
    cases hnode : f.node? place with
    | none => simp [hplace, hnode] at h
    | some node =>
      cases node with
      | directory => simp [hplace, hnode] at h
      | file bytes =>
        simp only [hplace, hnode, Except.ok.injEq] at h
        exact ⟨place, bytes, rfl, hnode, h.symm⟩

/-- A file that is removed is not there. -/
theorem at?_remove (h : f.remove path = .ok f') : f'.at? path = none := by
  obtain ⟨place, bytes, hplace, hnode, rfl⟩ := remove_ok h
  have hroot : (place.isEmpty || place == [Path.workingDirectory]) = false := by
    cases hroot : place.isEmpty || place == [Path.workingDirectory] with
    | false => rfl
    | true => simp only [node?, hroot, ↓reduceIte, Option.some.injEq, reduceCtorEq] at hnode
  -- What goes is a file, so no way to anything leads through it.
  have hdirectories (p : Place) (hp : f.node? p = some .directory) :
      node? ⟨f.nodes.filter fun n => n.1 != place⟩ p = some .directory := by
    have hne : p ≠ place := by
      rintro rfl
      cases hnode.symm.trans hp
    unfold node? at hp ⊢
    rwa [lookup_filter_ne f.nodes hne]
  have hgone : node? ⟨f.nodes.filter fun n => n.1 != place⟩ place = none := by
    simp only [node?, hroot, lookup_filter_self, Bool.false_eq_true, ↓reduceIte]
  have hstill : Files.place ⟨f.nodes.filter fun n => n.1 != place⟩ path = .ok place := by
    obtain ⟨hpath, hwalk⟩ := place_eq_ok.mp hplace
    exact place_eq_ok.mpr ⟨hpath, walk_of_directories hdirectories hwalk⟩
  unfold at?
  rw [hstill]
  exact hgone

end Files

end TextCriteria
