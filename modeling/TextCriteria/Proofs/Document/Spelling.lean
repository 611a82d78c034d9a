import TextCriteria.Proofs.Document.Kept
import TextCriteria.Proofs.Files

namespace TextCriteria

open TextCriteria.Document

/-!
# Two spellings of one file

A file can be given in many ways: with or without a directory, from the root or from the working directory,
with steps that lead nowhere. What is kept of it is kept under the text of its path, as joined.

* `FilePlan.denoted` — the file that a load is about, as an absolute path in normal form.
* `LoadedAlike` — after a load that succeeds, a load of the second spelling answers the same.
* `contentOf_remove` — a file that is removed cannot be read.
* `loadedAlike_of_normal` — spellings that are absolute and in normal form as joined.
* `loadedAlike_iff` — which spellings are loaded alike.
* `not_loadedAlike_relative` — two spellings of one file that are not.
-/

/-! ### Files that are gone -/

variable {files files' : Files} {path : String} {s : Session}

theorem contentOf_missing (h : files.at? path = none) : contentOf files path = .error (.noConfig path) := by
  unfold contentOf
  rw [h]

/-- What leads nowhere, or where nothing is or a directory, cannot be read. -/
theorem contentOf_unless_file (h : ∀ place bytes, files.place path = .ok place →
    files.node? place ≠ some (.file bytes)) : ∃ f, contentOf files path = .error f := by
  cases hat : files.at? path with
  | none => exact ⟨_, contentOf_missing hat⟩
  | some node =>
    unfold Files.at? at hat
    unfold contentOf Files.at? Files.read
    cases hplace : files.place path with
    | error fault => simp [hplace] at hat
    | ok place =>
      rw [hplace] at hat
      simp only [hat]
      cases node with
      | file bytes => exact absurd hat (h place bytes hplace)
      | directory => exact ⟨_, rfl⟩

theorem contentOf_of_remove_error {f : Failure} (h : files.remove path = .error f) :
    ∃ f', contentOf files path = .error f' := by
  refine contentOf_unless_file fun place bytes hplace hnode => ?_
  unfold Files.remove at h
  simp only [hplace, hnode, reduceCtorEq] at h

/-- After a file was to be removed, it cannot be read. -/
theorem contentOf_remove (path : String) (s : Session) :
    ∃ f, contentOf ((Step.remove path).run s).2.log.files path = .error f := by
  rw [Step.run_snd]
  simp only [Step.action, Action.bind_run, useFiles_run]
  cases h : s.log.files.remove path with
  | ok files => exact ⟨_, contentOf_missing (Files.at?_remove h)⟩
  | error f => exact contentOf_of_remove_error h

/-! ### Loads of two spellings -/

/-- The file that is meant: its path as joined, from the working directory and in normal form. -/
def FilePlan.denoted (file : FilePlan) : String := Path.normal file.key

/-- Whether there are files among which this one can be read. -/
def FilePlan.Readable (file : FilePlan) : Prop := ∃ files v, contentOf files file.key = .ok v

/-- Whatever happens to the files before and between two loads, if the first one succeeds, the second one
    answers the same, as long as not everything that is kept is forgotten between them. -/
def LoadedAlike (first second : FilePlan) : Prop :=
  ∀ (s : Session) (before between : List Step) (v : Value), s.documents.contents = [] →
    (∀ x ∈ between, x ≠ .clearDocuments) →
    ((Step.load first).run (s.run before).2).1 = .value v →
    ((Step.load second).run (s.run (before ++ .load first :: between)).2).1 = .value v

variable {file first second : FilePlan} {v : Value}

theorem Step.load_eq_value : ((Step.load file).run s).1 = .value v ↔
    (s.documents.contents.lookup file.key = some v ∨
      (s.documents.contents.lookup file.key = none ∧ contentOf s.log.files file.key = .ok v)) := by
  rw [Step.load_reply]
  cases s.documents.contents.lookup file.key with
  | some w => simp [Reply.ofResult]
  | none => cases contentOf s.log.files file.key <;> simp [Reply.ofResult]

/-- What a load answers is kept. -/
theorem Step.load_kept (h : ((Step.load file).run s).1 = .value v) :
    ((Step.load file).run s).2.documents.contents.lookup file.key = some v := by
  rw [Step.lookup_run (by simp), Step.loads?, if_pos rfl]
  rcases Step.load_eq_value.mp h with hkept | ⟨hnone, hread⟩
  · rw [hkept, Option.some_or]
  · rw [hnone, hread]
    rfl

theorem loadedAlike_of_key (h : first.key = second.key) : LoadedAlike first second := by
  intro s before between v _ hbetween hfirst
  rw [Session.run_append_snd]
  refine Step.load_eq_value.mpr (.inl ?_)
  rw [← h]
  exact lookup_run_of_kept (s := ((Step.load first).run (s.run before).2).2) (Step.load_kept hfirst) hbetween

/-- What a load answers was read at some time. -/
theorem readable_of_load {before : List Step} (hs : s.documents.contents = [])
    (h : ((Step.load file).run (s.run before).2).1 = .value v) : file.Readable := by
  rcases Step.load_eq_value.mp h with hkept | ⟨-, hread⟩
  · -- What is kept comes from the first load that could read the file.
    rcases unloaded_or_firstLoaded s before file.key with hnever | ⟨w, early, _, _, -, -, -, -, hread⟩
    · rw [lookup_of_unloaded hs hnever] at hkept
      cases hkept
    · exact ⟨_, w, hread⟩
  · exact ⟨_, v, hread⟩

/-- Between the loads of two spellings that are kept apart, the file can go. -/
theorem not_loadedAlike (hread : first.Readable) (hkey : first.key ≠ second.key) :
    ¬LoadedAlike first second := by
  intro halike
  obtain ⟨files, v, hv⟩ := hread
  obtain ⟨s, hs, hfirst⟩ : ∃ s : Session, s.documents.contents = [] ∧
      ((Step.load first).run s).1 = .value v :=
    ⟨{ log := { files } }, rfl, Step.load_eq_value.mpr (.inr ⟨rfl, hv⟩)⟩
  -- What the first load has kept does not help the second one, which has to read the file.
  have hsecond := halike s [] [.remove second.key] v hs (by simp) hfirst
  rw [List.nil_append] at hsecond
  rcases Step.load_eq_value.mp hsecond with hkept | ⟨-, hread⟩
  · have hnever : Unloaded s [.load first, .remove second.key] second.key :=
      unloaded_nil.append_others (by simpa [Step.loads?] using hkey)
    rw [lookup_of_unloaded hs hnever] at hkept
    cases hkept
  · obtain ⟨f, hf⟩ := contentOf_remove second.key ((Step.load first).run s).2
    simp only [Session.run, hf, reduceCtorEq] at hread

/-- Spellings of one file that are absolute and in normal form as joined are loaded alike. -/
theorem loadedAlike_of_normal (hfirst : first.key = first.denoted) (hsecond : second.key = second.denoted)
    (h : first.denoted = second.denoted) : LoadedAlike first second :=
  loadedAlike_of_key (by rw [hfirst, h, hsecond])

/-- **Spellings.** What is kept is kept under the path as joined: two spellings are loaded alike exactly if
    they are joined to the same text, unless the first one cannot be read at all. That they denote one file
    does not count. -/
theorem loadedAlike_iff (first second : FilePlan) :
    LoadedAlike first second ↔ (first.Readable → first.key = second.key) := by
  constructor
  · intro halike hread
    by_contra hkey
    exact not_loadedAlike hread hkey halike
  · intro hkey s before between v hs hbetween hfirst
    exact loadedAlike_of_key (hkey (readable_of_load hs hfirst)) s before between v hs hbetween hfirst

/-- A file in a directory that is given relative to the working directory, and the same file without. -/
theorem not_loadedAlike_relative :
    FilePlan.denoted ⟨"a.yaml", some "conf", false⟩ = FilePlan.denoted ⟨"conf/a.yaml", none, false⟩ ∧
      ¬LoadedAlike ⟨"a.yaml", some "conf", false⟩ ⟨"conf/a.yaml", none, false⟩ := by
  have hfirst : FilePlan.key ⟨"a.yaml", some "conf", false⟩ = "conf/a.yaml" := rfl
  have hsecond : FilePlan.key ⟨"conf/a.yaml", none, false⟩ = "<cwd>/conf/a.yaml" := rfl
  have hread : contentOf ⟨[(["<cwd>", "conf", "a.yaml"], .file []), (["<cwd>", "conf"], .directory)]⟩
      "conf/a.yaml" = .ok (.dict []) := rfl
  have hnormal : Path.normal "conf/a.yaml" = "<cwd>/conf/a.yaml" := rfl
  have hjoined : Path.normal "<cwd>/conf/a.yaml" = "<cwd>/conf/a.yaml" := rfl
  refine ⟨?_, not_loadedAlike ⟨_, .dict [], by rw [hfirst, hread]⟩ ?_⟩
  · rw [FilePlan.denoted, FilePlan.denoted, hfirst, hsecond, hnormal, hjoined]
  · rw [hfirst, hsecond]
    decide

end TextCriteria
