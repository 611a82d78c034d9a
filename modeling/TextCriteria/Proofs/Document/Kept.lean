import Mathlib.Data.List.Induction
import TextCriteria.Proofs.Session.Frame

namespace TextCriteria

open TextCriteria.Document

/-!
# What is kept of files

The content of a file of configuration is read once and answered from then on, until everything that is kept
is forgotten. What a load answers can be told from the steps so far and from what the files held meanwhile.

* `FilePlan.key` — the text of path that a file is kept under; `Step.loads?`, the one that a step loads.
* `Unloaded`, `FirstLoaded` — runs in which a file has not been read since the last time that everything was
  forgotten, and what the first load found that could read it.
* `Step.loadSettings_run` — loading settings is a load and what is made of its answer.
* `Step.lookup_run` — what one step does to the content that is kept of a file.
* `lookup_of_unloaded`, `lookup_of_firstLoaded` — what is kept after a run.
* `loads_told` — what a load answers after any run, and what it leaves.
-/

/-! ### One load -/

namespace Document.Cache

variable {c : Cache} {files : Files} {path : String} {base : Option String}

theorem load_eq (c : Cache) (files : Files) (path : String) (base : Option String) :
    c.load files path base = match c.contents.lookup (pathFor path base) with
      | some v => (.ok v, c)
      | none =>
        match contentOf files (pathFor path base) with
        | .ok v => (.ok v, ⟨(pathFor path base, v) :: c.contents⟩)
        | .error f => (.error f, c) := by
  unfold load
  rfl

/-- A load answers what is kept, or else what can be read. -/
theorem load_fst (c : Cache) (files : Files) (path : String) (base : Option String) :
    (c.load files path base).1
      = match c.contents.lookup (pathFor path base) with
        | some v => .ok v
        | none => contentOf files (pathFor path base) := by
  rw [load_eq]
  cases c.contents.lookup (pathFor path base) with
  | some v => rfl
  | none => cases contentOf files (pathFor path base) <;> rfl

/-- A load keeps what it has read, beside everything that was kept before. -/
theorem lookup_load (c : Cache) (files : Files) (path : String) (base : Option String) (other : String) :
    (c.load files path base).2.contents.lookup other
      = (c.contents.lookup other).or
          (if pathFor path base = other then (contentOf files other).toOption else none) := by
  rw [load_eq]
  by_cases hother : pathFor path base = other
  · subst hother
    cases hkept : c.contents.lookup (pathFor path base) with
    | some v => simp [hkept]
    | none => cases hread : contentOf files (pathFor path base) <;> simp [hkept, Except.toOption]
  · have hne : (other == pathFor path base) = false := beq_false_of_ne (Ne.symm hother)
    cases c.contents.lookup (pathFor path base) with
    | some v => simp [hother]
    | none => cases contentOf files (pathFor path base) <;> simp [hother, List.lookup_cons, hne]

/-- A load that fails keeps nothing. -/
theorem load_error {f : Failure} (h : (c.load files path base).1 = .error f) :
    (c.load files path base).2 = c := by
  rw [load_eq] at h ⊢
  cases hkept : c.contents.lookup (pathFor path base) with
  | some v => rfl
  | none =>
    cases hread : contentOf files (pathFor path base) with
    | error f' => rfl
    | ok v => simp [hkept, hread] at h

end Document.Cache

/-! ### Steps -/

/-- The text of path that the content of a file is kept under. -/
def FilePlan.key (file : FilePlan) : String := pathFor (Session.used file) file.base

/-- The text of path that a step loads. -/
def Step.loads? : Step → Option String
  | .load file | .loadSettings _ file _ _ => some file.key
  | _ => none

variable {s : Session} {steps : List Step} {step : Step} {path : String} {v : Value}

theorem Step.load_reply (file : FilePlan) (s : Session) :
    ((Step.load file).run s).1 = .ofResult (match s.documents.contents.lookup file.key with
      | some v => .ok v
      | none => contentOf s.log.files file.key) := by
  have hresult : ((Step.load file).action.run.run s).1
      = (s.documents.load s.log.files (Session.used file) file.base).1.map Reply.value := by
    simp only [Step.action, Action.bind_run, document_run]
    cases (s.documents.load s.log.files (Session.used file) file.base).1 <;> rfl
  have hload := s.documents.load_fst s.log.files (Session.used file) file.base
  rw [FilePlan.key, ← hload]
  cases h : (s.documents.load s.log.files (Session.used file) file.base).1 with
  | ok v =>
    rw [h] at hresult
    rw [Step.run_of_ok hresult]
    rfl
  | error f =>
    rw [h] at hresult
    rw [Step.run_of_error hresult]
    rfl

/-- A load leaves the contents as reading the file leaves them. -/
theorem Step.load_documents (file : FilePlan) (s : Session) :
    ((Step.load file).run s).2.documents
      = (s.documents.load s.log.files (Session.used file) file.base).2 := by
  rw [Step.run_snd]
  simp only [Step.action, Action.bind_run, document_run]
  cases (s.documents.load s.log.files (Session.used file) file.base).1 <;> rfl

instance : Indifferent fun s s' : Session => s'.documents = s.documents where
  refl _ := rfl
  trans h h' := h'.trans h
  environment _ _ := rfl
  defaults _ _ := rfl
  files _ _ := rfl
  newBuilder _ _ := rfl

/-- Settings that are loaded are made from what a load answers, after it; where it fails they fail alike. -/
theorem Step.loadSettings_run (kind : SettingsKind) (file : FilePlan) (overrides : Arguments)
    (apply : Bool) (s : Session) : (Step.loadSettings kind file overrides apply).action.run.run s
      = match (s.documents.load s.log.files (Session.used file) file.base).1 with
        | .ok v => (Session.settingsFrom kind overrides apply v).run.run ((Step.load file).run s).2
        | .error f => (.error f, ((Step.load file).run s).2) := by
  rw [Step.run_snd]
  simp only [Step.action, Session.loadSettings_eq, Action.bind_run, document_run]
  cases (s.documents.load s.log.files (Session.used file) file.base).1 <;> rfl

/-- Settings that are loaded leave the contents as a load does, also if they cannot be made. -/
theorem Step.loadSettings_documents (kind : SettingsKind) (file : FilePlan) (overrides : Arguments)
    (apply : Bool) (s : Session) : ((Step.loadSettings kind file overrides apply).run s).2.documents
      = ((Step.load file).run s).2.documents := by
  rw [Step.run_snd, Step.loadSettings_run]
  cases (s.documents.load s.log.files (Session.used file) file.base).1 with
  | error f => rfl
  | ok v =>
    -- What is done with the content does not touch what is kept.
    have hrest : (Session.settingsFrom kind overrides apply v).Leads
        fun s s' : Session => s'.documents = s.documents :=
      settingsFrom_leads kind overrides apply v
    exact hrest _

/-- What a load answers, settings are made from. -/
theorem Step.loadSettings_of_load {file : FilePlan} (kind : SettingsKind) (overrides : Arguments)
    (apply : Bool) :
    (∀ v, ((Step.load file).run s).1 = .value v →
      (Step.loadSettings kind file overrides apply).action.run.run s
        = (Session.settingsFrom kind overrides apply v).run.run ((Step.load file).run s).2) ∧
    ∀ f, ((Step.load file).run s).1 = .failed f →
      ((Step.loadSettings kind file overrides apply).run s).1 = .failed f := by
  have hload := s.documents.load_fst s.log.files (Session.used file) file.base
  rw [Step.load_reply, FilePlan.key, ← hload]
  have hsettings := Step.loadSettings_run kind file overrides apply s
  cases hresult : (s.documents.load s.log.files (Session.used file) file.base).1 with
  | ok v =>
    rw [hresult] at hsettings
    refine ⟨fun v' h => ?_, fun f h => by cases h⟩
    obtain rfl := Reply.value.inj h
    exact hsettings
  | error f =>
    rw [hresult] at hsettings
    refine ⟨fun v h => (by cases h), fun f' h => ?_⟩
    obtain rfl := Reply.failed.inj h
    rw [Step.run_of_error (congrArg Prod.fst hsettings)]

/-- All other steps leave what is kept of files as it is. -/
theorem Step.run_documents (h : step.usesDocuments = false) (s : Session) :
    (step.run s).2.documents = s.documents := by
  have hleads : step.action.Leads fun s s' : Session => s'.documents = s.documents :=
    Step.action_leads (fun _ _ _ _ => rfl) (fun _ _ _ _ => rfl) (fun hload => by simp [h] at hload)
      fun _ _ _ => rfl
  rw [Step.run_snd]
  exact hleads s

/-- **Step.** What was kept of a file is kept until everything is forgotten, and a file of which nothing was
    kept is kept from the step on that loads it and can read it. -/
theorem Step.lookup_run (h : step ≠ .clearDocuments) (s : Session) (path : String) :
    (step.run s).2.documents.contents.lookup path
      = (s.documents.contents.lookup path).or
          (if step.loads? = some path then (contentOf s.log.files path).toOption else none) := by
  have hload (file : FilePlan) : ((Step.load file).run s).2.documents.contents.lookup path
      = (s.documents.contents.lookup path).or
          (if some file.key = some path then (contentOf s.log.files path).toOption else none) := by
    rw [Step.load_documents, Document.Cache.lookup_load]
    simp [FilePlan.key]
  cases step with
  | load file => exact hload file
  | loadSettings kind file overrides apply =>
    rw [Step.loadSettings_documents]
    exact hload file
  | clearDocuments => exact absurd rfl h
  | _ =>
    rw [Step.run_documents rfl]
    simp [Step.loads?]

/-! ### Runs -/

/-- Since everything that is kept was last forgotten, whenever the file was to be loaded, it could not be
    read. -/
def Unloaded (s : Session) (steps : List Step) (path : String) : Prop :=
  ∀ before step after, steps = before ++ step :: after → step.loads? = some path →
    (∀ x ∈ after, x ≠ .clearDocuments) → ∃ f, contentOf (s.run before).2.log.files path = .error f

/-- Of the loads of the file since everything that is kept was last forgotten, the first one that could read
    it found the content. -/
def FirstLoaded (s : Session) (steps : List Step) (path : String) (v : Value) : Prop :=
  ∃ before step after, steps = before ++ step :: after ∧ step.loads? = some path ∧
    (∀ x ∈ after, x ≠ .clearDocuments) ∧ Unloaded s before path ∧
    contentOf (s.run before).2.log.files path = .ok v

theorem unloaded_nil : Unloaded s [] path := by
  intro before step after h
  simp at h

/-- A step after which the file has still not been read. -/
theorem Unloaded.append (h : Unloaded s steps path)
    (hstep : step.loads? ≠ some path ∨ ∃ f, contentOf (s.run steps).2.log.files path = .error f) :
    Unloaded s (steps ++ [step]) path := by
  intro before x after hsplit hx hafter
  -- The load is the new step, or it was in the run before.
  rcases append_singleton_split hsplit with ⟨rfl, rfl, -⟩ | ⟨front, rfl, hsteps⟩
  · exact hstep.resolve_left (not_not_intro hx)
  · exact h before x front hsteps hx fun y hy => hafter y (List.mem_append_left _ hy)

theorem unloaded_clear : Unloaded s (steps ++ [.clearDocuments]) path := by
  intro before x after hsplit hx hafter
  rcases append_singleton_split hsplit with ⟨-, rfl, -⟩ | ⟨front, rfl, -⟩
  · cases hx
  · exact absurd rfl (hafter _ (List.mem_append_right _ (List.mem_singleton.mpr rfl)))

/-- What holds of a run holds of the run without its last step. -/
theorem Unloaded.of_append (h : Unloaded s (steps ++ [step]) path) (hstep : step ≠ .clearDocuments) :
    Unloaded s steps path ∧
      (step.loads? = some path → ∃ f, contentOf (s.run steps).2.log.files path = .error f) := by
  refine ⟨fun before x after hsplit hx hafter => ?_, fun hload => ?_⟩
  · refine h before x (after ++ [step]) (by simp [hsplit]) hx fun y hy => ?_
    rcases List.mem_append.mp hy with hy | hy
    · exact hafter y hy
    · obtain rfl := List.mem_singleton.mp hy
      exact hstep
  · exact h steps step [] rfl hload (by simp)

/-- Steps that do not load the file do not read it. -/
theorem Unloaded.append_others (h : Unloaded s steps path) {later : List Step}
    (hlater : ∀ x ∈ later, x.loads? ≠ some path) : Unloaded s (steps ++ later) path := by
  induction later using List.reverseRecOn with
  | nil => rwa [List.append_nil]
  | append_singleton later x ih =>
    rw [← List.append_assoc]
    refine (ih fun y hy => hlater y (List.mem_append_left _ hy)).append (.inl ?_)
    exact hlater x (List.mem_append_right _ (List.mem_singleton.mpr rfl))

theorem FirstLoaded.append (h : FirstLoaded s steps path v) (hstep : step ≠ .clearDocuments) :
    FirstLoaded s (steps ++ [step]) path v := by
  obtain ⟨before, x, after, rfl, hx, hafter, hbefore, hread⟩ := h
  refine ⟨before, x, after ++ [step], by simp, hx, fun y hy => ?_, hbefore, hread⟩
  rcases List.mem_append.mp hy with hy | hy
  · exact hafter y hy
  · obtain rfl := List.mem_singleton.mp hy
    exact hstep

/-- Either no load could read the file, or some load was the first that could. -/
theorem unloaded_or_firstLoaded (s : Session) (steps : List Step) (path : String) :
    Unloaded s steps path ∨ ∃ v, FirstLoaded s steps path v := by
  -- From the end of the run: what the last step changes is known from the run before it.
  induction steps using List.reverseRecOn with
  | nil => exact .inl unloaded_nil
  | append_singleton steps step ih =>
    by_cases hclear : step = .clearDocuments
    · rw [hclear]
      exact .inl unloaded_clear
    rcases ih with hunloaded | ⟨v, hfirst⟩
    · by_cases hload : step.loads? = some path
      · cases hread : contentOf (s.run steps).2.log.files path with
        | error f => exact .inl (hunloaded.append (.inr ⟨f, hread⟩))
        | ok v => exact .inr ⟨v, steps, step, [], rfl, hload, by simp, hunloaded, hread⟩
      · exact .inl (hunloaded.append (.inl hload))
    · exact .inr ⟨v, hfirst.append hclear⟩

/-- What is kept of a file stays as it is until everything is forgotten. -/
theorem lookup_run_of_kept (hkept : s.documents.contents.lookup path = some v)
    (hsteps : ∀ x ∈ steps, x ≠ .clearDocuments) :
    (s.run steps).2.documents.contents.lookup path = some v := by
  have hstep : ∀ x ∈ steps, ∀ s' : Session, s'.documents.contents.lookup path = some v →
      (x.run s').2.documents.contents.lookup path = some v := by
    intro x hx s' h
    rw [Step.lookup_run (hsteps x hx), h, Option.some_or]
  exact Session.run_invariant hstep hkept

/-- Nothing is kept of a file that has not been read. -/
theorem lookup_of_unloaded (hs : s.documents.contents = []) (h : Unloaded s steps path) :
    (s.run steps).2.documents.contents.lookup path = none := by
  induction steps using List.reverseRecOn with
  | nil => exact congrArg (List.lookup path) hs
  | append_singleton steps step ih =>
    rw [Session.run_append_snd]
    by_cases hclear : step = .clearDocuments
    · rw [hclear]
      rfl
    · -- The last step keeps the file only if it loads it, and then the file could not be read.
      obtain ⟨hunloaded, hread⟩ := h.of_append hclear
      refine (Step.lookup_run hclear _ path).trans ?_
      rw [ih hunloaded, Option.none_or]
      split
      · next hload =>
        obtain ⟨f, hf⟩ := hread hload
        rw [hf]
        rfl
      · rfl

/-- **Run.** What the first load found that could read a file is kept. -/
theorem lookup_of_firstLoaded (hs : s.documents.contents = []) (h : FirstLoaded s steps path v) :
    (s.run steps).2.documents.contents.lookup path = some v := by
  obtain ⟨before, step, after, rfl, hload, hafter, hbefore, hread⟩ := h
  rw [Session.run_append_snd]
  -- The load that could read the file keeps it, and the steps behind that load forget nothing.
  refine lookup_run_of_kept (s := (step.run (s.run before).2).2) ?_ hafter
  have hclear : step ≠ .clearDocuments := by
    rintro rfl
    cases hload
  rw [Step.lookup_run hclear, lookup_of_unloaded hs hbefore, if_pos hload, hread]
  rfl

/-! ### What is told -/

/-- **Coherence.** At the start nothing is kept. After any steps, whatever they did to files and settings: a
    load answers what the first load found that could read the file since everything was last forgotten; if
    there was none, it reads the file as it is now. A load that fails keeps nothing, so once the file can be
    read the next load reads it. Loading settings keeps what a load keeps, also if they cannot be made, and
    makes them from what a load answers. -/
theorem loads_told (hs : s.documents.contents = []) (steps : List Step) (file : FilePlan) :
    (Unloaded s steps file.key ∨ ∃ v, FirstLoaded s steps file.key v) ∧
    (∀ v, FirstLoaded s steps file.key v → ((Step.load file).run (s.run steps).2).1 = .value v) ∧
    (Unloaded s steps file.key → ((Step.load file).run (s.run steps).2).1
      = .ofResult (contentOf (s.run steps).2.log.files file.key)) ∧
    (∀ f, ((Step.load file).run (s.run steps).2).1 = .failed f →
      ((Step.load file).run (s.run steps).2).2.documents = (s.run steps).2.documents ∧
      ∀ later v, (∀ x ∈ later, x.loads? ≠ some file.key) →
        contentOf (s.run (steps ++ .load file :: later)).2.log.files file.key = .ok v →
        ((Step.load file).run (s.run (steps ++ .load file :: later)).2).1 = .value v) ∧
    ∀ kind overrides apply, ((Step.loadSettings kind file overrides apply).run (s.run steps).2).2.documents
      = ((Step.load file).run (s.run steps).2).2.documents ∧
      (∀ v, ((Step.load file).run (s.run steps).2).1 = .value v →
        (Step.loadSettings kind file overrides apply).action.run.run (s.run steps).2
          = (Session.settingsFrom kind overrides apply v).run.run ((Step.load file).run (s.run steps).2).2) ∧
      ∀ f, ((Step.load file).run (s.run steps).2).1 = .failed f →
        ((Step.loadSettings kind file overrides apply).run (s.run steps).2).1 = .failed f := by
  have hfirst {steps : List Step} {v : Value} (h : FirstLoaded s steps file.key v) :
      ((Step.load file).run (s.run steps).2).1 = .value v := by
    rw [Step.load_reply, lookup_of_firstLoaded hs h]
    rfl
  have hunloaded {steps : List Step} (h : Unloaded s steps file.key) :
      ((Step.load file).run (s.run steps).2).1
        = .ofResult (contentOf (s.run steps).2.log.files file.key) := by
    rw [Step.load_reply, lookup_of_unloaded hs h]
  refine ⟨unloaded_or_firstLoaded s steps file.key, fun v => hfirst, hunloaded, fun f hf => ?_,
    fun kind overrides apply => ⟨Step.loadSettings_documents kind file overrides apply _,
      Step.loadSettings_of_load kind overrides apply⟩⟩
  -- A load that fails has found nothing that is kept, so it has tried to read the file.
  have hnever : Unloaded s steps file.key := by
    rcases unloaded_or_firstLoaded s steps file.key with h | ⟨v, h⟩
    · exact h
    · cases (hfirst h).symm.trans hf
  have hread : contentOf (s.run steps).2.log.files file.key = .error f := by
    have hreply := (hunloaded hnever).symm.trans hf
    cases hcontent : contentOf (s.run steps).2.log.files file.key with
    | ok v =>
      rw [hcontent] at hreply
      cases hreply
    | error f' =>
      rw [hcontent] at hreply
      exact congrArg Except.error (Reply.failed.inj hreply)
  refine ⟨?_, fun later v hlater hrepaired => ?_⟩
  · rw [Step.load_documents]
    refine Document.Cache.load_error (f := f) ?_
    rw [Document.Cache.load_fst, ← FilePlan.key, lookup_of_unloaded hs hnever]
    exact hread
  · have hfailed : Unloaded s (steps ++ [.load file]) file.key := hnever.append (.inr ⟨f, hread⟩)
    have hstill := hfailed.append_others hlater
    rw [List.append_assoc] at hstill
    exact (hunloaded hstill).trans (congrArg Reply.ofResult hrepaired)

/-- A file that is not there at first, is empty when it can be read, and is changed afterwards. -/
theorem loads_told_empty :
    FirstLoaded {} [.load ⟨"a.yaml", none, false⟩, .write "a.yaml" "", .load ⟨"a.yaml", none, false⟩,
      .write "a.yaml" "b"] "<cwd>/a.yaml" (.dict []) ∧
    ((Step.load ⟨"a.yaml", none, false⟩).run (Session.run {} [.load ⟨"a.yaml", none, false⟩,
      .write "a.yaml" "", .load ⟨"a.yaml", none, false⟩, .write "a.yaml" "b"]).2).1
        = .value (.dict []) := by
  have hkey : FilePlan.key ⟨"a.yaml", none, false⟩ = "<cwd>/a.yaml" := rfl
  have hmissing : contentOf {} "<cwd>/a.yaml" = .error (.noConfig "<cwd>/a.yaml") := rfl
  have hloaded : ((Step.load ⟨"a.yaml", none, false⟩).run {}).2 = {} := rfl
  have hwritten : ((Step.write "a.yaml" "").run {}).2
      = { log := { files := ⟨[(["<cwd>", "a.yaml"], .file [])]⟩ } } := rfl
  have hread : contentOf ⟨[(["<cwd>", "a.yaml"], .file [])]⟩ "<cwd>/a.yaml" = .ok (.dict []) := rfl
  have hfiles : (Session.run {} [.load ⟨"a.yaml", none, false⟩, .write "a.yaml" ""]).2.log.files
      = ⟨[(["<cwd>", "a.yaml"], .file [])]⟩ := by
    simp only [Session.run, hloaded, hwritten]
  have hbefore : Unloaded {} ([] ++ [.load ⟨"a.yaml", none, false⟩]) "<cwd>/a.yaml" :=
    unloaded_nil.append (.inr ⟨_, hmissing⟩)
  have hunloaded : Unloaded {} [.load ⟨"a.yaml", none, false⟩, .write "a.yaml" ""] "<cwd>/a.yaml" :=
    hbefore.append (.inl (by simp [Step.loads?]))
  have hfirst : FirstLoaded {} [.load ⟨"a.yaml", none, false⟩, .write "a.yaml" "",
      .load ⟨"a.yaml", none, false⟩, .write "a.yaml" "b"] "<cwd>/a.yaml" (.dict []) :=
    ⟨_, .load ⟨"a.yaml", none, false⟩, [.write "a.yaml" "b"], rfl, by simp only [Step.loads?, hkey], by simp,
      hunloaded, by rw [hfiles, hread]⟩
  refine ⟨hfirst, (loads_told rfl _ ⟨"a.yaml", none, false⟩).2.1 _ ?_⟩
  rw [hkey]
  exact hfirst

end TextCriteria
