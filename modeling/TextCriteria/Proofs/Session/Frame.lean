import TextCriteria.Proofs.Entries
import TextCriteria.Session.Step

namespace TextCriteria

/-!
# What a step leaves as it is

A step works on at most one builder and stores something under at most one name. All other builders and
everything stored under other names are the same after it, also if it fails.

* `Frame` — two sessions that differ in one builder and one stored thing at most.
* `Indifferent` — a relation between sessions that does not see what most operations do.
* `Action.Leads`, `Action.Keeps` — an operation after which the session is related to the one before it.
* `Step.builderOf?`, `Step.storeOf?`, `Step.usesDocuments`, `Step.setsUp` — what a step works on.
* `Step.action_leads` — a step relates sessions that differ in what it works on.
* `Step.run_frame` — what one step leaves as it is; `Session.run_stored`, what some steps leave stored.
* `Session.run_invariant` — from every step of a run to the run.
-/

/-! ### Names -/

section Named

variable {α : Type} {name other : String} {a : α} {l : List (String × α)}

@[simp] theorem lookup_putNamed_self : (putNamed name a l).lookup name = some a := by
  simp [putNamed]

theorem lookup_putNamed_ne (h : name ≠ other) : (putNamed name a l).lookup other = l.lookup other := by
  rw [putNamed, lookup_entry, if_neg h.symm]
  exact lookup_filter_ne l h.symm

end Named

/-! ### Sessions that differ in named things -/

/-- Nothing differs in the second session but the builder `on`, what is stored under `saved`, and things
    without such names. Other builders may be new. -/
structure Frame (on saved : Option String) (s s' : Session) : Prop where
  builder : ∀ name b, on ≠ some name → s.builders.lookup name = some b →
    s'.builders.lookup name = some b
  stored : ∀ name, saved ≠ some name → s'.stored.lookup name = s.stored.lookup name

namespace Frame

variable {on saved : Option String} {s s' s'' : Session}

theorem refl (s : Session) : Frame on saved s s := ⟨fun _ _ _ h => h, fun _ _ => rfl⟩

theorem trans (h : Frame on saved s s') (h' : Frame on saved s' s'') : Frame on saved s s'' :=
  ⟨fun name b hname hb => h'.builder name b hname (h.builder name b hname hb),
    fun name hname => (h'.stored name hname).trans (h.stored name hname)⟩

/-- Things without names may differ. -/
theorem of_eq (hbuilders : s'.builders = s.builders) (hstored : s'.stored = s.stored) :
    Frame on saved s s' :=
  ⟨fun _ _ _ h => by rwa [hbuilders], fun _ _ => by rw [hstored]⟩

theorem putBuilder (name : String) (b : Builder) (s : Session) :
    Frame (some name) saved s (s.putBuilder name b) := by
  refine ⟨fun other b' hother h => ?_, fun _ _ => rfl⟩
  rw [Session.putBuilder, lookup_putNamed_ne fun heq => hother (congrArg some heq), h]

/-- A new builder takes no other one's place. -/
theorem putBuilder_new {name : String} (hnone : s.builders.lookup name = none) (b : Builder) :
    Frame on saved s (s.putBuilder name b) := by
  refine ⟨fun other b' _ h => ?_, fun _ _ => rfl⟩
  have hother : name ≠ other := by
    rintro rfl
    cases hnone.symm.trans h
  rw [Session.putBuilder, lookup_putNamed_ne hother, h]

theorem store (name : String) (a : Stored) (s : Session) :
    Frame on (some name) s (s.store name a) := by
  refine ⟨fun _ _ _ h => h, fun other hother => ?_⟩
  rw [Session.store, lookup_putNamed_ne fun heq => hother (congrArg some heq)]

end Frame

/-! ### Operations -/

/-- A relation between a session and a later one that does not tell them apart by the environment, the
    default settings, the files, or a builder that is new. -/
class Indifferent (R : Session → Session → Prop) : Prop where
  refl (s : Session) : R s s
  trans {s s' s'' : Session} : R s s' → R s' s'' → R s s''
  environment (s : Session) (env : Environment) : R s { s with environment := env }
  defaults (s : Session) (d : DefaultSettings) : R s { s with defaults := d }
  files (s : Session) (files : Files) : R s { s with log := { s.log with files } }
  newBuilder {s : Session} {name : String} (hnone : s.builders.lookup name = none) (b : Builder) :
    R s (s.putBuilder name b)

instance (on saved : Option String) : Indifferent (Frame on saved) where
  refl := .refl
  trans := .trans
  environment _ _ := .of_eq rfl rfl
  defaults _ _ := .of_eq rfl rfl
  files _ _ := .of_eq rfl rfl
  newBuilder := .putBuilder_new

/-- Whatever an operation does, the session after it is related to the one before it. -/
def Action.Leads (R : Session → Session → Prop) {α : Type} (a : Action α) : Prop :=
  ∀ s, R s (a.run.run s).2

/-- Whatever an operation does, the session differs after it only in the builder `on` and in what is stored
    under `saved`. -/
def Action.Keeps (on saved : Option String) {α : Type} (a : Action α) : Prop :=
  ∀ s, Frame on saved s (a.run.run s).2

@[simp] theorem Action.lift_run {σ α : Type} (x : Except Failure α) (s : σ) :
    (liftM x : ExceptT Failure (StateM σ) α).run.run s = (x, s) := by
  cases x <;> rfl

@[simp] theorem Action.get_run {σ : Type} (s : σ) :
    (get : ExceptT Failure (StateM σ) σ).run.run s = (.ok s, s) := rfl

@[simp] theorem Action.modify_run {σ : Type} (f : σ → σ) (s : σ) :
    (modify f : ExceptT Failure (StateM σ) PUnit).run.run s = (.ok ⟨⟩, f s) := rfl

theorem Action.pure_run {σ α : Type} (x : α) (s : σ) :
    (pure x : ExceptT Failure (StateM σ) α).run.run s = (.ok x, s) := rfl

/-- One operation after another: the second one starts where the first one ends, unless that fails. -/
theorem Action.bind_run {σ α β : Type} (a : ExceptT Failure (StateM σ) α)
    (f : α → ExceptT Failure (StateM σ) β) (s : σ) :
    (a >>= f).run.run s = match a.run.run s with
      | (.ok x, s') => (f x).run.run s'
      | (.error e, s') => (.error e, s') := by
  rw [ExceptT.run_bind, StateT.run_bind]
  rcases a.run.run s with ⟨x | x, s'⟩ <;> rfl

theorem useDefaults_run (f : DefaultSettings → Environment → Except Failure Settings × DefaultSettings)
    (s : Session) : (useDefaults f).run.run s
      = ((f s.defaults s.environment).1, { s with defaults := (f s.defaults s.environment).2 }) :=
  Action.lift_run _ _

theorem useLog_run {α : Type} (a : Log.LogAction α) (s : Session) :
    (useLog a).run.run s = ((a.run.run s.log).1, { s with log := (a.run.run s.log).2 }) :=
  Action.lift_run _ _

theorem document_run (path : String) (base : Option String) (s : Session) :
    (document path base).run.run s = ((s.documents.load s.log.files path base).1,
      { s with documents := (s.documents.load s.log.files path base).2 }) :=
  Action.lift_run _ _

theorem useFiles_run (f : Files → Except Failure Files) (s : Session) :
    (useFiles f).run.run s = match f s.log.files with
      | .ok files => (.ok (), { s with log := { s.log with files } })
      | .error e => (.error e, s) := by
  simp only [useFiles, Action.bind_run, Action.get_run, Action.lift_run]
  cases f s.log.files <;> rfl

/-- What loading settings does once the file has been read. -/
def Session.settingsFrom (kind : SettingsKind) (overrides : Arguments) (apply : Bool) (content : Value) :
    Action Reply := do
  let arguments ← Document.settingArguments content overrides
  match kind with
  | .builder => do
    let s ← makeSettings arguments
    if apply then
      let _ ← useDefaults fun d env => d.configure env (some s) []
    return .value (settingsValue s)
  | .log => do
    let s ← makeLogSettings arguments
    return .value (.ofFields s.fields)

theorem Session.loadSettings_eq (kind : SettingsKind) (file : FilePlan) (overrides : Arguments)
    (apply : Bool) : loadSettings kind file overrides apply
      = document (used file) file.base >>= settingsFrom kind overrides apply := rfl

/-- Messages change files and nothing else. -/
theorem Log.emit_eq (m : Message) (level : Level) (s : LogState) : ∃ files, emit m level s = { s with files } := by
  unfold emit
  split
  · exact ⟨s.files, rfl⟩
  · exact ⟨_, rfl⟩

theorem Session.note_log (notes : List Note) (s : Session) :
    ∃ files, (s.note notes).log = { s.log with files } := by
  have hfold : ∀ l : Log.LogState, ∃ files, notes.foldl Log.emitNote l = { l with files } := by
    induction notes with
    | nil => exact fun l => ⟨l.files, rfl⟩
    | cons n rest ih =>
      intro l
      obtain ⟨first, hfirst⟩ : ∃ files, Log.emitNote l n = { l with files } := Log.emit_eq _ _ l
      obtain ⟨last, hlast⟩ := ih (Log.emitNote l n)
      exact ⟨last, by rw [List.foldl_cons, hlast, hfirst]⟩
  exact hfold s.log

section Leading

variable {R : Session → Session → Prop} [hR : Indifferent R] {α β : Type}

/-- Anything may have become of the files. -/
theorem Indifferent.log (s : Session) {log : Log.LogState} (h : ∃ files, log = { s.log with files }) :
    R s { s with log } := by
  obtain ⟨files, rfl⟩ := h
  exact hR.files s files

namespace Action.Leads

/-- An operation that does not change the session. -/
theorem of_same {a : Action α} (h : ∀ s, (a.run.run s).2 = s) : a.Leads R := by
  intro s
  rw [h s]
  exact hR.refl s

theorem pure (x : α) : Action.Leads R (Pure.pure x : Action α) := of_same fun _ => rfl

theorem get : Action.Leads R (MonadState.get : Action Session) := of_same fun _ => rfl

theorem throw (f : Failure) : Action.Leads R (MonadExcept.throw f : Action α) := of_same fun _ => rfl

/-- What succeeds or fails by itself. -/
theorem lift (x : Except Failure α) : Action.Leads R (liftM x : Action α) :=
  of_same fun s => congrArg Prod.snd (Action.lift_run x s)

omit hR in
theorem modify {f : Session → Session} (h : ∀ s, R s (f s)) :
    Action.Leads R (modifyGet fun s => (PUnit.unit, f s) : Action PUnit) := h

/-- One operation after another. -/
theorem bind {a : Action α} {f : α → Action β} (ha : a.Leads R) (hf : ∀ x, (f x).Leads R) :
    (a >>= f).Leads R := by
  intro s
  have hs := ha s
  rw [Action.bind_run]
  rcases hrun : a.run.run s with ⟨x | x, s'⟩ <;> rw [hrun] at hs
  · exact hs
  · exact hR.trans hs (hf x s')

omit hR in
/-- The session is looked at first. -/
theorem get_bind {f : Session → Action β} (h : ∀ s, R s ((f s).run.run s).2) :
    Action.Leads R ((MonadState.get : Action Session) >>= f) := h

end Action.Leads

theorem useDefaults_leads
    (f : DefaultSettings → Environment → Except Failure Settings × DefaultSettings) :
    (useDefaults f).Leads R := by
  intro s
  rw [useDefaults_run]
  exact hR.defaults s _

omit hR in
theorem useLog_leads (h : ∀ s log, R s { s with log }) (a : Log.LogAction α) : (useLog a).Leads R := by
  intro s
  rw [useLog_run]
  exact h s _

omit hR in
theorem document_leads (h : ∀ s documents, R s { s with documents }) (path : String)
    (base : Option String) : (document path base).Leads R := by
  intro s
  rw [document_run]
  exact h s _

theorem useFiles_leads (f : Files → Except Failure Files) : (useFiles f).Leads R := by
  intro s
  rw [useFiles_run]
  cases f s.log.files with
  | error e => exact hR.refl s
  | ok files => exact hR.files s files

theorem builder_leads (name : String) : (builder name).Leads R := by
  refine .get_bind fun s => ?_
  split
  · exact hR.refl s
  · rename_i hnone
    -- The default settings are looked up first; that makes no builder.
    rw [Action.bind_run, defaultSettings, useDefaults_run]
    let s' : Session := { s with defaults := (s.defaults.get s.environment).2 }
    have hdefaults : R s s' := hR.defaults s _
    cases (s.defaults.get s.environment).1 with
    | error e => exact hdefaults
    | ok settings =>
      have hnone' : s'.builders.lookup name = none := hnone
      exact hR.trans hdefaults (hR.newBuilder hnone' (Builder.create .null settings))

theorem note_leads (notes : List Note) :
    Action.Leads R (modifyGet fun s => (PUnit.unit, s.note notes) : Action PUnit) :=
  .modify fun s => hR.log s (s.note_log notes)

theorem noteBuild_leads (b : Builder) : (Session.noteBuild b).Leads R := by
  unfold Session.noteBuild
  split
  · exact note_leads _
  · exact .pure _

theorem testAll_leads (b : Builder) (values : List Value) : (Session.testAll b values).Leads R := by
  induction values with
  | nil => exact .pure _
  | cons v rest ih =>
    exact .bind (noteBuild_leads b) fun _ => .bind (.lift _) fun r => .bind ih fun others => .pure _

theorem storedValidator_leads (name : String) : (storedValidator name).Leads R := by
  refine .bind .get fun s => ?_
  split
  · exact .pure _
  · exact .throw _

theorem storedPattern_leads (name : String) : (storedPattern name).Leads R := by
  refine .bind .get fun s => ?_
  split
  · exact .pure _
  · exact .throw _

theorem modelFields_leads (fields : List FieldPlan) : (Session.modelFields fields).Leads R := by
  induction fields with
  | nil => exact .pure _
  | cons p rest ih =>
    exact .bind (storedValidator_leads _) fun _ => .bind ih fun _ => .pure _

theorem makeSettings_leads (arguments : Arguments) : (Session.makeSettings arguments).Leads R :=
  .bind .get fun _ => .lift _

theorem makeLogSettings_leads (arguments : Arguments) : (Session.makeLogSettings arguments).Leads R := by
  refine .bind .get fun s => ?_
  split
  · exact .pure _
  · exact .throw _

theorem callOn_leads {name : String} (h : ∀ s b, R s (s.putBuilder name b)) (form : Call.Form)
    (arguments : Arguments) : (Session.callOn name form arguments).Leads R := by
  refine .bind (builder_leads name) fun b => ?_
  split
  · exact .pure _
  · exact .pure _
  · exact .bind (.modify fun s => h s _) fun _ => .bind (note_leads _) fun _ => .pure _

theorem setUpLogger_leads (h : ∀ s log, R s { s with log }) (arguments : Arguments) :
    (Session.setUpLogger arguments).Leads R :=
  .bind (.lift _) fun _ => .bind (useLog_leads h _) fun _ => .bind .get fun _ => .bind (.lift _) fun _ =>
    .pure _

theorem settingsFrom_leads (kind : SettingsKind) (overrides : Arguments) (apply : Bool) (content : Value) :
    (Session.settingsFrom kind overrides apply content).Leads R := by
  refine .bind (.lift _) fun arguments => ?_
  cases kind with
  | builder =>
    refine .bind (makeSettings_leads _) fun s => ?_
    cases apply with
    | false => exact .pure _
    | true => exact .bind (useDefaults_leads _) fun _ => .pure _
  | log => exact .bind (makeLogSettings_leads _) fun s => .pure _

theorem loadSettings_leads (h : ∀ s documents, R s { s with documents }) (kind : SettingsKind)
    (file : FilePlan) (overrides : Arguments) (apply : Bool) :
    (Session.loadSettings kind file overrides apply).Leads R := by
  rw [Session.loadSettings_eq]
  exact .bind (document_leads h _ _) (settingsFrom_leads kind overrides apply)

theorem readText_leads (path : String) (encoding : Value) :
    (Session.readText path encoding).Leads R := by
  refine .bind (.lift _) fun _ => .bind .get fun s => .bind (.lift _) fun bytes =>
    .bind (.lift _) fun encoding => ?_
  split
  · exact .pure _
  · exact .throw _

theorem logMessage_leads (name : String) (level text : Value) :
    (Session.logMessage name level text).Leads R := by
  unfold Session.logMessage
  split
  · exact .bind (.lift _) fun _ => .bind .get fun _ => .bind (.lift _) fun _ =>
      .bind (.modify fun s => hR.log s (Log.emit_eq _ _ s.log)) fun _ => .pure _
  · exact .throw _

end Leading

/-! ### Steps -/

/-- The builder that a step may change or make anew. -/
def Step.builderOf? : Step → Option String
  | .create on _ _ | .call on _ _ => some on
  | _ => none

/-- The name that a step stores something under. -/
def Step.storeOf? : Step → Option String
  | .build _ saveAs => saveAs
  | .saveValidator _ saveAs | .saveType _ saveAs => some saveAs
  | _ => none

/-- Whether a step may change the contents that are kept of files. -/
def Step.usesDocuments : Step → Bool
  | .load _ | .clearDocuments | .loadSettings _ _ _ _ => true
  | _ => false

/-- Whether a step sets up a logger. -/
def Step.setsUp : Step → Bool
  | .setUpLogger _ | .setUpPackage _ _ => true
  | _ => false

/-- A step relates sessions that differ in what it works on, and in what the relation does not see. -/
theorem Step.action_leads {R : Session → Session → Prop} [hR : Indifferent R] {step : Step}
    (hbuilder : ∀ on, step.builderOf? = some on → ∀ s b, R s (s.putBuilder on b))
    (hstore : ∀ name, step.storeOf? = some name → ∀ s a, R s (s.store name a))
    (hdocuments : step.usesDocuments = true → ∀ s documents, R s { s with documents })
    (hlog : step.setsUp = true → ∀ s log, R s { s with log }) : step.action.Leads R := by
  cases step with
  | create on flags given =>
    cases given with
    | none =>
      exact .bind (useDefaults_leads _) fun _ => .bind (.modify fun s => hbuilder on rfl s _) fun _ =>
        .bind (.lift _) fun _ => .pure _
    | some arguments =>
      exact .bind (makeSettings_leads arguments) fun _ => .bind (.modify fun s => hbuilder on rfl s _)
        fun _ => .bind (.lift _) fun _ => .pure _
  | call on form arguments => exact callOn_leads (hbuilder on rfl) form arguments
  | requirements on => exact .bind (builder_leads on) fun _ => .pure _
  | shown on => exact .bind (builder_leads on) fun _ => .bind (.lift _) fun _ => .pure _
  | build on saveAs =>
    refine .bind (builder_leads on) fun b => .bind (.lift _) fun c => .bind (noteBuild_leads b) fun _ => ?_
    cases saveAs with
    | none => exact .pure _
    | some name => exact .bind (.modify fun s => hstore name rfl s _) fun _ => .pure _
  | matchSaved saved value =>
    exact .bind (storedPattern_leads saved) fun _ => .bind (.lift _) fun _ => .pure _
  | failed on value => exact .bind (builder_leads on) fun _ => .bind (.lift _) fun _ => .pure _
  | isValid on value =>
    exact .bind (builder_leads on) fun b => .bind (noteBuild_leads b) fun _ => .bind (.lift _) fun _ =>
      .pure _
  | testOne on value =>
    exact .bind (builder_leads on) fun b => .bind (testAll_leads b _) fun _ => .pure _
  | test on values =>
    exact .bind (builder_leads on) fun b => .bind (testAll_leads b _) fun _ => .pure _
  | overview on =>
    exact .bind (builder_leads on) fun b => .bind (noteBuild_leads b) fun _ => .bind (.lift _) fun _ =>
      .pure _
  | saveValidator on saveAs =>
    exact .bind (builder_leads on) fun b => .bind (noteBuild_leads b) fun _ => .bind (.lift _) fun _ =>
      .bind (.modify fun s => hstore saveAs rfl s _) fun _ => .pure _
  | saveType on saveAs =>
    exact .bind (builder_leads on) fun b => .bind (noteBuild_leads b) fun _ => .bind (.lift _) fun _ =>
      .bind (.modify fun s => hstore saveAs rfl s _) fun _ => .pure _
  | validate saved value mode =>
    exact .bind (storedValidator_leads saved) fun _ => .bind (.lift _) fun _ => .pure _
  | model fields data =>
    exact .bind (modelFields_leads fields) fun _ => .bind (.lift _) fun _ => .pure _
  | setVariable name text => exact .bind (.modify fun s => hR.environment s _) fun _ => .pure _
  | settings kind values =>
    cases kind with
    | builder => exact .bind (.lift _) fun _ => .bind (makeSettings_leads _) fun _ => .pure _
    | log => exact .bind (.lift _) fun _ => .bind (makeLogSettings_leads _) fun _ => .pure _
  | currentSettings => exact .bind (useDefaults_leads _) fun _ => .pure _
  | configure given overrides =>
    cases given with
    | none => exact .bind (.pure _) fun _ => .bind (useDefaults_leads _) fun _ => .pure _
    | some arguments =>
      exact .bind (makeSettings_leads arguments) fun _ => .bind (.pure _) fun _ =>
        .bind (useDefaults_leads _) fun _ => .pure _
  | resetSettings => exact .bind (.modify fun s => hR.defaults s _) fun _ => .pure _
  | write path text => exact .bind (useFiles_leads _) fun _ => .pure _
  | remove path => exact .bind (useFiles_leads _) fun _ => .pure _
  | load file => exact .bind (document_leads (hdocuments rfl) _ _) fun _ => .pure _
  | clearDocuments => exact .bind (.modify fun s => hdocuments rfl s _) fun _ => .pure _
  | loadSettings kind file overrides apply => exact loadSettings_leads (hdocuments rfl) kind file overrides apply
  | setUpLogger arguments => exact setUpLogger_leads (hlog rfl) arguments
  | setUpPackage config arguments =>
    cases config with
    | none =>
      exact .bind (useDefaults_leads _) fun _ => .bind (.pure _) fun _ => setUpLogger_leads (hlog rfl) _
    | some config =>
      exact .bind (makeLogSettings_leads config) fun _ => .bind (.pure _) fun _ =>
        setUpLogger_leads (hlog rfl) _
  | loggerNamed name => exact .bind (.lift _) fun _ => .pure _
  | loggerOfCaller caller => exact .bind (.lift _) fun _ => .pure _
  | log name level text => exact logMessage_leads name level text
  | read path encoding => exact readText_leads path encoding

/-- A step works on one builder and stores under one name at most. -/
theorem Step.action_keeps (step : Step) : step.action.Keeps step.builderOf? step.storeOf? := by
  have hbuilder : ∀ on, step.builderOf? = some on → ∀ s b,
      Frame step.builderOf? step.storeOf? s (s.putBuilder on b) := by
    intro on hon s b
    rw [hon]
    exact .putBuilder on b s
  have hstore : ∀ name, step.storeOf? = some name → ∀ s a,
      Frame step.builderOf? step.storeOf? s (s.store name a) := by
    intro name hname s a
    rw [hname]
    exact .store name a s
  exact action_leads hbuilder hstore (fun _ _ _ => .of_eq rfl rfl) fun _ _ _ => .of_eq rfl rfl

/-- The answer of a step that stands for a result. -/
def Reply.ofResult : Except Failure Value → Reply
  | .ok v => .value v
  | .error e => .failed e

theorem Step.run_of_ok {step : Step} {s : Session} {reply : Reply}
    (h : (step.action.run.run s).1 = .ok reply) :
    step.run s = (reply, (step.action.run.run s).2) := by
  unfold Step.run
  rcases hrun : step.action.run.run s with ⟨x, s'⟩
  obtain rfl : x = _ := by simpa only [hrun] using h
  rfl

theorem Step.run_of_error {step : Step} {s : Session} {f : Failure}
    (h : (step.action.run.run s).1 = .error f) :
    step.run s = (.failed f, (step.action.run.run s).2) := by
  unfold Step.run
  rcases hrun : step.action.run.run s with ⟨x, s'⟩
  obtain rfl : x = _ := by simpa only [hrun] using h
  rfl

/-- Whether a step succeeds or fails, the session after it is that of its action. -/
theorem Step.run_snd (step : Step) (s : Session) : (step.run s).2 = (step.action.run.run s).2 := by
  cases hresult : (step.action.run.run s).1 with
  | ok reply => rw [Step.run_of_ok hresult]
  | error f => rw [Step.run_of_error hresult]

/-- **Step.** A step changes no builder but its own, and nothing stored but what it stores. -/
theorem Step.run_frame (step : Step) (s : Session) :
    Frame step.builderOf? step.storeOf? s (step.run s).2 := by
  rw [Step.run_snd]
  exact step.action_keeps s

theorem Session.run_append_snd (s : Session) (steps others : List Step) :
    (s.run (steps ++ others)).2 = ((s.run steps).2.run others).2 := by
  induction steps generalizing s with
  | nil => rfl
  | cons step rest ih => exact ih (step.run s).2

/-- **Run.** What every step of a run preserves, the run preserves. -/
theorem Session.run_invariant {P : Session → Prop} {steps : List Step}
    (hsteps : ∀ x ∈ steps, ∀ s, P s → P (x.run s).2) {s : Session} (h : P s) : P (s.run steps).2 := by
  induction steps generalizing s with
  | nil => exact h
  | cons step rest ih =>
    obtain ⟨hstep, hrest⟩ := List.forall_mem_cons.mp hsteps
    exact ih hrest (hstep s h)

/-- What is stored under a name stays there until something else is stored under it. -/
theorem Session.run_stored {name : String} {steps : List Step}
    (hsteps : ∀ x ∈ steps, x.storeOf? ≠ some name) (s : Session) :
    (s.run steps).2.stored.lookup name = s.stored.lookup name := by
  have hstep : ∀ x ∈ steps, ∀ s', s'.stored.lookup name = s.stored.lookup name →
      (x.run s').2.stored.lookup name = s.stored.lookup name := fun x hx s' h =>
    ((x.run_frame s').stored name (hsteps x hx)).trans h
  exact run_invariant hstep rfl

end TextCriteria
