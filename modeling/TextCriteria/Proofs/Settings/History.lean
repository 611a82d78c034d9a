import TextCriteria.Proofs.Session.Frame
import TextCriteria.Proofs.Settings.Override

namespace TextCriteria

/-!
# Default settings and what happened before

The default settings of a process are read from the environment at the first need, replaced as a whole or
field by field, and forgotten. What they are at any moment can be told from the operations so far.

* `Move` — the operations that touch or need the default settings, and the changes of variables;
  `Move.role`, what an operation means to the settings.
* `Unread`, `BaseOf` — histories in which nothing has been read or given since the last reset, and the
  base and the overrides that a history leads to.
* `Told.step`, `told_after` — what is told is true after one more operation, and after a whole run.
* `BaseOf.unique` — a history has one base and one list of overrides.
* `default_settings_told` — what is answered when the settings are asked for, and what builders keep.
* `Step.run_move` — the steps of a session that are such operations; `Session.run_moves`, runs of them.
* `told_by_steps` — what such runs tell, which is one thing only.
-/

/-! ### Operations -/

/-- An operation on the default settings, or one that may need them. Settings are given as they are,
    whenever they were made. -/
inductive Move
  | setVariable (name : String) (text : Option String)
  | get
  | configure (given : Option Settings) (overrides : Arguments)
  | reset
  | create (on : String) (flags : Value) (given : Option Settings)

/-- What an operation means to the default settings. -/
inductive Role
  /-- They are forgotten. -/
  | reset
  /-- Other settings take their place. -/
  | given (base : Settings)
  /-- They are needed. -/
  | needed
  /-- They are not looked at. -/
  | idle

namespace Move

/-- What an operation does. It answers with the settings that it is about, if there are any. -/
def action : Move → Action (Option Settings)
  | .setVariable name text => do
    modify fun s => { s with environment := match text with
      | some text => s.environment.put name text
      | none => s.environment.drop name }
    return none
  | .get => do return some (← defaultSettings)
  | .configure given overrides => do
    return some (← useDefaults fun d env => d.configure env given overrides)
  | .reset => do
    modify fun s => { s with defaults := s.defaults.reset }
    return none
  | .create on flags given => do
    let settings ← match given with
      | some settings => pure settings
      | none => defaultSettings
    modify (Session.putBuilder on (Builder.create flags settings))
    return some settings

/-- The answer of an operation and the session after it. -/
def run (m : Move) (s : Session) : Except Failure (Option Settings) × Session := m.action.run.run s

/-- What an operation means to the default settings. -/
def role : Move → Role
  | .reset => .reset
  | .configure (some base) _ => .given base
  | .get | .configure none _ | .create _ _ none => .needed
  | .setVariable _ _ | .create _ _ (some _) => .idle

/-- The fields that an operation overrides. -/
def overrides : Move → Arguments
  | .configure _ overrides => overrides
  | _ => []

/-- The name of the builder that an operation makes. -/
def creates? : Move → Option String
  | .create on _ _ => some on
  | _ => none

/-- The environment after an operation. -/
def environment (env : Environment) : Move → Environment
  | .setVariable name (some text) => env.put name text
  | .setVariable name none => env.drop name
  | _ => env

end Move

/-- The session after some operations. -/
def Session.after (s : Session) (moves : List Move) : Session :=
  moves.foldl (fun s m => (m.run s).2) s

/-- The environment after some operations. -/
def Environment.after (env : Environment) (moves : List Move) : Environment :=
  moves.foldl Move.environment env

theorem Session.after_append (s : Session) (moves others : List Move) :
    s.after (moves ++ others) = (s.after moves).after others := List.foldl_append

/-! ### One operation -/

/-- The default settings after an operation, if `read` is what the environment says. -/
def Role.settle (read : Except Failure Settings) (overrides : Arguments) (current : Option Settings) :
    Role → Option Settings
  | .reset => none
  | .given base => some (base.replaceAll overrides)
  | .needed => (current.or read.toOption).map fun s => s.replaceAll overrides
  | .idle => current

/-- The settings that are needed are those that are there, or else what the environment says; if it says
    nothing that can be read, nothing is kept. -/
theorem DefaultSettings.get_cases (d : DefaultSettings) (env : Environment) :
    (∃ v, d.current.or (Settings.make env []).toOption = some v ∧ d.get env = (.ok v, ⟨some v⟩)) ∨
      (∃ f, d.current = none ∧ Settings.make env [] = .error f ∧ d.get env = (.error f, d)) := by
  obtain ⟨current⟩ := d
  cases current with
  | some v => exact .inl ⟨v, rfl, rfl⟩
  | none =>
    cases hmake : Settings.make env [] with
    | ok v => exact .inl ⟨v, rfl, by simp [get, hmake]⟩
    | error f => exact .inr ⟨f, rfl, rfl, by simp [get, hmake]⟩

namespace Move

variable {m : Move}

theorem run_environment (m : Move) (s : Session) :
    (m.run s).2.environment = m.environment s.environment := by
  cases m with
  | setVariable name text => cases text <;> rfl
  | get =>
    simp only [run, action, Action.bind_run, defaultSettings, useDefaults_run, environment]
    cases (s.defaults.get s.environment).1 <;> rfl
  | configure given overrides =>
    simp only [run, action, Action.bind_run, useDefaults_run, environment]
    cases (s.defaults.configure s.environment given overrides).1 <;> rfl
  | reset => rfl
  | create on flags given =>
    cases given with
    | some v => rfl
    | none =>
      simp only [run, action, Action.bind_run, defaultSettings, useDefaults_run, environment]
      cases (s.defaults.get s.environment).1 <;> rfl

/-- Where the default settings are needed, they are those that are there or else what the environment says,
    with the overrides; if there is nothing to read, the operation fails and nothing happens. -/
theorem run_needed (hneeded : m.role = .needed) (s : Session) :
    (∃ v, s.defaults.current.or (Settings.make s.environment []).toOption = some v ∧
      (m.run s).1 = .ok (some (v.replaceAll m.overrides)) ∧
      (m.run s).2.defaults.current = some (v.replaceAll m.overrides)) ∨
    (∃ f, s.defaults.current = none ∧ Settings.make s.environment [] = .error f ∧
      (m.run s).1 = .error f ∧ (m.run s).2 = s) := by
  cases m with
  | setVariable name text => cases hneeded
  | reset => cases hneeded
  | get =>
    simp only [run, action, Action.bind_run, defaultSettings, useDefaults_run]
    rcases s.defaults.get_cases s.environment with ⟨v, hv, hget⟩ | ⟨f, hnone, hmake, hget⟩
    · rw [hget]
      exact .inl ⟨v, hv, rfl, rfl⟩
    · rw [hget]
      exact .inr ⟨f, hnone, hmake, rfl, rfl⟩
  | configure given overrides =>
    cases given with
    | some base => cases hneeded
    | none =>
      simp only [run, action, Action.bind_run, useDefaults_run, DefaultSettings.configure]
      rcases s.defaults.get_cases s.environment with ⟨v, hv, hget⟩ | ⟨f, hnone, hmake, hget⟩
      · rw [hget]
        exact .inl ⟨v, hv, rfl, rfl⟩
      · rw [hget]
        exact .inr ⟨f, hnone, hmake, rfl, rfl⟩
  | create on flags given =>
    cases given with
    | some base => cases hneeded
    | none =>
      simp only [run, action, Action.bind_run, defaultSettings, useDefaults_run]
      rcases s.defaults.get_cases s.environment with ⟨v, hv, hget⟩ | ⟨f, hnone, hmake, hget⟩
      · rw [hget]
        exact .inl ⟨v, hv, rfl, rfl⟩
      · rw [hget]
        exact .inr ⟨f, hnone, hmake, rfl, rfl⟩

theorem eq_of_role_reset (h : m.role = .reset) : m = .reset := by
  cases m with
  | reset => rfl
  | configure given overrides => cases given <;> cases h
  | create on flags given => cases given <;> cases h
  | _ => cases h

theorem eq_of_role_given {base : Settings} (h : m.role = .given base) :
    ∃ overrides, m = .configure (some base) overrides := by
  cases m with
  | configure given overrides =>
    cases given with
    | none => cases h
    | some settings =>
      obtain rfl : settings = base := by simpa [role] using h
      exact ⟨overrides, rfl⟩
  | create on flags given => cases given <;> cases h
  | _ => cases h

/-- An operation that does not look at the default settings overrides nothing and keeps them. -/
theorem run_idle (h : m.role = .idle) :
    m.overrides = [] ∧ ∀ s : Session, (m.run s).2.defaults = s.defaults := by
  cases m with
  | setVariable name text => exact ⟨rfl, fun _ => rfl⟩
  | configure given overrides => cases given <;> cases h
  | create on flags given =>
    cases given with
    | none => cases h
    | some base => exact ⟨rfl, fun _ => rfl⟩
  | _ => cases h

/-- Operations that do not need the default settings never fail. -/
theorem run_error {s : Session} {f : Failure} (h : (m.run s).1 = .error f) :
    m.role = .needed ∧ s.defaults.current = none ∧ Settings.make s.environment [] = .error f ∧
      (m.run s).2 = s := by
  have hneeded : m.role = .needed := by
    cases m with
    | setVariable name text => cases h
    | get => rfl
    | configure given overrides =>
      cases given with
      | none => rfl
      | some base => cases h
    | reset => cases h
    | create on flags given =>
      cases given with
      | none => rfl
      | some base => cases h
  rcases run_needed hneeded s with ⟨v, -, hok, -⟩ | ⟨g, hnone, hmake, hg, hs⟩
  · cases h.symm.trans hok
  · obtain rfl := Except.error.inj (h.symm.trans hg)
    exact ⟨hneeded, hnone, hmake, hs⟩

/-- **One operation.** The settings of the process after it. -/
theorem run_current (m : Move) (s : Session) :
    (m.run s).2.defaults.current
      = m.role.settle (Settings.make s.environment []) m.overrides s.defaults.current := by
  cases hrole : m.role with
  | needed =>
    rcases run_needed hrole s with ⟨v, hv, -, hcurrent⟩ | ⟨f, hnone, hmake, -, hs⟩
    · rw [hcurrent, Role.settle, hv]
      rfl
    · rw [hs, Role.settle, hnone, hmake]
      rfl
  | reset =>
    obtain rfl := eq_of_role_reset hrole
    rfl
  | given base =>
    obtain ⟨overrides, rfl⟩ := eq_of_role_given hrole
    rfl
  | idle => exact congrArg DefaultSettings.current ((run_idle hrole).2 s)

end Move

/-! ### Histories -/

/-- Since the last reset nothing was given, and whenever the default settings were needed, the environment
    could not be read. -/
def Unread (env : Environment) (moves : List Move) : Prop :=
  ∃ before since, moves = before ++ since ∧ (before = [] ∨ ∃ earlier, before = earlier ++ [.reset]) ∧
    ∀ early m late, since = early ++ m :: late →
      m.role = .idle ∨
        (m.role = .needed ∧ ∃ f, Settings.make (env.after (before ++ early)) [] = .error f)

/-- The base and the overrides that a history leads to. The base are the settings that were given last, or
    else, where nothing has been given or read since the last reset, what the environment said when the
    settings were needed and could be read. Overrides are those of that operation and of all later ones. -/
def BaseOf (env : Environment) (moves : List Move) (base : Settings) (overrides : Arguments) : Prop :=
  ∃ before m after, moves = before ++ m :: after ∧
    (∀ x ∈ after, x.role = .needed ∨ x.role = .idle) ∧
    overrides = m.overrides ++ after.flatMap Move.overrides ∧
    (m.role = .given base ∨
      (m.role = .needed ∧ Unread env before ∧ Settings.make (env.after before) [] = .ok base))

/-- The default settings are what their history says. -/
def Told (env : Environment) (moves : List Move) (current : Option Settings) : Prop :=
  match current with
  | none => Unread env moves
  | some v => ∃ base overrides, v = base.replaceAll overrides ∧ BaseOf env moves base overrides

section Histories

variable {env : Environment} {moves : List Move} {m : Move} {base : Settings} {overrides : Arguments}

theorem unread_nil : Unread env [] := ⟨[], [], rfl, .inl rfl, by simp⟩

theorem Unread.append (h : Unread env moves)
    (hm : m.role = .idle ∨ (m.role = .needed ∧ ∃ f, Settings.make (env.after moves) [] = .error f)) :
    Unread env (moves ++ [m]) := by
  obtain ⟨before, since, rfl, hbefore, hsince⟩ := h
  refine ⟨before, since ++ [m], by simp, hbefore, fun early x late heq => ?_⟩
  rcases append_singleton_split heq with ⟨rfl, rfl, -⟩ | ⟨front, -, hfront⟩
  · exact hm
  · exact hsince early x front hfront

theorem BaseOf.append (h : BaseOf env moves base overrides) (hm : m.role = .needed ∨ m.role = .idle) :
    BaseOf env (moves ++ [m]) base (overrides ++ m.overrides) := by
  obtain ⟨before, x, after, rfl, hafter, rfl, hx⟩ := h
  refine ⟨before, x, after ++ [m], by simp, fun y hy => ?_, by simp, hx⟩
  rcases List.mem_append.mp hy with hy | hy
  · exact hafter y hy
  · obtain rfl := List.mem_singleton.mp hy
    exact hm

/-- What an operation sets is the end of its history. -/
theorem baseOf_last
    (hm : m.role = .given base ∨
      (m.role = .needed ∧ Unread env moves ∧ Settings.make (env.after moves) [] = .ok base)) :
    BaseOf env (moves ++ [m]) base m.overrides :=
  ⟨moves, m, [], rfl, by simp, by simp, hm⟩

/-- Where nothing has been read or given, there is no base. -/
theorem Unread.not_baseOf (h : Unread env moves) : ¬BaseOf env moves base overrides := by
  rintro ⟨earlier, m, after, hmoves, hafter, -, hm⟩
  obtain ⟨before, since, hsplit, hbefore, hsince⟩ := h
  -- The operation that sets the base would be idle or fail if it came after the last reset.
  have hlate : ∀ early, since = early ++ m :: after → earlier ≠ before ++ early := by
    rintro early hearly rfl
    rcases hsince early m after hearly with hidle | ⟨hneeded, f, hf⟩
    · rcases hm with hm | ⟨hm, -⟩ <;> cases hidle.symm.trans hm
    · rcases hm with hm | ⟨-, -, hm⟩
      · cases hneeded.symm.trans hm
      · cases hf.symm.trans hm
  rcases List.append_eq_append_iff.mp (hmoves.symm.trans hsplit) with
    ⟨mid, hmid, hrest⟩ | ⟨early, hearlier, hearly⟩
  · rcases List.eq_nil_or_concat mid with rfl | ⟨mid, x, rfl⟩
    · exact hlate [] hrest.symm (by simpa using hmid.symm)
    · -- Otherwise the last reset is that operation or one after it.
      have hx : x.role = .reset := by
        rcases hbefore with rfl | ⟨first, rfl⟩
        · simp at hmid
        · rw [List.concat_eq_append, ← List.append_assoc] at hmid
          obtain rfl : Move.reset = x := by simpa using (List.append_inj' hmid rfl).2
          rfl
      have hmem : x ∈ m :: after := by simp [hrest]
      rcases List.mem_cons.mp hmem with rfl | hmem
      · rcases hm with hm | ⟨hm, -⟩ <;> cases hx.symm.trans hm
      · rcases hafter x hmem with h | h <;> cases hx.symm.trans h
  · exact hlate early hearly hearlier

/-- Two places in a list are one, or one of them comes before the other. -/
theorem eq_or_before_of_append_cons {α : Type} {before before' after after' : List α} {x x' : α}
    (h : before ++ x :: after = before' ++ x' :: after') :
    (before = before' ∧ x = x' ∧ after = after') ∨
      (∃ mid, before' = before ++ x :: mid ∧ after = mid ++ x' :: after') ∨
      ∃ mid, before = before' ++ x' :: mid ∧ after' = mid ++ x :: after := by
  rcases List.append_eq_append_iff.mp h with ⟨mid, rfl, hrest⟩ | ⟨mid, rfl, hrest⟩
  · cases mid with
    | nil => exact .inl (by simpa using hrest)
    | cons y mid =>
      obtain ⟨rfl, rfl⟩ := List.cons.inj hrest
      exact .inr (.inl ⟨mid, rfl, rfl⟩)
  · cases mid with
    | nil =>
      obtain ⟨rfl, rfl⟩ := List.cons.inj hrest
      exact .inl (by simp)
    | cons y mid =>
      obtain ⟨rfl, rfl⟩ := List.cons.inj hrest
      exact .inr (.inr ⟨mid, rfl, rfl⟩)

/-- A history leads to one base and to one list of overrides. -/
theorem BaseOf.unique {base' : Settings} {overrides' : Arguments} (h : BaseOf env moves base overrides)
    (h' : BaseOf env moves base' overrides') : base = base' ∧ overrides = overrides' := by
  obtain ⟨before, m, after, hmoves, hafter, hover, hm⟩ := h
  obtain ⟨before', m', after', hmoves', hafter', hover', hm'⟩ := h'
  rcases eq_or_before_of_append_cons (hmoves.symm.trans hmoves') with
    ⟨rfl, rfl, rfl⟩ | ⟨mid, hbefore, hrest⟩ | ⟨mid, hbefore, hrest⟩
  · refine ⟨?_, hover.trans hover'.symm⟩
    rcases hm with hm | ⟨hm, -, hmake⟩ <;> rcases hm' with hm' | ⟨hm', -, hmake'⟩
    · exact Role.given.inj (hm.symm.trans hm')
    · cases hm.symm.trans hm'
    · cases hm.symm.trans hm'
    · exact Except.ok.inj (hmake.symm.trans hmake')
  · -- The later operation does not read anything, since the earlier one has set a base.
    rcases hm' with hm' | ⟨-, hunread, -⟩
    · rcases hafter m' (by simp [hrest]) with h | h <;> cases hm'.symm.trans h
    · exact absurd ⟨before, m, mid, hbefore, fun x hx => hafter x (by simp [hrest, hx]), rfl, hm⟩
        hunread.not_baseOf
  · rcases hm with hm | ⟨-, hunread, -⟩
    · rcases hafter' m (by simp [hrest]) with h | h <;> cases hm.symm.trans h
    · exact absurd ⟨before', m', mid, hbefore, fun x hx => hafter' x (by simp [hrest, hx]), rfl, hm'⟩
        hunread.not_baseOf

/-- **Step.** What is told about the settings is true after one more operation. -/
theorem Told.step {current : Option Settings} (h : Told env moves current) (m : Move) :
    Told env (moves ++ [m])
      (m.role.settle (Settings.make (env.after moves) []) m.overrides current) := by
  cases hrole : m.role with
  | reset =>
    obtain rfl := Move.eq_of_role_reset hrole
    exact ⟨moves ++ [.reset], [], by simp, .inr ⟨moves, rfl⟩, by simp⟩
  | given base => exact ⟨base, m.overrides, rfl, baseOf_last (.inl hrole)⟩
  | idle =>
    cases current with
    | none => exact Unread.append h (.inl hrole)
    | some v =>
      obtain ⟨base, overrides, hv, hbase⟩ := h
      refine ⟨base, overrides ++ m.overrides, ?_, hbase.append (.inr hrole)⟩
      rw [(Move.run_idle hrole).1, List.append_nil, hv]
  | needed =>
    cases current with
    | some v =>
      obtain ⟨base, overrides, hv, hbase⟩ := h
      refine ⟨base, overrides ++ m.overrides, ?_, hbase.append (.inl hrole)⟩
      rw [Settings.replaceAll_append, hv]
    | none =>
      cases hmake : Settings.make (env.after moves) [] with
      | ok base => exact ⟨base, m.overrides, rfl, baseOf_last (.inr ⟨hrole, h, hmake⟩)⟩
      | error f => exact Unread.append h (.inr ⟨hrole, f, hmake⟩)

end Histories

/-! ### Runs -/

variable {s : Session}

theorem Session.after_environment (s : Session) (moves : List Move) :
    (s.after moves).environment = s.environment.after moves := by
  induction moves generalizing s with
  | nil => rfl
  | cons m rest ih => exact (ih (m.run s).2).trans (by rw [Move.run_environment]; rfl)

/-- **Run.** After any operations the default settings are what their history says. -/
theorem told_after (hs : s.defaults.current = none) (moves : List Move) :
    Told s.environment moves (s.after moves).defaults.current := by
  induction moves using List.reverseRecOn with
  | nil =>
    have hnone : (s.after []).defaults.current = none := hs
    rw [hnone]
    exact unread_nil
  | append_singleton moves m ih =>
    have hlast : (s.after (moves ++ [m])).defaults.current
        = ((m.run (s.after moves)).2).defaults.current := by
      rw [Session.after_append]
      rfl
    rw [hlast, Move.run_current, Session.after_environment]
    exact ih.step m

/-- Without a reset or other settings, only overrides change the default settings. -/
theorem after_current {v : Settings} (hs : s.defaults.current = some v) {later : List Move}
    (hlater : ∀ m ∈ later, m.role = .needed ∨ m.role = .idle) :
    (s.after later).defaults.current = some (v.replaceAll (later.flatMap Move.overrides)) := by
  induction later generalizing s v with
  | nil => exact hs
  | cons m rest ih =>
    obtain ⟨hrole, hrest⟩ := List.forall_mem_cons.mp hlater
    have hnext : (m.run s).2.defaults.current = some (v.replaceAll m.overrides) := by
      rw [Move.run_current, hs]
      rcases hrole with hrole | hrole
      · rw [hrole]
        rfl
      · rw [hrole, (Move.run_idle hrole).1]
        rfl
    rw [List.flatMap_cons, Settings.replaceAll_append]
    exact ih hnext hrest

/-- Operations that do not look at the default settings leave them as they are. -/
theorem after_idle {later : List Move} (hlater : ∀ m ∈ later, m.role = .idle) (s : Session) :
    (s.after later).defaults = s.defaults := by
  induction later generalizing s with
  | nil => rfl
  | cons m rest ih =>
    obtain ⟨hrole, hrest⟩ := List.forall_mem_cons.mp hlater
    exact (ih hrest (m.run s).2).trans ((Move.run_idle hrole).2 s)

/-- The default settings, asked for when they are there. -/
theorem get_run_of_some {v : Settings} (hs : s.defaults.current = some v) :
    (Move.get.run s).1 = .ok (some v) := by
  rcases Move.run_needed (m := .get) rfl s with ⟨w, hw, hok, -⟩ | ⟨f, hnone, -⟩
  · rw [hs] at hw
    obtain rfl := Option.some.inj hw
    exact hok
  · cases hs.symm.trans hnone

/-- The default settings, asked for when they are not there, are read from the environment. -/
theorem get_run_of_none (hs : s.defaults.current = none) :
    (Move.get.run s).1 = (Settings.make s.environment []).map some := by
  rcases Move.run_needed (m := .get) rfl s with ⟨w, hw, hok, -⟩ | ⟨f, -, hmake, herror, -⟩
  · rw [hs] at hw
    cases hmake : Settings.make s.environment [] with
    | ok v =>
      rw [hmake] at hw
      obtain rfl : v = w := Option.some.inj hw
      exact hok
    | error f =>
      rw [hmake] at hw
      cases hw
  · rw [herror, hmake]
    rfl

/-! ### Builders -/

theorem Move.action_leads (m : Move) : m.action.Leads (Frame m.creates? none) := by
  cases m with
  | setVariable name text => exact .bind (.modify fun s => .of_eq rfl rfl) fun _ => .pure _
  | get => exact .bind (useDefaults_leads _) fun _ => .pure _
  | configure given overrides => exact .bind (useDefaults_leads _) fun _ => .pure _
  | reset => exact .bind (.modify fun s => .of_eq rfl rfl) fun _ => .pure _
  | create on flags given =>
    cases given with
    | none =>
      exact .bind (useDefaults_leads _) fun _ => .bind (.modify fun s => .putBuilder on _ s) fun _ =>
        .pure _
    | some settings =>
      exact .bind (.pure _) fun _ => .bind (.modify fun s => .putBuilder on _ s) fun _ => .pure _

/-- A builder stays as it is until another one is made in its place. -/
theorem after_builder {on : String} {b : Builder} (hb : s.builders.lookup on = some b)
    {later : List Move} (hlater : ∀ m ∈ later, m.creates? ≠ some on) :
    (s.after later).builders.lookup on = some b := by
  induction later generalizing s with
  | nil => exact hb
  | cons m rest ih =>
    obtain ⟨hm, hrest⟩ := List.forall_mem_cons.mp hlater
    exact ih ((m.action_leads s).builder on b hm hb) hrest

/-- A new builder has the settings that are given, or else the default ones. -/
theorem create_run {on : String} {flags : Value} {given : Option Settings} {v : Settings}
    (h : ((Move.create on flags given).run s).1 = .ok (some v)) :
    ((Move.create on flags given).run s).2.builders.lookup on = some (Builder.create flags v) ∧
      (given = some v ∨ (given = none ∧ (Move.get.run s).1 = .ok (some v))) := by
  cases given with
  | some settings =>
    have hanswer : ((Move.create on flags (some settings)).run s).1 = .ok (some settings) := rfl
    obtain rfl : settings = v := Option.some.inj (Except.ok.inj (hanswer.symm.trans h))
    exact ⟨lookup_putNamed_self, .inl rfl⟩
  | none =>
    simp only [Move.run, Move.action, Action.bind_run, defaultSettings, useDefaults_run] at h ⊢
    rcases s.defaults.get_cases s.environment with ⟨w, -, hget⟩ | ⟨f, -, -, hget⟩
    · rw [hget] at h ⊢
      obtain rfl : w = v := Option.some.inj (Except.ok.inj h)
      exact ⟨lookup_putNamed_self, .inr ⟨trivial, rfl⟩⟩
    · rw [hget] at h
      cases h

/-! ### What is told -/

/-- Whoever asks for the default settings is told the base of the history with its overrides, unless the
    environment cannot be read. -/
theorem get_told (hs : s.defaults.current = none) (moves : List Move) :
    (∃ v base overrides, (Move.get.run (s.after moves)).1 = .ok (some v) ∧
        BaseOf s.environment (moves ++ [.get]) base overrides ∧ base.Overlays overrides v) ∨
      ∃ f, (Move.get.run (s.after moves)).1 = .error f := by
  -- Asking is an operation itself, so its answer is what the history with it says.
  have hlast : s.after (moves ++ [.get]) = (Move.get.run (s.after moves)).2 := by
    rw [Session.after_append]
    rfl
  rcases Move.run_needed (m := .get) rfl (s.after moves) with ⟨v, -, hok, hcurrent⟩ | ⟨f, -, -, hf, -⟩
  · have htold := told_after hs (moves ++ [.get])
    rw [hlast, hcurrent] at htold
    obtain ⟨base, overrides, hv, hbase⟩ := htold
    refine .inl ⟨v, base, overrides, hok, hbase, ?_⟩
    obtain rfl : v = base.replaceAll overrides := hv
    exact base.overlays_replaceAll overrides
  · exact .inr ⟨f, hf⟩

/-- **History.** A process begins without default settings. After any operations, whoever asks for them is
    told the base of the history with its overrides, unless the environment cannot be read. An operation
    that fails has read the environment in vain, and whoever asks next reads it again. Once the settings
    are told, only overrides change them until they are reset or replaced, whatever becomes of the
    environment. A builder keeps the settings and flags that it was made with. -/
theorem default_settings_told (hs : s.defaults.current = none) (moves : List Move) :
    ((∃ v base overrides, (Move.get.run (s.after moves)).1 = .ok (some v) ∧
        BaseOf s.environment (moves ++ [.get]) base overrides ∧ base.Overlays overrides v) ∨
      ∃ f, (Move.get.run (s.after moves)).1 = .error f) ∧
    (∀ m f, (m.run (s.after moves)).1 = .error f →
      Settings.make (s.environment.after moves) [] = .error f ∧
        (s.after (moves ++ [m])).defaults.current = none ∧
        ∀ later, (∀ x ∈ later, x.role = .idle) →
          (Move.get.run (s.after (moves ++ m :: later))).1
            = (Settings.make (s.environment.after (moves ++ m :: later)) []).map some) ∧
    (∀ v later, (Move.get.run (s.after moves)).1 = .ok (some v) →
      (∀ x ∈ later, x.role = .needed ∨ x.role = .idle) →
      (Move.get.run (s.after (moves ++ .get :: later))).1
        = .ok (some (v.replaceAll (later.flatMap Move.overrides)))) ∧
    ∀ on flags given v later, ((Move.create on flags given).run (s.after moves)).1 = .ok (some v) →
      (given = some v ∨ (given = none ∧ (Move.get.run (s.after moves)).1 = .ok (some v))) ∧
        ((∀ x ∈ later, x.creates? ≠ some on) →
          (s.after (moves ++ .create on flags given :: later)).builders.lookup on
            = some (Builder.create flags v)) := by
  -- One more operation after the first ones, and further ones after it.
  have hcons (m : Move) (later : List Move) :
      s.after (moves ++ m :: later) = (m.run (s.after moves)).2.after later := by
    rw [Session.after_append]
    rfl
  have hlast (m : Move) : s.after (moves ++ [m]) = (m.run (s.after moves)).2 := hcons m []
  refine ⟨get_told hs moves, fun m f hm => ?_, fun v later hv hlater => ?_,
    fun on flags given v later hv => ?_⟩
  · -- The failed operation has changed nothing, and idle ones keep it so.
    obtain ⟨-, hnone, hmake, hsame⟩ := Move.run_error hm
    rw [Session.after_environment] at hmake
    refine ⟨hmake, by rw [hlast, hsame, hnone], fun later hlater => ?_⟩
    rw [← Session.after_environment]
    refine get_run_of_none ?_
    rw [hcons, after_idle hlater, hsame, hnone]
  · -- Once they have been asked for the settings are there, so nothing is read again.
    refine get_run_of_some ?_
    rw [hcons]
    refine after_current ?_ hlater
    rcases Move.run_needed (m := .get) rfl (s.after moves) with ⟨w, -, hok, hcurrent⟩ | ⟨f, -, -, hf, -⟩
    · obtain rfl : w = v := Option.some.inj (Except.ok.inj (hok.symm.trans hv))
      exact hcurrent
    · cases hf.symm.trans hv
  · obtain ⟨hmade, hgiven⟩ := create_run hv
    refine ⟨hgiven, fun hlater => ?_⟩
    rw [hcons]
    exact after_builder hmade hlater

theorem default_settings_told_region :
    let moves : List Move :=
      [.setVariable "REGEXCRAFT_DEFAULT_FLAGS" (some "x"), .get, .setVariable "REGEXCRAFT_DEFAULT_FLAGS" none,
        .configure none [("default_phone_region", .str "RW")],
        .setVariable "REGEXCRAFT_DEFAULT_PHONE_REGION" (some "KE")]
    ∃ base overrides, BaseOf {} (moves ++ [.get]) base overrides ∧
      base.Overlays overrides { phoneRegion := .str "RW" } := by
  intro moves
  have hget : (Move.get.run (({} : Session).after moves)).1 = .ok (some { phoneRegion := .str "RW" }) := rfl
  obtain ⟨⟨v, base, overrides, hv, hbase, hover⟩ | ⟨f, hf⟩, -⟩ :=
    default_settings_told (s := {}) rfl moves
  · obtain rfl := Option.some.inj (Except.ok.inj (hget.symm.trans hv))
    exact ⟨base, overrides, hbase, hover⟩
  · cases hget.symm.trans hf

/-! ### Steps of a session -/

/-- The operation that a step of a session is, if it is one. Settings that are given by their fields have to
    be accepted first. -/
def Step.move? (env : Environment) : Step → Option Move
  | .setVariable name text => some (.setVariable name text)
  | .currentSettings => some .get
  | .configure none overrides => some (.configure none overrides)
  | .configure (some fields) overrides =>
    (Settings.make env fields).toOption.map fun base => .configure (some base) overrides
  | .resetSettings => some .reset
  | .create on flags none => some (.create on flags none)
  | .create on flags (some fields) =>
    (Settings.make env fields).toOption.map fun base => .create on flags (some base)
  | _ => none

theorem makeSettings_run {fields : Arguments} {base : Settings}
    (h : Settings.make s.environment fields = .ok base) :
    (Session.makeSettings fields).run.run s = (.ok base, s) := by
  have hrun : (Session.makeSettings fields).run.run s = (Settings.make s.environment fields, s) :=
    Action.lift_run _ _
  rw [hrun, h]

/-- An answer that is made from that of an operation changes nothing more. -/
theorem Action.bind_pure_snd {α β : Type} (a : Action α) (f : α → β) (s : Session) :
    ((a >>= fun x => pure (f x)).run.run s).2 = (a.run.run s).2 := by
  rw [Action.bind_run]
  rcases a.run.run s with ⟨x | x, s'⟩ <;> rfl

/-- Such a step leaves the session as the operation does. -/
theorem Step.run_move {step : Step} {m : Move} (h : step.move? s.environment = some m) :
    (step.run s).2 = (m.run s).2 := by
  rw [Step.run_snd]
  cases step with
  | setVariable name text =>
    obtain rfl := Option.some.inj h
    rfl
  | currentSettings =>
    obtain rfl := Option.some.inj h
    exact (Action.bind_pure_snd defaultSettings _ s).trans (Action.bind_pure_snd defaultSettings _ s).symm
  | configure given overrides =>
    cases given with
    | none =>
      obtain rfl := Option.some.inj h
      let change := useDefaults fun d env => d.configure env none overrides
      exact (Action.bind_pure_snd change _ s).trans (Action.bind_pure_snd change _ s).symm
    | some fields =>
      cases hmake : Settings.make s.environment fields with
      | error f => simp [move?, hmake, Except.toOption] at h
      | ok base =>
        obtain rfl : Move.configure (some base) overrides = m := by
          simpa [move?, hmake, Except.toOption] using h
        let change := useDefaults fun d env => d.configure env (some base) overrides
        have hstep : ((Step.configure (some fields) overrides).action.run.run s).2
            = (change.run.run s).2 := by
          simp only [Step.action, Action.bind_run, makeSettings_run hmake]
          exact Action.bind_pure_snd change (fun v => Reply.value (.ofFields v.fields)) s
        rw [hstep]
        exact (Action.bind_pure_snd change some s).symm
  | resetSettings =>
    obtain rfl := Option.some.inj h
    rfl
  | create on flags given =>
    cases given with
    | none =>
      obtain rfl := Option.some.inj h
      simp only [Step.action, Move.run, Move.action, Action.bind_run, Action.lift_run]
      rcases defaultSettings.run.run s with ⟨f | v, s'⟩
      · rfl
      · -- The builder is there before it is shown.
        dsimp only
        cases (Builder.create flags v).shown <;> rfl
    | some fields =>
      cases hmake : Settings.make s.environment fields with
      | error f => simp [move?, hmake, Except.toOption] at h
      | ok base =>
        obtain rfl : Move.create on flags (some base) = m := by
          simpa [move?, hmake, Except.toOption] using h
        simp only [Step.action, Action.bind_run, Action.lift_run, makeSettings_run hmake]
        cases (Builder.create flags base).shown <;> rfl
  | _ => cases h

theorem Move.get_run_fst (s : Session) : (Move.get.run s).1 = (s.defaults.get s.environment).1.map some := by
  simp only [Move.run, Move.action, Action.bind_run, defaultSettings, useDefaults_run]
  cases (s.defaults.get s.environment).1 <;> rfl

/-- The step that asks for the default settings answers with those that the operation finds. -/
theorem Step.run_currentSettings {v : Settings} (h : (Move.get.run s).1 = .ok (some v)) :
    (Step.currentSettings.run s).1 = .value (Session.settingsValue v) := by
  rw [Move.get_run_fst] at h
  cases hget : (s.defaults.get s.environment).1 with
  | error f =>
    rw [hget] at h
    cases h
  | ok w =>
    rw [hget] at h
    obtain rfl : w = v := Option.some.inj (Except.ok.inj h)
    have hreply : (Step.currentSettings.action.run.run s).1 = .ok (.value (Session.settingsValue w)) := by
      simp only [Step.action, Action.bind_run, defaultSettings, useDefaults_run, hget]
      rfl
    rw [Step.run_of_ok hreply]

/-- Or it fails as the operation does. -/
theorem Step.run_currentSettings_error {f : Failure} (h : (Move.get.run s).1 = .error f) :
    (Step.currentSettings.run s).1 = .failed f := by
  rw [Move.get_run_fst] at h
  cases hget : (s.defaults.get s.environment).1 with
  | error e =>
    rw [hget] at h
    obtain rfl : e = f := Except.error.inj h
    have hreply : (Step.currentSettings.action.run.run s).1 = .error e := by
      simp only [Step.action, Action.bind_run, defaultSettings, useDefaults_run, hget]
    rw [Step.run_of_error hreply]
  | ok w =>
    rw [hget] at h
    cases h

/-! ### Runs of steps -/

/-- Whether a step is about the default settings: a change of the environment, a question, a replacement, a
    reset or a new builder. -/
def Step.onDefaults : Step → Bool
  | .setVariable _ _ | .currentSettings | .configure _ _ | .resetSettings | .create _ _ _ => true
  | _ => false

/-- Settings that are refused change nothing. -/
theorem makeSettings_run_error {fields : Arguments} {m : Settings → Move}
    (h : (Settings.make s.environment fields).toOption.map m = none) :
    ∃ f, (Session.makeSettings fields).run.run s = (.error f, s) := by
  have hrun : (Session.makeSettings fields).run.run s = (Settings.make s.environment fields, s) :=
    Action.lift_run _ _
  cases hmake : Settings.make s.environment fields with
  | error f => exact ⟨f, by rw [hrun, hmake]⟩
  | ok base => simp [hmake, Except.toOption] at h

/-- Such a step is an operation, unless the settings that it states are refused. -/
theorem Step.run_no_move {step : Step} (hstep : step.onDefaults = true)
    (h : step.move? s.environment = none) : (step.run s).2 = s := by
  rw [Step.run_snd]
  cases step with
  | configure given overrides =>
    cases given with
    | none => cases h
    | some fields =>
      obtain ⟨f, hf⟩ := makeSettings_run_error h
      simp only [Step.action, Action.bind_run, hf]
  | create on flags given =>
    cases given with
    | none => cases h
    | some fields =>
      obtain ⟨f, hf⟩ := makeSettings_run_error h
      simp only [Step.action, Action.bind_run, hf]
  | setVariable | currentSettings | resetSettings => cases h
  | _ => cases hstep

/-- The operations that the steps of a run are. -/
def Session.moves (s : Session) : List Step → List Move
  | [] => []
  | step :: rest => (step.move? s.environment).toList ++ (step.run s).2.moves rest

/-- **Run.** Steps leave a session as the operations do that they are. -/
theorem Session.run_moves {steps : List Step} (hsteps : ∀ x ∈ steps, x.onDefaults = true) (s : Session) :
    (s.run steps).2 = s.after (s.moves steps) := by
  induction steps generalizing s with
  | nil => rfl
  | cons step rest ih =>
    obtain ⟨hstep, hrest⟩ := List.forall_mem_cons.mp hsteps
    have hrun : (s.run (step :: rest)).2 = ((step.run s).2.run rest).2 := rfl
    rw [hrun, ih hrest, Session.moves, Session.after_append]
    congr 1
    cases hmove : step.move? s.environment with
    | none => exact Step.run_no_move hstep hmove
    | some m => exact Step.run_move hmove

/-- **Steps.** After any steps about the default settings in a process that begins without them, whoever asks is
    told what the operations say that the steps are: a base with overrides, of which there is only one, unless
    the environment cannot be read. -/
theorem told_by_steps (hs : s.defaults.current = none) {steps : List Step}
    (hsteps : ∀ x ∈ steps, x.onDefaults = true) :
    (∃ v base overrides, (Step.currentSettings.run (s.run steps).2).1 = .value (Session.settingsValue v) ∧
      base.Overlays overrides v ∧ ∀ base' overrides',
        BaseOf s.environment (s.moves steps ++ [.get]) base' overrides' ↔ base' = base ∧ overrides' = overrides) ∨
    ∃ f, (Step.currentSettings.run (s.run steps).2).1 = .failed f := by
  rw [Session.run_moves hsteps]
  rcases get_told hs (s.moves steps) with ⟨v, base, overrides, hv, hbase, hover⟩ | ⟨f, hf⟩
  · refine .inl ⟨v, base, overrides, Step.run_currentSettings hv, hover, fun base' overrides' => ⟨?_, ?_⟩⟩
    · exact fun h => h.unique hbase
    · rintro ⟨rfl, rfl⟩
      exact hbase
  · exact .inr ⟨f, Step.run_currentSettings_error hf⟩

end TextCriteria
