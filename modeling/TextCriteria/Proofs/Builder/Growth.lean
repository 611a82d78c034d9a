import TextCriteria.Proofs.Builder.Lookup

namespace TextCriteria

open TextCriteria.Pattern

/-!
# How requirements grow

What a call adds is whole: a single requirement, the group of a preset, or what some rules add one after
the other. A call that fails adds nothing, apart from the rules before the one that fails. Only a note that
cannot be written fails behind what has been added.

* `Requirement.Made` — the requirements that are made with a message.
* `Requirement.Worded` — those with a message that is a text.
* `Change.Single` — a change that adds one requirement, or fails and adds nothing.
* `Group`, `Change.Whole` — the same for requirements that are added together.
* `Call.Grows` — what each kind of call may add, and when it fails; `Call.change_grows`, that it does.
* `Call.Form.Grows` — the same for a form with arguments by name.
-/

/-- The requirements that are made with a message, or with a standard one where it is left out. -/
inductive Requirement.Made (message : Value) : Requirement → Prop
  | length (kind : LengthKind) (n : Nat) : Made message (kind.requirement n message)
  | lengthBetween (least most : Nat) : Made message (.lengthBetween least most message)
  | required : Made message (.required message)
  | characters (kind : CharacterKind) (n : Nat) : Made message (.characters kind n message)
  | email : Made message (.email message)
  | url (schemeRequired : Bool) : Made message (.url schemeRequired message)
  | ipv4 : Made message (.ipv4 message)
  | date {template : Value} {r : Requirement} (h : Requirement.date template message = .ok r) : Made message r
  | phone {region : Value} {r : Requirement} (h : Requirement.phone region message = .ok r) : Made message r

/-! ### Messages -/

/-- The message is a text. -/
def Requirement.Worded (r : Requirement) : Prop := ∃ s, r.message = .str s

/-- Nothing at all, or a text. -/
def Value.IsWording (v : Value) : Prop := v = .null ∨ ∃ s, v = .str s

/-- A message that is left out or empty is replaced by a standard one. -/
theorem Requirement.of_worded {message : Value} (h : message.IsWording) (f : Fragment)
    (standard : String) : (Requirement.of f message standard).Worded := by
  unfold Requirement.of Value.orElse
  split
  · rename_i hgiven
    rcases h with rfl | ⟨s, rfl⟩
    · cases hgiven
    · exact ⟨s, rfl⟩
  · exact ⟨standard, rfl⟩

theorem Requirement.Made.worded {message : Value} {r : Requirement} (h : r.Made message)
    (hmessage : message.IsWording) : r.Worded := by
  cases h with
  | length kind n => cases kind <;> exact Requirement.of_worded hmessage _ _
  | date h =>
    obtain ⟨t, -, rfl⟩ := Requirement.date_eq_ok.mp h
    exact Requirement.of_worded hmessage _ _
  | phone h =>
    obtain ⟨p, name, -, -, rfl⟩ := Requirement.phone_eq_ok.mp h
    exact Requirement.of_worded hmessage _ _
  | _ => exact Requirement.of_worded hmessage _ _

/-! ### Single requirements -/

namespace Change

variable {P : Requirement → Prop}

/-- One requirement with the property `P` is added, and then the change fails only if the message of the
    requirement cannot be written; or the change fails and adds nothing. -/
def Single (P : Requirement → Prop) (c : Change) : Prop :=
  (∃ r, P r ∧ c.added = [r] ∧ c.failure = failureOf r.message.text) ∨
    (c.added = [] ∧ ∃ f, c.failure = some f)

theorem single_one {r : Requirement} (h : P r) : (one r).Single P :=
  .inl ⟨r, h, one_added r, one_failure r⟩

theorem single_fail (f : Failure) : (fail f).Single P := .inr ⟨rfl, f, rfl⟩

theorem single_ofResult {x : Except Failure Requirement} (h : ∀ r, x = .ok r → P r) :
    (ofResult x).Single P := by
  cases x with
  | error f => exact single_fail f
  | ok r => exact single_one (h r rfl)

/-- What adds nothing in front of a change may only keep it from happening. -/
theorem Single.after {c d : Change} (hc : c.added = []) (hd : d.Single P) : (c.andThen d).Single P := by
  unfold andThen
  cases hfailure : c.failure with
  | some f => exact .inr ⟨hc, f, hfailure⟩
  | none => simpa [Single, hc] using hd

end Change

/-- A requirement with a message for a rule is added without a failure. -/
theorem Requirement.Made.one_failure {r : Requirement} {text : String} (h : r.Made (.str text)) :
    (Change.one r).failure = none := by
  obtain ⟨message, hmessage⟩ := h.worded (.inr ⟨text, rfl⟩)
  rw [Change.one_failure, hmessage]
  rfl

/-- A number that is not negative is a count. -/
theorem count?_natCast (name : String) (n : Nat) : count? name (.int n) = .ok n := by
  unfold count?
  simp only
  rw [if_neg (by omega), Int.toNat_natCast]

section Single

variable (s : Settings) (message : Value)

theorem lengthChange_single (kind : LengthKind) (n : Value) :
    (lengthChange kind n message).Single (Requirement.Made message) := by
  refine Change.single_ofResult fun r hr => ?_
  obtain ⟨_, -, hr⟩ := bind_eq_ok.mp hr
  obtain ⟨n, -, hr⟩ := bind_eq_ok.mp hr
  obtain rfl := Except.ok.inj hr
  exact .length kind n

theorem urlChange_single (schemeRequired : Value) :
    (urlChange s schemeRequired message).Single (Requirement.Made message) :=
  Change.single_one (.url _)

theorem phoneChange_single (region : Value) :
    (phoneChange s region message).Single (Requirement.Made message) :=
  (Change.single_ofResult fun _ hr => .phone hr).after (lookupNote_added _ _)

theorem dateChange_single (template : Value) :
    (dateChange s template message).Single (Requirement.Made message) :=
  (Change.single_ofResult fun _ hr => .date hr).after (lookupNote_added _ _)

end Single

/-! ### Presets -/

/-- A group that is found is one of the groups of the kind. -/
theorem Preset.mem_groups {t : PresetType} {level : String} {group : List Requirement}
    (h : Preset.group? t level = some group) : (level, group) ∈ Preset.groups t := by
  obtain ⟨before, after, heq, -⟩ := List.lookup_eq_some_iff.mp h
  rw [heq]
  exact List.mem_append_right before List.mem_cons_self

/-- A preset that is missing is not found. -/
theorem Preset.missing_ne_ok {α : Type} (type level : Value) (available : List String) (a : α) :
    Preset.missing type level available ≠ .ok a := by
  intro h
  obtain ⟨_, -, h⟩ := bind_eq_ok.mp h
  obtain ⟨_, -, h⟩ := bind_eq_ok.mp h
  cases h

/-- What is found for a kind and a level is the group of that level. -/
theorem Preset.lookup_eq_ok {type level : Value} {t : PresetType} {group : List Requirement}
    (h : Preset.lookup type level = .ok (t, group)) :
    PresetType.ofValue? type = some t ∧ ∃ l, level = .str l ∧ Preset.group? t l = some group := by
  unfold Preset.lookup at h
  split at h
  · exact absurd h (Preset.missing_ne_ok _ _ _ _)
  rename_i t' htype
  split at h
  · cases h
  simp only at h
  split at h
  · rename_i found hfound
    obtain ⟨rfl, rfl⟩ : t' = t ∧ found = group := by simpa using h
    split at hfound
    · exact ⟨htype, _, rfl, hfound⟩
    · cases hfound
  · exact absurd h (Preset.missing_ne_ok _ _ _ _)

/-- A preset adds its group if the level exists for the kind; else it fails and adds nothing. -/
def PresetGrows (s : Settings) (type level : Value) (c : Change) : Prop :=
  (∃ t l group, PresetType.ofValue? type = some t ∧ presetLevel s type level = .str l ∧
    Preset.group? t l = some group ∧ c.added = group ∧ c.failure = none) ∨
  ∃ f, Preset.lookup type (presetLevel s type level) = .error f ∧ c.added = [] ∧ c.failure = some f

theorem presetChange_grows (s : Settings) (type level : Value) :
    PresetGrows s type level (presetChange s type level) := by
  unfold presetChange
  simp only
  cases hlookup : Preset.lookup type (presetLevel s type level) with
  | error f => exact .inr ⟨f, hlookup, rfl, rfl⟩
  | ok x =>
    obtain ⟨t, group⟩ := x
    obtain ⟨htype, l, hlevel, hgroup⟩ := Preset.lookup_eq_ok hlookup
    -- A level that was found is a text, so the note on it can be written.
    exact .inl ⟨t, l, group, htype, hlevel, hgroup, Change.noted_added _ _ _, by rw [hlevel]; rfl⟩

/-! ### Rules -/

/-- Requirements that are added together: one, or all those of a preset in their order. -/
inductive Group : List Requirement → Prop
  | single {r : Requirement} {text : String} (h : r.Made (.str text)) : Group [r]
  | preset {t : PresetType} {level : String} {group : List Requirement}
      (h : Preset.group? t level = some group) : Group group

/-- A group is added, or the change fails and adds nothing. -/
def Change.Whole (c : Change) : Prop :=
  (Group c.added ∧ c.failure = none) ∨ (c.added = [] ∧ ∃ f, c.failure = some f)

theorem Change.Single.whole {c : Change} {text : String} (h : c.Single (Requirement.Made (.str text))) :
    c.Whole := by
  rcases h with ⟨r, hr, hadded, hfailure⟩ | h
  · obtain ⟨message, hmessage⟩ := hr.worded (.inr ⟨text, rfl⟩)
    rw [hmessage] at hfailure
    exact .inl ⟨hadded ▸ .single hr, hfailure⟩
  · exact .inr h

theorem PresetGrows.whole {s : Settings} {type level : Value} {c : Change}
    (h : PresetGrows s type level c) : c.Whole := by
  rcases h with ⟨t, l, group, -, -, hgroup, hadded, hfailure⟩ | ⟨f, -, hadded, hfailure⟩
  · exact .inl ⟨hadded ▸ .preset hgroup, hfailure⟩
  · exact .inr ⟨hadded, f, hfailure⟩

theorem Change.naming_of_ok {name : Value} {text : String} (h : name.text = .ok text) (c : String → Change) :
    naming name c = c text := by
  rw [naming, h]

theorem Change.naming_whole {name : Value} {c : String → Change} (h : ∀ text, (c text).Whole) :
    (naming name c).Whole := by
  unfold naming
  split
  · exact h _
  · exact .inr ⟨rfl, _, rfl⟩

/-- With a name that can be written, a rule with a number fails for its parameter only. -/
theorem numberRule_eq {name : Value} {field : String} (hname : name.text = .ok field) (rule : Rule)
    (kind : LengthKind) (param : Option String) (message : String → String → String) :
    numberRule rule kind name param message = match ruleNumber? param with
      | some n => .one (kind.requirement n (.str (message field (Text.decimal n))))
      | none => .fail (.record (.ruleParameter (.str rule.name) (.ofText? param))) := by
  unfold numberRule
  cases ruleNumber? param with
  | some n => exact Change.naming_of_ok hname _
  | none => cases param <;> rfl

theorem numberRule_whole (rule : Rule) (kind : LengthKind) (name : Value) (param : Option String)
    (message : String → String → String) : (numberRule rule kind name param message).Whole := by
  unfold numberRule
  split
  · exact Change.naming_whole fun field => (Change.single_one (.length kind _)).whole
  · exact .inr ⟨rfl, _, rfl⟩

theorem Rule.change_whole (rule : Rule) (s : Settings) (name : Value) (param : Option String) :
    (rule.change s name param).Whole := by
  cases rule with
  | required => exact Change.naming_whole fun field => (Change.single_one .required).whole
  | email => exact Change.naming_whole fun field => (Change.single_one .email).whole
  | phone => exact Change.naming_whole fun field => (phoneChange_single s _ _).whole
  | password | username => exact (presetChange_grows s _ _).whole
  | min | max | exact =>
    rw [Rule.change]
    exact numberRule_whole _ _ _ _ _
  | url => exact Change.naming_whole fun field => (urlChange_single s _ _).whole
  | date => exact Change.naming_whole fun field => (dateChange_single s _ _).whole

theorem tokenChange_whole (s : Settings) (name : Value) (rules : Value) (t : RuleToken) :
    (tokenChange s name rules t).Whole := by
  unfold tokenChange
  split
  · exact Rule.change_whole _ s name _
  · exact .inr ⟨rfl, _, rfl⟩

/-! ### Rule strings -/

/-- The rules of a string up to the first one that fails: each of them adds its group, and the one that
    fails adds nothing. If none of them fails, the change ends as stated. -/
def TokensGrow (s : Settings) (name rules : Value) (tokens : List RuleToken) (last : Option Failure)
    (c : Change) : Prop :=
  ∃ done rest, tokens = done ++ rest ∧
    (∀ t ∈ done, Group (tokenChange s name rules t).added ∧ (tokenChange s name rules t).failure = none) ∧
    c.added = done.flatMap (fun t => (tokenChange s name rules t).added) ∧
    ((rest = [] ∧ c.failure = last) ∨
      ∃ t after f, rest = t :: after ∧ (tokenChange s name rules t).failure = some f ∧
        (tokenChange s name rules t).added = [] ∧ c.failure = some f)

theorem tokensChange_grows (s : Settings) (name rules : Value) (tokens : List RuleToken) :
    TokensGrow s name rules tokens none (tokensChange s name rules tokens) := by
  induction tokens with
  | nil => exact ⟨[], [], rfl, by simp, rfl, .inl ⟨rfl, rfl⟩⟩
  | cons t tokens ih =>
    simp only [tokensChange]
    rcases tokenChange_whole s name rules t with ⟨hgroup, hfailure⟩ | ⟨hadded, f, hfailure⟩
    · obtain ⟨done, rest, rfl, hdone, hadded, hend⟩ := ih
      refine ⟨t :: done, rest, rfl, List.forall_mem_cons.mpr ⟨⟨hgroup, hfailure⟩, hdone⟩, ?_, ?_⟩
      · simp [Change.andThen, hfailure, hadded]
      · simpa [Change.andThen, hfailure] using hend
    · -- This is the first one that fails, and nothing comes of the others.
      refine ⟨[], t :: tokens, rfl, by simp, ?_, .inr ⟨t, tokens, f, rfl, hfailure, hadded, ?_⟩⟩
      · simp [Change.andThen, hfailure, hadded]
      · simp [Change.andThen, hfailure]

/-- The note on a text of rules fails with what the name fails with. -/
theorem rulesNote_failure {rules : Value} {text : String} (h : rules.asText? = some text) (name : Value) :
    (rulesNote name rules).failure = failureOf name.text := by
  -- A member of a catalog is a text as well.
  have hrules : ∃ shown, rules.text = .ok shown := by
    cases rules with
    | str s => exact ⟨s, rfl⟩
    | choice c => exact ⟨_, rfl⟩
    | _ => cases h
  obtain ⟨shown, hshown⟩ := hrules
  rw [rulesNote, Change.note, Change.noted_failure, hshown]
  cases name.text <;> rfl

/-- What a rule string adds. If none of its rules fails, the note behind them may, as the name is written there
    once more. What is no text fails and adds nothing. -/
def RulesGrow (s : Settings) (name rules : Value) (c : Change) : Prop :=
  match rules.asText? with
  | some text => TokensGrow s name rules (RuleString.parse text) (failureOf name.text) c
  | none => c.added = [] ∧ ∃ f, c.failure = some f

theorem applyRules_grows (s : Settings) (name rules : Value) :
    RulesGrow s name rules (applyRules s name rules) := by
  unfold RulesGrow applyRules
  cases htext : rules.asText? with
  | none => exact ⟨rfl, _, rfl⟩
  | some text =>
    obtain ⟨done, rest, htokens, hdone, hadded, hend⟩ :=
      tokensChange_grows s name rules (RuleString.parse text)
    have hnote : (rulesNote name rules).added = [] := Change.noted_added _ _ _
    refine ⟨done, rest, htokens, hdone, ?_⟩
    rcases hend with ⟨hrest, hfailure⟩ | ⟨t, after, f, hrest, ht, hnone, hfailure⟩
    · simp [Change.andThen, hfailure, hadded, hrest, hnote, rulesNote_failure htext]
    · simp [Change.andThen, hfailure, hadded, hrest, ht, hnone]

/-! ### Calls -/

/-- What a call does to the requirements, by its kind. -/
def Call.Grows (s : Settings) (c : Change) : Call → Prop
  | .addRequirement _ message | .shape _ message => c.Single fun r => r.message = message
  | .length _ _ message | .lengthBetween _ _ message | .required message | .characters _ _ message
  | .email message | .url _ message | .ipv4 message | .date _ message | .phone _ message =>
    c.Single (Requirement.Made message)
  | .preset type level => PresetGrows s type level c
  | .field name rules => RulesGrow s name rules c

/-- **Growth.** Calls add one requirement or fail and add none; a preset adds its whole group or nothing,
    and a rule string what the rules before the first failing one add. -/
theorem Call.change_grows (s : Settings) (call : Call) : call.Grows s (call.change s) := by
  cases call with
  | addRequirement fragment message =>
    cases fragment with
    | fragment f => exact Change.single_one rfl
    | other kind => exact Change.single_fail _
  | shape pattern message => exact Change.single_one rfl
  | length kind n message => exact lengthChange_single message kind n
  | lengthBetween least most message =>
    refine Change.single_ofResult fun r hr => ?_
    obtain ⟨_, -, hr⟩ := bind_eq_ok.mp hr
    obtain ⟨_, -, hr⟩ := bind_eq_ok.mp hr
    obtain ⟨least, -, hr⟩ := bind_eq_ok.mp hr
    obtain ⟨most, -, hr⟩ := bind_eq_ok.mp hr
    obtain rfl := Except.ok.inj hr
    exact .lengthBetween least most
  | required message => exact Change.single_one .required
  | characters kind n message =>
    refine Change.single_ofResult fun r hr => ?_
    obtain ⟨_, -, hr⟩ := bind_eq_ok.mp hr
    obtain ⟨n, -, hr⟩ := bind_eq_ok.mp hr
    obtain rfl := Except.ok.inj hr
    exact .characters kind n
  | email message => exact Change.single_one .email
  | url schemeRequired message => exact urlChange_single s message schemeRequired
  | ipv4 message => exact Change.single_one .ipv4
  | date template message => exact dateChange_single s message template
  | phone region message => exact phoneChange_single s message region
  | preset type level => exact presetChange_grows s type level
  | field name rules => exact applyRules_grows s name rules

/-! ### Calls by name -/

/-- As many values are passed on as there are parameters. -/
theorem Operation.byName_length {op : Operation} {arguments : List (String × Value)} {vs : List Value}
    (h : op.byName arguments = .ok vs) : vs.length = op.parameters.length := by
  unfold Operation.byName at h
  split at h
  · cases h
  unfold Operation.values at h
  simp only at h
  split at h
  · rename_i hmissing
    obtain rfl := Except.ok.inj h
    rw [List.length_filterMap_eq_countP, List.countP_eq_length]
    intro p hp
    rw [List.isEmpty_iff, List.filter_eq_nil_iff] at hmissing
    simpa [Option.isSome_iff_ne_none] using hmissing p hp
  · cases h

/-- Every form has a call for as many values as it has parameters. -/
theorem Call.forms_make {form : Call.Form} (hform : form ∈ Call.forms) {vs : List Value}
    (hvs : vs.length = form.operation.parameters.length) : ∃ call, form.make vs = some call := by
  have hforms : ∀ form ∈ Call.forms, form.operation.parameters.length = vs.length →
      (form.make vs).isSome = true := by
    rcases vs with _ | ⟨v, _ | ⟨w, _ | ⟨u, _ | ⟨t, rest⟩⟩⟩⟩ <;>
      simp [Call.forms, Call.formOf, Call.formWith, Call.plainForm, Call.countForm]
  exact Option.isSome_iff_exists.mp (hforms form hform hvs.symm)

/-- Every form has a call for arguments that are accepted. -/
theorem Call.Form.call_ne_none {form : Call.Form} (hform : form ∈ Call.forms)
    (arguments : List (String × Value)) : form.call arguments ≠ .ok none := by
  intro h
  obtain ⟨vs, hvs, h⟩ := bind_eq_ok.mp h
  obtain ⟨_, -, hmake⟩ := bind_eq_ok.mp h
  have hlength := Operation.byName_length hvs
  obtain ⟨call, hcall⟩ := Call.forms_make hform hlength
  rw [hcall] at hmake
  cases Except.ok.inj hmake

/-- What a call by name does to the requirements: nothing if its arguments are refused. -/
def Call.Form.Grows (s : Settings) (arguments : List (String × Value)) (c : Change) (form : Call.Form) :
    Prop :=
  match form.call arguments with
  | .ok (some call) => call.Grows s c
  | .ok none => False
  | .error f => c.added = [] ∧ c.failure = some f

end TextCriteria
