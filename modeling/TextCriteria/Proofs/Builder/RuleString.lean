import TextCriteria.Proofs.Builder.Growth
import TextCriteria.Proofs.RuleString
import TextCriteria.Proofs.Session.Frame

namespace TextCriteria

open TextCriteria.Text

/-!
# Rule strings one after another

A rule string that is joined of two does what the two do one after the other, and the second one is not
looked at if the first one fails. What a rule string fails with is said by the first rule of it that fails.
The name of the field is one that can be written, as every text can.

* `Change.andThen_assoc`, `tokensChange_append` — rules one after the other, in any grouping.
* `Record.Alike`, `Failure.Alike` — failures that are alike but for the rule string that is reported.
* `RuleFault` — what a rule can fail with; `tokenChange_fault`, that it fails with nothing else.
* `field_in_turn` — both together, for the calls on a builder.
* `default_level_unhashable` — a default that no rule checks and that cannot be looked up.
-/

variable {s : Settings} {name rules rules' : Value} {field : String}

/-! ### Changes one after another -/

theorem Change.andThen_assoc (c d e : Change) :
    (c.andThen d).andThen e = c.andThen (d.andThen e) := by
  cases hc : c.failure with
  | some f => simp [andThen, hc]
  | none =>
    cases hd : d.failure with
    | some f => simp [andThen, hc, hd]
    | none => simp [andThen, hc, hd]

theorem tokensChange_append (xs ys : List RuleToken) :
    tokensChange s name rules (xs ++ ys)
      = (tokensChange s name rules xs).andThen (tokensChange s name rules ys) := by
  induction xs with
  | nil => rfl
  | cons t rest ih =>
    simp only [List.cons_append, tokensChange]
    rw [ih, Change.andThen_assoc]

/-! ### Failures but for the rule string -/

/-- Records with the same kind, message, code and details. Only for an unknown rule there may be a
    difference in the further data, and only in the rule string that is reported. -/
structure Record.Alike (r r' : Record) : Prop where
  kind : r.kind = r'.kind
  message : r.message = r'.message
  code : r.code = r'.code
  details : r.details = r'.details
  extra : ∀ key, key ≠ "rules" → r.extra.lookup key = r'.extra.lookup key
  same : r.kind ≠ .unknownRule → r = r'

theorem Record.alike_unknownRule (name rules rules' : Value) :
    (Record.unknownRule name rules).Alike (.unknownRule name rules') := by
  refine ⟨rfl, rfl, rfl, rfl, fun key hkey => ?_, fun h => absurd rfl h⟩
  have hkey' : (key == "rules") = false := beq_false_of_ne hkey
  simp [unknownRule, List.lookup_cons, hkey']

/-- The same failure, or alike records. -/
def Failure.Alike (f g : Failure) : Prop :=
  f = g ∨ ∃ r r', f = .record r ∧ g = .record r' ∧ r.Alike r'

/-- The same requirements are added, and the failures, if there are any, are alike. -/
structure Change.Alike (c d : Change) : Prop where
  added : c.added = d.added
  failure : Option.Rel Failure.Alike c.failure d.failure

namespace Change.Alike

variable {c c' d d' : Change}

theorem refl (c : Change) : c.Alike c := by
  refine ⟨rfl, ?_⟩
  cases c.failure with
  | none => exact .none
  | some f => exact .some (.inl rfl)

/-- What follows alike changes alike leaves them alike. -/
theorem andThen (hc : c.Alike c') (hd : d.Alike d') : (c.andThen d).Alike (c'.andThen d') := by
  obtain ⟨added, notes, failure⟩ := c
  obtain ⟨added', notes', failure'⟩ := c'
  obtain ⟨hadded, hfailure⟩ := hc
  obtain rfl : added = added' := hadded
  cases hfailure with
  | none => exact ⟨congrArg (added ++ ·) hd.added, hd.failure⟩
  | some h =>
    -- Both end with the first change.
    exact ⟨rfl, .some h⟩

end Change.Alike

/-- The string that a rule stands in is only reported. -/
theorem tokenChange_alike (t : RuleToken) :
    (tokenChange s name rules t).Alike (tokenChange s name rules' t) := by
  unfold tokenChange
  split
  · exact .refl _
  · exact ⟨rfl, .some (.inr ⟨_, _, rfl, rfl, Record.alike_unknownRule _ _ _⟩)⟩

theorem tokensChange_alike (tokens : List RuleToken) :
    (tokensChange s name rules tokens).Alike (tokensChange s name rules' tokens) := by
  induction tokens with
  | nil => exact .refl _
  | cons t rest ih => exact (tokenChange_alike t).andThen ih

/-- A change that leaves notes and nothing else. -/
structure Change.Idle (c : Change) : Prop where
  added : c.added = []
  failure : c.failure = none

theorem Change.Idle.alike {c d : Change} (hc : c.Idle) (hd : d.Idle) : c.Alike d := by
  refine ⟨hc.added.trans hd.added.symm, ?_⟩
  rw [hc.failure, hd.failure]
  exact .none

/-- Notes in front change neither what is added nor how it ends. -/
theorem Change.Alike.after_idle {c d e : Change} (h : c.Alike d) (he : e.Idle) : c.Alike (e.andThen d) := by
  unfold Change.andThen
  rw [he.failure]
  refine ⟨?_, h.failure⟩
  rw [he.added, List.nil_append]
  exact h.added

/-- With a name that can be written, the note on a rule string is only a note. -/
theorem rulesNote_idle (hname : name.text = .ok field) (x : String) : (rulesNote name (.str x)).Idle := by
  refine ⟨Change.noted_added _ _ _, ?_⟩
  rw [rulesNote_failure rfl, hname]
  rfl

/-! ### What a rule fails with -/

theorem Rule.named?_name {name : String} {rule : Rule} (h : Rule.named? name = some rule) :
    name = rule.name := by
  have hname := List.find?_some h
  exact (beq_iff_eq.mp hname).symm

/-- The value of the settings that a rule takes where none is stated. -/
def Rule.default? (s : Settings) : Rule → Option Value
  | .phone => some s.phoneRegion
  | .password => some (s.levelFor .password)
  | .username => some (s.levelFor .username)
  | .date => some s.dateTemplate
  | _ => none

/-- What the rule `t` of a rule string fails with: it does not exist; or it asks for a number and there is
    none, or one below zero; or it asks for a preset that does not exist, at the level that is stated or,
    where none is, at that of the settings. The level of the settings may be no key at all, and a value of the
    settings may be one that cannot be written. -/
inductive RuleFault (s : Settings) (rules : Value) (t : RuleToken) : Failure → Prop
  | unknown (hname : Rule.named? t.name = none) :
      RuleFault s rules t (.record (.unknownRule (.str t.name) rules))
  | number {rule : Rule} (hname : t.name = rule.name) (hrule : rule ∈ [Rule.min, .max, .exact])
      (hparam : ruleNumber? t.param = none) :
      RuleFault s rules t (.record (.ruleParameter (.str t.name) (.ofText? t.param)))
  | preset {type : PresetType} {level : Value} {shown : String} (hname : t.name = type.code)
      (hlevel : level = (optional t.param).getD (s.levelFor type)) (htext : level.text = .ok shown)
      (hmissing : ∀ l, level = .str l → Preset.group? type l = none) :
      RuleFault s rules t (.record (.presetNotFound (.str type.code) (.str shown)
        ((Preset.levels type).map .str)))
  | unhashable {type : PresetType} {kind : String} (hname : t.name = type.code)
      (hparam : optional t.param = .null) (hlevel : (s.levelFor type).unhashable? = some kind) :
      RuleFault s rules t (.unhashable kind)
  | unwritable {rule : Rule} {v : Value} (hname : t.name = rule.name) (hparam : optional t.param = .null)
      (hdefault : rule.default? s = some v) (htext : v.text = .error .unwritable) :
      RuleFault s rules t .unwritable

/-- The level of a preset is the one that is stated, or else that of the settings. -/
theorem presetLevel_code (s : Settings) (type : PresetType) (level : Value) :
    presetLevel s (.str type.code) level = level.getD (s.levelFor type) := by
  have hvalue : PresetType.ofValue? (.str type.code) = some type := by cases type <;> rfl
  cases level <;> simp [presetLevel, hvalue, Value.getD]

/-- A parameter is nothing at all or a text, so it can always be looked up. -/
theorem optional_cases (param : Option String) :
    optional param = .null ∨ ∃ l, optional param = .str l := by
  unfold optional
  split
  · split
    · exact .inl rfl
    · exact .inr ⟨_, rfl⟩
  · exact .inl rfl

section Fault

variable {t : RuleToken} {f : Failure}

/-- What cannot be written is no parameter of a rule, so it is the value of the settings. -/
theorem fault_of_text_error {rule : Rule} {v : Value} (hname : t.name = rule.name)
    (hdefault : rule.default? s = some v) (h : ((optional t.param).getD v).text = .error f) :
    RuleFault s rules t f := by
  rcases optional_cases t.param with hnull | ⟨l, hl⟩
  · rw [hnull] at h
    obtain rfl := (Value.text_eq_error.mp h).2
    exact .unwritable hname hnull hdefault h
  · rw [hl] at h
    cases h

theorem presetChange_fault {rule : Rule} (type : PresetType) (hname : t.name = rule.name)
    (hcode : rule.name = type.code) (hdefault : rule.default? s = some (s.levelFor type))
    (h : (presetChange s (.str type.code) (optional t.param)).failure = some f) :
    RuleFault s rules t f := by
  have hvalue : PresetType.ofValue? (.str type.code) = some type := by cases type <;> rfl
  -- What is found has a level that can be written, so the preset was not found.
  have hlookup : Preset.lookup (.str type.code) ((optional t.param).getD (s.levelFor type)) = .error f := by
    rcases presetChange_grows s (.str type.code) (optional t.param) with
      ⟨-, -, -, -, -, -, -, hnone⟩ | ⟨e, he, -, hsome⟩
    · cases hnone.symm.trans h
    · rw [presetLevel_code] at he
      rw [he, Option.some.inj (hsome.symm.trans h)]
  unfold Preset.lookup at hlookup
  rw [hvalue] at hlookup
  simp only at hlookup
  split at hlookup
  · rename_i kind hkind
    -- What the rule states is nothing or a text, so this is the level of the settings.
    obtain rfl := Except.error.inj hlookup
    rcases optional_cases t.param with hnull | ⟨l, hl⟩
    · rw [hnull] at hkind
      exact .unhashable (hname.trans hcode) hnull hkind
    · rw [hl] at hkind
      cases hkind
  · split at hlookup
    · cases hlookup
    · rename_i hmissing
      cases htext : ((optional t.param).getD (s.levelFor type)).text with
      | error e =>
        have hfailure : e = f := by
          rw [Preset.missing, Value.text_str, htext] at hlookup
          exact Except.error.inj hlookup
        exact fault_of_text_error hname hdefault (hfailure ▸ htext)
      | ok shown =>
        rw [Preset.missing, Value.text_str, htext] at hlookup
        obtain rfl := Except.error.inj hlookup
        refine .preset (hname.trans hcode) rfl htext fun l hl => ?_
        simpa only [hl] using hmissing

/-- A requirement with a message that is a text is added, if it is made. -/
theorem Change.ofResult_failure {x : Except Failure Requirement} {message : String}
    (hmade : ∀ r, x = .ok r → r.Made (.str message)) (h : (ofResult x).failure = some f) : x = .error f := by
  cases x with
  | error e => rw [Option.some.inj h]
  | ok r =>
    obtain ⟨text, htext⟩ := (hmade r rfl).worded (.inr ⟨message, rfl⟩)
    rw [ofResult, one_failure, htext] at h
    cases h

theorem phoneChange_fault {message : String} (hname : t.name = Rule.phone.name)
    (h : (phoneChange s (optional t.param) (.str message)).failure = some f) : RuleFault s rules t f := by
  rw [(phoneChange_result s _ _).2] at h
  have hphone := Change.ofResult_failure (fun r hr => .phone hr) h
  exact fault_of_text_error hname rfl (Requirement.phone_eq_error hphone)

theorem dateChange_fault {message : String} (hname : t.name = Rule.date.name)
    (h : (dateChange s (optional t.param) (.str message)).failure = some f) : RuleFault s rules t f := by
  rw [(dateChange_result s _ _).2] at h
  have hdate := Change.ofResult_failure (fun r hr => .date hr) h
  exact fault_of_text_error hname rfl (Requirement.date_eq_error hdate)

theorem numberRule_fault {rule : Rule} {kind : LengthKind} {message : String → String → String}
    (hfield : name.text = .ok field) (hname : t.name = rule.name) (hrule : rule ∈ [Rule.min, .max, .exact])
    (h : (numberRule rule kind name t.param message).failure = some f) : RuleFault s rules t f := by
  rw [numberRule_eq hfield] at h
  cases hparam : ruleNumber? t.param with
  | some n =>
    rw [hparam] at h
    cases (Requirement.Made.length kind n).one_failure.symm.trans h
  | none =>
    rw [hparam] at h
    obtain rfl := Option.some.inj h
    rw [← hname]
    exact .number hname hrule hparam

/-- **Faults.** Rules with a number fail for their number; rules that take a value of the settings where none is
    stated fail for that value, or as there is no preset at a level; those that do not exist fail; and no other
    rules do. -/
theorem tokenChange_fault (hfield : name.text = .ok field) (h : (tokenChange s name rules t).failure = some f) :
    RuleFault s rules t f := by
  unfold tokenChange at h
  split at h
  · rename_i rule hrule
    have hname := Rule.named?_name hrule
    cases rule with
    | min | max | exact =>
      rw [Rule.change] at h
      exact numberRule_fault hfield hname (by simp) h
    | password => exact presetChange_fault .password hname rfl rfl h
    | username => exact presetChange_fault .username hname rfl rfl h
    | phone =>
      rw [Rule.change, Change.naming_of_ok hfield] at h
      exact phoneChange_fault hname h
    | date =>
      rw [Rule.change, Change.naming_of_ok hfield] at h
      exact dateChange_fault hname h
    | required =>
      rw [Rule.change, Change.naming_of_ok hfield, Requirement.Made.required.one_failure] at h
      cases h
    | email =>
      rw [Rule.change, Change.naming_of_ok hfield, Requirement.Made.email.one_failure] at h
      cases h
    | url =>
      rw [Rule.change, Change.naming_of_ok hfield, urlChange, (Requirement.Made.url _).one_failure] at h
      cases h
  · rename_i hname
    obtain rfl := Option.some.inj h
    exact .unknown hname

end Fault

/-! ### Calls -/

/-- Two calls, of which the second one is not made if the first one fails: the builder after them, and what
    they fail with, if they do. -/
def Builder.inTurn (b : Builder) (c d : Call) : Builder × Option Failure :=
  match (b.change c).failure with
  | some f => (b.call c, some f)
  | none => ((b.call c).call d, ((b.call c).change d).failure)

/-- Two calls in turn do what their changes do one after the other. -/
theorem Builder.inTurn_eq (b : Builder) (c d : Call) :
    b.inTurn c d = (b.append ((b.change c).andThen (b.change d)).added,
      ((b.change c).andThen (b.change d)).failure) := by
  -- The first call leaves the settings as they are, so the second one does what it would do alone.
  have hsecond : (b.call c).change d = b.change d := rfl
  have hcall : (b.call c).call d = b.append ((b.change c).added ++ (b.change d).added) := by
    simp only [Builder.call, Builder.append, List.append_assoc]
    rfl
  cases hf : (b.change c).failure with
  | some f => simp [inTurn, Change.andThen, hf, Builder.call]
  | none => simp [inTurn, Change.andThen, hf, hsecond, hcall]

/-- What a joined rule string does is what its parts do one after the other. -/
theorem applyRules_joined (s : Settings) (hname : name.text = .ok field) (x y : String) :
    (applyRules s name (.str (x ++ "|" ++ y))).Alike
      ((applyRules s name (.str x)).andThen (applyRules s name (.str y))) := by
  have happly : ∀ z : String, applyRules s name (.str z)
      = (tokensChange s name (.str z) (RuleString.parse z)).andThen (rulesNote name (.str z)) := fun _ => rfl
  simp only [happly]
  rw [RuleString.parse_joined, tokensChange_append, Change.andThen_assoc, Change.andThen_assoc]
  refine (tokensChange_alike _).andThen (Change.Alike.after_idle ?_ (rulesNote_idle hname x))
  exact (tokensChange_alike _).andThen ((rulesNote_idle hname _).alike (rulesNote_idle hname y))

/-- What the call with some rules does to a builder: the requirements of all rules are added in their order,
    up to the first rule that fails, and the call fails with what this one fails with. -/
def Builder.FollowsRules (b : Builder) (name : Value) (rules : String) : Prop :=
  let call := Call.field name (.str rules)
  let change := tokenChange b.settings name (.str rules)
  ∃ done rest, RuleString.parse rules = done ++ rest ∧
    (∀ t ∈ done, (change t).failure = none) ∧
    b.call call = b.append (done.flatMap fun t => (change t).added) ∧
    ((rest = [] ∧ (b.change call).failure = none) ∨
      ∃ t after f, rest = t :: after ∧ (change t).failure = some f ∧
        (b.change call).failure = some f ∧ RuleFault b.settings (.str rules) t f)

theorem Builder.followsRules (b : Builder) (hname : name.text = .ok field) (rules : String) :
    b.FollowsRules name rules := by
  have hgrows : TokensGrow b.settings name (.str rules) (RuleString.parse rules) (failureOf name.text)
      (applyRules b.settings name (.str rules)) := applyRules_grows b.settings name (.str rules)
  rw [hname] at hgrows
  obtain ⟨done, rest, hparse, hdone, hadded, hend⟩ := hgrows
  refine ⟨done, rest, hparse, fun t ht => (hdone t ht).2, congrArg b.append hadded, ?_⟩
  rcases hend with hall | ⟨t, after, f, hrest, ht, -, hf⟩
  · exact .inl hall
  · exact .inr ⟨t, after, f, hrest, ht, hf, tokenChange_fault hname ht⟩

/-- **Rule strings.** For a field with a name that can be written: a joined rule string leaves a builder as its
    parts do one after the other, and fails exactly if one of them does, alike but for the rule string that is
    reported. Every rule string adds what its rules add in their order, up to the first one that fails, and
    fails as this one does. -/
theorem field_in_turn (b : Builder) (hname : name.text = .ok field) :
    (∀ x y : String,
      let joined := Call.field name (.str (x ++ "|" ++ y))
      let parts := b.inTurn (.field name (.str x)) (.field name (.str y))
      b.call joined = parts.1 ∧ Option.Rel Failure.Alike (b.change joined).failure parts.2) ∧
    ∀ rules : String, b.FollowsRules name rules := by
  refine ⟨fun x y => ?_, b.followsRules hname⟩
  have halike := applyRules_joined b.settings hname x y
  rw [Builder.inTurn_eq]
  exact ⟨congrArg b.append halike.added, halike.failure⟩

/-- Rules of which the second one fails, split before it. -/
theorem field_in_turn_split :
    let b := Builder.create .null {}
    let parts := b.inTurn (.field (.str "Name") (.str " required ")) (.field (.str "Name") (.str "min:x|email"))
    (Value.str "Name").text = .ok "Name" ∧
      b.call (.field (.str "Name") (.str (" required " ++ "|" ++ "min:x|email"))) = parts.1 ∧
      parts.1.requirements = [.required (.str "Name is required")] ∧
      b.FollowsRules (.str "Name") "min:x|email" := by
  intro b parts
  have hname : (Value.str "Name").text = .ok "Name" := rfl
  obtain ⟨hjoined, hfollows⟩ := field_in_turn b hname
  exact ⟨hname, (hjoined " required " "min:x|email").1, rfl, hfollows _⟩

/-- **No key.** Settings may be replaced without a check. A list in the place of the standard level of
    passwords cannot be looked up, and a rule that asks for this level fails with no record. -/
theorem default_level_unhashable :
    let field := Call.formOf "field" (.needed "name") (.needed "rules") .field
    let configured := (Step.run (.configure none [("default_password_level", .list [])]) {}).2
    ((Step.call "c" field [("name", .str "Password"), ("rules", .str "password")]).run configured).1
        = .added (some (.unhashable "list")) [] ∧
      ∀ r, Failure.unhashable "list" ≠ .record r := by
  intro field configured
  have hchange (s : Settings) : applyRules s (.str "Password") (.str "password")
      = ((tokenChange s (.str "Password") (.str "password") ⟨"password", none⟩).andThen {}).andThen
        (rulesNote (.str "Password") (.str "password")) := by
    have hparse : RuleString.parse "password" = [⟨"password", none⟩] := rfl
    simp only [applyRules, Value.asText?, hparse, tokensChange]
  have hreply : ((Step.call "c" field [("name", .str "Password"), ("rules", .str "password")]).run configured).1
      = .added (applyRules { passwordLevel := .list [] } (.str "Password") (.str "password")).failure
          (applyRules { passwordLevel := .list [] } (.str "Password") (.str "password")).added := rfl
  refine ⟨?_, ?_⟩
  · rw [hreply, hchange]
    rfl
  · rintro r h
    cases h

end TextCriteria
