import TextCriteria.Builder.Basic
import TextCriteria.Proofs.Builder.Growth
import TextCriteria.Proofs.RuleString
import TextCriteria.Proofs.Text.Numeral

namespace TextCriteria

open TextCriteria.Text

/-!
# Rules with a number

Three rules limit the length of a text. Their parameter is a numeral, and only the number that it stands for
counts: a rule does what the call with this number does. Blanks around the parameter are gone before it is read.

* `LengthKind.rule`, `LengthKind.fieldMessage` — the rule for a limit, and what it says of a field.
* `ruleNumber?_eq_some_iff`, `ruleNumber?_eq_none_iff` — the parameters with a number and those without one.
* `Rule.change_of_number`, `Rule.change_of_no_number` — what the rules do for them.
* `number_rules_exact` — the same for rule strings.
* `numeral_trimmed_to_number` — a text that is no numeral until its blanks are gone.
-/

variable {kind : LengthKind} {param : Option String} {p : String} {n : Nat} {name : Value} {field : String}

/-! ### Limits on length as rules -/

/-- The rule for a limit on length. -/
def LengthKind.rule : LengthKind → Rule
  | .least => .min
  | .most => .max
  | .exact => .exact

/-- What a rule says of a field whose text is too short or too long. -/
def LengthKind.fieldMessage (kind : LengthKind) (field : String) (n : Nat) : String :=
  let bound :=
    match kind with
    | .least => " must be at least "
    | .most => " must be at most "
    | .exact => " must be exactly "
  field ++ bound ++ decimal n ++ " characters"

/-- A limit on length with the message for a field. -/
def LengthKind.fieldLimit (kind : LengthKind) (field : String) (n : Nat) : Call :=
  .length kind (.int n) (.str (kind.fieldMessage field n))

/-- What a rule reports of a parameter without a number. -/
def LengthKind.parameterFailure (kind : LengthKind) (param : Option String) : Failure :=
  .record (.ruleParameter (.str kind.rule.name) (.ofText? param))

theorem Rule.named?_number (kind : LengthKind) : Rule.named? kind.rule.name = some kind.rule := by
  cases kind <;> rfl

theorem colon_not_mem_number (kind : LengthKind) : ':' ∉ kind.rule.name.toList := by
  cases kind <;> decide

theorem trim_number (kind : LengthKind) : trim kind.rule.name.toList = kind.rule.name.toList := by
  cases kind <;> rfl

theorem bar_not_mem_number (kind : LengthKind) : '|' ∉ kind.rule.name.toList := by
  cases kind <;> decide

/-! ### Parameters -/

theorem ruleNumber?_eq_some_iff : ruleNumber? param = some n ↔ ∃ p, param = some p ∧ IsInteger p.toList n := by
  unfold ruleNumber?
  cases param with
  | none => simp
  | some p =>
    simp only [Option.bind_eq_bind, Option.bind_some, Option.some.injEq, exists_eq_left']
    rw [← integer?_eq_some_iff]
    cases integer? p.toList with
    | none => simp
    | some m =>
      rw [Option.bind_some, Option.some.injEq]
      constructor
      · intro h
        obtain ⟨hm, hn⟩ := Option.ite_none_left_eq_some.mp h
        have hn' := Option.some.inj hn
        omega
      · rintro rfl
        rw [if_neg (by omega), Int.toNat_natCast]

theorem ruleNumber?_eq_none_iff :
    ruleNumber? param = none ↔ ∀ p, param = some p → ∀ n : Nat, ¬ IsInteger p.toList n := by
  rw [Option.eq_none_iff_forall_ne_some]
  constructor
  · intro h p hp n hn
    exact h n (ruleNumber?_eq_some_iff.mpr ⟨p, hp, hn⟩)
  · intro h n hn
    obtain ⟨p, hp, hinteger⟩ := ruleNumber?_eq_some_iff.mp hn
    exact h p hp n hinteger

/-! ### Rules -/

theorem Rule.change_number (s : Settings) (hname : name.text = .ok field) (param : Option String) :
    kind.rule.change s name param =
      match ruleNumber? param with
      | some n => .one (kind.requirement n (.str (kind.fieldMessage field n)))
      | none => .fail (kind.parameterFailure param) := by
  cases kind <;> rw [LengthKind.rule, Rule.change, numberRule_eq hname] <;> rfl

/-- A limit on length with a number that can be written adds its requirement. -/
theorem Call.change_fieldLimit (kind : LengthKind) (s : Settings) (field : String)
    (h : (decimal n).length ≤ maxDigits) :
    (kind.fieldLimit field n).change s = .one (kind.requirement n (.str (kind.fieldMessage field n))) := by
  have hcount := count?_natCast "length" n
  have hwritable : writable? n = .ok n := if_pos h
  unfold LengthKind.fieldLimit Call.change lengthChange
  simp only [hcount, bind, Except.bind, hwritable]
  rfl

/-- The requirement of a limit has its message, which is a text. -/
theorem LengthKind.change_one (kind : LengthKind) (field : String) (n : Nat) :
    (Change.one (kind.requirement n (.str (kind.fieldMessage field n)))).failure = none :=
  (Requirement.Made.length kind n).one_failure

/-- **Numbers.** With a parameter for a number, a rule does what the limit with this number does. -/
theorem Rule.change_of_number (kind : LengthKind) (s : Settings) (hname : name.text = .ok field)
    (h : IsInteger p.toList n) : kind.rule.change s name (some p) = (kind.fieldLimit field n).change s := by
  have hn : ruleNumber? (some p) = some n := ruleNumber?_eq_some_iff.mpr ⟨p, rfl, h⟩
  rw [Rule.change_number s hname, hn, Call.change_fieldLimit kind s field h.length_decimal]

/-- **No numbers.** With any other parameter, and without one, it adds nothing and fails. -/
theorem Rule.change_of_no_number (s : Settings) (hname : name.text = .ok field)
    (h : ∀ p, param = some p → ∀ n : Nat, ¬ IsInteger p.toList n) :
    kind.rule.change s name param = .fail (kind.parameterFailure param) := by
  rw [Rule.change_number s hname, ruleNumber?_eq_none_iff.mpr h]

/-! ### Rule strings -/

/-- What the rule for a limit states, with a parameter and without one. -/
theorem parse_number (kind : LengthKind) (h : '|' ∉ p.toList) :
    RuleString.parse (kind.rule.name ++ ":" ++ p)
      = [⟨kind.rule.name, some (String.ofList (trim p.toList))⟩] := by
  have hlist : (kind.rule.name ++ ":" ++ p).toList = kind.rule.name.toList ++ ':' :: p.toList := by simp
  have hbar : '|' ∉ kind.rule.name.toList ++ ':' :: p.toList := by
    simp [bar_not_mem_number, h]
  rw [RuleString.parse, hlist, pieces_of_not_mem hbar, List.map_singleton,
    RuleString.token_pair (colon_not_mem_number kind), trim_number, String.ofList_toList]

theorem parse_number_alone (kind : LengthKind) :
    RuleString.parse kind.rule.name = [⟨kind.rule.name, none⟩] := by
  rw [RuleString.parse, pieces_of_not_mem (bar_not_mem_number kind), List.map_singleton,
    RuleString.token_alone (colon_not_mem_number kind), trim_number, String.ofList_toList]

/-- What a rule string of a single rule does to a builder is what this rule does. -/
theorem Builder.call_number (b : Builder) (hname : name.text = .ok field) {rules : String}
    (h : RuleString.parse rules = [⟨kind.rule.name, param⟩]) :
    b.call (.field name (.str rules)) = b.append (kind.rule.change b.settings name param).added ∧
      (b.change (.field name (.str rules))).failure
        = (kind.rule.change b.settings name param).failure := by
  have htoken : tokenChange b.settings name (.str rules) ⟨kind.rule.name, param⟩
      = kind.rule.change b.settings name param := by
    unfold tokenChange
    rw [Rule.named?_number]
  have hchange : b.change (.field name (.str rules))
      = ((kind.rule.change b.settings name param).andThen {}).andThen (rulesNote name (.str rules)) := by
    unfold Builder.change Call.change applyRules
    simp only [Value.asText?, h, tokensChange, htoken]
  have hnote : (rulesNote name (.str rules)).added = [] := Change.noted_added _ _ _
  have hsucceeds : (rulesNote name (.str rules)).failure = none := by
    rw [rulesNote_failure rfl, hname]
    rfl
  unfold Builder.call
  rw [hchange]
  cases hfailure : (kind.rule.change b.settings name param).failure with
  | some f => simp [Change.andThen, hfailure]
  | none => simp [Change.andThen, hfailure, hnote, hsucceeds]

/-- A rule string does to a builder what the limit with a number does: it adds the one requirement of this limit,
    with a message for the field. -/
structure Builder.RuleLimits (b : Builder) (name : Value) (field rules : String) (kind : LengthKind) (n : Nat) :
    Prop where
  call : b.call (.field name (.str rules)) = b.call (kind.fieldLimit field n)
  added : b.call (kind.fieldLimit field n)
    = b.append [kind.requirement n (.str (kind.fieldMessage field n))]
  succeeds : (b.change (.field name (.str rules))).failure = none
  limit_succeeds : (b.change (kind.fieldLimit field n)).failure = none

/-- A rule string is refused for the parameter of its rule, and the builder stays as it is. -/
structure Builder.RuleRefused (b : Builder) (name : Value) (rules : String) (kind : LengthKind)
    (param : Option String) : Prop where
  call : b.call (.field name (.str rules)) = b
  fails : (b.change (.field name (.str rules))).failure = some (kind.parameterFailure param)

theorem Builder.ruleLimits (b : Builder) (hname : name.text = .ok field) {rules : String}
    (hinteger : IsInteger p.toList n) (hrules : RuleString.parse rules = [⟨kind.rule.name, some p⟩]) :
    b.RuleLimits name field rules kind n := by
  obtain ⟨hcall, hfailure⟩ := b.call_number hname hrules
  have hlimit := Rule.change_of_number kind b.settings hname hinteger
  have hone := Call.change_fieldLimit kind b.settings field hinteger.length_decimal
  rw [hlimit] at hcall hfailure
  refine ⟨hcall, ?_, ?_, ?_⟩
  · unfold Builder.call Builder.change
    rw [hone, Change.one_added]
  · rw [hfailure, hone, kind.change_one]
  · unfold Builder.change
    rw [hone, kind.change_one]

theorem Builder.ruleRefused (b : Builder) (hname : name.text = .ok field) {rules : String}
    (hno : ∀ p, param = some p → ∀ n : Nat, ¬ IsInteger p.toList n)
    (hrules : RuleString.parse rules = [⟨kind.rule.name, param⟩]) :
    b.RuleRefused name rules kind param := by
  obtain ⟨hcall, hfailure⟩ := b.call_number hname hrules
  rw [Rule.change_of_no_number b.settings hname hno] at hcall hfailure
  refine ⟨?_, hfailure⟩
  rw [hcall]
  exact congrArg (fun rs => { b with requirements := rs }) (List.append_nil b.requirements)

/-- **Rules with a number.** For a field with a name that can be written: a rule whose parameter, without the
    blanks around it, is a numeral of a number does what the limit with this number does, and every other
    parameter is refused. A numeral is still one without the blanks, and the plain numeral of a number is one,
    if it has no more digits than can be read. The same holds of a rule among others. -/
theorem number_rules_exact (b : Builder) (hname : name.text = .ok field) (kind : LengthKind) :
    (∀ p : String, '|' ∉ p.toList →
      let rules := kind.rule.name ++ ":" ++ p
      let trimmed := String.ofList (trim p.toList)
      (∀ n : Nat, IsInteger trimmed.toList n → b.RuleLimits name field rules kind n) ∧
      ((∀ n : Nat, ¬ IsInteger trimmed.toList n) → b.RuleRefused name rules kind (some trimmed)) ∧
      ∀ n : Nat, IsInteger p.toList n → IsInteger trimmed.toList n) ∧
    b.RuleRefused name kind.rule.name kind none ∧
    (∀ n : Nat, (decimal n).length ≤ maxDigits →
      b.RuleLimits name field (kind.rule.name ++ ":" ++ decimal n) kind n) ∧
    ∀ (rules : Value) (param : Option String),
      let change := tokenChange b.settings name rules ⟨kind.rule.name, param⟩
      (∀ (p : String) (n : Nat), param = some p → IsInteger p.toList n →
        change = b.change (kind.fieldLimit field n)) ∧
      ((∀ p, param = some p → ∀ n : Nat, ¬ IsInteger p.toList n) →
        change = .fail (kind.parameterFailure param)) := by
  have htoken (rules : Value) (param : Option String) :
      tokenChange b.settings name rules ⟨kind.rule.name, param⟩ = kind.rule.change b.settings name param := by
    unfold tokenChange
    rw [Rule.named?_number]
  refine ⟨fun p hbar => ⟨fun n hn => ?_, fun hno => ?_, fun n hn => ?_⟩, ?_, fun n hlength => ?_,
    fun rules param => ⟨fun p n hparam hn => ?_, fun hno => ?_⟩⟩
  · exact b.ruleLimits hname hn (parse_number kind hbar)
  · refine b.ruleRefused hname ?_ (parse_number kind hbar)
    rintro _ ⟨⟩
    exact hno
  · rw [String.toList_ofList]
    exact hn.trim
  · exact b.ruleRefused hname (fun _ h => nomatch h) (parse_number_alone kind)
  · have hinteger := isInteger_decimal hlength
    have hbar : '|' ∉ (decimal n).toList := not_mem_of_forall (decimal_digits n) (by decide)
    refine b.ruleLimits hname ?_ (parse_number kind hbar)
    rw [String.toList_ofList]
    exact hinteger.trim
  · rw [htoken, hparam, Rule.change_of_number kind b.settings hname hn]
    rfl
  · rw [htoken, Rule.change_of_no_number b.settings hname hno]

/-- A sign, digits of another script, an underscore and blanks. -/
theorem number_rules_exact_spelled :
    let b := Builder.create .null {}
    (Value.str "Name").text = .ok "Name" ∧ '|' ∉ " +0_\u0661\u3000".toList ∧
      IsInteger (trim " +0_\u0661\u3000".toList) (1 : Nat) ∧
      b.RuleLimits (.str "Name") "Name" ("min" ++ ":" ++ " +0_\u0661\u3000") .least 1 ∧
      (decimal 12).length ≤ maxDigits ∧
      b.RuleLimits (.str "Name") "Name" ("exact" ++ ":" ++ decimal 12) .exact 12 := by
  intro b
  have hbar : '|' ∉ " +0_\u0661\u3000".toList := by decide
  have hinteger : IsInteger (trim " +0_\u0661\u3000".toList) (1 : Nat) := integer?_eq_some_iff.mp rfl
  have hlength : (decimal 12).length ≤ maxDigits := by decide
  have hname : (Value.str "Name").text = .ok "Name" := rfl
  refine ⟨hname, hbar, hinteger, ?_, hlength, (number_rules_exact b hname .exact).2.2.1 12 hlength⟩
  refine ((number_rules_exact b hname .least).1 _ hbar).1 1 ?_
  rw [String.toList_ofList]
  exact hinteger

/-- **Blanks.** A separator among the control characters is a blank, but not one that a numeral may have around
    it. A rule does not see it. -/
theorem numeral_trimmed_to_number :
    let b := Builder.create .null {}
    let call := Call.field (.str "Name") (.str ("min" ++ ":" ++ "\x1c5"))
    (∀ n : Nat, ¬ IsInteger "\x1c5".toList n) ∧ (b.change call).failure = none ∧
      (b.call call).requirements = [.minLength 5 (.str "Name must be at least 5 characters")] := by
  intro b call
  have hnone : integer? "\x1c5".toList = none := rfl
  have hfive : IsInteger (String.ofList (trim "\x1c5".toList)).toList (5 : Nat) := integer?_eq_some_iff.mp rfl
  have hlimits : b.RuleLimits (.str "Name") "Name" ("min" ++ ":" ++ "\x1c5") .least 5 :=
    b.ruleLimits rfl hfive (parse_number .least (by decide))
  refine ⟨fun n hn => ?_, hlimits.succeeds, ?_⟩
  · rw [← integer?_eq_some_iff, hnone] at hn
    cases hn
  · rw [hlimits.call, hlimits.added]
    rfl

end TextCriteria
