import TextCriteria.Builder.Call
import TextCriteria.Note
import TextCriteria.RuleString
import TextCriteria.Settings.Basic

namespace TextCriteria

open TextCriteria.Text

/-!
# What a call does

A call adds requirements at the end of those that a builder has. It may fail after it has added some,
and those stay.

* `Change` — the requirements a call adds, the notes it leaves and the failure it ends with, if any.
* `Change.noted` — requirements are added, and then the call fails if the note on them cannot be written.
* `Change.andThen` — one change after another, which does not happen if the first one fails.
* `Call.change` — the change of a call under some settings.
* `applyRules` — the change of a rule string.
-/

/-- What a call does to a builder. -/
structure Change where
  added : List Requirement := []
  notes : List Note := []
  failure : Option Failure := none
  deriving Repr

namespace Change

/-- Nothing is added, and the call fails. -/
def fail (f : Failure) : Change := { failure := some f }

/-- Requirements are added and a note is left. A note that cannot be written fails behind them. -/
def noted (added : List Requirement) (topic : Topic) : Except Failure String → Change
  | .ok text => { added, notes := [⟨topic, text⟩] }
  | .error f => { added, failure := some f }

/-- A note is left and nothing else happens. -/
def note (topic : Topic) (text : Except Failure String) : Change := noted [] topic text

/-- One requirement is added. -/
def one (r : Requirement) : Change :=
  noted [r] .builder do
    .ok ("追加要求: " ++ r.fragment.render ++ " (" ++ (← r.message.text) ++ ")")

/-- The second change follows the first, unless that fails. -/
def andThen (c d : Change) : Change :=
  match c.failure with
  | some _ => c
  -- Even if the second one fails, what both added stays.
  | none => { added := c.added ++ d.added, notes := c.notes ++ d.notes, failure := d.failure }

/-- A requirement is added if it could be made. -/
def ofResult : Except Failure Requirement → Change
  | .ok r => one r
  | .error f => fail f

/-- What is done with the text of a name, if it has one. -/
def naming (name : Value) (c : String → Change) : Change :=
  match name.text with
  | .ok text => c text
  | .error f => fail f

end Change

/-! ### Single requirements -/

/-- The requirement of a limit on length. -/
def LengthKind.requirement : LengthKind → Nat → Value → Requirement
  | .least => .minLength
  | .most => .maxLength
  | .exact => .exactLength

/-- A note on a value for which nothing was found in a catalog. -/
def lookupNote {α : Type} (found : Except Failure (Option α)) (value : Value) (before after : String) : Change :=
  match found with
  | .error f => .fail f
  | .ok (some _) => {}
  | .ok none => .note .catalogs do .ok (before ++ (← value.shown) ++ after)

/-- A note where a region is not in the catalog. -/
def regionNote (region : Value) : Change :=
  lookupNote (PhoneRegion.ofValue? region) region "未知电话地区 " "，回退为 international"

/-- A note where a template is not in the catalog. -/
def templateNote (template : Value) : Change :=
  lookupNote (DateTemplate.ofValue? template) template "未知日期格式 " "，回退为 YYYY-MM-DD"

/-- A value, or a default if it is nothing at all. -/
def Value.getD (v default : Value) : Value :=
  match v with
  | .null => default
  | v => v

/-- A phone number of a region. -/
def phoneChange (s : Settings) (region message : Value) : Change :=
  let region := region.getD s.phoneRegion
  (regionNote region).andThen (.ofResult (Requirement.phone region message))

/-- A date in a template. -/
def dateChange (s : Settings) (template message : Value) : Change :=
  let template := template.getD s.dateTemplate
  (templateNote template).andThen (.ofResult (Requirement.date template message))

/-- A web address. -/
def urlChange (s : Settings) (schemeRequired message : Value) : Change :=
  .one (.url (schemeRequired.getD s.urlNeedsScheme).isTrue message)

/-- A limit on length. -/
def lengthChange (kind : LengthKind) (n message : Value) : Change :=
  .ofResult do
    let n ← count? "length" n
    .ok (kind.requirement (← writable? n) message)

/-- The level that a preset is taken at: the caller's, or that of the settings for a kind that
    exists. -/
def presetLevel (s : Settings) (type level : Value) : Value :=
  match level, PresetType.ofValue? type with
  -- Settings have levels for kinds that exist; for others the missing level is kept.
  | .null, some t => s.levelFor t
  | level, _ => level

/-- A whole group of requirements. -/
def presetChange (s : Settings) (type level : Value) : Change :=
  let level := presetLevel s type level
  match Preset.lookup type level with
  | .error f => .fail f
  | .ok (t, group) =>
    .noted group .builder do
      .ok ("应用预设 " ++ t.code ++ ":" ++ (← level.text) ++ "，追加 " ++ toString group.length ++ " 条要求")

/-! ### Rule strings -/

/-- The rules, in catalog order. -/
inductive Rule
  | required
  | email
  | phone
  | password
  | username
  | min
  | max
  | exact
  | url
  | date
  deriving DecidableEq, Repr

namespace Rule

/-- All rules in order. -/
def all : List Rule :=
  [.required, .email, .phone, .password, .username, .min, .max, .exact, .url, .date]

/-- The name of a rule. -/
def name : Rule → String
  | .required => "required"
  | .email => "email"
  | .phone => "phone"
  | .password => "password"
  | .username => "username"
  | .min => "min"
  | .max => "max"
  | .exact => "exact"
  | .url => "url"
  | .date => "date"

/-- The rule with a name. -/
def named? (name : String) : Option Rule :=
  all.find? fun r => r.name == name

end Rule

/-- A parameter that is missing or empty says nothing. -/
def optional : Option String → Value
  | some s => if s.isEmpty then .null else .str s
  | none => .null

/-- The number that a parameter stands for, if it is not negative. -/
def ruleNumber? (param : Option String) : Option Nat := do
  let n ← integer? (← param).toList
  -- A sign in front of zero is no harm.
  if n < 0 then none else some n.toNat

/-- A rule on length with its number. The number is read before the name of the field is. -/
def numberRule (rule : Rule) (kind : LengthKind) (name : Value) (param : Option String)
    (message : String → String → String) : Change :=
  match ruleNumber? param with
  | some n => .naming name fun field => .one (kind.requirement n (.str (message field (decimal n))))
  | none =>
    .fail (.record (.ruleParameter (.str rule.name) (match param with
      | some p => .str p
      | none => .null)))

/-- What a rule does for the field with a name. Presets do not need the name. -/
def Rule.change (s : Settings) (name : Value) (param : Option String) : Rule → Change
  | .required => .naming name fun field => .one (.required (.str (field ++ " is required")))
  | .email => .naming name fun field => .one (.email (.str (field ++ " must be a valid email")))
  | .phone => .naming name fun field =>
    phoneChange s (optional param) (.str (field ++ " must be a valid phone number"))
  | .password => presetChange s (.str PresetType.password.code) (optional param)
  | .username => presetChange s (.str PresetType.username.code) (optional param)
  | .min => numberRule .min .least name param fun field n => field ++ " must be at least " ++ n ++ " characters"
  | .max => numberRule .max .most name param fun field n => field ++ " must be at most " ++ n ++ " characters"
  | .exact => numberRule .exact .exact name param fun field n => field ++ " must be exactly " ++ n ++ " characters"
  | .url => .naming name fun field => urlChange s (.bool false) (.str (field ++ " must be a valid URL"))
  | .date => .naming name fun field => dateChange s (optional param) (.str (field ++ " must be a valid date"))

/-- What one rule of a rule string does. `rules` is the whole string as it was given. -/
def tokenChange (s : Settings) (name : Value) (rules : Value) (t : RuleToken) : Change :=
  match Rule.named? t.name with
  | some rule => rule.change s name t.param
  | none => .fail (.record (.unknownRule (.str t.name) rules))

/-- What some rules do, one after the other. -/
def tokensChange (s : Settings) (name : Value) (rules : Value) : List RuleToken → Change
  | [] => {}
  | t :: rest => (tokenChange s name rules t).andThen (tokensChange s name rules rest)

/-- The note on a rule string. -/
def rulesNote (name rules : Value) : Change :=
  .note .rules do .ok ("字段 " ++ (← name.text) ++ " 应用规则: " ++ (← rules.text))

/-- The failure of what is no text where rules are to be split. -/
def splitFailure (rules : Value) : Failure :=
  match rules with
  | .bytes _ => .bytesLike
  | v => .noAttribute v.fullKind "split"

/-- What a rule string does. -/
def applyRules (s : Settings) (name : Value) (rules : Value) : Change :=
  match rules.asText? with
  | some text => (tokensChange s name rules (RuleString.parse text)).andThen (rulesNote name rules)
  | none => .fail (splitFailure rules)

/-! ### Calls -/

/-- What a call does under some settings. -/
def Call.change (s : Settings) : Call → Change
  | .addRequirement (.fragment f) message => .one ⟨f, message⟩
  | .addRequirement (.other kind) _ => .fail (.notFragment kind)
  | .length kind n message => lengthChange kind n message
  | .lengthBetween least most message =>
    .ofResult do
      let least ← count? "min_length" least
      let most ← count? "max_length" most
      -- Both are checked before one of them is written.
      .ok (.lengthBetween (← writable? least) (← writable? most) message)
  | .required message => .one (.required message)
  | .characters kind n message =>
    .ofResult do
      let n ← count? "count" n
      .ok (.characters kind (← writable? n) message)
  | .email message => .one (.email message)
  | .url schemeRequired message => urlChange s schemeRequired message
  | .ipv4 message => .one (.ipv4 message)
  | .date template message => dateChange s template message
  | .phone region message => phoneChange s region message
  | .shape pattern message => .one ⟨.anchored pattern, message⟩
  | .preset type level => presetChange s type level
  | .field name rules => applyRules s name rules

end TextCriteria
