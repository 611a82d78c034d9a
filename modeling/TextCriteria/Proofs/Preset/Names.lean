import TextCriteria.Proofs.Preset.Levels

namespace TextCriteria

open TextCriteria.Pattern TextCriteria.Text

/-!
# Names of users

The message of such a preset says which characters a name may have, and how many it needs. The shape counts the
characters behind the first one. So it asks for one character more than the message says, and a name that is just
long enough is reported.

* `NameLevel` — the two levels, with their messages.
* `NameLevel.Describes` — the names that a message describes.
* `NameLevel.spells_iff` — the names that a shape accepts.
* `names_reported` — which names are reported; `names_reported_short`, one of each level that should not be.
-/

/-- The levels of the preset. -/
inductive NameLevel
  | standard
  | strict
  deriving DecidableEq, Repr

namespace NameLevel

/-- How a level is written. -/
def text : NameLevel → String
  | .standard => "standard"
  | .strict => "strict"

/-- What is said about a name that is reported. -/
def message : NameLevel → String
  | .standard => "Letters, numbers and underscore only, at least 2 characters"
  | .strict => "Letters and numbers only, at least 5 characters"

/-- The characters of a name beside letters and digits. -/
def others : NameLevel → String
  | .standard => "_"
  | .strict => ""

/-- The number of characters in the message. -/
def least : NameLevel → Nat
  | .standard => 2
  | .strict => 5

/-- The most characters that there may be behind the first one. -/
def most : Nat := 29

/-- Whether a name may have a character, by the message. -/
def allows (level : NameLevel) (c : Char) : Bool :=
  isAsciiLetter c || isAsciiDigit c || level.others.toList.contains c

/-- The names that the message describes. -/
def Describes (level : NameLevel) (name : String) : Prop :=
  (∀ c ∈ name.toList, level.allows c = true) ∧ level.least ≤ name.length

variable {level : NameLevel}

/-- The preset adds a single requirement, of that shape and with that message. -/
theorem added_eq (level : NameLevel) : ∃ shape,
    (∀ b : Builder, (b.change (.preset (.str "username") (.str level.text))).added
      = [⟨.anchored shape, .str level.message⟩]) ∧
      Fragment.NameShape shape (alphanumericOr level.others) level.least most := by
  cases level with
  | standard => exact ⟨_, fun _ => rfl, Fragment.nameShape_standard⟩
  | strict => exact ⟨_, fun _ => rfl, Fragment.nameShape_strict⟩

theorem least_le (level : NameLevel) : level.least ≤ most := by
  cases level <;> decide

/-- Among the texts that are not too long and have a letter in front, the names of the shape are those that
    have characters of the level only, and more of them than the message says. -/
theorem spells_iff {m : Modes} (hm : m.ignoreCase = false) {first : Char} {rest : List Char}
    (hfirst : isAsciiLetter first = true) (hlength : rest.length ≤ most) :
    (Fragment.nameTree (alphanumericOr level.others) level.least most).Spells m (first :: rest) ↔
      (∀ c ∈ first :: rest, level.allows c = true) ∧ level.least < (first :: rest).length := by
  have hletter : admitsClass m false (Fragment.classMembers .letter) first.toNat = true :=
    (congrFun (Fragment.isMember_classMembers hm .letter) first).trans hfirst
  have hallowed : level.allows first = true := by
    simp [allows, hfirst]
  rw [Fragment.spells_name, max_eq_right level.least_le]
  simp only [admitsClass_alphanumericOr hm, List.forall_mem_cons, List.length_cons, Nat.lt_succ_iff]
  constructor
  · rintro ⟨c, v, hv, -, hleast, -, hrest⟩
    obtain ⟨rfl, rfl⟩ := List.cons.inj hv
    exact ⟨⟨hallowed, hrest⟩, hleast⟩
  · rintro ⟨⟨-, hrest⟩, hleast⟩
    exact ⟨first, rest, rfl, hletter, hleast, hlength, hrest⟩

end NameLevel

/-- **Names.** Let a builder regard case and forbid no repetitions, and let it have reported some messages for a
    text of at most thirty characters with a letter in front. With the preset behind its requirements it reports
    the message of the preset too, or nothing more. It does so for the texts with other characters than the
    message names, and for those that do not have more characters than it says. This is as the message has it for
    all texts but those of allowed characters that have exactly as many as it says. -/
theorem names_reported (level : NameLevel) {b : Builder} (hflags : b.flags.Accepted)
    (hcase : b.flags.ignoreCase = false) (htemplate : b.flags.template = false) {name : String}
    {first : Char} {rest : List Char} (hname : name.toList = first :: rest)
    (hfirst : isAsciiLetter first = true) (hlength : name.length ≤ 30) {before : List Value}
    (hbefore : b.failed (.str name) = .ok before) :
    ∃ reported : Bool, (b.call (.preset (.str "username") (.str level.text))).failed (.str name)
        = .ok (before ++ if reported then [.str level.message] else []) ∧
      (reported = true ↔ (∃ c ∈ name.toList, level.allows c = false) ∨ name.length ≤ level.least) ∧
      ((reported = true ↔ ¬ level.Describes name) ↔
        ¬ ((∀ c ∈ name.toList, level.allows c = true) ∧ name.length = level.least)) := by
  obtain ⟨shape, hadded, hshape⟩ := level.added_eq
  obtain ⟨-, c, hc, haccepts⟩ := hshape.isShape.accepts hflags htemplate
  have hm : b.flags.inForce.modes.ignoreCase = false := b.flags.inForce_ignoreCase.trans hcase
  have hrest : rest.length ≤ NameLevel.most := by
    rw [← String.length_toList, hname, List.length_cons] at hlength
    exact Nat.le_of_succ_le_succ hlength
  have hiff : c.accepts name = true ↔
      (∀ x ∈ name.toList, level.allows x = true) ∧ level.least < name.length := by
    rw [haccepts, hname, NameLevel.spells_iff hm hfirst hrest, ← String.length_toList, hname]
  have hcalled : (b.call (.preset (.str "username") (.str level.text))).requirements
      = b.requirements ++ [⟨.anchored shape, .str level.message⟩] := by
    rw [Builder.call, Builder.append, hadded]
  have hfront : diagnose b.requirements name b.flags = .ok before := by
    rw [← Builder.failed_str hflags, hbefore]
  have hbehind : diagnose [⟨.anchored shape, .str level.message⟩] name b.flags
      = .ok (if c.accepts name then [] else [.str level.message]) :=
    diagnose_singleton (r := ⟨.anchored shape, .str level.message⟩) hc name
  refine ⟨!c.accepts name, ?_, ?_, ?_⟩
  · have hcall : (b.call (.preset (.str "username") (.str level.text))).flags = b.flags := rfl
    rw [Builder.failed_str (hcall ▸ hflags), hcall, hcalled, diagnose_append hfront hbehind]
    cases c.accepts name <;> rfl
  · rw [Bool.not_eq_true', ← Bool.not_eq_true, hiff, not_and_or, not_lt]
    simp
  · rw [Bool.not_eq_true', ← Bool.not_eq_true, hiff, not_iff_not, NameLevel.Describes]
    -- Both agree unless the name has as many characters as the message says, and only allowed ones.
    grind

/-- A name that is too short for an earlier requirement, and long enough for the stricter level. -/
theorem names_reported_behind :
    ∃ b : Builder, b.flags.Accepted ∧ b.flags.ignoreCase = false ∧ b.flags.template = false ∧
      "Anna99".toList = 'A' :: "nna99".toList ∧ isAsciiLetter 'A' = true ∧ "Anna99".length ≤ 30 ∧
      b.failed (.str "Anna99") = .ok [.str "Too short"] ∧
      (b.call (.preset (.str "username") (.str "strict"))).failed (.str "Anna99")
        = .ok [.str "Too short"] := by
  let b : Builder := (Builder.create .null {}).call (.length .least (.int 8) (.str "Too short"))
  have hflags : b.flags.Accepted := ⟨_, rfl⟩
  have hname : "Anna99".toList = 'A' :: "nna99".toList := rfl
  have hbefore : b.failed (.str "Anna99") = .ok [.str "Too short"] := rfl
  obtain ⟨reported, hfailed, hreported, -⟩ :=
    names_reported .strict hflags rfl rfl hname rfl (by decide) hbefore
  have hallowed : ∀ c ∈ "Anna99".toList, NameLevel.strict.allows c = true := List.all_eq_true.mp rfl
  have hnot : reported = false := by
    rw [← Bool.not_eq_true, hreported]
    rintro (⟨c, hc, hno⟩ | hlength)
    · exact Bool.false_ne_true (hno.symm.trans (hallowed c hc))
    · exact absurd hlength (by decide)
  rw [hnot] at hfailed
  exact ⟨b, hflags, rfl, rfl, hname, rfl, by decide, hbefore, hfailed⟩

/-- **Names that are just long enough.** Two characters are what the one message asks for, and five what the other
    one does. Names of this length are reported. -/
theorem names_reported_short :
    NameLevel.standard.Describes "ab" ∧
      ((Builder.create .null {}).call (.preset (.str "username") (.str "standard"))).failed (.str "ab")
        = .ok [.str NameLevel.standard.message] ∧
    NameLevel.strict.Describes "abcde" ∧
      ((Builder.create .null {}).call (.preset (.str "username") (.str "strict"))).failed (.str "abcde")
        = .ok [.str NameLevel.strict.message] :=
  ⟨⟨List.all_eq_true.mp rfl, by decide⟩, rfl, ⟨List.all_eq_true.mp rfl, by decide⟩, rfl⟩

end TextCriteria
