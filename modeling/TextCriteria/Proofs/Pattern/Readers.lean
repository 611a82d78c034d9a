import Mathlib.Logic.Basic
import TextCriteria.Pattern.Lexeme

namespace TextCriteria.Pattern

open TextCriteria.Text

/-!
# Readers in steps

The readers of classes, bounds, flags and conditions are long. Each of them is cut here into steps that
read one piece, with an equation that puts them together; what is proved of readers is proved step by step.

* `bind_eq_ok` — what is done in two steps succeeds exactly when both steps do.
* `characterOf`, `groupNameOf` — what is made of names; `readNamed_plain`, where there is none.
* `readMembers_succ` — the members of a class: `readLower`, `readBehind`, `readUpper`, `closeRange`.
* `readBraces_eq` — bounds between braces: `boundsAhead`, `roundsBetween`.
* `readFlags_succ` — the letters of flags, to be turned on or off: `flagStep`.
* `readCondition_eq` — what a conditional asks for: `conditionOf`.
* `readExtension_eq` — what follows a question mark: `extensionOf`.
* `readLexeme_plain` — a lexeme that is neither layout nor a comment of a verbose pattern.
-/

/-- What is done in two steps succeeds exactly when both steps do. -/
theorem bind_eq_ok {ε α β : Type} {x : Except ε α} {f : α → Except ε β} {b : β} :
    (x >>= f) = .ok b ↔ ∃ a, x = .ok a ∧ f a = .ok b := by
  cases x with
  | error e => simp [bind, Except.bind]
  | ok a => simp [bind, Except.bind]

theorem Outcome.ok_inj {α : Type} {a b : α} {r r' : List Char}
    (h : (.ok (a, r) : Outcome (α × List Char)) = .ok (b, r')) : a = b ∧ r = r' := by
  simpa using h

/-- A character is no backslash if the readers that take backslashes apart have let it through. -/
theorem ne_backslash {c : Char} {rest : List Char} (hlone : c = '\\' → rest = [] → False)
    (hpair : ∀ d rest', c = '\\' → rest = d :: rest' → False) : c ≠ '\\' := by
  intro hc
  cases rest with
  | nil => exact hlone hc rfl
  | cons d rest => exact hpair d rest hc rfl

/-! ### Names -/

/-- The character of a name, given what stands between the braces. -/
def characterOf (name rest : List Char) : Outcome (Nat × List Char) :=
  match characterNamed? name with
  | some c => .ok (c, rest)
  | none => fault (.unknownCharacter name) (rest.length + name.length + 4)

theorem readNamed_plain {s : List Char} (h : s.head? ≠ some '{') :
    readNamed s = fault .missingBrace s.length := by
  rcases s with _ | ⟨c, s⟩
  · rfl
  · have hc : c ≠ '{' := by simpa using h
    simp [readNamed, hc]

/-- The name of a group, given what stands before its closing character. -/
def groupNameOf (name rest : List Char) : Outcome (List Char × List Char) :=
  if isIdentifier name then .ok (name, rest) else fault (.badGroupName name) (rest.length + name.length + 1)

/-! ### Classes -/

/-- The members of a class from the end of a range on, which closes the range. -/
def closeRange (left fuel : Nat) (members : List ClassMember) (lo hi : List Char)
    (first last : ClassMember) (rest : List Char) : Outcome (List ClassMember × List Char) :=
  match first, last with
  | .code a, .code b =>
    if a ≤ b then readMembers left fuel (members ++ [.range a b]) rest
    else fault (.badRange lo hi) (rest.length + lo.length + 1 + hi.length)
  | _, _ => fault (.badRange lo hi) (rest.length + lo.length + 1 + hi.length)

/-- The members of a class from the unit behind a hyphen on. -/
def readUpper (left fuel : Nat) (members : List ClassMember) (lo : List Char) (first : ClassMember)
    (hi rest : List Char) : Outcome (List ClassMember × List Char) :=
  if hi.isEmpty then fault .unterminatedClass left
  else if hi == [']'] then .ok (members ++ [first, .code 45], rest)
  else readClassUnit hi rest >>= fun x => closeRange left fuel members lo hi first x.1 x.2

/-- The members of a class behind a unit, which may open a range. -/
def readBehind (left fuel : Nat) (members : List ClassMember) (lo : List Char) (first : ClassMember) :
    List Char → Outcome (List ClassMember × List Char)
  | '-' :: rest => readUnit rest >>= fun x => readUpper left fuel members lo first x.1 x.2
  | rest => readMembers left fuel (members ++ [first]) rest

/-- The members of a class from a unit on. -/
def readLower (left fuel : Nat) (members : List ClassMember) (lo rest : List Char) :
    Outcome (List ClassMember × List Char) :=
  if lo.isEmpty then fault .unterminatedClass left
  else if lo == [']'] && !members.isEmpty then .ok (members, rest)
  else readClassUnit lo rest >>= fun x => readBehind left fuel members lo x.1 x.2

/-- The members of a class are read piece by piece. -/
theorem readMembers_succ (left fuel : Nat) (members : List ClassMember) (s : List Char) :
    readMembers left (fuel + 1) members s
      = (readUnit s >>= fun x => readLower left fuel members x.1 x.2) := by
  rw [readMembers]
  refine congrArg (readUnit s >>= ·) (funext fun x => ?_)
  obtain ⟨lo, rest⟩ := x
  unfold readLower
  refine if_congr Iff.rfl rfl (if_congr Iff.rfl rfl ?_)
  refine congrArg (readClassUnit lo rest >>= ·) (funext fun x => ?_)
  obtain ⟨first, rest⟩ := x
  dsimp only
  split
  · rename_i rest
    refine congrArg (readUnit rest >>= ·) (funext fun x => ?_)
    rfl
  · rename_i hdash
    rw [readBehind]
    exact hdash

/-- What is no hyphen opens no range. -/
theorem readBehind_plain {s : List Char} (h : s.head? ≠ some '-') (left fuel : Nat)
    (members : List ClassMember) (lo : List Char) (first : ClassMember) :
    readBehind left fuel members lo first s = readMembers left fuel (members ++ [first]) s := by
  rcases s with _ | ⟨c, s⟩
  · rfl
  · have hc : c ≠ '-' := by simpa using h
    simp [readBehind, hc]

/-- A class is not over before its bracket. -/
theorem readMembers_nil (left fuel : Nat) (members : List ClassMember) :
    readMembers left fuel members [] = fault .unterminatedClass left := by
  cases fuel <;> rfl

theorem ne_nil_of_readMembers {left fuel : Nat} {members result : List ClassMember} {s r : List Char}
    (h : readMembers left fuel members s = .ok (result, r)) : s ≠ [] := by
  rintro rfl
  rw [readMembers_nil] at h
  cases h

/-- A class with a caret in front admits what its members do not. -/
theorem readClass_caret (s : List Char) :
    readClass ('^' :: s)
      = (readMembers (s.length + 2) (s.length + 1) [] s >>= fun x =>
          .ok (.item (.oneOf true x.1), x.2)) := rfl

theorem readClass_plain {s : List Char} (h : s.head? ≠ some '^') :
    readClass s
      = (readMembers (s.length + 1) (s.length + 1) [] s >>= fun x =>
          .ok (.item (.oneOf false x.1), x.2)) := by
  rcases s with _ | ⟨c, s⟩
  · rfl
  · have hc : c ≠ '^' := by simpa using h
    simp [readClass, hc]

/-! ### Bounds -/

/-- The digits of the two bounds at the start of a text, and what follows them. Without a comma the
    lower bound is the upper one too. -/
def boundsAhead (s : List Char) : List Char × List Char × List Char :=
  match s.dropWhile isAsciiDigit with
  | ',' :: r => (s.takeWhile isAsciiDigit, r.takeWhile isAsciiDigit, r.dropWhile isAsciiDigit)
  | r => (s.takeWhile isAsciiDigit, s.takeWhile isAsciiDigit, r)

/-- The repeat mark of two bounds in digits. -/
def roundsBetween (lo hi : List Char) (left : Nat) (after : List Char) :
    Outcome (Lexeme × List Char) := do
  let least ← boundOf lo
  let most ← boundOf hi
  match most with
  | some n =>
    if n < least.getD 0 then fault .boundsReversed left
    else roundsOf (least.getD 0) most after
  | none => roundsOf (least.getD 0) most after

/-- A brace opens bounds if digits, perhaps a comma and more digits, and another brace follow. -/
theorem readBraces_eq (s : List Char) :
    readBraces s
      = if s.head? = some '}' then .ok (.item (.char 123), s)
        else match (boundsAhead s).2.2 with
          | '}' :: after => roundsBetween (boundsAhead s).1 (boundsAhead s).2.1 s.length after
          | _ => .ok (.item (.char 123), s) := by
  unfold readBraces
  simp only
  split
  · simp
  · rename_i hbrace
    have hhead : s.head? ≠ some '}' := by
      intro hhead
      rcases s with _ | ⟨c, s⟩
      · simp at hhead
      · exact hbrace s (by simpa using hhead)
    rw [if_neg hhead]
    unfold boundsAhead
    rcases s.dropWhile isAsciiDigit with _ | ⟨c, r⟩
    · rfl
    · by_cases hc : c = ','
      · subst hc
        rfl
      · simp only [List.cons.injEq, hc, false_and, imp_false, not_false_eq_true, implies_true]
        rfl

/-! ### Flags -/

/-- The flags of a group, some letters of which have been read: those to turn on and, behind a hyphen,
    those to turn off. -/
def readFlags (fuel : Nat) (on : List Char) : Option (List Char) → List Char → Outcome (Lexeme × List Char)
  | none => readFlagsOn fuel on
  | some off => readFlagsOff on fuel off

/-- What a unit does to flags: it ends them, it is one of their letters or the hyphen, or it is a fault,
    which begins `back` characters before the rest. -/
inductive FlagStep
  | ended (l : Lexeme)
  | more (on : List Char) (off : Option (List Char))
  | refused (cause : Cause) (back : Nat)

/-- What is read from a unit on. -/
def FlagStep.run (fuel : Nat) (rest : List Char) : FlagStep → Outcome (Lexeme × List Char)
  | .ended l => .ok (l, rest)
  | .more on off => readFlags fuel on off rest
  | .refused cause back => fault cause (rest.length + back)

/-- The fault of a unit that does not belong to flags. -/
def FlagStep.foreign (unit : List Char) (otherwise : Cause) : FlagStep :=
  let letter := match unit with
    | [c] => isLetter c
    | _ => false
  .refused (if letter then .unknownFlag else otherwise) unit.length

/-- What a unit does to flags, given the letters before it. -/
def flagStep (on : List Char) : Option (List Char) → List Char → FlagStep
  | none, [c] =>
    if c == ')' && !on.isEmpty then .ended (.globalFlags on)
    else if c == ':' || c == '-' then
      if on.contains 't' then .refused .globalFlagOn 1
      else if c == ':' then .ended (.opening (.scoped (changeOf on [])))
      else .more on (some [])
    else if isFlagLetter c then
      if c == 'L' then .refused .localeFlag 0
      else if (c == 'a' && on.contains 'u') || (c == 'u' && on.contains 'a') then .refused .alphabetFlags 0
      else .more (on ++ [c]) none
    else .foreign [c] .missingFlagEnd
  | some off, [c] =>
    if c == ':' && !off.isEmpty then
      if off.contains 't' then .refused .globalFlagOff 1
      else if on.any off.contains then .refused .flagOnAndOff 1
      else .ended (.opening (.scoped (changeOf on off)))
    else if isFlagLetter c then
      if ['a', 'u', 'L'].contains c then .refused .alphabetFlagOff 0
      else .more on (some (off ++ [c]))
    else .foreign [c] (if off.isEmpty then .missingFlag else .missingColon)
  | none, unit => .foreign unit .missingFlagEnd
  | some off, unit => .foreign unit (if off.isEmpty then .missingFlag else .missingColon)

theorem FlagStep.run_foreign (fuel : Nat) (unit : List Char) (otherwise : Cause) (rest : List Char) :
    (foreign unit otherwise).run fuel rest = flagFault unit otherwise rest := by
  rcases unit with _ | ⟨c, _ | ⟨d, unit⟩⟩ <;> rfl

theorem FlagStep.run_ite {P : Prop} [Decidable P] (x y : FlagStep) (fuel : Nat) (rest : List Char) :
    (if P then x else y).run fuel rest = if P then x.run fuel rest else y.run fuel rest :=
  apply_ite (FlagStep.run fuel rest) P x y

/-- Flags are read unit by unit. -/
theorem readFlags_succ (fuel : Nat) (on : List Char) (off : Option (List Char)) (s : List Char) :
    readFlags (fuel + 1) on off s
      = (readUnit s >>= fun x => (flagStep on off x.1).run fuel x.2) := by
  cases off
  all_goals
    refine congrArg (readUnit s >>= ·) (funext fun x => ?_)
    obtain ⟨unit, rest⟩ := x
    dsimp only
    split
    · simp only [flagStep, FlagStep.run_ite, FlagStep.run_foreign]
      rfl
    · rename_i hsingle
      rw [flagStep, FlagStep.run_foreign]
      exact hsingle

theorem readFlags_zero (on : List Char) (off : Option (List Char)) (s : List Char) :
    ∃ cause, readFlags 0 on off s = fault cause s.length := by
  cases off with
  | none => exact ⟨_, rfl⟩
  | some off => exact ⟨_, rfl⟩

/-- Flags end as flags of the whole pattern or as those of a group. -/
theorem flagStep_ended {on unit : List Char} {off : Option (List Char)} {l : Lexeme}
    (h : flagStep on off unit = .ended l) :
    (∃ letters, l = .globalFlags letters) ∨ ∃ change, l = .opening (.scoped change) := by
  unfold flagStep at h
  split at h
  · split at h
    · cases h
      exact .inl ⟨_, rfl⟩
    split at h
    · split at h
      · cases h
      split at h
      · cases h
        exact .inr ⟨_, rfl⟩
      · cases h
    split at h
    · split at h
      · cases h
      split at h <;> cases h
    · cases h
  · split at h
    · split at h
      · cases h
      split at h
      · cases h
      · cases h
        exact .inr ⟨_, rfl⟩
    split at h
    · split at h <;> cases h
    · cases h
  · cases h
  · cases h

/-! ### Conditions -/

/-- The group that a conditional asks for, given what stands in its parentheses. -/
def conditionOf (name rest : List Char) : Outcome (GroupRef × List Char) :=
  let left := rest.length + name.length + 1
  if isIdentifier name then .ok (.name name, rest)
  else match integer? name with
    | none => fault (.badGroupName name) left
    | some n =>
      if n < 0 then fault (.badGroupName name) left
      else if n == 0 then fault .badGroupNumber left
      else if maxGroups ≤ n.toNat then fault (.invalidGroup n.toNat) left
      else .ok (.number n.toNat, rest)

theorem readCondition_eq (s : List Char) :
    readCondition s = (readUntil ')' "group name" [] s >>= fun x => conditionOf x.1 x.2) := rfl

/-- What a conditional asks for is told by what stands in its parentheses alone. -/
theorem conditionOf_eq {name rest r : List Char} {ref : GroupRef}
    (h : conditionOf name rest = .ok (ref, r)) :
    r = rest ∧ ∀ rest', conditionOf name rest' = .ok (ref, rest') := by
  unfold conditionOf at h
  dsimp only at h
  split at h
  · rename_i hid
    obtain ⟨rfl, rfl⟩ := Outcome.ok_inj h
    exact ⟨rfl, fun rest' => by simp [conditionOf, hid]⟩
  rename_i hid
  split at h
  · cases h
  rename_i n hn
  split at h
  · cases h
  rename_i hneg
  split at h
  · cases h
  rename_i hzero
  split at h
  · cases h
  rename_i hmax
  obtain ⟨rfl, rfl⟩ := Outcome.ok_inj h
  exact ⟨rfl, fun rest' => by simp [conditionOf, hid, hn, hneg, hzero, hmax]⟩

/-! ### Extensions -/

/-- What follows the letter of names: the name of a group that is opened, or of one that is referred to. -/
def readByName (rest : List Char) : Outcome (Lexeme × List Char) :=
  match rest with
  | '<' :: rest => readGroupName '>' rest >>= fun x => .ok (.opening (.capture (some x.1)), x.2)
  | '=' :: rest => readGroupName ')' rest >>= fun x => .ok (.reference (.name x.1), x.2)
  | _ => readUnit rest >>= fun x =>
    if x.1.isEmpty then fault .unexpectedEnd 0
    else fault (.unknownExtension ('P' :: x.1)) (x.2.length + x.1.length + 2)

/-- The sign of what looks behind. -/
def lookBehindOf (unit rest : List Char) : Outcome (Lexeme × List Char) :=
  match unit with
  | [] => fault .unexpectedEnd 0
  | ['='] => .ok (.opening (.look true false), rest)
  | ['!'] => .ok (.opening (.look true true), rest)
  | _ => fault (.unknownExtension ('<' :: unit)) (rest.length + unit.length + 2)

/-- The sign of what looks behind is told by its unit alone. -/
theorem lookBehindOf_eq {unit rest r : List Char} {l : Lexeme} (h : lookBehindOf unit rest = .ok (l, r)) :
    r = rest ∧ unit ≠ [] ∧ ∀ rest', lookBehindOf unit rest' = .ok (l, rest') := by
  unfold lookBehindOf at h
  split at h
  · cases h
  · obtain ⟨rfl, rfl⟩ := Outcome.ok_inj h
    exact ⟨rfl, List.cons_ne_nil _ _, fun _ => rfl⟩
  · obtain ⟨rfl, rfl⟩ := Outcome.ok_inj h
    exact ⟨rfl, List.cons_ne_nil _ _, fun _ => rfl⟩
  · cases h

/-- The extension that begins with a unit of the text `s`. -/
def extensionOf (left : Nat) (s unit rest : List Char) : Outcome (Lexeme × List Char) :=
  match unit with
  | [] => fault .unexpectedEnd 0
  | ['P'] => readByName rest
  | [':'] => .ok (.opening (.scoped {}), rest)
  | ['#'] => skipComment left rest >>= fun r => .ok (.skip, r)
  | ['='] => .ok (.opening (.look false false), rest)
  | ['!'] => .ok (.opening (.look false true), rest)
  | ['<'] => readUnit rest >>= fun x => lookBehindOf x.1 x.2
  | ['('] => readCondition rest >>= fun x => .ok (.opening (.conditional x.1), x.2)
  | ['>'] => .ok (.opening .atomic, rest)
  | ['-'] => readFlags (rest.length + 1) [] (some []) rest
  | [c] =>
    -- The letter is a flag itself, so the flags are read from it on.
    if isFlagLetter c then readFlags (s.length + 1) [] none s
    else fault (.unknownExtension [c]) (rest.length + 2)
  | _ => fault (.unknownExtension unit) (rest.length + unit.length + 1)

/-- A letter of a flag begins the flags of a group. -/
theorem extensionOf_letter {c : Char} (hc : isFlagLetter c = true) (left : Nat) (s rest : List Char) :
    extensionOf left s [c] rest = readFlags (s.length + 1) [] none s := by
  simp only [isFlagLetter, List.contains_eq_mem, List.mem_cons, List.not_mem_nil, or_false,
    decide_eq_true_eq] at hc
  rcases hc with rfl | rfl | rfl | rfl | rfl | rfl | rfl | rfl <;> rfl

/-- An extension is told by the unit behind the question mark. -/
theorem readExtension_eq (left : Nat) (s : List Char) :
    readExtension left s = (readUnit s >>= fun x => extensionOf left s x.1 x.2) := rfl

/-! ### Lexemes -/

/-- What is neither layout nor a comment is read as it is where layout is not free. -/
theorem readLexeme_plain {verbose : Bool} {c : Char} (hlayout : ¬(verbose && isLayout c) = true)
    (hcomment : ¬(verbose && c == '#') = true) (s : List Char) :
    readLexeme verbose c s = readLexeme false c s := by
  unfold readLexeme
  rw [if_neg hlayout, if_neg hcomment]
  rfl

end TextCriteria.Pattern
