import TextCriteria.Proofs.Builder.Change
import TextCriteria.Proofs.Composition.Whole
import TextCriteria.Proofs.Pattern.Bounds
import TextCriteria.Proofs.Text.Ascii

namespace TextCriteria

open TextCriteria.Pattern TextCriteria.Text

/-!
# Standard fragments

The fragments that are added by calls for lengths, counts of characters, shapes, presets and rule
strings. They contain no groups, and each is whole or does not compile alone.

* `Fragment.Standard` — the standard fragments.
* `Fragment.Settled` — a fragment that is whole and has no groups, unless it is refused.
* `Fragment.settled_of_counted`, `Fragment.settled_of_plain` — the two kinds of bodies.
* `Fragment.Standard.settled` — every standard fragment is settled.
* `Call.change_standard` — what calls add, apart from fragments and patterns of the caller.
-/

/-- The patterns of whole texts. -/
def shapes : List String :=
  [Shape.email, Shape.url true, Shape.url false, Shape.ipv4] ++ DateTemplate.all.map DateTemplate.shape ++
    PhoneRegion.all.map PhoneRegion.shape ++
    ["[a-zA-Z][a-zA-Z0-9_]\x7b2,29\x7d", "[a-zA-Z][a-zA-Z0-9]\x7b5,29\x7d"]

/-- The text between brackets is a class with the members, and so is its complement. -/
def IsClass (text : List Char) (members : List ClassMember) : Prop :=
  (∀ verbose t, readLexeme verbose '[' (text ++ ']' :: t) = .ok (.item (.oneOf false members), t)) ∧
    ∀ verbose t, readLexeme verbose '[' ('^' :: (text ++ ']' :: t))
      = .ok (.item (.oneOf true members), t)

namespace Fragment

/-- The fragments of standard requirements. -/
inductive Standard : Fragment → Prop
  | minLength (n : Nat) : Standard (.lookahead (".\x7b" ++ decimal n ++ ",\x7d"))
  | maxLength (n : Nat) : Standard (.lookahead (".\x7b0," ++ decimal n ++ "\x7d\\Z"))
  | lengthBetween (least most : Nat) :
      Standard (.lookahead (".\x7b" ++ decimal least ++ "," ++ decimal most ++ "\x7d\\Z"))
  | exactLength (n : Nat) : Standard (.lookahead (".\x7b" ++ decimal n ++ "\x7d\\Z"))
  | required : Standard (.lookahead ".")
  | atLeast {text : String} {members : List ClassMember} (h : IsClass text.toList members) (n : Nat) :
      Standard (Requirement.atLeast text n)
  | shape {text : String} (h : text ∈ shapes) : Standard (.anchored text)

/-- A fragment without groups that stands by itself in a row, if it compiles at all. -/
def Settled (flags : Flags) (f : Fragment) : Prop :=
  Compiles flags f.render → f.Whole flags ∧ f.groupCount flags = 0

variable {flags : Flags} {f : Fragment}

/-! ### Bodies without groups -/

/-- A text that is read to its end without groups, and without conditionals that ask for some. -/
def plain (verbose : Bool) (text : List Char) : Bool :=
  match (Draft.start verbose text.length).readAll text with
  | .ok d => d.outer.isEmpty && d.asked.isEmpty && d.groups == 0
  | .error _ => false

theorem exists_of_plain {verbose : Bool} {text : List Char} (h : plain verbose text = true) :
    ∃ d, (Draft.start verbose text.length).readAll text = .ok d ∧ d.outer = [] ∧ d.missingGroup? = none ∧
      d.groups = 0 := by
  unfold plain at h
  split at h
  · rename_i d hread
    simp only [Bool.and_eq_true, List.isEmpty_iff, beq_iff_eq] at h
    obtain ⟨⟨houter, hasked⟩, hgroups⟩ := h
    have hmissing : d.missingGroup? = none := by simp [Draft.missingGroup?, hasked]
    exact ⟨d, hread, houter, hmissing, hgroups⟩
  · cases h

theorem settled_of_plain (hflags : flags.Accepted) (h : plain flags.verbose f.body.toList = true) :
    f.Settled flags := by
  intro hcompiles
  obtain ⟨d, hread, houter, hmissing, hgroups⟩ := exists_of_plain h
  have hcount : groupsOf flags f.body = 0 := by rw [groupsOf, draftOf_eq hread, hgroups]
  rcases whole_or_malformed_of_read hflags hread houter hmissing with
    ⟨hwhole, heq⟩ | ⟨cause, left, hrefused⟩
  · exact ⟨hwhole, heq.trans hcount⟩
  · obtain ⟨c, hcompile⟩ := hcompiles
    cases hrefused.symm.trans hcompile

/-- What is refused in every draft does not compile between the parentheses of a look ahead. -/
theorem not_compiles_of_refused (hk : f.kind = .lookahead)
    (h : ∀ D : Draft, ∃ refusal, D.readAll (f.body.toList ++ [')']) = .error refusal) :
    ¬ Compiles flags f.render := by
  rintro ⟨c, hcompile⟩
  obtain ⟨x, hx, -⟩ := compile_eq_ok.mp hcompile
  obtain ⟨d, hread, -⟩ := compileChars_complete hx
  rw [render_lookahead hk, toList_asLookahead, core_lookahead hk] at hread
  obtain ⟨left, hopen⟩ := Draft.readAll_look (Draft.start_ready flags.verbose _)
    (f.body.toList ++ [')'])
  obtain ⟨refusal, hfault⟩ := h _
  cases hfault.symm.trans (hopen.symm.trans hread)

/-- What may follow the bounds of the last item in a standard body. -/
def Tail (post : List Char) : Prop := post = [] ∨ post = ['\\', 'Z']

/-- An item with bounds is settled, whatever the bounds are. -/
theorem settled_of_counted (hflags : flags.Accepted) (hk : f.kind = .lookahead)
    {pre s lo hi post : List Char} {r : Regex} (hadds : Draft.Adds pre r) (hr : r.repeatable = .yes)
    (hs : IsBounds s lo hi) (hpost : Tail post)
    (hbody : f.body.toList = pre ++ '{' :: (s ++ '}' :: post)) : f.Settled flags := by
  rcases hadds.rounds hr hs with ⟨least, most, hok⟩ | hrefused
  · refine settled_of_plain hflags ?_
    have hunmarked : Unmarked post := by
      rcases hpost with rfl | rfl <;> exact ⟨by decide, by decide⟩
    unfold plain
    rw [hbody, hok _ post hunmarked]
    rcases hpost with rfl | rfl
    · rfl
    · rw [Draft.readAll_textEnd]
      rfl
  · refine fun hcompiles => absurd hcompiles (not_compiles_of_refused hk fun D => ?_)
    have hassoc : f.body.toList ++ [')'] = pre ++ '{' :: (s ++ '}' :: (post ++ [')'])) := by
      rw [hbody]
      simp
    rw [hassoc]
    exact hrefused D (post ++ [')'])

/-! ### Classes that are counted -/

/-- Members that are single characters. -/
def codes (text : String) : List ClassMember := text.toList.map fun c => .code c.toNat

/-- The members of the class of a kind of characters. -/
def classMembers : CharacterKind → List ClassMember
  | .letter => [.range 97 122, .range 65 90]
  | .lowercase => [.range 97 122]
  | .uppercase => [.range 65 90]
  | .digit => [.range 48 57]
  | .special => codes CharacterKind.special.members

/-- The characters up to the next member of a class, and that one. -/
def nextMember (members : List ClassMember) : Regex :=
  .scoped {} (Regex.ofItems [.rounds .greedy 0 none (.oneOf true members), .oneOf false members])

theorem adds_nextMember {text : List Char} {members : List ClassMember} (h : IsClass text members) :
    Draft.Adds ('(' :: '?' :: ':' :: '[' :: '^' :: (text ++ ']' :: '*' :: '[' :: (text ++ [']', ')'])))
      (nextMember members) := by
  intro D t
  have hstar : ∀ verbose, readLexeme verbose '*' ('[' :: (text ++ ']' :: ')' :: '{' :: t))
      = .ok (.rounds .greedy 0 none, '[' :: (text ++ ']' :: ')' :: '{' :: t)) := by
    intro verbose
    cases verbose <;> rfl
  have htext : '(' :: '?' :: ':' :: '[' :: '^' :: (text ++ ']' :: '*' :: '[' :: (text ++ [']', ')'])) ++
      '{' :: t = '(' :: '?' :: ':' :: '[' :: '^' :: (text ++ ']' :: '*' :: '[' ::
        (text ++ ']' :: ')' :: '{' :: t)) := by simp
  obtain ⟨left, hopen⟩ := Draft.readAll_scoped D
    ('[' :: '^' :: (text ++ ']' :: '*' :: '[' :: (text ++ ']' :: ')' :: '{' :: t)))
  rw [htext, hopen, Draft.readAll_cons, h.2]
  simp only [Draft.push, bind, Except.bind]
  rw [Draft.readAll_cons, hstar]
  simp only [Draft.push, Draft.pushRounds, Draft.withItem, Regex.repeatable, bind, Except.bind]
  rw [Draft.readAll_cons, h.1]
  simp only [Draft.push, bind, Except.bind]
  rw [Draft.readAll_cons, readLexeme_closing]
  rfl

theorem isClass_members (kind : CharacterKind) : IsClass kind.members.toList (classMembers kind) := by
  cases kind <;> exact ⟨fun verbose t => by cases verbose <;> rfl, fun verbose t => by cases verbose <;> rfl⟩

theorem isClass_specialMembers :
    IsClass Preset.specialMembers.toList (codes Preset.specialMembers) :=
  ⟨fun verbose t => by cases verbose <;> rfl, fun verbose t => by cases verbose <;> rfl⟩

/-! ### Standard fragments -/

theorem isAscii_shapes : ∀ text ∈ shapes, isAscii text = true := by
  decide +kernel

theorem plain_shapes : ∀ text ∈ shapes, ∀ verbose, plain verbose text.toList = true := by
  have hplain : ∀ text ∈ shapes, ∀ verbose, plain verbose (byteChars text) = true := by decide +kernel
  intro text htext verbose
  rw [toList_eq_byteChars (isAscii_shapes text htext)]
  exact hplain text htext verbose

/-- **Standard fragments.** Every one is whole and has no groups, or it is refused. -/
theorem Standard.settled (hflags : flags.Accepted) (h : f.Standard) : f.Settled flags := by
  cases h with
  | minLength n =>
    have hs : IsBounds ((decimal n).toList ++ [',']) (decimal n).toList [] :=
      .pair (decimal_digits n) (by simp)
    refine settled_of_counted hflags rfl Draft.adds_dot rfl hs (.inl rfl) ?_
    simp [lookahead, String.toList_append]
  | maxLength n =>
    have hzero : ∀ c ∈ ['0'], isAsciiDigit c = true := by
      intro c hc
      obtain rfl := List.mem_singleton.mp hc
      rfl
    have hs : IsBounds ('0' :: ',' :: (decimal n).toList) ['0'] (decimal n).toList :=
      .pair hzero (decimal_digits n)
    refine settled_of_counted hflags rfl Draft.adds_dot rfl hs (.inr rfl) ?_
    simp [lookahead, String.toList_append]
  | lengthBetween least most =>
    have hs : IsBounds ((decimal least).toList ++ ',' :: (decimal most).toList)
        (decimal least).toList (decimal most).toList :=
      .pair (decimal_digits least) (decimal_digits most)
    refine settled_of_counted hflags rfl Draft.adds_dot rfl hs (.inr rfl) ?_
    simp [lookahead, String.toList_append]
  | exactLength n =>
    have hs := IsBounds.single (decimal_digits n) (decimal_ne_nil n)
    refine settled_of_counted hflags rfl Draft.adds_dot rfl hs (.inr rfl) ?_
    simp [lookahead, String.toList_append]
  | required => exact settled_of_plain hflags (by cases flags.verbose <;> rfl)
  | atLeast hclass n =>
    have hs := IsBounds.single (decimal_digits n) (decimal_ne_nil n)
    refine settled_of_counted hflags rfl (adds_nextMember hclass) rfl hs (.inl rfl) ?_
    simp [Requirement.atLeast, lookahead, String.toList_append]
  | shape h => exact settled_of_plain hflags (plain_shapes _ h _)

end Fragment

/-! ### What changes add -/

/-- Every requirement that is added has a standard fragment. -/
abbrev Change.Standard (c : Change) : Prop := c.Adds fun r => r.fragment.Standard

theorem Requirement.Made.standard {message : Value} {r : Requirement} (h : r.Made message) :
    r.fragment.Standard := by
  cases h with
  | length kind n =>
    cases kind with
    | least => exact .minLength n
    | most => exact .maxLength n
    | exact => exact .exactLength n
  | lengthBetween least most => exact .lengthBetween least most
  | required => exact .required
  | characters kind n => exact .atLeast (Fragment.isClass_members kind) n
  | email => exact .shape (by simp [shapes])
  | url schemeRequired => cases schemeRequired <;> exact .shape (by simp [shapes])
  | ipv4 => exact .shape (by simp [shapes])
  | date h =>
    obtain ⟨t, -, rfl⟩ := Requirement.date_eq_ok.mp h
    refine .shape ?_
    cases t <;> simp [shapes, DateTemplate.all]
  | phone h =>
    obtain ⟨p, name, -, -, rfl⟩ := Requirement.phone_eq_ok.mp h
    refine .shape ?_
    cases p <;> simp [shapes, PhoneRegion.all]

theorem Preset.chars_standard (n : Nat) : (Preset.chars n).fragment.Standard := .minLength n

theorem Preset.counted_standard (kind : CharacterKind) (n : Nat) (message : String) :
    (Preset.counted kind.members n message).fragment.Standard :=
  .atLeast (Fragment.isClass_members kind) n

theorem Preset.groups_standard (type : PresetType) :
    ∀ e ∈ Preset.groups type, ∀ r ∈ e.2, r.fragment.Standard := by
  have hspecial : ∀ message, (Preset.counted Preset.specialMembers 1 message).fragment.Standard :=
    fun _ => .atLeast Fragment.isClass_specialMembers 1
  cases type with
  | password =>
    simp only [Preset.groups, List.forall_mem_cons, List.not_mem_nil, false_imp_iff, implies_true,
      and_true]
    exact ⟨⟨Preset.chars_standard 6, Preset.counted_standard .digit 1 _⟩,
      ⟨Preset.chars_standard 8, Preset.counted_standard .digit 1 _, Preset.counted_standard .lowercase 1 _,
        Preset.counted_standard .uppercase 1 _⟩,
      Preset.chars_standard 10, Preset.counted_standard .digit 2 _, Preset.counted_standard .lowercase 1 _,
      Preset.counted_standard .uppercase 1 _, hspecial _⟩
  | username =>
    simp only [Preset.groups, List.forall_mem_cons, List.not_mem_nil, false_imp_iff, implies_true,
      and_true]
    exact ⟨.shape (by simp [shapes]), .shape (by simp [shapes])⟩

/-! ### What calls add -/

/-- A call with neither a fragment nor a pattern of the caller's. -/
def Call.IsStandard : Call → Prop
  | .addRequirement _ _ | .shape _ _ => False
  | _ => True

/-- **Calls.** Apart from fragments and patterns of the caller's, calls add standard fragments. -/
theorem Call.change_standard (s : Settings) {c : Call} (h : c.IsStandard) :
    (c.change s).Standard := by
  have hgrows := c.change_grows s
  cases c with
  | addRequirement fragment message => exact h.elim
  | shape pattern message => exact h.elim
  | preset type level => exact hgrows.adds Preset.groups_standard
  | field name rules => exact hgrows.adds (fun text r hr => hr.standard) Preset.groups_standard
  | _ => exact Change.Single.adds hgrows fun r hr => hr.standard

end TextCriteria
