import TextCriteria.Proofs.Pattern.AnyCase
import TextCriteria.Proofs.Preset.Levels

namespace TextCriteria

open TextCriteria.Pattern TextCriteria.Text

/-!
# Letters of one case

A requirement asks for letters of one case, and the flags may say that case is ignored. Then the letters of the
other case are counted too, so the requirement does not hold what it says.

* `CharacterKind.IsCase`, `CharacterKind.countedUnder` — the two kinds, and what they count under some flags.
* `Fragment.isMember_case` — that they count this; `Fragment.isMember_of_has`, that nothing is lost.
* `Builder.CountsCase` — what such a call ensures; `Builder.countsCase`, the calls that do.
* `case_requirements` — what builders with such a requirement let through, and under which flags it has enough
  letters of the case; `uppercase_ignored`, flags under which it does not.
-/

/-! ### What is counted -/

/-- The two kinds of letters of one case. -/
def CharacterKind.IsCase (kind : CharacterKind) : Prop := kind = .lowercase ∨ kind = .uppercase

/-- The letters that count for one of these kinds under some flags: those of the case, or those of both cases
    where case is ignored. -/
def CharacterKind.countedUnder (kind : CharacterKind) (flags : Flags) (c : Char) : Bool :=
  if flags.ignoreCase then isLetterOfAnyCase flags.ascii c else kind.has c

namespace Fragment

variable {flags : Flags} {kind : CharacterKind} {n : Nat} {value : String}

theorem isMember_case (hkind : kind.IsCase) (c : Char) :
    isMember flags.inForce.modes (classMembers kind) c = kind.countedUnder flags c := by
  unfold CharacterKind.countedUnder
  cases hcase : flags.ignoreCase with
  | false =>
    have hmodes : flags.inForce.modes.ignoreCase = false := flags.inForce_ignoreCase.trans hcase
    rw [isMember_classMembers hmodes, if_neg Bool.false_ne_true]
  | true =>
    have hmodes : flags.inForce.modes.ignoreCase = true := flags.inForce_ignoreCase.trans hcase
    have hascii : flags.inForce.modes.ascii = flags.ascii := flags.inForce_ascii
    have hlower := admits_anyCase hmodes (r := (97, 122)) (by decide) c
    have hupper := admits_anyCase hmodes (r := (65, 90)) (by decide) c
    rw [hascii] at hlower hupper
    rcases hkind with rfl | rfl
    · simpa [isMember, admitsClass, classMembers] using hlower
    · simpa [isMember, admitsClass, classMembers] using hupper

/-- Whatever the modes are, a class has what its text names. -/
theorem isMember_codes_of_mem (m : Modes) {text : String} {c : Char} (h : c ∈ text.toList) :
    isMember m (codes text) c = true := by
  have hself : (ClassMember.code c.toNat).admits m c.toNat = true := by simp [ClassMember.admits, agree]
  simp only [isMember, admitsClass, Bool.bne_false, List.any_eq_true]
  exact ⟨_, List.mem_map_of_mem h, hself⟩

theorem isMember_of_has (m : Modes) {c : Char} (h : kind.has c = true) :
    isMember m (classMembers kind) c = true := by
  have hrange {lo hi : Char} (hc : (lo ≤ c && c ≤ hi) = true) :
      (ClassMember.range lo.toNat hi.toNat).admits m c.toNat = true := by
    simp only [ClassMember.admits, List.any_eq_true]
    refine ⟨c.toNat, mem_agreeing_self m c.toNat, ?_⟩
    simpa [Char.le_def, UInt32.le_iff_toNat_le] using hc
  have hlower (hc : ('a' ≤ c && c ≤ 'z') = true) : (ClassMember.range 97 122).admits m c.toNat = true :=
    hrange hc
  have hupper (hc : ('A' ≤ c && c ≤ 'Z') = true) : (ClassMember.range 65 90).admits m c.toNat = true :=
    hrange hc
  have hdigit (hc : ('0' ≤ c && c ≤ '9') = true) : (ClassMember.range 48 57).admits m c.toNat = true :=
    hrange hc
  by_cases hspecial : kind = .special
  · subst hspecial
    exact isMember_codes_of_mem m (List.contains_iff_mem.mp h)
  simp only [isMember, admitsClass, Bool.bne_false, List.any_eq_true]
  cases kind with
  | letter =>
    rcases Bool.or_eq_true_iff.mp h with hc | hc
    · exact ⟨_, List.mem_cons_self, hlower hc⟩
    · exact ⟨_, List.mem_cons_of_mem _ List.mem_cons_self, hupper hc⟩
  | lowercase => exact ⟨_, List.mem_cons_self, hlower h⟩
  | uppercase => exact ⟨_, List.mem_cons_self, hupper h⟩
  | digit => exact ⟨_, List.mem_cons_self, hdigit h⟩
  | special => exact absurd rfl hspecial

/-- Where repetitions are not forbidden, enough characters that the class names are enough. -/
theorem accepts_of_count (hflags : flags.Accepted) (htemplate : flags.template = false) (hn : n < maxRepeat)
    (h : n ≤ value.toList.countP kind.has) : (Requirement.atLeast kind.members n).Accepts flags value := by
  rw [atLeast_accepts_iff hflags (isClass_members kind) hn]
  exact ⟨htemplate, Nat.le_trans h (List.countP_mono_left fun c _ => isMember_of_has flags.inForce.modes)⟩

/-- **Letters of one case.** What the fragment accepts has enough of the letters that count. -/
theorem case_accepts_iff (hflags : flags.Accepted) (hkind : kind.IsCase) (hn : n < maxRepeat) :
    (Requirement.atLeast kind.members n).Accepts flags value ↔
      flags.template = false ∧ n ≤ value.toList.countP (kind.countedUnder flags) := by
  have hmember : isMember flags.inForce.modes (classMembers kind) = kind.countedUnder flags :=
    funext (isMember_case hkind)
  rw [atLeast_accepts_iff hflags (isClass_members kind) hn, hmember]

end Fragment

/-! ### Builders -/

section Builders

variable {b : Builder} {kind : CharacterKind} {n : Nat} {value : String}

/-- After a standard call, a builder accepts what each fragment that was there or was added accepts. -/
theorem Builder.acceptsAfter_iff (hflags : b.flags.Accepted) (hrs : ∀ r ∈ b.requirements, r.Admissible b.flags)
    {c : Call} (hc : c.IsStandard) {added : List Requirement} (hadded : (c.change b.settings).added = added)
    (hne : added ≠ []) (value : String) : b.AcceptsAfter [c] value ↔ b.flags.template = false ∧
      (∀ r ∈ b.requirements ++ added, r.fragment.Accepts b.flags value) ∧ value ≠ "" := by
  have hrequirements : (b.calls [c]).requirements = b.requirements ++ added :=
    congrArg (b.requirements ++ ·) hadded
  have hadmissible : ∀ r ∈ (b.calls [c]).requirements, r.Admissible b.flags :=
    Builder.calls_admissible (by simpa using hc) hrs
  have hiff := Builder.isValid_iff (b := b.calls [c]) hflags hadmissible value
  rw [Builder.AcceptsAfter, hiff, hrequirements]
  simp [hne, Builder.calls_flags]

/-- After a call, a builder accepts only texts with enough characters that pass a test. -/
def Builder.Ensures (b : Builder) (c : Call) (n : Nat) (test : Char → Bool) : Prop :=
  ∀ value, b.AcceptsAfter [c] value → n ≤ value.toList.countP test

/-- A call that asks for letters of one case. There are enough of the letters that count in what is accepted. They
    are letters of the case where case is regarded, where nothing is accepted and where none are asked for.
    Otherwise, and without other requirements, something is accepted that has too few of them. -/
structure Builder.CountsCase (b : Builder) (c : Call) (kind : CharacterKind) (n : Nat) : Prop where
  counted : b.Ensures c n (kind.countedUnder b.flags)
  ensured : b.flags.ignoreCase = false ∨ b.flags.template = true ∨ n = 0 → b.Ensures c n kind.has
  only : b.requirements = [] → b.Ensures c n kind.has →
    b.flags.ignoreCase = false ∨ b.flags.template = true ∨ n = 0

/-- A call counts letters of one case if it adds such a requirement, and if some text with too few letters of the
    case meets all that it adds where case is ignored. -/
theorem Builder.countsCase (hflags : b.flags.Accepted) (hrs : ∀ r ∈ b.requirements, r.Admissible b.flags)
    (hkind : kind.IsCase) (hn : n < maxRepeat) {c : Call} (hc : c.IsStandard) {added : List Requirement}
    (hadded : (c.change b.settings).added = added) {r : Requirement} (hr : r ∈ added)
    (hfragment : r.fragment = Requirement.atLeast kind.members n)
    (hother : b.flags.ignoreCase = true → b.flags.template = false → 0 < n →
      ∃ value, value ≠ "" ∧ (∀ r ∈ added, r.fragment.Accepts b.flags value) ∧
        value.toList.countP kind.has < n) : b.CountsCase c kind n := by
  have hiff := Builder.acceptsAfter_iff hflags hrs hc hadded (List.ne_nil_of_mem hr)
  have hcounted : b.Ensures c n (kind.countedUnder b.flags) := by
    intro value hvalue
    obtain ⟨-, haccepts, -⟩ := (hiff value).mp hvalue
    have hcase := haccepts r (List.mem_append_right _ hr)
    rw [hfragment, Fragment.case_accepts_iff hflags hkind hn] at hcase
    exact hcase.2
  refine ⟨hcounted, fun h value hvalue => ?_, fun hb hensures => ?_⟩
  · rcases h with hcase | htemplate | rfl
    · have hsame : kind.countedUnder b.flags = kind.has := by
        funext c
        rw [CharacterKind.countedUnder, hcase, if_neg Bool.false_ne_true]
      exact hsame ▸ hcounted value hvalue
    · exact absurd (((hiff value).mp hvalue).1.symm.trans htemplate) Bool.false_ne_true
    · exact Nat.zero_le _
  · by_contra hnot
    simp only [not_or, Bool.not_eq_false, Bool.not_eq_true] at hnot
    obtain ⟨hcase, htemplate, hpos⟩ := hnot
    obtain ⟨value, hne, haccepts, hfew⟩ := hother hcase htemplate (Nat.pos_of_ne_zero hpos)
    have hvalue : b.AcceptsAfter [c] value := (hiff value).mpr ⟨htemplate, by rwa [hb], hne⟩
    exact absurd (hensures value hvalue) (Nat.not_le.mpr hfew)

/-- A letter of the other case, and a password with letters of that case alone. -/
def CharacterKind.otherLetter : CharacterKind → Char
  | .uppercase => 'a'
  | _ => 'A'

def CharacterKind.otherPassword : CharacterKind → String
  | .uppercase => "abcdefgh12!"
  | _ => "ABCDEFGH12!"

theorem reach_otherPassword (flags : Flags) (kind : CharacterKind) : reach flags kind.otherPassword = 11 := by
  unfold reach
  cases kind <;> split <;> rfl

/-- The password meets what the presets ask for, if case is ignored. -/
theorem accepts_otherPassword {flags : Flags} (hflags : flags.Accepted) (hcase : flags.ignoreCase = true)
    (htemplate : flags.template = false) {level : String} (hlevel : level = "medium" ∨ level = "high")
    {group : List Requirement} (hgroup : Preset.group? .password level = some group) :
    ∀ r ∈ group, r.fragment.Accepts flags kind.otherPassword := by
  have hlength {least : Nat} (hle : least ≤ 11) :
      (Preset.chars least).fragment.Accepts flags kind.otherPassword := by
    have hleast : least < maxRepeat := Nat.lt_of_le_of_lt hle (by decide)
    rw [(Fragment.Dots.preset hleast).accepts_open hflags, reach_otherPassword]
    exact ⟨htemplate, hle⟩
  have hdigits {n : Nat} (hle : n ≤ 2) :
      (Requirement.atLeast CharacterKind.digit.members n).Accepts flags kind.otherPassword := by
    have hcount : 2 ≤ kind.otherPassword.toList.countP CharacterKind.digit.has := by cases kind <;> decide
    exact Fragment.accepts_of_count hflags htemplate (Nat.lt_of_le_of_lt hle (by decide)) (hle.trans hcount)
  have hletters {other : CharacterKind} (hother : other.IsCase) :
      (Requirement.atLeast other.members 1).Accepts flags kind.otherPassword := by
    rw [Fragment.case_accepts_iff hflags hother (by decide)]
    refine ⟨htemplate, ?_⟩
    have hcounted : other.countedUnder flags = isLetterOfAnyCase flags.ascii := by
      funext c
      rw [CharacterKind.countedUnder, if_pos hcase]
    rw [hcounted]
    cases flags.ascii <;> cases kind <;> decide
  have hspecial : (Requirement.atLeast Preset.specialMembers 1).Accepts flags kind.otherPassword := by
    rw [Fragment.atLeast_accepts_iff hflags Fragment.isClass_specialMembers (by decide)]
    refine ⟨htemplate, List.countP_pos_iff.mpr ⟨'!', ?_, Fragment.isMember_codes_of_mem _ (by decide)⟩⟩
    cases kind <;> decide
  rcases hlevel with rfl | rfl
  · cases hgroup
    simp only [List.forall_mem_cons, List.not_mem_nil, false_imp_iff, implies_true, and_true]
    exact ⟨hlength (by decide), hdigits (by decide), hletters (.inl rfl), hletters (.inr rfl)⟩
  · cases hgroup
    simp only [List.forall_mem_cons, List.not_mem_nil, false_imp_iff, implies_true, and_true]
    exact ⟨hlength (by decide), hdigits (by decide), hletters (.inl rfl), hletters (.inr rfl), hspecial⟩

/-- A call for letters of one case counts them. Nothing but letters of the other case meets it too. -/
theorem Builder.countsCase_characters (hflags : b.flags.Accepted)
    (hrs : ∀ r ∈ b.requirements, r.Admissible b.flags) (hkind : kind.IsCase) (hn : n < maxRepeat)
    (message : Value) : b.CountsCase (.characters kind (.int n) message) kind n := by
  refine Builder.countsCase hflags hrs hkind hn trivial (added_characters b.settings kind hn message)
    List.mem_cons_self rfl fun hcase htemplate hpos => ?_
  have hcounts : kind.countedUnder b.flags kind.otherLetter = true := by
    rw [CharacterKind.countedUnder, if_pos hcase]
    cases b.flags.ascii <;> cases kind <;> decide
  have hnot : ¬kind.has kind.otherLetter = true := by rcases hkind with rfl | rfl <;> decide
  refine ⟨String.ofList (List.replicate n kind.otherLetter), ?_, ?_, ?_⟩
  · intro hempty
    have hnil := congrArg String.toList hempty
    rw [String.toList_ofList] at hnil
    exact Nat.ne_of_gt hpos ((List.replicate_eq_nil_iff _).mp hnil)
  · rw [List.forall_mem_singleton]
    refine (Fragment.case_accepts_iff hflags hkind hn).mpr ⟨htemplate, ?_⟩
    rw [String.toList_ofList, List.countP_replicate, if_pos hcounts]
  · rwa [String.toList_ofList, List.countP_replicate, if_neg hnot]

/-- So does the preset of a level whose passwords have letters of both cases. -/
theorem Builder.countsCase_password (hflags : b.flags.Accepted)
    (hrs : ∀ r ∈ b.requirements, r.Admissible b.flags) (hkind : kind.IsCase) {level : String}
    (hlevel : level = "medium" ∨ level = "high") :
    b.CountsCase (.preset (.str "password") (.str level)) kind 1 := by
  obtain ⟨group, hgroup, hadded, hlower, hupper⟩ : ∃ group, Preset.group? .password level = some group ∧
      ((Call.preset (.str "password") (.str level)).change b.settings).added = group ∧
      Preset.lower ∈ group ∧ Preset.upper ∈ group := by
    rcases hlevel with rfl | rfl
    · exact ⟨_, rfl, rfl, by simp, by simp⟩
    · exact ⟨_, rfl, rfl, by simp, by simp⟩
  have hone : 1 < maxRepeat := by decide
  have hother (hcase : b.flags.ignoreCase = true) (htemplate : b.flags.template = false) (_ : 0 < 1) :
      ∃ value, value ≠ "" ∧ (∀ r ∈ group, r.fragment.Accepts b.flags value) ∧
        value.toList.countP kind.has < 1 := by
    refine ⟨kind.otherPassword, ?_, accepts_otherPassword hflags hcase htemplate hlevel hgroup, ?_⟩
    · cases kind <;> decide
    · rcases hkind with rfl | rfl <;> decide
  rcases hkind with rfl | rfl
  · exact Builder.countsCase hflags hrs (.inl rfl) hone trivial hadded hlower rfl hother
  · exact Builder.countsCase hflags hrs (.inr rfl) hone trivial hadded hupper rfl hother

/-- **Letters of one case.** What is accepted after a call for letters of one case, or for the preset of a level
    with such letters, has enough letters that count. Whether they are letters of the case is up to the flags:
    where case is ignored, those of the other case count too. -/
theorem case_requirements (hflags : b.flags.Accepted) (hrs : ∀ r ∈ b.requirements, r.Admissible b.flags)
    (hkind : kind.IsCase) (hn : n < maxRepeat) (message : Value) :
    b.CountsCase (.characters kind (.int n) message) kind n ∧
      ∀ level, level = "medium" ∨ level = "high" →
        b.CountsCase (.preset (.str "password") (.str level)) kind 1 :=
  ⟨Builder.countsCase_characters hflags hrs hkind hn message,
    fun _ hlevel => Builder.countsCase_password hflags hrs hkind hlevel⟩

/-- A password of the level in the middle, and a text without upper case letters. -/
theorem case_requirements_password :
    (Builder.create .null {}).flags.Accepted ∧ CharacterKind.uppercase.IsCase ∧ 1 < maxRepeat ∧
      (Builder.create .null {}).AcceptsAfter [.preset (.str "password") (.str "medium")] "Passw0rd" ∧
      1 ≤ "Passw0rd".toList.countP CharacterKind.uppercase.has ∧
      ¬(Builder.create .null {}).AcceptsAfter [.characters .uppercase (.int 1) .null] "passw0rd" := by
  have hflags : (Builder.create .null {}).flags.Accepted := ⟨_, rfl⟩
  have hrs : ∀ r ∈ (Builder.create .null {}).requirements, r.Admissible (Builder.create .null {}).flags := by
    simp [Builder.create]
  have hkind : CharacterKind.uppercase.IsCase := .inr rfl
  have hone : 1 < maxRepeat := by decide
  obtain ⟨hcall, hpreset⟩ := case_requirements hflags hrs hkind hone .null
  have haccepts : (Builder.create .null {}).AcceptsAfter [.preset (.str "password") (.str "medium")] "Passw0rd" :=
    rfl
  refine ⟨hflags, hkind, hone, haccepts, (hpreset "medium" (.inl rfl)).ensured (.inl rfl) _ haccepts, fun h => ?_⟩
  exact absurd (hcall.ensured (.inl rfl) _ h) (by decide)

/-- **Case ignored.** A text without an upper case letter is accepted where one is asked for. -/
theorem uppercase_ignored :
    Flags.Accepted 2 ∧ 1 < maxRepeat ∧
      (Builder.create (.int 2) {}).AcceptsAfter [.characters .uppercase (.int 1) .null] "a" ∧
      ¬1 ≤ "a".toList.countP CharacterKind.uppercase.has :=
  ⟨⟨_, rfl⟩, by decide, rfl, by decide⟩

end Builders

end TextCriteria
