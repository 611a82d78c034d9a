import TextCriteria.Proofs.Builder.Evaluation
import TextCriteria.Proofs.Composition.EndToEnd
import TextCriteria.Proofs.Requirement.Length
import TextCriteria.Proofs.Requirement.Shape

namespace TextCriteria

open TextCriteria.Pattern TextCriteria.Text

/-!
# Levels of presets

A stricter level asks for all that a laxer one asks for: each requirement of the laxer one follows from one of
the stricter one. The flags make no difference: they may enlarge the classes, but they do so for both.

* `Fragment.Entails` — what the one fragment accepts, the other one accepts.
* `Fragment.chars_entails`, `Fragment.atLeast_entails`, `Fragment.NameShape.entails` — the fragments of presets.
* `Covers` — each of some requirements follows from one of others.
* `Builder.AcceptsAfter.of_covers` — what some calls let through, others let through too.
* `levels_ordered` — the levels of the presets.
-/

/-! ### Fragments that follow from others -/

/-- A larger class admits what a smaller one admits. -/
theorem Pattern.admitsClass_mono {m : Modes} {members members' : List ClassMember} (h : members ⊆ members')
    {x : Nat} (hx : admitsClass m false members x = true) : admitsClass m false members' x = true := by
  simp only [admitsClass, Bool.bne_false, List.any_eq_true] at hx ⊢
  obtain ⟨c, hc, hadmits⟩ := hx
  exact ⟨c, h hc, hadmits⟩

namespace Fragment

/-- Every text that the one fragment accepts, the other one accepts. -/
def Entails (flags : Flags) (f g : Fragment) : Prop :=
  ∀ value, f.Accepts flags value → g.Accepts flags value

theorem Entails.refl (flags : Flags) (f : Fragment) : f.Entails flags f := fun _ h => h

variable {flags : Flags}

/-- A shorter text. -/
theorem chars_entails (hflags : flags.Accepted) {m n : Nat} (hm : m < maxRepeat) (hle : n ≤ m) :
    (Preset.chars m).fragment.Entails flags (Preset.chars n).fragment := by
  intro value
  rw [(Dots.preset hm).accepts_open hflags, (Dots.preset (Nat.lt_of_le_of_lt hle hm)).accepts_open hflags]
  exact And.imp_right (Nat.le_trans hle)

/-- Fewer characters of a larger class. -/
theorem atLeast_entails (hflags : flags.Accepted) {text text' : String} {members members' : List ClassMember}
    (h : IsClass text.toList members) (h' : IsClass text'.toList members') (hsub : members ⊆ members')
    {m n : Nat} (hm : m < maxRepeat) (hle : n ≤ m) :
    (Requirement.atLeast text m).Entails flags (Requirement.atLeast text' n) := by
  intro value
  rw [atLeast_accepts_iff hflags h hm, atLeast_accepts_iff hflags h' (Nat.lt_of_le_of_lt hle hm)]
  rintro ⟨htemplate, hcount⟩
  have hmember : ∀ c ∈ value.toList, isMember flags.inForce.modes members c = true →
      isMember flags.inForce.modes members' c = true := fun c _ => admitsClass_mono hsub
  exact ⟨htemplate, Nat.le_trans hle (Nat.le_trans hcount (List.countP_mono_left hmember))⟩

/-- Fewer characters of the same kind. -/
theorem characters_entails (hflags : flags.Accepted) (kind : CharacterKind) {m n : Nat} (hm : m < maxRepeat)
    (hle : n ≤ m) :
    (Requirement.atLeast kind.members m).Entails flags (Requirement.atLeast kind.members n) :=
  atLeast_entails hflags (isClass_members kind) (isClass_members kind) (List.Subset.refl _) hm hle

/-! ### Names of users -/

/-- The tree of a name: a letter, and so many characters of a class behind it. -/
def nameTree (rest : List ClassMember) (least most : Nat) : Regex :=
  Regex.ofItems [.oneOf false (classMembers .letter), .rounds .greedy least (some most) (.oneOf false rest)]

/-- A shape that is read to the tree of a name. -/
structure NameShape (text : String) (rest : List ClassMember) (least most : Nat) : Prop where
  body (flags : Flags) : ReadsTo flags text.toList (nameTree rest least most)
  render (flags : Flags) : ReadsTo flags (anchored text).render.toList
    (Regex.ofItems (anchoredItems (nameTree rest least most)))
  le : least ≤ most

variable {text text' : String} {rest rest' : List ClassMember} {least most least' most' : Nat}

theorem NameShape.isShape (h : NameShape text rest least most) : IsShape text (nameTree rest least most) :=
  ⟨h.body, h.render, rfl, rfl⟩

/-- A name is a letter with so many characters of the class behind it, and nothing else. -/
theorem spells_name {m : Modes} {w : List Char} : (nameTree rest least most).Spells m w ↔
    ∃ c v, w = c :: v ∧ admitsClass m false (classMembers .letter) c.toNat = true ∧
      least ≤ v.length ∧ v.length ≤ max least most ∧ ∀ d ∈ v, admitsClass m false rest d.toNat = true := by
  have hone (members : List ClassMember) : (Regex.oneOf false members).SpellsOne m fun c =>
      admitsClass m false members c.toNat := Regex.spellsOne_class fun _ => rfl
  rw [nameTree, (hone _).cons]
  simp only [Regex.spells_singleton, (hone rest).run, Option.some.injEq, forall_eq']

/-- Within wider bounds, characters of a larger class. -/
theorem NameShape.entails (hflags : flags.Accepted) (h : NameShape text rest least most)
    (h' : NameShape text' rest' least' most') (hsub : rest ⊆ rest') (hleast : least' ≤ least)
    (hmost : most ≤ most') : (anchored text).Entails flags (anchored text') := by
  intro value
  rw [h.isShape.accepts_iff hflags, h'.isShape.accepts_iff hflags, spells_name, spells_name,
    max_eq_right h.le, max_eq_right h'.le]
  -- The same letter and the same characters behind it serve both.
  rintro ⟨htemplate, c, v, hv, hletter, hlo, hhi, hrest⟩
  exact ⟨htemplate, c, v, hv, hletter, Nat.le_trans hleast hlo, Nat.le_trans hhi hmost,
    fun d hd => admitsClass_mono hsub (hrest d hd)⟩

theorem nameShape_strict : NameShape "[a-zA-Z][a-zA-Z0-9]\x7b5,29\x7d"
    [.range 97 122, .range 65 90, .range 48 57] 5 29 where
  body flags := by
    refine .of_isAscii (by decide +kernel) ?_
    unfold ReadsTo Pattern.readText
    cases flags.verbose <;> exact ⟨_, rfl, rfl, rfl, rfl, rfl⟩
  render flags := by
    refine .of_isAscii (by decide +kernel) ?_
    unfold ReadsTo Pattern.readText
    cases flags.verbose <;> exact ⟨_, rfl, rfl, rfl, rfl, rfl⟩
  le := by decide

theorem nameShape_standard : NameShape "[a-zA-Z][a-zA-Z0-9_]\x7b2,29\x7d"
    [.range 97 122, .range 65 90, .range 48 57, .code 95] 2 29 where
  body flags := by
    refine .of_isAscii (by decide +kernel) ?_
    unfold ReadsTo Pattern.readText
    cases flags.verbose <;> exact ⟨_, rfl, rfl, rfl, rfl, rfl⟩
  render flags := by
    refine .of_isAscii (by decide +kernel) ?_
    unfold ReadsTo Pattern.readText
    cases flags.verbose <;> exact ⟨_, rfl, rfl, rfl, rfl, rfl⟩
  le := by decide

end Fragment

/-! ### Requirements that follow from others -/

variable {flags : Flags} {rs rs' : List Requirement}

/-- Each of the second requirements follows from one of the first. -/
def Covers (flags : Flags) (rs rs' : List Requirement) : Prop :=
  ∀ r' ∈ rs', ∃ r ∈ rs, r.fragment.Entails flags r'.fragment

/-- The requirements that both have in front make no difference. -/
theorem Covers.append_left (h : Covers flags rs rs') (before : List Requirement) :
    Covers flags (before ++ rs) (before ++ rs') := by
  intro r' hr'
  rcases List.mem_append.mp hr' with hr' | hr'
  · exact ⟨r', List.mem_append_left rs hr', Fragment.Entails.refl flags r'.fragment⟩
  · obtain ⟨r, hr, hentails⟩ := h r' hr'
    exact ⟨r, List.mem_append_right before hr, hentails⟩

section Groups

variable (hflags : flags.Accepted)
include hflags

/-- The level in the middle asks for a shorter text and for fewer digits. -/
theorem covers_medium {high medium : List Requirement} (h : Preset.group? .password "high" = some high)
    (hmedium : Preset.group? .password "medium" = some medium) : Covers flags high medium := by
  cases h
  cases hmedium
  have hlength : (Preset.chars 10).fragment.Entails flags (Preset.chars 8).fragment :=
    Fragment.chars_entails hflags (by decide) (by decide)
  have hdigits := Fragment.characters_entails hflags .digit (by decide : 2 < maxRepeat)
    (by decide : 1 ≤ 2)
  simp only [Covers, List.forall_mem_cons]
  exact ⟨⟨_, List.mem_cons_self, hlength⟩, ⟨_, .tail _ (.head _), hdigits⟩,
    ⟨Preset.lower, by simp, .refl flags _⟩, ⟨Preset.upper, by simp, .refl flags _⟩, by simp⟩

/-- The lowest level asks for a shorter text, and for no letters. -/
theorem covers_low {medium low : List Requirement} (h : Preset.group? .password "medium" = some medium)
    (hlow : Preset.group? .password "low" = some low) : Covers flags medium low := by
  cases h
  cases hlow
  have hlength : (Preset.chars 8).fragment.Entails flags (Preset.chars 6).fragment :=
    Fragment.chars_entails hflags (by decide) (by decide)
  simp only [Covers, List.forall_mem_cons]
  exact ⟨⟨_, List.mem_cons_self, hlength⟩, ⟨Preset.digit, by simp, .refl flags _⟩, by simp⟩

theorem covers_standard {strict standard : List Requirement}
    (h : Preset.group? .username "strict" = some strict)
    (hstandard : Preset.group? .username "standard" = some standard) : Covers flags strict standard := by
  cases h
  cases hstandard
  have hnames := Fragment.nameShape_strict.entails hflags Fragment.nameShape_standard (by simp)
    (by decide) (by decide)
  simp only [Covers, List.forall_mem_cons]
  exact ⟨⟨_, List.mem_cons_self, hnames⟩, by simp⟩

/-- The special characters of the highest level are among those that are counted elsewhere. -/
theorem covers_counts {high : List Requirement} (h : Preset.group? .password "high" = some high)
    (m₁ m₂ m₃ m₄ : Value) :
    Covers flags high [.characters .special 1 m₁, .characters .digit 2 m₂, .characters .lowercase 1 m₃,
      .characters .uppercase 1 m₄] := by
  cases h
  have hmembers : Fragment.codes Preset.specialMembers ⊆ Fragment.codes CharacterKind.special.members := by
    decide
  have hspecial := Fragment.atLeast_entails hflags Fragment.isClass_specialMembers
    (Fragment.isClass_members .special) hmembers (by decide : 1 < maxRepeat) (Nat.le_refl 1)
  simp only [Covers, List.forall_mem_cons]
  exact ⟨⟨_, List.mem_of_getLast? rfl, hspecial⟩, ⟨_, .tail _ (.head _), .refl flags _⟩,
    ⟨Preset.lower, by simp, .refl flags _⟩, ⟨Preset.upper, by simp, .refl flags _⟩, by simp⟩

end Groups

/-! ### What builders accept -/

/-- After some calls a builder accepts a text. -/
def Builder.AcceptsAfter (b : Builder) (cs : List Call) (value : String) : Prop :=
  (b.calls cs).isValid (.str value) = .ok true

section Calls

variable {b : Builder} {cs cs' : List Call} {value : String}

/-- What calls accept, others accept whose requirements follow from those of the first. -/
theorem Builder.AcceptsAfter.of_covers (hflags : b.flags.Accepted)
    (hrs : ∀ r ∈ b.requirements, r.Admissible b.flags) (hcs : ∀ c ∈ cs, c.IsStandard)
    (hcs' : ∀ c ∈ cs', c.IsStandard) {group group' : List Requirement}
    (hgroup : (b.calls cs).requirements = b.requirements ++ group) (hne : group ≠ [])
    (hgroup' : (b.calls cs').requirements = b.requirements ++ group')
    (hcovers : Covers b.flags group group') (h : b.AcceptsAfter cs value) :
    b.AcceptsAfter cs' value := by
  have hiff {ds : List Call} (hds : ∀ c ∈ ds, c.IsStandard) :=
    Builder.isValid_iff (b := b.calls ds) (by rwa [Builder.calls_flags])
      (by rw [Builder.calls_flags]; exact Builder.calls_admissible hds hrs) value
  simp only [Builder.calls_flags] at hiff
  rw [Builder.AcceptsAfter, hiff hcs, hgroup] at h
  rw [Builder.AcceptsAfter, hiff hcs', hgroup']
  obtain ⟨htemplate, haccepts, hvalue⟩ := h
  -- Neither list is empty, so the empty text is refused by both.
  refine ⟨htemplate, fun r' hr' => ?_, .inl (hvalue.resolve_right (by simp [hne]))⟩
  obtain ⟨r, hr, hentails⟩ := hcovers.append_left b.requirements r' hr'
  exact hentails value (haccepts r hr)

/-- The requirement that a call for characters adds. -/
theorem added_characters (s : Settings) (kind : CharacterKind) {n : Nat} (hn : n < maxRepeat) (message : Value) :
    ((Call.characters kind (.int n) message).change s).added = [.characters kind n message] := by
  simp only [Call.change, count?_natCast, Fragment.writable?_of_lt hn, bind, Except.bind]
  exact Change.one_added _

end Calls

/-- **Levels.** Behind the same requirements, if any, a builder with the preset of a stricter level accepts only
    texts that one with the preset of a laxer level accepts too. The highest level for passwords asks for all
    that the calls for single kinds of characters ask for. -/
theorem levels_ordered {b : Builder} (hflags : b.flags.Accepted)
    (hrs : ∀ r ∈ b.requirements, r.Admissible b.flags) (value : String) (m₁ m₂ m₃ m₄ : Value) :
    (b.AcceptsAfter [.preset (.str "password") (.str "high")] value →
      b.AcceptsAfter [.preset (.str "password") (.str "medium")] value) ∧
    (b.AcceptsAfter [.preset (.str "password") (.str "medium")] value →
      b.AcceptsAfter [.preset (.str "password") (.str "low")] value) ∧
    (b.AcceptsAfter [.preset (.str "username") (.str "strict")] value →
      b.AcceptsAfter [.preset (.str "username") (.str "standard")] value) ∧
    (b.AcceptsAfter [.preset (.str "password") (.str "high")] value →
      b.AcceptsAfter [.characters .special (.int 1) m₁, .characters .digit (.int 2) m₂,
        .characters .lowercase (.int 1) m₃, .characters .uppercase (.int 1) m₄] value) := by
  have hpreset (type level : Value) : ∀ c ∈ [Call.preset type level], c.IsStandard := by
    simp [Call.IsStandard]
  have hcounts : ∀ c ∈ [Call.characters .special (.int 1) m₁, .characters .digit (.int 2) m₂,
      .characters .lowercase (.int 1) m₃, .characters .uppercase (.int 1) m₄], c.IsStandard := by
    simp [Call.IsStandard]
  refine ⟨?_, ?_, ?_, ?_⟩
  · exact .of_covers hflags hrs (hpreset _ _) (hpreset _ _) rfl (List.cons_ne_nil _ _) rfl
      (covers_medium hflags rfl rfl)
  · exact .of_covers hflags hrs (hpreset _ _) (hpreset _ _) rfl (List.cons_ne_nil _ _) rfl
      (covers_low hflags rfl rfl)
  · exact .of_covers hflags hrs (hpreset _ _) (hpreset _ _) rfl (List.cons_ne_nil _ _) rfl
      (covers_standard hflags rfl rfl)
  · have hlist : (b.calls [.characters .special (.int 1) m₁, .characters .digit (.int 2) m₂,
        .characters .lowercase (.int 1) m₃, .characters .uppercase (.int 1) m₄]).requirements
        = b.requirements ++ [.characters .special 1 m₁] ++ [.characters .digit 2 m₂]
          ++ [.characters .lowercase 1 m₃] ++ [.characters .uppercase 1 m₄] := by
      have hone (b : Builder) (kind : CharacterKind) (m : Value) :
          (b.call (.characters kind (.int 1) m)).requirements = b.requirements ++ [.characters kind 1 m] :=
        congrArg (b.requirements ++ ·) (added_characters b.settings kind (show 1 < maxRepeat by decide) m)
      have htwo : ((b.call (.characters .special (.int 1) m₁)).call (.characters .digit (.int 2) m₂)).requirements
          = (b.call (.characters .special (.int 1) m₁)).requirements ++ [.characters .digit 2 m₂] :=
        congrArg (_ ++ ·) (added_characters b.settings .digit (show 2 < maxRepeat by decide) m₂)
      simp only [Builder.calls, List.foldl_cons, List.foldl_nil]
      rw [hone, hone, htwo, hone]
    exact .of_covers hflags hrs (hpreset _ _) hcounts rfl (List.cons_ne_nil _ _)
      (hlist.trans (by simp)) (covers_counts hflags rfl m₁ m₂ m₃ m₄)

/-- A name of the stricter level. -/
theorem levels_ordered_name :
    (Builder.create .null {}).flags.Accepted ∧
      (Builder.create .null {}).AcceptsAfter [.preset (.str "username") (.str "strict")] "Anna99" ∧
      (Builder.create .null {}).AcceptsAfter [.preset (.str "username") (.str "standard")] "Anna99" := by
  have hflags : (Builder.create .null {}).flags.Accepted := ⟨_, rfl⟩
  have hstrict : (Builder.create .null {}).AcceptsAfter [.preset (.str "username") (.str "strict")] "Anna99" :=
    rfl
  have hrs : ∀ r ∈ (Builder.create .null {}).requirements, r.Admissible (Builder.create .null {}).flags := by
    simp [Builder.create]
  exact ⟨hflags, hstrict, (levels_ordered hflags hrs "Anna99" .null .null .null .null).2.2.1 hstrict⟩

end TextCriteria
