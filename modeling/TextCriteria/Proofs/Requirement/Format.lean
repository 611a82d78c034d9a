import TextCriteria.Proofs.Composition.Contract
import TextCriteria.Proofs.Pattern.Spelling

namespace TextCriteria

open TextCriteria.Pattern TextCriteria.Text

/-!
# What formats let through

A format fits a text from end to end, so a text that is accepted is spelled by the pattern of the format.
The patterns name the characters that they take, and these are printable ones of ASCII; the pattern of one
region's phone numbers takes any blank.

* `Fragment.spells_of_holds` — what an anchored fragment holds for, its body spells.
* `Builder.holds_of_isValid` — what a builder accepts, each of its fragments holds for.
* `inside_shapes`, `spells_uk` — the characters of the patterns.
* `formats_printable` — the characters of accepted texts; `uk_phone_line_break`, the exception.
-/

variable {flags : Flags} {value : String}

/-! ### Anchored fragments -/

namespace Fragment

variable {f : Fragment} {ls : List Lexeme}

theorem readThrough_of_plain (hflags : flags.Accepted) (h : plain flags.verbose f.body.toList = true)
    (hcompiles : Compiles flags f.render) : ∃ ls, ReadThrough flags f.body ls := by
  obtain ⟨d, hread, houter, hmissing, -⟩ := exists_of_plain h
  rcases readThrough_or_malformed hflags hread houter hmissing with hthrough | ⟨cause, left, hrefused⟩
  · exact hthrough
  · obtain ⟨c, hcompile⟩ := hcompiles
    cases hrefused.symm.trans hcompile

/-- **Anchored fragments.** What an anchored fragment holds for, its body spells from end to end. -/
theorem spells_of_holds (h : ReadThrough flags f.body ls) (hk : f.kind = .anchored)
    (hholds : f.holds flags value = true) :
    (draftOf flags f.body).frame.body.Spells flags.inForce.modes value.toList := by
  rw [holds, tree_anchored h hk, anchoredItems_run] at hholds
  obtain ⟨q, hq⟩ := Option.isSome_iff_exists.mp hholds
  obtain ⟨w, p, hw, hstands, hend⟩ := Regex.run_takes _ _ _ _ _ _ hq
  have hpos : p.pos = value.toList.length := by
    by_contra hnot
    simp [hnot] at hend
  have hword : value.toList = w := by
    simpa [Stands, hpos] using hstands
  rwa [hword]

end Fragment

/-- What a builder accepts, each of its fragments holds for, if the requirements are admissible. -/
theorem Builder.holds_of_isValid {b : Builder} (hflags : b.flags.Accepted)
    (hrs : ∀ r ∈ b.requirements, r.Admissible b.flags) (hvalid : b.isValid (.str value) = .ok true) :
    ∀ r ∈ b.requirements, Compiles b.flags r.fragment.render ∧ r.fragment.holds b.flags value = true := by
  obtain ⟨-, haccepts, -⟩ := (Builder.isValid_iff hflags hrs value).mp hvalid
  intro r hr
  obtain ⟨c, hc, haccepts⟩ := haccepts r hr
  obtain ⟨hwhole, -⟩ := (hrs r hr).settled hflags ⟨c, hc⟩
  exact ⟨⟨c, hc⟩, (hwhole.accepts_eq hc value).symm.trans haccepts⟩

/-! ### The characters of the patterns -/

/-- A text whose tree takes nothing but printable characters of ASCII. -/
def takesPrintable (verbose : Bool) (text : List Char) : Bool :=
  match (Draft.start verbose text.length).readAll text with
  | .ok d => d.frame.body.inside 32 126
  | .error _ => false

theorem inside_shapes : ∀ text ∈ shapes, text = PhoneRegion.uk.shape ∨
    ∀ verbose, takesPrintable verbose text.toList = true := by
  have hprintable : ∀ text ∈ shapes, text = PhoneRegion.uk.shape ∨
      ∀ verbose, takesPrintable verbose (byteChars text) = true := by decide +kernel
  intro text htext
  rw [toList_eq_byteChars (Fragment.isAscii_shapes text htext)]
  exact hprintable text htext

theorem inside_of_takesPrintable {text : String} (h : takesPrintable flags.verbose text.toList = true) :
    (draftOf flags text).frame.body.inside 32 126 = true := by
  unfold takesPrintable at h
  split at h
  · rename_i d hread
    rwa [draftOf_eq hread]
  · cases h

/-- The tree of the one pattern that takes a blank: a sign, the code of the country, a blank, ten digits. -/
theorem body_uk (flags : Flags) : (draftOf flags PhoneRegion.uk.shape).frame.body = Regex.ofItems
    [.rounds .greedy 0 (some 1) (.char '+'.toNat), .char '4'.toNat, .char '4'.toNat,
      .rounds .greedy 0 (some 1) (.oneOf false [.category .blank false]),
      .rounds .greedy 10 (some 10) (.oneOf false [.range 48 57])] := by
  unfold draftOf Pattern.readText
  cases flags.verbose <;> rfl

/-- A phone number with a sign, the code of the country, a blank of any kind and ten digits. The sign and the
    blank may be left out. -/
def IsUkNumber (s : List Char) : Prop :=
  ∃ sign blank digits, s = sign ++ '4' :: '4' :: (blank ++ digits) ∧ (sign = [] ∨ sign = ['+']) ∧
    (blank = [] ∨ ∃ c, blank = [c] ∧ isBlank c = true) ∧ digits.length = 10 ∧
    ∀ c ∈ digits, isAsciiDigit c = true

theorem isBlank_of_admits {m : Modes} (hm : m.ignoreCase = false) {c : Char}
    (h : admitsClass m false [.category .blank false] c.toNat = true) : isBlank c = true := by
  have hblank : Category.blank.holds m.ascii c.toNat = true := by
    simpa [admitsClass, ClassMember.admits, fold, hm] using h
  cases hascii : m.ascii with
  | false => rwa [hascii] at hblank
  | true =>
    have hrange : c.toNat = 32 ∨ (9 ≤ c.toNat ∧ c.toNat ≤ 13) := by
      simpa [Category.holds, hascii] using hblank
    unfold isBlank blankRanges
    rcases hrange with hspace | ⟨hlo, hhi⟩
    · rw [hspace]
      rfl
    · simp [CodeRange.member, hhi, Nat.not_lt.mpr hlo]

theorem spells_uk {m : Modes} (hm : m.ignoreCase = false) {s : List Char}
    (h : (draftOf flags PhoneRegion.uk.shape).frame.body.Spells m s) : IsUkNumber s := by
  rw [body_uk] at h
  -- The word falls into the words of the items, the last of which is a run of single digits.
  obtain ⟨sign, _, rfl, hsign, _, _, rfl, hfour, _, _, rfl, hfour', blank, _, rfl, hblank, digits, _, rfl,
    ⟨n, hleast, hmost, hdigits⟩, rfl⟩ := h
  rw [Regex.spells_optional, Regex.spells_char hm] at hsign
  rw [Regex.spells_optional] at hblank
  obtain rfl := (Regex.spells_char hm).mp hfour
  obtain rfl := (Regex.spells_char hm).mp hfour'
  have hn : n = 10 := by
    have := hmost 10 rfl
    omega
  obtain ⟨hlength, hall⟩ := words_singles.mp hdigits
  refine ⟨sign, blank, digits, by simp, hsign, ?_, hlength.trans hn, fun c hc => ?_⟩
  · rcases hblank with rfl | ⟨c, rfl, hc⟩
    · exact .inl rfl
    · exact .inr ⟨c, rfl, isBlank_of_admits hm hc⟩
  · have hrange : 48 ≤ c.toNat ∧ c.toNat ≤ 57 := by
      simpa [admitsClass, ClassMember.admits, agreeing, hm] using hall c hc
    simpa [isAsciiDigit, Char.le_def, UInt32.le_iff_toNat_le] using hrange

/-- A printable character of ASCII. -/
def IsPrintable (c : Char) : Prop := 32 ≤ c.toNat ∧ c.toNat ≤ 126

instance (c : Char) : Decidable (IsPrintable c) := inferInstanceAs (Decidable (_ ∧ _))

/-- The only character of such a number that may not be printable is the blank. -/
theorem IsUkNumber.mem {s : List Char} (h : IsUkNumber s) {c : Char} (hc : c ∈ s) :
    IsPrintable c ∨ isBlank c = true := by
  obtain ⟨sign, blank, digits, rfl, hsign, hblank, -, hdigits⟩ := h
  simp only [List.mem_append, List.mem_cons] at hc
  rcases hc with hc | rfl | rfl | hc | hc
  · rcases hsign with rfl | rfl
    · cases hc
    · obtain rfl := List.mem_singleton.mp hc
      exact .inl (by decide)
  · exact .inl (by decide)
  · exact .inl (by decide)
  · rcases hblank with rfl | ⟨b, rfl, hb⟩
    · cases hc
    · obtain rfl := List.mem_singleton.mp hc
      exact .inr hb
  · have hrange : 48 ≤ c.toNat ∧ c.toNat ≤ 57 := by
      simpa [isAsciiDigit, Char.le_def, UInt32.le_iff_toNat_le] using hdigits c hc
    exact .inl ⟨by omega, by omega⟩

/-! ### Calls for formats -/

/-- The calls that ask for one of the formats: addresses, dates, phone numbers and names of users. -/
def Call.IsFormat : Call → Prop
  | .email _ | .url _ _ | .ipv4 _ | .date _ _ | .phone _ _ => True
  | .preset type _ => PresetType.ofValue? type = some .username
  | _ => False

/-- The region whose phone numbers a call asks for. -/
def Call.region? (s : Settings) : Call → Option PhoneRegion
  | .phone region _ => (PhoneRegion.resolve (region.getD s.phoneRegion)).toOption
  | _ => none

/-- A call for a format adds one of the shapes. The one that takes a blank is only added for its region. -/
theorem Call.IsFormat.added {s : Settings} {call : Call} (h : call.IsFormat) {r : Requirement}
    (hr : r ∈ (call.change s).added) :
    ∃ text ∈ shapes, r.fragment = .anchored text ∧
      (text = PhoneRegion.uk.shape → call.region? s = some .uk) := by
  cases call with
  | email message =>
    obtain rfl := Change.mem_one.mp hr
    exact ⟨Shape.email, by simp [shapes], rfl, fun h => absurd h (by decide)⟩
  | url schemeRequired message =>
    obtain rfl := Change.mem_one.mp hr
    refine ⟨Shape.url (schemeRequired.getD s.urlNeedsScheme).isTrue, ?_, rfl, ?_⟩
    · cases (schemeRequired.getD s.urlNeedsScheme).isTrue <;> simp [shapes]
    · cases (schemeRequired.getD s.urlNeedsScheme).isTrue <;> exact fun h => absurd h (by decide)
  | ipv4 message =>
    obtain rfl := Change.mem_one.mp hr
    exact ⟨Shape.ipv4, by simp [shapes], rfl, fun h => absurd h (by decide)⟩
  | date template message =>
    obtain ⟨t, -, rfl⟩ := Requirement.date_eq_ok.mp (dateChange_mem hr)
    refine ⟨t.shape, ?_, rfl, ?_⟩
    · cases t <;> simp [shapes, DateTemplate.all]
    · cases t <;> exact fun h => absurd h (by decide)
  | phone region message =>
    obtain ⟨p, name, hp, -, rfl⟩ := Requirement.phone_eq_ok.mp (phoneChange_mem hr)
    refine ⟨p.shape, ?_, rfl, fun hshape => ?_⟩
    · cases p <;> simp [shapes, PhoneRegion.all]
    · have huk : p = .uk := by
        revert hshape
        cases p <;> decide
      rw [Call.region?, hp, huk]
      rfl
  | preset type level =>
    rcases presetChange_grows s type level with
      ⟨t, l, group, htype, -, hgroup, hadded, -⟩ | ⟨f, -, hadded, -⟩
    · obtain rfl := Option.some.inj (h.symm.trans htype)
      rw [Call.change, hadded] at hr
      have hmem := Preset.mem_groups hgroup
      simp only [Preset.groups, List.mem_cons, Prod.mk.injEq, List.not_mem_nil, or_false] at hmem
      rcases hmem with ⟨-, rfl⟩ | ⟨-, rfl⟩
      · obtain rfl := List.mem_singleton.mp hr
        exact ⟨_, by simp [shapes], rfl, fun h => absurd h (by decide)⟩
      · obtain rfl := List.mem_singleton.mp hr
        exact ⟨_, by simp [shapes], rfl, fun h => absurd h (by decide)⟩
    · rw [Call.change, hadded] at hr
      cases hr
  | _ => exact h.elim

/-! ### What is let through -/

/-- **Formats.** Without regard to other requirements, a builder with a format accepts only texts whose
    characters are printable ones of ASCII, apart from the blank in the phone numbers of one region. -/
theorem formats_printable {b : Builder} (hflags : b.flags.Accepted) (hcase : b.flags.ignoreCase = false)
    (hrs : ∀ r ∈ b.requirements, r.Admissible b.flags) {s : Settings} {call : Call} (hcall : call.IsFormat)
    {r : Requirement} (hadded : r ∈ (call.change s).added) (hr : r ∈ b.requirements)
    (hvalid : b.isValid (.str value) = .ok true)
    (hblank : call.region? s = some .uk → ∀ c ∈ value.toList, isBlank c = true → c = ' ') :
    ∀ c ∈ value.toList, IsPrintable c := by
  obtain ⟨text, htext, hfragment, hregion⟩ := hcall.added hadded
  obtain ⟨hcompiles, hholds⟩ := Builder.holds_of_isValid hflags hrs hvalid r hr
  have hmodes : b.flags.inForce.modes.ignoreCase = false := b.flags.inForce_ignoreCase.trans hcase
  rw [hfragment] at hcompiles hholds
  obtain ⟨ls, hthrough⟩ := Fragment.readThrough_of_plain hflags (Fragment.plain_shapes text htext _) hcompiles
  have hspells := Fragment.spells_of_holds hthrough rfl hholds
  -- One shape takes any blank; all others name nothing but printable characters.
  rcases inside_shapes text htext with rfl | hprintable
  · intro c hc
    rcases (spells_uk hmodes hspells).mem hc with hprintable | hisBlank
    · exact hprintable
    · rw [hblank (hregion rfl) c hc hisBlank]
      decide
  · exact hspells.inside hmodes (inside_of_takesPrintable (hprintable _))

theorem formats_printable_uk :
    ((Builder.create .null {}).call (.phone (.str "UK") .null)).isValid (.str "+44 7911123456") = .ok true ∧
      ∀ c ∈ "+44 7911123456".toList, IsPrintable c := by
  have hadmissible : ∀ r ∈ ((Builder.create .null {}).call (.phone (.str "UK") .null)).requirements,
      r.Admissible 0 := fun r hr => .inl ⟨{}, .phone (.str "UK") .null, trivial, hr⟩
  have hformat : (Call.phone (.str "UK") .null).IsFormat := trivial
  have hvalid : ((Builder.create .null {}).call (.phone (.str "UK") .null)).isValid (.str "+44 7911123456")
      = .ok true := rfl
  have hall : ("+44 7911123456".toList.all fun c => !isBlank c || c == ' ') = true := rfl
  have hblank : ∀ c ∈ "+44 7911123456".toList, isBlank c = true → c = ' ' := by
    intro c hc hisBlank
    simpa [hisBlank] using List.all_eq_true.mp hall c hc
  exact ⟨hvalid, formats_printable (s := {}) ⟨_, rfl⟩ rfl hadmissible hformat List.mem_cons_self
    List.mem_cons_self hvalid fun _ => hblank⟩

/-- **A line break.** The blank in a phone number may be one that breaks the line. -/
theorem uk_phone_line_break :
    ((Builder.create .null {}).call (.phone (.str "UK") .null)).isValid (.str "44\n7911123456") = .ok true ∧
      '\n' ∈ "44\n7911123456".toList ∧ ¬IsPrintable '\n' :=
  ⟨rfl, by decide, by decide⟩

end TextCriteria
