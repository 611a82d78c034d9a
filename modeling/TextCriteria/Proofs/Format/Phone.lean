import TextCriteria.Proofs.Builder.Growth
import TextCriteria.Proofs.Format.Numeral
import TextCriteria.Proofs.Pattern.Width
import TextCriteria.Proofs.Requirement.Format
import TextCriteria.Proofs.Requirement.Shape

namespace TextCriteria

open TextCriteria.Pattern TextCriteria.Text

/-!
# Phone numbers of any region

A region that is not in the catalog stands for numbers of any region. Their shape has five runs of digits with
marks between them, and every mark may be left out. A number without marks is divided among the runs, which is
possible exactly if it has at least the least and at most the most digits of all runs together.

* `IsPlainNumber` — a number without marks, apart from a sign in front.
* `DigitRuns` — items that take the texts of so many digits; `DigitRuns.run`, `DigitRuns.mark`, the two items
  that they are made of.
* `spells_international` — the plain numbers of any region.
* `short_phone` — the widths of the other shapes.
* `phone_fallback` — what a builder with an unknown region accepts, and that the plain numbers of every other
  region are among it; `phone_template_refused`, the flag under which it fails.
-/

/-! ### Numbers -/

/-- So many digits, maybe with a sign in front of them, and nothing else. -/
def IsPlainNumber (k : Nat) (s : List Char) : Prop :=
  ∃ sign digits, s = sign ++ digits ∧ (sign = [] ∨ sign = ['+']) ∧ digits.length = k ∧
    ∀ c ∈ digits, isAsciiDigit c = true

/-- A text that is a plain number is not much longer than its digits. -/
theorem IsPlainNumber.le_length {k : Nat} {s : List Char} (h : IsPlainNumber k s) : k ≤ s.length := by
  obtain ⟨sign, digits, rfl, -, rfl, -⟩ := h
  rw [List.length_append]
  omega

/-! ### Runs of digits -/

variable {m : Modes} {items : List Regex} {lo hi : Nat}

/-- Of the texts of digits alone, the items spell those with so many of them. -/
structure DigitRuns (m : Modes) (items : List Regex) (lo hi : Nat) : Prop where
  spells {w : List Char} (hw : ∀ c ∈ w, isAsciiDigit c = true) :
    (Regex.ofItems items).Spells m w ↔ lo ≤ w.length ∧ w.length ≤ hi
  bounds : lo ≤ hi

namespace DigitRuns

theorem nil : DigitRuns m [] 0 0 where
  spells {w} _ := by
    rw [Regex.spells_nil, Nat.le_zero, List.length_eq_zero_iff]
    exact (and_iff_right (Nat.zero_le _)).symm
  bounds := Nat.le_refl 0

/-- A run of digits in front: whichever number of them it tries first, it can take as many as are left over
    by the other runs. -/
theorem run (h : DigitRuns m items lo hi) {digit : Regex} (hdigit : digit.SpellsOne m isAsciiDigit)
    (greed : Greed) {least most : Nat} (hle : least ≤ most) :
    DigitRuns m (.rounds greed least (some most) digit :: items) (least + lo) (most + hi) where
  spells {w} hw := by
    rw [Regex.spells_cons]
    constructor
    · rintro ⟨u, v, rfl, hu, hv⟩
      obtain ⟨hleast, hmost, -⟩ := hdigit.run.mp hu
      have hmost' := hmost most rfl
      have hrest := (h.spells fun c hc => hw c (List.mem_append_right u hc)).mp hv
      rw [List.length_append]
      omega
    · rintro ⟨hlo, hhi⟩
      have hbounds := h.bounds
      -- What the other runs cannot take, but no less than the run has to take.
      obtain ⟨k, hk, hkw, hkleast, hkmost, hklo, hkhi⟩ : ∃ k, k = max least (w.length - hi) ∧ k ≤ w.length ∧
          least ≤ k ∧ k ≤ most ∧ lo ≤ w.length - k ∧ w.length - k ≤ hi := ⟨_, rfl, by omega⟩
      have htake : (w.take k).length = k := List.length_take_of_le hkw
      refine ⟨w.take k, w.drop k, (List.take_append_drop k w).symm, hdigit.run.mpr ⟨?_, ?_, ?_⟩, ?_⟩
      · rwa [htake]
      · rintro _ ⟨⟩
        rw [htake]
        omega
      · exact fun c hc => hw c (List.mem_of_mem_take hc)
      · rw [h.spells fun c hc => hw c (List.mem_of_mem_drop hc), List.length_drop]
        exact ⟨hklo, hkhi⟩
  bounds := Nat.add_le_add hle h.bounds

/-- A mark that may be left out takes no digit. -/
theorem mark (h : DigitRuns m items lo hi) {a : Regex} {test : Char → Bool} (ha : a.SpellsOne m test)
    (hdigit : ∀ c, isAsciiDigit c = true → test c = false) (greed : Greed) :
    DigitRuns m (.rounds greed 0 (some 1) a :: items) lo hi where
  spells {w} hw := by
    rw [Regex.spells_optional_cons, ha.cons, ← h.spells hw, or_iff_left]
    rintro ⟨x, v, rfl, hx, -⟩
    rw [hdigit x (hw x List.mem_cons_self)] at hx
    cases hx
  bounds := h.bounds

/-- A run that has to take something takes nothing else than digits. -/
theorem not_spells_cons {digit : Regex} (hdigit : digit.SpellsOne m isAsciiDigit) {greed : Greed}
    {least : Nat} {most : Option Nat} (hleast : 0 < least) {c : Char} (hc : isAsciiDigit c = false)
    {w : List Char} : ¬(Regex.ofItems (.rounds greed least most digit :: items)).Spells m (c :: w) := by
  rw [Regex.spells_cons]
  rintro ⟨u, v, huv, hu, -⟩
  obtain ⟨hlength, -, hall⟩ := hdigit.run.mp hu
  cases u with
  | nil => exact absurd hlength (Nat.not_le.mpr hleast)
  | cons x u =>
    obtain ⟨rfl, -⟩ := List.cons.inj huv
    rw [hall c List.mem_cons_self] at hc
    cases hc

end DigitRuns

/-! ### Numbers of any region -/

/-- A mark between the runs. -/
def markTree (marks : String) : Regex := .rounds .greedy 0 (some 1) (.oneOf false (Fragment.codes marks))

/-- A sign or a parenthesis. -/
def charTree (c : Char) : Regex := .rounds .greedy 0 (some 1) (.char c.toNat)

def runTree (greed : Greed) (most : Nat) : Regex := .rounds greed 1 (some most) (digitTree 0 9)

/-- The items behind the sign. The runs before the parenthesis and within it are tried from the shortest on. -/
def internationalItems : List Regex :=
  [runTree .reluctant 4, markTree "-.", charTree '(', runTree .reluctant 3, charTree ')', markTree "-.",
    runTree .greedy 4, markTree "-.", runTree .greedy 4, markTree "-.", runTree .greedy 9]

def internationalTree : Regex := .ofItems (charTree '+' :: internationalItems)

set_option maxRecDepth 4000 in
theorem isShape_international : IsShape PhoneRegion.international.shape internationalTree where
  body flags := by
    refine .of_isAscii (by decide +kernel) ?_
    unfold ReadsTo Pattern.readText
    cases flags.verbose <;> exact ⟨_, rfl, rfl, rfl, rfl, rfl⟩
  render flags := by
    refine .of_isAscii (by decide +kernel) ?_
    unfold ReadsTo Pattern.readText
    cases flags.verbose <;> exact ⟨_, rfl, rfl, rfl, rfl, rfl⟩
  regular := rfl
  repeats := rfl

/-- The marks stand below the digits, and below the letters. -/
theorem DigitRuns.markTree (h : DigitRuns m items lo hi) (marks : String)
    (hmarks : (marks.toList.all fun c => c.toNat < 48) = true) :
    DigitRuns m (markTree marks :: items) lo hi := by
  have hlow : ∀ c ∈ marks.toList, c.toNat < 48 := by simpa using hmarks
  have hfree : ∀ c ∈ marks.toList, m.CaseFree c.toNat := fun c hc =>
    .inr (Nat.lt_trans (hlow c hc) (by decide))
  refine h.mark (spellsOne_codes hfree) (fun c hc => ?_) .greedy
  rw [← Bool.not_eq_true, List.contains_iff_mem]
  intro hmem
  have hbelow := hlow c hmem
  have hdigit := (isAsciiDigit_iff c).mp hc
  omega

theorem DigitRuns.charTree (h : DigitRuns m items lo hi) (c : Char) (hc : c.toNat < 48) :
    DigitRuns m (charTree c :: items) lo hi := by
  refine h.mark (Regex.spellsOne_char (.inr (by omega))) (fun x hx => beq_false_of_ne ?_) .greedy
  rintro rfl
  have hdigit := (isAsciiDigit_iff x).mp hx
  omega

theorem DigitRuns.runTree (h : DigitRuns m items lo hi) (greed : Greed) {most : Nat} (hmost : 1 ≤ most) :
    DigitRuns m (runTree greed most :: items) (1 + lo) (most + hi) :=
  h.run spellsOne_digit greed hmost

/-- The runs together have at least five digits and at most twenty-four. -/
theorem digitRuns_international : DigitRuns m internationalItems 5 24 := by
  have hlast : DigitRuns m [TextCriteria.runTree .greedy 9] 1 9 := DigitRuns.nil.runTree .greedy (by decide)
  have hfourth := (hlast.markTree "-." rfl).runTree .greedy (show 1 ≤ 4 by decide)
  have hthird := (hfourth.markTree "-." rfl).runTree .greedy (show 1 ≤ 4 by decide)
  have hsecond := ((hthird.markTree "-." rfl).charTree ')' (by decide)).runTree
    .reluctant (show 1 ≤ 3 by decide)
  exact ((hsecond.charTree '(' (by decide)).markTree "-." rfl).runTree
    .reluctant (show 1 ≤ 4 by decide)

/-- **Plain numbers.** Of the numbers without marks the tree spells those with five to twenty-four digits. -/
theorem spells_international {k : Nat} {s : List Char} (h : IsPlainNumber k s) :
    internationalTree.Spells m s ↔ 5 ≤ k ∧ k ≤ 24 := by
  obtain ⟨sign, digits, rfl, hsign, rfl, hdigits⟩ := h
  rcases hsign with rfl | rfl
  · rw [List.nil_append, internationalTree]
    exact (digitRuns_international.charTree '+' (by decide)).spells hdigits
  · have hplus : m.CaseFree '+'.toNat := .inr (by decide)
    -- The sign cannot be left to the first run.
    have hfirst : ¬(Regex.ofItems internationalItems).Spells m ('+' :: digits) :=
      DigitRuns.not_spells_cons spellsOne_digit Nat.one_pos (by decide)
    rw [List.singleton_append, internationalTree, charTree, Regex.spells_optional_cons, hplus.spells_cons,
      or_iff_right hfirst, ← (digitRuns_international (m := m)).spells hdigits]
    simp only [List.cons.injEq, true_and, exists_eq_left']

/-! ### Numbers of single regions -/

theorem draftOf_verbose (flags : Flags) (text : String) :
    draftOf flags text = draftOf (if flags.verbose then 64 else 0) text := by
  unfold draftOf Pattern.readText
  cases flags.verbose <;> rfl

/-- The shapes of single regions have no long words, and there are repetitions in them. -/
theorem short_phone : ∀ r ∈ PhoneRegion.all, r ≠ .international → ∀ flags ∈ ([0, 64] : List Flags),
    (draftOf flags r.shape).frame.body.limited = true ∧
      ((draftOf flags r.shape).frame.body.width fun _ => .zero).most ≤ 24 ∧
      (draftOf flags r.shape).frame.body.fault? true ≠ none := by
  decide +kernel

variable {flags : Flags} {value : String}

/-- What the fragment of a single region holds for is not long, and the fragment does not compile where
    repetitions are forbidden. -/
theorem length_le_of_holds {r : PhoneRegion} (hr : r ≠ .international) (hflags : flags.Accepted)
    (hcompiles : Compiles flags (Fragment.anchored r.shape).render)
    (hholds : (Fragment.anchored r.shape).holds flags value = true) :
    flags.template = false ∧ value.toList.length ≤ 24 := by
  have hshape : r.shape ∈ shapes := by cases r <;> simp [shapes, PhoneRegion.all]
  have hall : r ∈ PhoneRegion.all := by cases r <;> decide
  have hverbose : (if flags.verbose then 64 else 0) ∈ ([0, 64] : List Flags) := by
    cases flags.verbose <;> decide
  obtain ⟨hlimited, hmost, hfault⟩ := short_phone r hall hr _ hverbose
  rw [← draftOf_verbose] at hlimited hmost hfault
  have hplain : Fragment.plain flags.verbose (Fragment.anchored r.shape).body.toList = true :=
    Fragment.plain_shapes r.shape hshape flags.verbose
  obtain ⟨ls, hthrough⟩ := Fragment.readThrough_of_plain hflags hplain hcompiles
  constructor
  · rw [← Bool.not_eq_true]
    intro htemplate
    obtain ⟨cause, left, hrefused⟩ := Fragment.malformed_of_fault hflags hthrough (htemplate ▸ hfault)
    obtain ⟨c, hcompile⟩ := hcompiles
    cases hcompile.symm.trans hrefused
  · have hspells := Fragment.spells_of_holds hthrough rfl hholds
    exact Nat.le_trans (hspells.width hlimited _).2 hmost

/-! ### Builders -/

variable {b : Builder} {region : String}

/-- A text that names no region, in upper case and without the blanks around it, stands for any region. -/
theorem PhoneRegion.resolve_unnamed (h : ∀ r : PhoneRegion, upperCase (trimString region) ≠ r.key) :
    PhoneRegion.resolve (.str region) = .ok .international := by
  have hnone : PhoneRegion.withKey? (upperCase (trimString region)) = none :=
    List.find?_eq_none.mpr fun r _ => by simp [(h r).symm]
  have hvalue : PhoneRegion.ofValue? (.str region) = .ok none :=
    (Value.named?_str rfl region).trans (congrArg Except.ok hnone)
  rw [resolve, hvalue]
  rfl

/-- The requirement of a phone number is the only one of a builder that had none before. -/
theorem requirements_phone (hb : b.requirements = []) {given note : Value} {r : Requirement}
    (hr : Requirement.phone (given.getD b.settings.phoneRegion) note = .ok r) :
    (b.call (.phone given note)).requirements = [r] := by
  have hadded : (b.change (.phone given note)).added = [r] := phoneChange_added hr
  rw [Builder.call, Builder.append, hb, hadded, List.nil_append]

/-- What a builder with the numbers of any region decides, and where it fails. -/
theorem settles_international (hb : b.requirements = []) (hflags : b.flags.Accepted) {given : Value}
    (hgiven : PhoneRegion.resolve (given.getD b.settings.phoneRegion) = .ok .international) (note : Value) :
    (b.flags.template = false →
      (b.call (.phone given note)).Decides (internationalTree.Spells b.flags.inForce.modes)) ∧
    (b.flags.template = true → ∃ r, Requirement.phone (given.getD b.settings.phoneRegion) note = .ok r ∧
      ∀ value : String, r.BlamedBy ((b.call (.phone given note)).isValid (.str value))) := by
  obtain ⟨r, hr, hfragment⟩ := Requirement.phone_of_resolve hgiven note
  have hadded : (b.change (.phone given note)).added = [⟨r.fragment, r.message⟩] := phoneChange_added hr
  have hempty : ¬internationalTree.Spells b.flags.inForce.modes [] := by
    have hzero : IsPlainNumber 0 [] := ⟨[], [], rfl, .inl rfl, rfl, by simp⟩
    rw [spells_international hzero]
    omega
  rw [hfragment] at hadded
  obtain ⟨hdecides, hblamed⟩ := isShape_international.settles hb hflags hadded (fun _ => Iff.rfl) hempty
  refine ⟨hdecides, fun htemplate => ⟨r, hr, ?_⟩⟩
  rw [← hfragment] at hblamed
  exact hblamed htemplate

/-- What a builder with a single region accepts is short, and repetitions are not forbidden there. -/
theorem length_le_of_isValid (hb : b.requirements = []) (hflags : b.flags.Accepted) {given note : Value}
    {p : PhoneRegion} (hgiven : PhoneRegion.resolve (given.getD b.settings.phoneRegion) = .ok p)
    (hp : p ≠ .international) (hvalid : (b.call (.phone given note)).isValid (.str value) = .ok true) :
    b.flags.template = false ∧ value.toList.length ≤ 24 := by
  obtain ⟨r, hr, hfragment⟩ := Requirement.phone_of_resolve hgiven note
  have hrequirements := requirements_phone hb hr
  have hadmissible : ∀ q ∈ (b.call (.phone given note)).requirements, q.Admissible b.flags := by
    intro q hq
    have hadded : (b.change (.phone given note)).added = [r] := phoneChange_added hr
    rw [hrequirements, ← hadded] at hq
    exact .inl ⟨b.settings, .phone given note, trivial, hq⟩
  obtain ⟨hcompiles, hholds⟩ := Builder.holds_of_isValid (b := b.call (.phone given note)) hflags hadmissible
    hvalid r (hrequirements ▸ List.mem_singleton_self _)
  rw [hfragment] at hcompiles hholds
  exact length_le_of_holds hp hflags hcompiles hholds

/-- **Phone numbers.** A builder with a region that is not in the catalog accepts the numbers without marks that
    have five to twenty-four digits, whatever the flags are, as long as repetitions are not forbidden. Whatever
    a builder with another value for a region accepts of the numbers without marks, and at least five digits
    long, it accepts too. Where repetitions are forbidden it fails for the requirement. -/
theorem phone_fallback (hb : b.requirements = []) (hflags : b.flags.Accepted) (message : Value)
    (hregion : ∀ r : PhoneRegion, upperCase (trimString region) ≠ r.key) :
    (b.flags.template = false → ∀ (value : String) (k : Nat), IsPlainNumber k value.toList →
      ∃ verdict, (b.call (.phone (.str region) message)).isValid (.str value) = .ok verdict ∧
        (verdict = true ↔ 5 ≤ k ∧ k ≤ 24)) ∧
    (∀ (other : Value) (p : PhoneRegion), PhoneRegion.resolve (other.getD b.settings.phoneRegion) = .ok p →
      ∀ (note : Value) (value : String) (k : Nat), IsPlainNumber k value.toList → 5 ≤ k →
        (b.call (.phone other note)).isValid (.str value) = .ok true →
        (b.call (.phone (.str region) message)).isValid (.str value) = .ok true) ∧
    (b.flags.template = true → ∃ r, Requirement.phone (.str region) message = .ok r ∧
      ∀ value : String, r.BlamedBy ((b.call (.phone (.str region) message)).isValid (.str value))) := by
  have hgiven : (Value.str region).getD b.settings.phoneRegion = .str region := rfl
  have hresolve : PhoneRegion.resolve ((Value.str region).getD b.settings.phoneRegion) = .ok .international := by
    rw [hgiven, PhoneRegion.resolve_unnamed hregion]
  obtain ⟨hdecides, hblamed⟩ := settles_international hb hflags hresolve message
  refine ⟨fun htemplate value k hplain => ?_, fun other p hp note value k hplain hk hvalid => ?_, hblamed⟩
  · obtain ⟨verdict, hvalid, hverdict⟩ := hdecides htemplate value
    exact ⟨verdict, hvalid, hverdict.trans (spells_international hplain)⟩
  · by_cases hother : p = .international
    · -- The same shape.
      obtain ⟨hsame, hfails⟩ := settles_international hb hflags (hother ▸ hp) note
      have htemplate : b.flags.template = false := by
        rw [← Bool.not_eq_true]
        intro htemplate
        obtain ⟨r, -, hrefused⟩ := hfails htemplate
        obtain ⟨e, he, -⟩ := hrefused value
        cases hvalid.symm.trans he
      exact ((hdecides htemplate).isValid_iff value).mpr (((hsame htemplate).isValid_iff value).mp hvalid)
    · -- All other shapes are too short to have more digits than the runs take together.
      obtain ⟨htemplate, hlength⟩ := length_le_of_isValid hb hflags hp hother hvalid
      refine ((hdecides htemplate).isValid_iff value).mpr ((spells_international hplain).mpr ⟨hk, ?_⟩)
      exact Nat.le_trans hplain.le_length hlength

/-- A region that is not in the catalog, and a number that another region has too. Case is ignored. -/
theorem phone_fallback_unknown :
    (Builder.create (.int 2) {}).requirements = [] ∧ (Builder.create (.int 2) {}).flags.Accepted ∧
    (∀ r : PhoneRegion, upperCase (trimString " de ") ≠ r.key) ∧
    (Builder.create (.int 2) {}).flags.template = false ∧ IsPlainNumber 10 "+0123456789".toList ∧
    ((Builder.create (.int 2) {}).call (.phone (.str "us") .null)).isValid (.str "+0123456789") = .ok true ∧
    ((Builder.create (.int 2) {}).call (.phone (.str " de ") .null)).isValid (.str "+0123456789") = .ok true ∧
    ((Builder.create (.int 2) {}).call (.phone (.str " de ") .null)).isValid (.str "1234") = .ok false := by
  have hregion : ∀ r : PhoneRegion, upperCase (trimString " de ") ≠ r.key := fun r => by cases r <;> decide
  have hten : IsPlainNumber 10 "+0123456789".toList :=
    ⟨['+'], "0123456789".toList, rfl, .inr rfl, rfl, List.all_eq_true.mp rfl⟩
  have hfour : IsPlainNumber 4 "1234".toList := ⟨[], "1234".toList, rfl, .inl rfl, rfl, List.all_eq_true.mp rfl⟩
  have hus : ((Builder.create (.int 2) {}).call (.phone (.str "us") .null)).isValid (.str "+0123456789")
      = .ok true := rfl
  obtain ⟨hplain, hothers, -⟩ := phone_fallback (b := Builder.create (.int 2) {}) rfl ⟨_, rfl⟩ .null hregion
  obtain ⟨verdict, hverdict, hiff⟩ := hplain rfl "1234" 4 hfour
  have hfalse : verdict = false := by
    rw [← Bool.not_eq_true, hiff]
    decide
  have hten' := hothers (.str "us") .us rfl .null "+0123456789" 10 hten (by decide) hus
  exact ⟨rfl, ⟨_, rfl⟩, hregion, rfl, hten, hus, hten', hfalse ▸ hverdict⟩

/-- **Repetitions forbidden.** A number of five digits is not accepted where repetitions are forbidden. -/
theorem phone_template_refused :
    Flags.Accepted 1 ∧ (∀ r : PhoneRegion, upperCase (trimString "XX") ≠ r.key) ∧
      IsPlainNumber 5 "12345".toList ∧
      ((Builder.create (.int 1) {}).call (.phone (.str "XX") .null)).isValid (.str "12345")
        = .error (.record (.pattern (.str (Fragment.anchored PhoneRegion.international.shape).render)
            (.str "internal: unsupported template operator MAX_REPEAT") (.str "Valid XX phone number"))) := by
  refine ⟨⟨_, rfl⟩, fun r => by cases r <;> decide, ?_, rfl⟩
  exact ⟨[], "12345".toList, rfl, .inl rfl, rfl, List.all_eq_true.mp rfl⟩

end TextCriteria
