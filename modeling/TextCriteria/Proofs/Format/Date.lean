import Mathlib.Data.List.Forall2
import TextCriteria.Proofs.Builder.Growth
import TextCriteria.Proofs.Format.Numeral
import TextCriteria.Proofs.Requirement.Shape

namespace TextCriteria

open TextCriteria.Pattern TextCriteria.Text

/-!
# Dates

A date is a row of fields, each of which has so many digits and bounds of its own. The fields are read one by
one, up to the next separator, and no field has a separator in it.

* `IsRow` — fields with separators between them.
* `DateTemplate.Fits` — the dates of a template.
* `DateTemplate.tree`, `spells_date` — the trees of the templates.
* `date_templates` — a builder with the requirement decides whether a text is a date in the template, and a
  text that is no template stands for year, month and day; `date_template_refused`, the flag under which it
  fails.
-/

/-! ### Dates -/

/-- A row of fields with a single separator between each two of them. -/
def IsRow (separator : Char) (fields : List (List Char → Prop)) (s : List Char) : Prop :=
  List.Forall₂ (fun field piece => field piece) fields (pieces separator s)

def IsYear (s : List Char) : Prop := s.length = 4 ∧ ∀ c ∈ s, isAsciiDigit c = true

instance (s : List Char) : Decidable (IsYear s) :=
  decidable_of_iff (s.length = 4 ∧ s.all isAsciiDigit = true) (by simp [IsYear])

def IsMonth : List Char → Prop := IsNumeral 2 1 12

/-- A day of any month. -/
def IsDay : List Char → Prop := IsNumeral 2 1 31

def IsHour : List Char → Prop := IsNumeral 2 0 23

/-- A minute or a second. -/
def IsSixtieth : List Char → Prop := IsNumeral 2 0 59

/-- No fraction of a second, or a point and digits. -/
def IsFraction (s : List Char) : Prop :=
  s = [] ∨ ∃ digits, s = '.' :: digits ∧ digits ≠ [] ∧ ∀ c ∈ digits, isAsciiDigit c = true

/-- The zone is `Z` or an offset with a sign. -/
def IsZone (s : List Char) : Prop :=
  s = ['Z'] ∨ ∃ sign offset, s = sign :: offset ∧ (sign = '+' ∨ sign = '-') ∧
    IsRow ':' [IsHour, IsSixtieth] offset

/-- A date, a `T`, the time of day, maybe a fraction of the second, and the zone. -/
def IsTimestamp (s : List Char) : Prop :=
  ∃ date time fraction zone, s = date ++ 'T' :: (time ++ (fraction ++ zone)) ∧
    IsRow '-' [IsYear, IsMonth, IsDay] date ∧ IsRow ':' [IsHour, IsSixtieth, IsSixtieth] time ∧
    IsFraction fraction ∧ IsZone zone

/-- The dates of a template. -/
def DateTemplate.Fits : DateTemplate → List Char → Prop
  | .yearMonthDay => IsRow '-' [IsYear, IsMonth, IsDay]
  | .monthDayYear => IsRow '/' [IsMonth, IsDay, IsYear]
  | .dayMonthYear => IsRow '/' [IsDay, IsMonth, IsYear]
  | .timestamp => IsTimestamp

/-! ### The trees -/

def yearItems : List Regex := [.rounds .greedy 4 (some 4) (digitTree 0 9)]

def monthItems : List Regex :=
  [numeralTree [⟨0, 0, false⟩, ⟨1, 9, false⟩] [[⟨1, 1, false⟩, ⟨0, 2, false⟩]]]

def dayItems : List Regex :=
  [numeralTree [⟨0, 0, false⟩, ⟨1, 9, false⟩]
    [[⟨1, 2, false⟩, ⟨0, 9, false⟩], [⟨3, 3, false⟩, ⟨0, 1, false⟩]]]

def hourItems : List Regex :=
  [numeralTree [⟨0, 1, false⟩, ⟨0, 9, false⟩] [[⟨2, 2, false⟩, ⟨0, 3, false⟩]]]

def sixtiethItems : List Regex := [⟨0, 5, false⟩, ⟨0, 9, false⟩].map Slot.tree

/-- The items of some fields with a separator between each two of them. -/
def rowItems (separator : Char) (fields : List (List Regex)) : List Regex :=
  [Regex.char separator.toNat].intercalate fields

def fractionTree : Regex :=
  .rounds .greedy 0 (some 1) (.scoped {} (.ofItems [.char '.'.toNat, .rounds .greedy 1 none (digitTree 0 9)]))

def zoneTree : Regex :=
  .scoped {} (.alt (.ofItems [.char 'Z'.toNat])
    (.ofItems (.oneOf false (Fragment.codes "+-") :: rowItems ':' [hourItems, sixtiethItems])))

/-- The tree of a template. -/
def DateTemplate.tree : DateTemplate → Regex
  | .yearMonthDay => .ofItems (rowItems '-' [yearItems, monthItems, dayItems])
  | .monthDayYear => .ofItems (rowItems '/' [monthItems, dayItems, yearItems])
  | .dayMonthYear => .ofItems (rowItems '/' [dayItems, monthItems, yearItems])
  | .timestamp => .ofItems (rowItems '-' [yearItems, monthItems, dayItems] ++ .char 'T'.toNat ::
      (rowItems ':' [hourItems, sixtiethItems, sixtiethItems] ++ [fractionTree, zoneTree]))

set_option maxRecDepth 4000 in
theorem isShape_date (t : DateTemplate) : IsShape t.shape t.tree where
  body flags := by
    refine .of_isAscii (by cases t <;> decide +kernel) ?_
    unfold ReadsTo Pattern.readText
    cases t <;> cases flags.verbose <;> exact ⟨_, rfl, rfl, rfl, rfl, rfl⟩
  render flags := by
    refine .of_isAscii (by cases t <;> decide +kernel) ?_
    unfold ReadsTo Pattern.readText
    cases t <;> cases flags.verbose <;> exact ⟨_, rfl, rfl, rfl, rfl, rfl⟩
  regular := by cases t <;> rfl
  repeats := by cases t <;> rfl

/-! ### Fields -/

variable {m : Modes} {separator : Char} {s : List Char}

/-- The items spell the fields that have a property. There are only digits in such a field. -/
structure IsField (m : Modes) (items : List Regex) (P : List Char → Prop) : Prop where
  spells (s : List Char) : (Regex.ofItems items).Spells m s ↔ P s
  digits (s : List Char) : P s → ∀ c ∈ s, isAsciiDigit c = true

theorem isField_year : IsField m yearItems IsYear where
  spells s := by
    rw [yearItems, Regex.spells_singleton, spellsOne_digit.run, IsYear, ← and_assoc]
    refine and_congr_left fun _ => ?_
    simp only [Option.some.injEq, forall_eq']
    omega
  digits _ h := h.2

/-- A number of two digits, whose rows bound it. -/
theorem isField_numeral {row : List Slot} {rows : List (List Slot)} {lo hi : Nat}
    (hrows : ∀ r ∈ row :: rows, r.length = 2 ∧ ∀ slot ∈ r, slot.hi ≤ 9 ∧ slot.optional = false)
    (h : ∀ x y, x ≤ 9 → y ≤ 9 → ((∃ r ∈ row :: rows, InRow r [x, y]) ↔ lo ≤ x * 10 + y ∧ x * 10 + y ≤ hi)) :
    IsField m [numeralTree row rows] (IsNumeral 2 lo hi) where
  spells s := by rw [Regex.spells_singleton, spells_pair row rows hrows h]
  digits _ h := h.2.1

theorem isField_month : IsField m monthItems IsMonth :=
  isField_numeral (by decide) fun x y hx hy => by simp [InRow]; omega

theorem isField_day : IsField m dayItems IsDay :=
  isField_numeral (by decide) fun x y hx hy => by simp [InRow]; omega

theorem isField_hour : IsField m hourItems IsHour :=
  isField_numeral (by decide) fun x y hx hy => by simp [InRow]; omega

/-- Minutes and seconds have a single row, which is not put in a group. -/
theorem isField_sixtieth : IsField m sixtiethItems IsSixtieth where
  spells := spells_pair [⟨0, 5, false⟩, ⟨0, 9, false⟩] [] (by decide)
    fun x y hx hy => by simp [InRow]; omega
  digits _ h := h.2.1

/-! ### Rows -/

theorem isRow_singleton {P : List Char → Prop} (hP : ∀ s, P s → separator ∉ s) :
    IsRow separator [P] s ↔ P s := by
  constructor
  · intro h
    obtain ⟨piece, more, hpiece, hmore, hpieces⟩ := List.forall₂_cons_left_iff.mp h
    rw [List.forall₂_nil_left_iff.mp hmore] at hpieces
    obtain ⟨rfl, -⟩ := pieces_eq_singleton_iff.mp hpieces
    exact hpiece
  · intro h
    rw [IsRow, pieces_of_not_mem (hP s h)]
    exact .cons h .nil

theorem isRow_cons {P P' : List Char → Prop} {Ps : List (List Char → Prop)} (hP : ∀ s, P s → separator ∉ s) :
    IsRow separator (P :: P' :: Ps) s ↔
      ∃ u v, s = u ++ separator :: v ∧ P u ∧ IsRow separator (P' :: Ps) v := by
  constructor
  · intro h
    obtain ⟨piece, more, hpiece, hmore, hpieces⟩ := List.forall₂_cons_left_iff.mp h
    obtain ⟨piece', more', -, -, rfl⟩ := List.forall₂_cons_left_iff.mp hmore
    obtain ⟨rest, rfl, -, hrest⟩ := pieces_eq_cons_cons_iff.mp hpieces
    exact ⟨piece, rest, rfl, hpiece, by rwa [IsRow, hrest]⟩
  · rintro ⟨u, v, rfl, hu, hv⟩
    rw [IsRow, pieces_joined, pieces_of_not_mem (hP u hu)]
    exact .cons hu hv

/-- **Rows.** The items of some fields spell the rows of such fields. -/
theorem spells_rowItems (hfree : m.CaseFree separator.toNat) (hseparator : isAsciiDigit separator = false)
    {items : List Regex} {fields : List (List Regex)} {P : List Char → Prop} {Ps : List (List Char → Prop)}
    (h : List.Forall₂ (IsField m) (items :: fields) (P :: Ps)) (s : List Char) :
    (Regex.ofItems (rowItems separator (items :: fields))).Spells m s ↔ IsRow separator (P :: Ps) s := by
  obtain ⟨hfield, hmore⟩ := List.forall₂_cons.mp h
  have hnot {items : List Regex} {P : List Char → Prop} (h : IsField m items P) (s : List Char) (hs : P s) :
      separator ∉ s := not_mem_of_forall (h.digits s hs) hseparator
  -- The first field is followed by a separator if there are others.
  induction hmore generalizing items P s with
  | nil =>
    rw [isRow_singleton (hnot hfield), ← hfield.spells]
    simp [rowItems, List.intercalate]
  | @cons items' P' fields' Ps' hfield' hmore' ih =>
    have hitems : rowItems separator (items :: items' :: fields') =
        items ++ .char separator.toNat :: rowItems separator (items' :: fields') := by
      simp [rowItems, List.intercalate]
    rw [hitems, isRow_cons (hnot hfield), Regex.spells_append]
    simp only [hfree.spells_cons, hfield.spells, ih (.cons hfield' hmore') _ hfield']
    constructor
    · rintro ⟨u, _, rfl, hu, v, rfl, hv⟩
      exact ⟨u, v, rfl, hu, hv⟩
    · rintro ⟨u, v, rfl, hu, hv⟩
      exact ⟨u, _, rfl, hu, v, rfl, hv⟩

/-! ### What the trees spell -/

/-- The digits behind the point are not bounded. -/
theorem spells_fraction (s : List Char) : fractionTree.Spells m s ↔ IsFraction s := by
  have hpoint : m.CaseFree '.'.toNat := .inr (by decide)
  rw [fractionTree, spells_marked hpoint spellsOne_digit]
  simp only [IsFraction, Nat.succ_le_iff, List.length_pos_iff]

theorem spells_zone (hm : m.ignoreCase = false) (s : List Char) : zoneTree.Spells m s ↔ IsZone s := by
  have hz : m.CaseFree 'Z'.toNat := .inl hm
  have hsign : (Regex.oneOf false (Fragment.codes "+-")).SpellsOne m fun c => "+-".toList.contains c :=
    spellsOne_codes fun _ _ => .inl hm
  have hoffset (s : List Char) : (Regex.ofItems (rowItems ':' [hourItems, sixtiethItems])).Spells m s ↔
      IsRow ':' [IsHour, IsSixtieth] s :=
    spells_rowItems (.inl hm) rfl (.cons isField_hour (.cons isField_sixtieth .nil)) s
  rw [zoneTree, Regex.spells_scoped, Regex.spells_alt, hz.spells_cons, hsign.cons]
  simp [hoffset, IsZone]

theorem spells_yearMonthDay (hm : m.ignoreCase = false) (s : List Char) :
    (Regex.ofItems (rowItems '-' [yearItems, monthItems, dayItems])).Spells m s ↔
      IsRow '-' [IsYear, IsMonth, IsDay] s :=
  spells_rowItems (.inl hm) rfl (.cons isField_year (.cons isField_month (.cons isField_day .nil))) s

/-- The date ends at the `T`, and the time where its last field has its digits. -/
theorem spells_timestamp (hm : m.ignoreCase = false) (s : List Char) :
    DateTemplate.timestamp.tree.Spells m s ↔ IsTimestamp s := by
  have hT : m.CaseFree 'T'.toNat := .inl hm
  have htime (s : List Char) :
      (Regex.ofItems (rowItems ':' [hourItems, sixtiethItems, sixtiethItems])).Spells m s ↔
        IsRow ':' [IsHour, IsSixtieth, IsSixtieth] s :=
    spells_rowItems (.inl hm) rfl (.cons isField_hour (.cons isField_sixtieth (.cons isField_sixtieth .nil))) s
  have hend (s : List Char) : (Regex.ofItems [fractionTree, zoneTree]).Spells m s ↔
      ∃ fraction zone, s = fraction ++ zone ∧ IsFraction fraction ∧ IsZone zone := by
    rw [Regex.spells_cons]
    simp only [Regex.spells_singleton, spells_fraction, spells_zone hm]
  rw [DateTemplate.tree, Regex.spells_append]
  simp only [hT.spells_cons, Regex.spells_append, spells_yearMonthDay hm, htime, hend]
  constructor
  · rintro ⟨date, _, rfl, hdate, _, rfl, time, _, rfl, htime, fraction, zone, rfl, hend⟩
    exact ⟨date, time, fraction, zone, rfl, hdate, htime, hend⟩
  · rintro ⟨date, time, fraction, zone, rfl, hdate, htime, hend⟩
    exact ⟨date, _, rfl, hdate, _, rfl, time, _, rfl, htime, fraction, zone, rfl, hend⟩

/-- **Words.** The tree of a template spells its dates. -/
theorem spells_date (hm : m.ignoreCase = false) (t : DateTemplate) (s : List Char) :
    t.tree.Spells m s ↔ t.Fits s := by
  have hslash : m.CaseFree '/'.toNat := .inl hm
  cases t with
  | yearMonthDay => exact spells_yearMonthDay hm s
  | monthDayYear =>
    exact spells_rowItems hslash rfl (.cons isField_month (.cons isField_day (.cons isField_year .nil))) s
  | dayMonthYear =>
    exact spells_rowItems hslash rfl (.cons isField_day (.cons isField_month (.cons isField_year .nil))) s
  | timestamp => exact spells_timestamp hm s

/-- The empty text is no date. -/
theorem DateTemplate.not_fits_nil (t : DateTemplate) : ¬t.Fits [] := by
  cases t with
  | timestamp =>
    rintro ⟨date, time, fraction, zone, h, -⟩
    exact absurd h (by simp)
  | yearMonthDay | monthDayYear | dayMonthYear => exact fun h => nomatch h

/-! ### Builders -/

variable {b : Builder} {format : String}

theorem DateTemplate.ofValue?_text (format : String) :
    DateTemplate.ofValue? (.str format) = .ok (DateTemplate.withCode? (trimString format)) :=
  Value.named?_str rfl format

/-- A text always stands for some template. -/
theorem DateTemplate.resolve_text (format : String) : ∃ t, DateTemplate.resolve (.str format) = .ok t := by
  rw [resolve, ofValue?_text]
  exact ⟨_, rfl⟩

/-- The template that a text names with blanks around it. -/
theorem DateTemplate.resolve_named {t : DateTemplate} (h : trimString format = t.code) :
    DateTemplate.resolve (.str format) = .ok t := by
  rw [resolve, ofValue?_text, h]
  cases t <;> rfl

/-- A text that names no template stands for the first one. -/
theorem DateTemplate.resolve_unnamed (h : ∀ t : DateTemplate, trimString format ≠ t.code) :
    DateTemplate.resolve (.str format) = .ok .yearMonthDay := by
  have hnone : DateTemplate.withCode? (trimString format) = none :=
    List.find?_eq_none.mpr fun t _ => by simp [(h t).symm]
  rw [resolve, ofValue?_text, hnone]
  rfl

/-- **Dates.** Where case is regarded and repetitions are not forbidden, a builder with the requirement accepts
    exactly the dates of the template that the text names with blanks around it. A text that names none gives
    the same builder as the first template, the message included where none is given. Where repetitions are
    forbidden the builder fails for the requirement. -/
theorem date_templates (hb : b.requirements = []) (hflags : b.flags.Accepted)
    (hcase : b.flags.ignoreCase = false) (message : Value) (format : String) :
    (b.flags.template = false → ∀ t : DateTemplate, trimString format = t.code →
      (b.call (.date (.str format) message)).Decides t.Fits) ∧
    ((∀ t : DateTemplate, trimString format ≠ t.code) →
      b.call (.date (.str format) message) = b.call (.date (.str "YYYY-MM-DD") message)) ∧
    (b.flags.template = true → ∃ r, Requirement.date (.str format) message = .ok r ∧
      ∀ value, r.BlamedBy ((b.call (.date (.str format) message)).isValid (.str value))) := by
  have hadded {text : String} {r : Requirement} (h : Requirement.date (.str text) message = .ok r) :
      (b.change (.date (.str text) message)).added = [r] := dateChange_added h
  obtain ⟨t, ht⟩ := DateTemplate.resolve_text format
  have hdate := Requirement.date_of_resolve ht message
  have hmodes : b.flags.inForce.modes.ignoreCase = false := b.flags.inForce_ignoreCase.trans hcase
  have hsettles := (isShape_date t).settles hb hflags (hadded hdate) (spells_date hmodes _)
    (DateTemplate.not_fits_nil _)
  refine ⟨fun htemplate t' ht' => ?_, fun hother => ?_, fun htemplate => ⟨_, hdate, hsettles.2 htemplate⟩⟩
  · obtain rfl := Except.ok.inj (ht.symm.trans (DateTemplate.resolve_named ht'))
    exact hsettles.1 htemplate
  · obtain rfl := Except.ok.inj (ht.symm.trans (DateTemplate.resolve_unnamed hother))
    have hfirst : DateTemplate.resolve (.str "YYYY-MM-DD") = .ok .yearMonthDay := rfl
    rw [Builder.call, Builder.call, hadded hdate, hadded (Requirement.date_of_resolve hfirst message)]

/-- A template with blanks around it, and a text that names none. -/
theorem date_templates_rearranged :
    (Builder.create .null {}).requirements = [] ∧ (Builder.create .null {}).flags.Accepted ∧
    (Builder.create .null {}).flags.ignoreCase = false ∧ (Builder.create .null {}).flags.template = false ∧
    trimString " DD/MM/YYYY\n" = DateTemplate.dayMonthYear.code ∧
    ((Builder.create .null {}).call (.date (.str " DD/MM/YYYY\n") .null)).isValid (.str "31/02/2024")
      = .ok true ∧
    (∀ t : DateTemplate, trimString "dd/mm/yyyy" ≠ t.code) ∧
    (Builder.create .null {}).call (.date (.str "dd/mm/yyyy") .null)
      = (Builder.create .null {}).call (.date (.str "YYYY-MM-DD") .null) := by
  have hdates := date_templates (b := Builder.create .null {}) rfl ⟨_, rfl⟩ rfl .null
  have hcode : trimString " DD/MM/YYYY\n" = DateTemplate.dayMonthYear.code := by decide
  have hother : ∀ t : DateTemplate, trimString "dd/mm/yyyy" ≠ t.code := fun t => by cases t <;> decide
  refine ⟨rfl, ⟨_, rfl⟩, rfl, rfl, hcode, ?_, hother, (hdates "dd/mm/yyyy").2.1 hother⟩
  rw [((hdates _).1 rfl _ hcode).isValid_iff "31/02/2024"]
  have hpieces : pieces '/' "31/02/2024".toList = ["31".toList, "02".toList, "2024".toList] := by decide
  rw [DateTemplate.Fits, IsRow, hpieces]
  unfold IsDay IsMonth
  exact .cons (by decide) (.cons (by decide) (.cons (by decide) .nil))

/-- **Repetitions forbidden.** A date is not accepted where repetitions are forbidden. -/
theorem date_template_refused :
    Flags.Accepted 1 ∧ Flags.ignoreCase 1 = false ∧ DateTemplate.yearMonthDay.Fits "2024-01-31".toList ∧
      ((Builder.create (.int 1) {}).call (.date (.str "YYYY-MM-DD") .null)).isValid (.str "2024-01-31")
        = .error (.record (.pattern (.str (Fragment.anchored DateTemplate.yearMonthDay.shape).render)
            (.str "internal: unsupported template operator MAX_REPEAT")
            (.str "Valid date in YYYY-MM-DD format"))) := by
  refine ⟨⟨_, rfl⟩, rfl, ?_, rfl⟩
  have hpieces : pieces '-' "2024-01-31".toList = ["2024".toList, "01".toList, "31".toList] := by decide
  rw [DateTemplate.Fits, IsRow, hpieces]
  unfold IsDay IsMonth
  exact .cons (by decide) (.cons (by decide) (.cons (by decide) .nil))

end TextCriteria
