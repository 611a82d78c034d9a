import TextCriteria.Proofs.Composition.EndToEnd
import TextCriteria.Proofs.Pattern.Caseless
import TextCriteria.Proofs.Requirement.Count
import TextCriteria.Proofs.Text.Pieces

namespace TextCriteria

open TextCriteria.Pattern TextCriteria.Text

/-!
# Shapes of the catalog

The shapes of the catalog are read to regular trees. So a builder with one of them decides whether a text is
spelled by its tree, and what is left to say about a shape is which texts these are.

* `Builder.Decides` — a builder tells the texts that have a property from those that do not.
* `IsShape` — a shape that is read to a regular tree.
* `IsShape.accepts_iff` — what a shape accepts alone.
* `IsShape.settles` — what a builder with a single shape decides, and where it fails.
* `alphanumericOr` — the classes that shapes have in common.
* `spells_separated` — parts between separators: the trees of such parts spell texts by their pieces.
-/

/-- A builder has an answer for every text: whether the text has the property. -/
def Builder.Decides (b : Builder) (P : List Char → Prop) : Prop :=
  ∀ value : String, ∃ verdict, b.isValid (.str value) = .ok verdict ∧ (verdict = true ↔ P value.toList)

theorem Builder.Decides.isValid_iff {b : Builder} {P : List Char → Prop} (h : b.Decides P) (value : String) :
    b.isValid (.str value) = .ok true ↔ P value.toList := by
  obtain ⟨verdict, hvalid, hverdict⟩ := h value
  rw [hvalid, Except.ok.injEq, hverdict]

/-- A text of ASCII is read from its bytes. -/
theorem Pattern.ReadsTo.of_isAscii {text : String} {flags : Flags} {tree : Regex} (h : isAscii text = true)
    (hread : ReadsTo flags (byteChars text) tree) : ReadsTo flags text.toList tree := by
  rwa [toList_eq_byteChars h]

/-- Nothing in a regular tree is refused where repetitions are not forbidden. -/
theorem Pattern.Regex.fault?_of_regular {r : Regex} (hr : r.regular = true) : r.fault? false = none := by
  induction r with
  | seq a b iha ihb | alt a b iha ihb =>
    obtain ⟨ha, hb⟩ := Bool.and_eq_true_iff.mp hr
    simp [fault?, iha ha, ihb hb]
  | group i a ih | «scoped» change a ih => exact ih hr
  | rounds greed least most a ih => exact ih (Bool.and_eq_true_iff.mp hr).2
  | empty | char c | any | oneOf negated members => rfl
  | _ => cases hr

/-- A shape that is read to a regular tree, alone and between its anchors. There is a repetition in it. -/
structure IsShape (text : String) (tree : Regex) : Prop where
  body (flags : Flags) : ReadsTo flags text.toList tree
  render (flags : Flags) : ReadsTo flags (Fragment.anchored text).render.toList
    (Regex.ofItems (Fragment.anchoredItems tree))
  regular : tree.regular = true
  repeats : tree.fault? true = some (.templateRepeat .greedy)

namespace IsShape

variable {text : String} {tree : Regex} {flags : Flags}

/-- What the shape accepts alone is what its tree spells. -/
theorem accepts (h : IsShape text tree) (hflags : flags.Accepted) (htemplate : flags.template = false) :
    Pattern.Compiles flags text ∧ ∃ alone, compile (Fragment.anchored text).render flags = .ok alone ∧
      ∀ value, alone.accepts value = true ↔ tree.Spells flags.inForce.modes value.toList := by
  have hfault := Regex.fault?_of_regular h.regular
  have hbody := (h.body flags).compile_eq hflags
  have hrender := (h.render flags).compile_eq hflags
  rw [htemplate, hfault] at hbody
  have hanchored : (Regex.ofItems (Fragment.anchoredItems tree)).fault? false = none :=
    Regex.fault?_ofItems.mpr (Fragment.fault?_anchoredItems.mpr hfault)
  rw [htemplate, hanchored] at hrender
  refine ⟨⟨_, hbody⟩, _, hrender, fun value => ?_⟩
  rw [Fragment.anchored_accepts hbody hrender, Compiled.fullMatch_iff, Compiled.Spans,
    ← String.length_toList, ← List.size_toArray, Regex.spans_iff h.regular]

/-- Where repetitions are forbidden, the shape is refused. -/
theorem malformed (h : IsShape text tree) (hflags : flags.Accepted) (htemplate : flags.template = true) :
    (compile (Fragment.anchored text).render flags).Malformed := by
  have hfault : (Regex.ofItems (Fragment.anchoredItems tree)).fault? true
      = some (.templateRepeat .greedy) := by
    simp [Fragment.anchoredItems, Regex.ofItems, Regex.fault?, h.repeats]
  have hrender := (h.render flags).compile_eq hflags
  rw [htemplate, hfault] at hrender
  exact ⟨_, _, hrender⟩

/-- Both at once: what the shape accepts alone, under any flags. -/
theorem accepts_iff (h : IsShape text tree) (hflags : flags.Accepted) (value : String) :
    (Fragment.anchored text).Accepts flags value ↔
      flags.template = false ∧ tree.Spells flags.inForce.modes value.toList := by
  cases htemplate : flags.template with
  | true =>
    refine iff_of_false ?_ fun h => nomatch h.1
    rintro ⟨c, hc, -⟩
    obtain ⟨cause, left, hrefused⟩ := h.malformed hflags htemplate
    cases hc.symm.trans hrefused
  | false =>
    obtain ⟨-, alone, halone, haccepts⟩ := h.accepts hflags htemplate
    rw [Fragment.accepts_iff halone, haccepts, and_iff_right rfl]

variable {b : Builder} {message : Value}

/-- **Shapes.** A builder with a single shape decides whether a text is spelled by the tree of the shape, if
    that does not spell the empty text. -/
theorem decides (h : IsShape text tree) (hb : b.requirements = [⟨.anchored text, message⟩])
    (hflags : b.flags.Accepted) (htemplate : b.flags.template = false) {P : List Char → Prop}
    (hspells : ∀ w, tree.Spells b.flags.inForce.modes w ↔ P w) (hempty : ¬P []) : b.Decides P := by
  obtain ⟨hbody, alone, hrender, haccepts⟩ := h.accepts hflags htemplate
  intro value
  rcases Builder.isValid_alone hb hbody hrender value with ⟨-, verdict, hvalid, hverdict⟩ | ⟨hrefused, -⟩
  · refine ⟨verdict, hvalid, ?_⟩
    rw [hverdict, haccepts, hspells, and_iff_left_of_imp]
    rintro hP rfl
    exact hempty hP
  · exact absurd (htemplate.symm.trans hrefused) Bool.false_ne_true

/-- Where repetitions are forbidden, such a builder fails, and the failure names the shape. -/
theorem blamed (h : IsShape text tree) (hb : b.requirements = [⟨.anchored text, message⟩])
    (hflags : b.flags.Accepted) (htemplate : b.flags.template = true) (value : Value) :
    Requirement.BlamedBy ⟨.anchored text, message⟩ (b.isValid value) := by
  have hblamed : Requirement.BlamedBy ⟨.anchored text, message⟩
      (compose ([] ++ [⟨.anchored text, message⟩]) b.flags) :=
    (blamedBy_compose (by simp)).mpr (h.malformed hflags htemplate)
  obtain ⟨e, he, hnames⟩ := hblamed
  refine ⟨e, ?_, hnames⟩
  have hbuild : b.build = .error e := by
    rw [Builder.build_of_accepted hflags, hb]
    exact he
  simp [Builder.isValid, hbuild, bind, Except.bind]

/-- **Shapes.** What a builder without requirements decides after a call that adds a shape, and where it fails
    then. -/
theorem settles (h : IsShape text tree) (hb : b.requirements = []) (hflags : b.flags.Accepted) {c : Call}
    (hadded : (b.change c).added = [⟨.anchored text, message⟩]) {P : List Char → Prop}
    (hspells : ∀ w, tree.Spells b.flags.inForce.modes w ↔ P w) (hempty : ¬P []) :
    (b.flags.template = false → (b.call c).Decides P) ∧ (b.flags.template = true →
      ∀ value, Requirement.BlamedBy ⟨.anchored text, message⟩ ((b.call c).isValid (.str value))) := by
  have hone : (b.call c).requirements = [⟨.anchored text, message⟩] := by
    rw [Builder.call, Builder.append, hb, hadded, List.nil_append]
  exact ⟨fun htemplate => h.decides hone hflags htemplate hspells hempty,
    fun htemplate _ => h.blamed hone hflags htemplate _⟩

end IsShape

/-! ### Classes -/

section Classes

variable {m : Modes}

/-- The letters and digits of ASCII, and some other characters. -/
def alphanumericOr (others : String) : List ClassMember :=
  Fragment.classMembers .letter ++ Fragment.classMembers .digit ++ Fragment.codes others

theorem admitsClass_alphanumericOr (hm : m.ignoreCase = false) (others : String) (c : Char) :
    admitsClass m false (alphanumericOr others) c.toNat
      = (isAsciiLetter c || isAsciiDigit c || others.toList.contains c) := by
  have hletter : Fragment.isMember m (Fragment.classMembers .letter) c = isAsciiLetter c :=
    congrFun (Fragment.isMember_classMembers hm .letter) c
  have hdigit : Fragment.isMember m (Fragment.classMembers .digit) c = isAsciiDigit c :=
    congrFun (Fragment.isMember_classMembers hm .digit) c
  have hothers : Fragment.isMember m (Fragment.codes others) c = others.toList.contains c :=
    Fragment.isMember_codes (fun _ _ => .inl hm) c
  simp only [Fragment.isMember, admitsClass, Bool.bne_false] at hletter hdigit hothers ⊢
  rw [alphanumericOr, List.any_append, List.any_append, hletter, hdigit, hothers]

theorem spellsOne_alphanumericOr (hm : m.ignoreCase = false) (others : String) :
    (Regex.oneOf false (alphanumericOr others)).SpellsOne m fun c =>
      isAsciiLetter c || isAsciiDigit c || others.toList.contains c :=
  Regex.spellsOne_class (admitsClass_alphanumericOr hm others)

theorem spellsOne_letter (hm : m.ignoreCase = false) :
    (Regex.oneOf false (Fragment.classMembers .letter)).SpellsOne m isAsciiLetter :=
  Regex.spellsOne_class fun c => congrFun (Fragment.isMember_classMembers hm .letter) c

/-- Some characters to which case makes no difference. -/
theorem spellsOne_codes {text : String} (h : ∀ c ∈ text.toList, m.CaseFree c.toNat) :
    (Regex.oneOf false (Fragment.codes text)).SpellsOne m text.toList.contains :=
  Regex.spellsOne_class (Fragment.isMember_codes h)

/-- Nothing at all, or a mark and a run of single characters behind it. -/
theorem spells_marked {mark : Char} (hmark : m.CaseFree mark.toNat) {a : Regex} {test : Char → Bool}
    (h : a.SpellsOne m test) {least : Nat} {s : List Char} :
    (Regex.rounds .greedy 0 (some 1)
      (.scoped {} (.ofItems [.char mark.toNat, .rounds .greedy least none a]))).Spells m s ↔
      s = [] ∨ ∃ rest, s = mark :: rest ∧ least ≤ rest.length ∧ ∀ c ∈ rest, test c = true := by
  rw [Regex.spells_optional, Regex.spells_scoped, hmark.spells_cons]
  simp only [Regex.spells_singleton, h.many]

/-! ### Parts between separators -/

variable {P : List Char → Prop} {separator : Char} {s : List Char}

/-- Words that end in a separator, and a last one that does not, are the pieces between the separators. -/
theorem words_pieces (hP : ∀ p, P p → separator ∉ p) {n : Nat} :
    (∃ u v, s = u ++ v ∧ Words (fun w => ∃ p, w = p ++ [separator] ∧ P p) n u ∧ P v) ↔
      (pieces separator s).length = n + 1 ∧ ∀ p ∈ pieces separator s, P p := by
  induction n generalizing s with
  | zero =>
    constructor
    · rintro ⟨u, v, rfl, hu, hv⟩
      rw [words_zero hu, List.nil_append, pieces_of_not_mem (hP v hv)]
      exact ⟨rfl, by simpa using hv⟩
    · rintro ⟨hlength, hall⟩
      obtain ⟨p, hp⟩ := List.length_eq_one_iff.mp hlength
      obtain ⟨rfl, -⟩ := pieces_eq_singleton_iff.mp hp
      exact ⟨[], s, rfl, words_nil, hall s (by simp [hp])⟩
  | succ n ih =>
    constructor
    · rintro ⟨u, v, rfl, hu, hv⟩
      obtain ⟨_, u, rfl, ⟨p, rfl, hp⟩, hu'⟩ := words_succ hu
      obtain ⟨hlength, hall⟩ := ih.mp ⟨u, v, rfl, hu', hv⟩
      have hpieces : pieces separator (p ++ [separator] ++ u ++ v) = p :: pieces separator (u ++ v) := by
        rw [List.append_assoc, List.append_assoc, List.singleton_append, pieces_joined,
          pieces_of_not_mem (hP p hp), List.singleton_append]
      rw [hpieces]
      exact ⟨congrArg (· + 1) hlength, List.forall_mem_cons.mpr ⟨hp, hall⟩⟩
    · rintro ⟨hlength, hall⟩
      rcases not_mem_or_split separator s with hnot | ⟨p, rest, rfl, hnot⟩
      · rw [pieces_of_not_mem hnot] at hlength
        cases hlength
      · rw [pieces_joined, pieces_of_not_mem hnot] at hlength hall
        obtain ⟨hp, hall⟩ := List.forall_mem_cons.mp hall
        obtain ⟨u, v, rfl, hu, hv⟩ := ih.mpr ⟨Nat.succ.inj hlength, hall⟩
        exact ⟨p ++ [separator] ++ u, v, by simp, hu.cons ⟨p, rfl, hp⟩, hv⟩

/-- **Separators.** Rounds of a part and a separator, and the part once more, spell the texts whose pieces are
    such parts. There is one piece more than there are rounds. -/
theorem spells_separated (hseparator : m.CaseFree separator.toNat) {part : Regex}
    (hpart : ∀ w, part.Spells m w ↔ P w) (hP : ∀ p, P p → separator ∉ p) {greed : Greed} {least : Nat}
    {most : Option Nat} :
    (Regex.ofItems [.rounds greed least most (.scoped {} (.ofItems [part, .char separator.toNat])),
      part]).Spells m s ↔
      least + 1 ≤ (pieces separator s).length ∧
      (∀ l, most = some l → (pieces separator s).length ≤ max least l + 1) ∧
      ∀ p ∈ pieces separator s, P p := by
  have hround : (Regex.scoped {} (.ofItems [part, .char separator.toNat])).Spells m
      = fun w => ∃ p, w = p ++ [separator] ∧ P p := by
    funext w
    rw [eq_iff_iff, Regex.spells_scoped, Regex.spells_cons]
    simp only [hseparator.spells_cons, Regex.spells_nil, hpart]
    grind
  rw [Regex.spells_cons]
  simp only [Regex.spells_singleton, hpart, Regex.spells_rounds_iff, hround]
  constructor
  · rintro ⟨u, v, rfl, ⟨n, hleast, hmost, hu⟩, hv⟩
    obtain ⟨hlength, hall⟩ := (words_pieces hP).mp ⟨u, v, rfl, hu, hv⟩
    rw [hlength]
    exact ⟨Nat.succ_le_succ hleast, fun l hl => Nat.succ_le_succ (hmost l hl), hall⟩
  · rintro ⟨hleast, hmost, hall⟩
    obtain ⟨n, hn⟩ := Nat.exists_eq_succ_of_ne_zero (Nat.ne_of_gt (Nat.lt_of_lt_of_le least.succ_pos hleast))
    obtain ⟨u, v, rfl, hu, hv⟩ := (words_pieces hP).mpr ⟨hn, hall⟩
    rw [hn] at hleast hmost
    have hmost' (l : Nat) (hl : most = some l) : n ≤ max least l := Nat.le_of_succ_le_succ (hmost l hl)
    exact ⟨u, v, rfl, ⟨n, Nat.le_of_succ_le_succ hleast, hmost', hu⟩, hv⟩

end Classes

end TextCriteria
