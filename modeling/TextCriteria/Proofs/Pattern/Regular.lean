import TextCriteria.Proofs.Pattern.Spelling
import TextCriteria.Proofs.Pattern.Ways

namespace TextCriteria.Pattern

/-!
# Regular trees

A regular tree does not look around, does not refer back, and settles nothing before the rest of the pattern
is tried. Going back, a match of such a tree finds every word that the tree spells. So it matches a text from
end to end exactly if it spells the text.

* `Regex.regular` — the trees that are regular.
* `Reaches` — some ways take every one of some words, wherever it stands.
* `Regex.ways_reaches` — the ways of a regular tree take the words that it spells.
* `Regex.spans_iff` — which texts a regular tree matches from end to end.
* `Regex.SpellsOne` — trees that spell single characters; `Regex.SpellsOne.run`, a run of them.
-/

/-- Trees of single characters, sequences, alternatives, groups, and repetitions that can be taken back. -/
def Regex.regular : Regex → Bool
  | .empty | .char _ | .any | .oneOf _ _ => true
  | .seq a b | .alt a b => a.regular && b.regular
  | .group _ a | .scoped _ a => a.regular
  | .rounds greed _ _ a => greed != .possessive && a.regular
  | .anchor _ | .atomic _ | .lookahead _ _ | .lookbehind _ _ _ | .backref _ | .conditional _ _ _ => false

/-! ### Words that ways take -/

section Reaching

variable {text : Array Char} {P : List Char → Prop} {ways : Place → List Place}

/-- Wherever one of the words stands, one of the ways leads to its end. -/
def Reaches (text : Array Char) (P : List Char → Prop) (ways : Place → List Place) : Prop :=
  ∀ p w, P w → w <+: text.toList.drop p.pos → ∃ q ∈ ways p, q.pos = p.pos + w.length

/-- Of two words in a row the second one stands where the first one ends. -/
theorem prefix_behind {u v : List Char} {p q : Place} (h : u ++ v <+: text.toList.drop p.pos)
    (hq : q.pos = p.pos + u.length) : v <+: text.toList.drop q.pos := by
  obtain ⟨t, ht⟩ := h
  rw [hq, ← List.drop_drop, ← ht, List.append_assoc, List.drop_left]
  exact List.prefix_append v t

theorem prefix_before {u v : List Char} {p : Place} (h : u ++ v <+: text.toList.drop p.pos) :
    u <+: text.toList.drop p.pos :=
  (List.prefix_append u v).trans h

theorem oneWays_reaches (test : Nat → Bool) :
    Reaches text (fun w => ∃ x, w = [x] ∧ test x.toNat = true) (oneWays text test) := by
  rintro p _ ⟨x, rfl, hx⟩ hstands
  have hat : text[p.pos]? = some x := by
    obtain ⟨t, ht⟩ := hstands
    rw [← Array.getElem?_toList, ← List.head?_drop, ← ht]
    rfl
  exact ⟨p.advance 1, by simp [oneWays, hat, hx], rfl⟩

/-- One way after another takes one word after another. -/
theorem Reaches.append {Q : List Char → Prop} {ways' : Place → List Place} (h : Reaches text P ways)
    (h' : Reaches text Q ways') :
    Reaches text (fun w => ∃ u v, w = u ++ v ∧ P u ∧ Q v) fun p => (ways p).flatMap ways' := by
  rintro p _ ⟨u, v, rfl, hu, hv⟩ hstands
  obtain ⟨q, hq, hpos⟩ := h p u hu (prefix_before hstands)
  obtain ⟨r, hr, hpos'⟩ := h' q v hv (prefix_behind hstands hpos)
  exact ⟨r, List.mem_flatMap.mpr ⟨q, hq, hr⟩, by rw [hpos', hpos, List.length_append, Nat.add_assoc]⟩

theorem Reaches.mono {Q : List Char → Prop} (h : Reaches text P ways) (hQP : ∀ w, Q w → P w) :
    Reaches text Q ways := fun p w hw => h p w (hQP w hw)

/-! ### Rounds -/

/-- A word of several parts begins with one of them. -/
theorem words_succ {n : Nat} {w : List Char} (h : Words P (n + 1) w) :
    ∃ u v, w = u ++ v ∧ P u ∧ Words P n v := by
  obtain ⟨parts, hlength, hparts, rfl⟩ := h
  cases parts with
  | nil => cases hlength
  | cons u rest =>
    obtain ⟨hu, hrest⟩ := List.forall_mem_cons.mp hparts
    exact ⟨u, rest.flatten, rfl, hu, rest, Nat.succ.inj hlength, hrest, rfl⟩

theorem words_zero {w : List Char} (h : Words P 0 w) : w = [] := by
  obtain ⟨parts, hlength, -, rfl⟩ := h
  rw [List.length_eq_zero_iff.mp hlength, List.flatten_nil]

/-- The parts of a word, cut behind some of them. -/
theorem words_add {m n : Nat} {w : List Char} (h : Words P (m + n) w) :
    ∃ u v, w = u ++ v ∧ Words P m u ∧ Words P n v := by
  induction m generalizing w with
  | zero => exact ⟨[], w, rfl, words_nil, by rwa [Nat.zero_add] at h⟩
  | succ m ih =>
    rw [Nat.add_right_comm] at h
    obtain ⟨u, w', rfl, hu, hw'⟩ := words_succ h
    obtain ⟨u', v, rfl, hu', hv⟩ := ih hw'
    exact ⟨u ++ u', v, (List.append_assoc u u' v).symm, hu'.cons hu, hv⟩

/-- Empty parts can be left out. -/
theorem words_nonempty {n : Nat} {w : List Char} (h : Words P n w) :
    ∃ k ≤ n, Words (fun u => u ≠ [] ∧ P u) k w := by
  obtain ⟨parts, rfl, hparts, rfl⟩ := h
  refine ⟨(parts.filter fun u => !u.isEmpty).length, List.length_filter_le _ _, _, rfl, ?_,
    List.flatten_filter_not_isEmpty.symm⟩
  intro u hu
  obtain ⟨hmem, hne⟩ := List.mem_filter.mp hu
  exact ⟨by simpa using hne, hparts u hmem⟩

theorem timesWays_reaches (h : Reaches text P ways) (n : Nat) :
    Reaches text (Words P n) (timesWays ways n) := by
  induction n with
  | zero =>
    intro p w hw _
    exact ⟨p, List.mem_singleton_self p, by rw [words_zero hw, List.length_nil, Nat.add_zero]⟩
  | succ n ih => exact (h.append ih).mono fun _ => words_succ

/-- It is always possible to stop. -/
theorem self_mem_greedyWays (fuel : Nat) (left last : Option Nat) (p : Place) :
    p ∈ greedyWays ways fuel left last p := by
  cases fuel with
  | zero => exact List.mem_singleton_self p
  | succ fuel =>
    unfold greedyWays
    split
    · exact List.mem_singleton_self p
    · exact List.mem_append_right _ (List.mem_singleton_self p)

/-- The order in which further rounds are tried makes no difference to where they may lead. -/
theorem mem_reluctantWays {fuel : Nat} {left last : Option Nat} {p q : Place} :
    q ∈ reluctantWays ways fuel left last p ↔ q ∈ greedyWays ways fuel left last p := by
  induction fuel generalizing left last p with
  | zero => rfl
  | succ fuel ih =>
    unfold reluctantWays greedyWays
    split
    · rfl
    · simp [ih, or_comm]

/-- Further rounds take the words of parts that are not empty, up to the bound. A round over such a part moves
    on, so the guard against rounds that take nothing does not stop them. -/
theorem greedyWays_reaches (h : Reaches text P ways) {n : Nat} {w : List Char}
    (hw : Words (fun u => u ≠ [] ∧ P u) n w) {fuel : Nat} {left last : Option Nat} {p : Place}
    (hleft : ∀ l, left = some l → n ≤ l) (hlast : last ≠ some p.pos) (hfuel : n ≤ fuel)
    (hstands : w <+: text.toList.drop p.pos) :
    ∃ q ∈ greedyWays ways fuel left last p, q.pos = p.pos + w.length := by
  induction n generalizing w fuel left last p with
  | zero => exact ⟨p, self_mem_greedyWays fuel left last p, by simp [words_zero hw]⟩
  | succ n ih =>
    obtain ⟨u, v, rfl, ⟨hne, hu⟩, hv⟩ := words_succ hw
    obtain ⟨fuel, rfl⟩ := Nat.exists_eq_add_of_le' (Nat.le_trans (Nat.succ_le_succ n.zero_le) hfuel)
    obtain ⟨q, hq, hpos⟩ := h p u hu (prefix_before hstands)
    have hmoved : some p.pos ≠ some q.pos := by
      have := List.length_pos_iff.mpr hne
      simp only [ne_eq, Option.some.injEq]
      omega
    have hleft' (l : Nat) (hl : left.map (· - 1) = some l) : n ≤ l := by
      obtain ⟨l', hl', rfl⟩ := Option.map_eq_some_iff.mp hl
      have := hleft l' hl'
      omega
    have hgo : ¬roundsOver left last p = true := by
      have hbound : left ≠ some 0 := fun h => absurd (hleft 0 h) (by omega)
      simp [roundsOver, hbound, hlast]
    obtain ⟨r, hr, hpos'⟩ := ih hv hleft' hmoved (Nat.le_of_succ_le_succ hfuel) (prefix_behind hstands hpos)
    refine ⟨r, ?_, by rw [hpos', hpos, List.length_append, Nat.add_assoc]⟩
    rw [greedyWays, if_neg hgo]
    exact List.mem_append_left _ (List.mem_flatMap.mpr ⟨q, hq, hr⟩)

/-- Parts that are not empty are no more than there are characters. -/
theorem words_length {n : Nat} {w : List Char} (h : Words (fun u => u ≠ [] ∧ P u) n w) : n ≤ w.length := by
  induction n generalizing w with
  | zero => exact Nat.zero_le _
  | succ n ih =>
    obtain ⟨u, v, rfl, ⟨hne, -⟩, hv⟩ := words_succ h
    have hpos := List.length_pos_iff.mpr hne
    have hle := ih hv
    rw [List.length_append]
    omega

/-- All rounds: first those that have to be, in which parts may be empty, then the further ones. -/
theorem rounds_reach (h : Reaches text P ways) {least n : Nat} {most : Option Nat} {w : List Char}
    (hleast : least ≤ n) (hmost : ∀ l, most = some l → n ≤ max least l) (hw : Words P n w) {p : Place}
    (hstands : w <+: text.toList.drop p.pos) :
    ∃ p' ∈ timesWays ways least p,
      ∃ q ∈ greedyWays ways (text.size - p'.pos + 1) (most.map (· - least)) none p',
        q.pos = p.pos + w.length := by
  obtain ⟨k, rfl⟩ := Nat.exists_eq_add_of_le hleast
  obtain ⟨u, v, rfl, hu, hv⟩ := words_add hw
  obtain ⟨k', hk', hv⟩ := words_nonempty hv
  obtain ⟨p', hp', hpos⟩ := timesWays_reaches h least p u hu (prefix_before hstands)
  have hbehind := prefix_behind hstands hpos
  have hfuel : k' ≤ text.size - p'.pos + 1 := by
    have hle := hbehind.length_le
    have hwords := words_length hv
    rw [List.length_drop, Array.length_toList] at hle
    exact Nat.le_succ_of_le (Nat.le_trans hwords hle)
  have hleft (l : Nat) (hl : most.map (· - least) = some l) : k' ≤ l := by
    obtain ⟨l', hl', rfl⟩ := Option.map_eq_some_iff.mp hl
    have := hmost l' hl'
    omega
  have hlast : none ≠ some p'.pos := by simp
  obtain ⟨q, hq, hpos'⟩ := greedyWays_reaches h hv hleft hlast hfuel hbehind
  exact ⟨p', hp', q, hq, by rw [hpos', hpos, List.length_append, Nat.add_assoc]⟩

end Reaching

/-! ### Regular trees -/

/-- **Words.** The ways of a regular tree take all words that it spells. -/
theorem Regex.ways_reaches (text : Array Char) {r : Regex} (hr : r.regular = true) (m : Modes) :
    Reaches text (r.Spells m) (r.ways text m) := by
  induction r generalizing m with
  | empty =>
    rintro p _ rfl -
    exact ⟨p, List.mem_singleton_self p, rfl⟩
  | char c => exact oneWays_reaches (agree m c)
  | any => exact oneWays_reaches fun x => m.dotAll || x != 10
  | oneOf negated members => exact oneWays_reaches (admitsClass m negated members)
  | seq a b iha ihb =>
    obtain ⟨ha, hb⟩ := Bool.and_eq_true_iff.mp hr
    exact (iha ha m).append (ihb hb m)
  | alt a b iha ihb =>
    obtain ⟨ha, hb⟩ := Bool.and_eq_true_iff.mp hr
    rintro p w (hw | hw) hstands
    · obtain ⟨q, hq, hpos⟩ := iha ha m p w hw hstands
      exact ⟨q, List.mem_append_left _ hq, hpos⟩
    · obtain ⟨q, hq, hpos⟩ := ihb hb m p w hw hstands
      exact ⟨q, List.mem_append_right _ hq, hpos⟩
  | group i a ih =>
    -- The marks of the group make no difference to the position.
    intro p w hw hstands
    obtain ⟨q, hq, hpos⟩ := ih hr m { p with marks := p.marks.enter i p.pos } w hw hstands
    exact ⟨_, List.mem_map_of_mem hq, hpos⟩
  | «scoped» change a ih => exact ih hr (m.apply change)
  | rounds greed least most a ih =>
    obtain ⟨hgreed, ha⟩ := Bool.and_eq_true_iff.mp hr
    rintro p w ⟨n, hleast, hmost, hw⟩ hstands
    obtain ⟨p', hp', q, hq, hpos⟩ := rounds_reach (ih ha m) hleast hmost hw hstands
    cases greed with
    | greedy => exact ⟨q, List.mem_flatMap.mpr ⟨p', hp', hq⟩, hpos⟩
    | reluctant => exact ⟨q, List.mem_flatMap.mpr ⟨p', hp', mem_reluctantWays.mpr hq⟩, hpos⟩
    | possessive => cases hgreed
  | _ => cases hr

/-- **Texts.** A regular tree has a way from end to end of exactly the texts that it spells. -/
theorem Regex.spans_iff {r : Regex} (hr : r.regular = true) (text : Array Char) (m : Modes) :
    (∃ q ∈ r.ways text m { pos := 0 }, q.pos = text.size) ↔ r.Spells m text.toList := by
  constructor
  · intro h
    -- The rest of the pattern that only asks for the end succeeds behind such a way.
    have hend : ∃ q ∈ r.ways text m { pos := 0 },
        (if q.pos == text.size then some q else none).isSome = true := by simpa using h
    obtain ⟨q, hq⟩ := Option.isSome_iff_exists.mp (Regex.isSome_run_iff.mpr hend)
    obtain ⟨w, p, hw, hstands, hp⟩ := Regex.run_takes _ _ _ _ _ _ hq
    have hpos : p.pos = text.size := by
      by_contra hnot
      simp [hnot] at hp
    have hdrop : text.toList.drop p.pos = [] :=
      List.drop_eq_nil_of_le (by simp [hpos])
    have hword : text.toList = w := by simpa [Stands, hdrop] using hstands
    rwa [hword]
  · intro h
    obtain ⟨q, hq, hpos⟩ := Regex.ways_reaches text hr m { pos := 0 } _ h (List.prefix_refl _)
    exact ⟨q, hq, by simpa using hpos⟩

/-! ### Items in a row and single characters -/

section Items

variable {m : Modes} {w : List Char} {r a b : Regex} {rest : List Regex} {test test' : Char → Bool}

@[simp] theorem Regex.spells_nil : (Regex.ofItems []).Spells m w ↔ w = [] := Iff.rfl

theorem Regex.spells_cons : (Regex.ofItems (r :: rest)).Spells m w ↔
    ∃ u v, w = u ++ v ∧ r.Spells m u ∧ (Regex.ofItems rest).Spells m v := Iff.rfl

/-- Some items, and the others behind them. -/
theorem Regex.spells_append {items items' : List Regex} : (Regex.ofItems (items ++ items')).Spells m w ↔
    ∃ u v, w = u ++ v ∧ (Regex.ofItems items).Spells m u ∧ (Regex.ofItems items').Spells m v := by
  induction items generalizing w with
  | nil => simp
  | cons r rest ih =>
    simp only [List.cons_append, spells_cons, ih]
    constructor
    · rintro ⟨u, _, rfl, hu, u', v, rfl, hu', hv⟩
      exact ⟨u ++ u', v, (List.append_assoc u u' v).symm, ⟨u, u', rfl, hu, hu'⟩, hv⟩
    · rintro ⟨_, v, rfl, ⟨u, u', rfl, hu, hu'⟩, hv⟩
      exact ⟨u, u' ++ v, List.append_assoc u u' v, hu, u', v, rfl, hu', hv⟩

@[simp] theorem Regex.spells_singleton : (Regex.ofItems [r]).Spells m w ↔ r.Spells m w := by
  simp [spells_cons]

@[simp] theorem Regex.spells_scoped : (Regex.scoped {} a).Spells m w ↔ a.Spells m w := Iff.rfl

@[simp] theorem Regex.spells_alt : (Regex.alt a b).Spells m w ↔ a.Spells m w ∨ b.Spells m w := Iff.rfl

theorem Regex.spells_rounds_iff {greed : Greed} {least : Nat} {most : Option Nat} :
    (Regex.rounds greed least most a).Spells m w ↔
      ∃ n, least ≤ n ∧ (∀ l, most = some l → n ≤ max least l) ∧ Words (a.Spells m) n w := Iff.rfl

/-- Alternatives in a row spell what one of them does. -/
theorem Regex.spells_ofBranches {rs : List Regex} :
    (Regex.ofBranches r rs).Spells m w ↔ ∃ a ∈ r :: rs, a.Spells m w := by
  induction rs generalizing r with
  | nil => simp [ofBranches]
  | cons s rs ih => rw [ofBranches, spells_alt, ih, List.exists_mem_cons_iff (a := r)]

/-- What may be left out, and the other items behind it. -/
theorem Regex.spells_optional_cons {greed : Greed} :
    (Regex.ofItems (.rounds greed 0 (some 1) a :: rest)).Spells m w ↔
      (Regex.ofItems rest).Spells m w ∨ (Regex.ofItems (a :: rest)).Spells m w := by
  simp only [spells_cons, spells_optional]
  constructor
  · rintro ⟨u, v, rfl, rfl | hu, hv⟩
    · exact .inl hv
    · exact .inr ⟨u, v, rfl, hu, hv⟩
  · rintro (hv | ⟨u, v, rfl, hu, hv⟩)
    · exact ⟨[], w, rfl, .inl rfl, hv⟩
    · exact ⟨u, v, rfl, .inr hu, hv⟩

/-- The tree spells the single characters that pass a test. -/
def Regex.SpellsOne (m : Modes) (a : Regex) (test : Char → Bool) : Prop :=
  ∀ w, a.Spells m w ↔ ∃ x, w = [x] ∧ test x = true

/-- A run of such characters, of a length within the bounds. -/
theorem Regex.SpellsOne.run (h : a.SpellsOne m test) {greed : Greed} {least : Nat} {most : Option Nat} :
    (Regex.rounds greed least most a).Spells m w ↔
      least ≤ w.length ∧ (∀ l, most = some l → w.length ≤ max least l) ∧ ∀ x ∈ w, test x = true := by
  have hwords (n : Nat) : Words (a.Spells m) n w ↔ w.length = n ∧ ∀ x ∈ w, test x = true := by
    rw [← words_singles, funext fun u => propext (h u)]
  simp only [spells_rounds_iff, hwords]
  constructor
  · rintro ⟨_, hleast, hmost, rfl, hall⟩
    exact ⟨hleast, hmost, hall⟩
  · rintro ⟨hleast, hmost, hall⟩
    exact ⟨_, hleast, hmost, rfl, hall⟩

/-- At least so many such characters. -/
theorem Regex.SpellsOne.many (h : a.SpellsOne m test) {greed : Greed} {least : Nat} :
    (Regex.rounds greed least none a).Spells m w ↔ least ≤ w.length ∧ ∀ x ∈ w, test x = true := by
  simp [h.run]

/-- The same with other items behind them. -/
theorem Regex.SpellsOne.many_cons (h : a.SpellsOne m test) {greed : Greed} {least : Nat} :
    (Regex.ofItems (.rounds greed least none a :: rest)).Spells m w ↔ ∃ u v, w = u ++ v ∧
      (least ≤ u.length ∧ ∀ x ∈ u, test x = true) ∧ (Regex.ofItems rest).Spells m v := by
  rw [spells_cons]
  simp only [h.many]

/-- Such a character, and the other items behind it. -/
theorem Regex.SpellsOne.cons (h : a.SpellsOne m test) : (Regex.ofItems (a :: rest)).Spells m w ↔
    ∃ x v, w = x :: v ∧ test x = true ∧ (Regex.ofItems rest).Spells m v := by
  rw [spells_cons]
  constructor
  · rintro ⟨u, v, rfl, hu, hv⟩
    obtain ⟨x, rfl, hx⟩ := (h u).mp hu
    exact ⟨x, v, rfl, hx, hv⟩
  · rintro ⟨x, v, rfl, hx, hv⟩
    exact ⟨[x], v, rfl, (h [x]).mpr ⟨x, rfl, hx⟩, hv⟩

theorem Regex.SpellsOne.congr (h : a.SpellsOne m test) (htest : ∀ x, test x = test' x) :
    a.SpellsOne m test' := by
  rwa [← funext htest]

end Items

end TextCriteria.Pattern
