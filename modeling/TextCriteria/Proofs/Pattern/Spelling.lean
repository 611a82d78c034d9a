import Mathlib.Data.List.Basic
import TextCriteria.Pattern.Matching

namespace TextCriteria.Pattern

/-!
# What patterns spell

A tree spells words, and a match of it takes one of them from the text. What is spelled says nothing about
which word is tried first, and nothing about what stands around it.

* `Words`, `UpTo` — words that consist of so many parts, or of a number of parts up to a bound.
* `Regex.Spells` — the words that a tree spells.
* `Stands` — the word between two places of a text; `Takes`, that a part of a match takes one of some words.
* `Regex.run_takes` — a match of a tree takes a word that it spells.
* `Regex.inside` — trees whose words have nothing but code points between two bounds.
-/

/-! ### Words of parts -/

variable {P : List Char → Prop}

/-- A word that consists of `n` parts. -/
def Words (P : List Char → Prop) (n : Nat) (w : List Char) : Prop :=
  ∃ parts : List (List Char), parts.length = n ∧ (∀ u ∈ parts, P u) ∧ w = parts.flatten

/-- A word that consists of parts, and of no more of them than a bound says if there is one. -/
def UpTo (P : List Char → Prop) (bound : Option Nat) (w : List Char) : Prop :=
  ∃ n, (∀ l, bound = some l → n ≤ l) ∧ Words P n w

theorem words_nil : Words P 0 [] := ⟨[], rfl, by simp, rfl⟩

theorem Words.cons {n : Nat} {u w : List Char} (hu : P u) (h : Words P n w) : Words P (n + 1) (u ++ w) := by
  obtain ⟨parts, rfl, hparts, rfl⟩ := h
  exact ⟨u :: parts, rfl, List.forall_mem_cons.mpr ⟨hu, hparts⟩, rfl⟩

theorem Words.append {m n : Nat} {v w : List Char} (h : Words P m v) (h' : Words P n w) :
    Words P (m + n) (v ++ w) := by
  obtain ⟨parts, rfl, hparts, rfl⟩ := h
  obtain ⟨parts', rfl, hparts', rfl⟩ := h'
  refine ⟨parts ++ parts', List.length_append, fun u hu => ?_, List.flatten_append.symm⟩
  exact (List.mem_append.mp hu).elim (hparts u) (hparts' u)

/-- A character of a word of parts is a character of a part. -/
theorem Words.mem {n : Nat} {w : List Char} (h : Words P n w) {c : Char} (hc : c ∈ w) :
    ∃ u, P u ∧ c ∈ u := by
  obtain ⟨parts, -, hparts, rfl⟩ := h
  obtain ⟨u, hu, hcu⟩ := List.mem_flatten.mp hc
  exact ⟨u, hparts u hu, hcu⟩

theorem upTo_nil (bound : Option Nat) : UpTo P bound [] := ⟨0, fun _ _ => Nat.zero_le _, words_nil⟩

/-- One more part in front, where the bound allows it. -/
theorem UpTo.cons {bound : Option Nat} (hbound : bound ≠ some 0) {u w : List Char} (hu : P u)
    (h : UpTo P (bound.map (· - 1)) w) : UpTo P bound (u ++ w) := by
  obtain ⟨n, hn, hw⟩ := h
  refine ⟨n + 1, fun l hl => ?_, hw.cons hu⟩
  have hle : n ≤ l - 1 := hn (l - 1) (by simp [hl])
  have hne : l ≠ 0 := fun h => hbound (hl.trans (congrArg some h))
  omega

/-! ### Words of trees -/

/-- The words that a tree spells. What is looked at is no part of them, and a group that is referred to may
    have taken any word. -/
def Regex.Spells : Regex → Modes → List Char → Prop
  | .empty, _, w | .anchor _, _, w | .lookahead _ _, _, w | .lookbehind _ _ _, _, w => w = []
  | .char c, m, w => ∃ x, w = [x] ∧ agree m c x.toNat = true
  | .any, m, w => ∃ x, w = [x] ∧ (m.dotAll || x.toNat != 10) = true
  | .oneOf negated members, m, w => ∃ x, w = [x] ∧ admitsClass m negated members x.toNat = true
  | .seq a b, m, w => ∃ u v, w = u ++ v ∧ a.Spells m u ∧ b.Spells m v
  | .alt a b, m, w | .conditional _ a b, m, w => a.Spells m w ∨ b.Spells m w
  | .group _ a, m, w | .atomic a, m, w => a.Spells m w
  | .scoped change a, m, w => a.Spells (m.apply change) w
  | .backref _, _, _ => True
  | .rounds _ least most a, m, w =>
    ∃ n, least ≤ n ∧ (∀ l, most = some l → n ≤ max least l) ∧ Words (a.Spells m) n w

/-- A word whose parts are single characters. -/
theorem words_singles {Q : Char → Prop} {n : Nat} {w : List Char} :
    Words (fun u => ∃ x, u = [x] ∧ Q x) n w ↔ w.length = n ∧ ∀ x ∈ w, Q x := by
  constructor
  · rintro ⟨parts, rfl, hparts, rfl⟩
    induction parts with
    | nil => simp
    | cons u rest ih =>
      obtain ⟨⟨x, rfl, hx⟩, hrest⟩ := List.forall_mem_cons.mp hparts
      obtain ⟨hlength, hall⟩ := ih hrest
      exact ⟨by simp [hlength], List.forall_mem_cons.mpr ⟨hx, hall⟩⟩
  · rintro ⟨rfl, hall⟩
    induction w with
    | nil => exact words_nil
    | cons x rest ih =>
      obtain ⟨hx, hrest⟩ := List.forall_mem_cons.mp hall
      exact Words.cons (u := [x]) ⟨x, rfl, hx⟩ (ih hrest)

/-- What may be left out. -/
theorem Regex.spells_optional {greed : Greed} {a : Regex} {m : Modes} {w : List Char} :
    (Regex.rounds greed 0 (some 1) a).Spells m w ↔ w = [] ∨ a.Spells m w := by
  constructor
  · rintro ⟨n, -, hn, parts, rfl, hparts, rfl⟩
    have hle : parts.length ≤ 1 := by simpa using hn 1 rfl
    match parts, hle with
    | [], _ => exact .inl rfl
    | [u], _ => exact .inr (by simpa using hparts u)
  · rintro (rfl | hw)
    · exact ⟨0, Nat.zero_le _, by simp, words_nil⟩
    · refine ⟨1, Nat.zero_le _, by simp, ?_⟩
      simpa using Words.cons hw words_nil

/-! ### Places -/

variable {text : Array Char}

/-- The word between two places of a text. -/
def Stands (text : Array Char) (p : Place) (w : List Char) (q : Place) : Prop :=
  text.toList.drop p.pos = w ++ text.toList.drop q.pos

theorem stands_nil {p q : Place} (h : q.pos = p.pos) : Stands text p [] q := by
  rw [Stands, h, List.nil_append]

theorem Stands.append {p q r : Place} {v w : List Char} (h : Stands text p v q) (h' : Stands text q w r) :
    Stands text p (v ++ w) r := by
  rw [Stands, List.append_assoc, ← h', ← h]

theorem stands_advance (p : Place) (n : Nat) :
    Stands text p ((text.toList.drop p.pos).take n) (p.advance n) := by
  rw [Stands, Place.advance, ← List.drop_drop, List.take_append_drop]

/-- A part of a match takes a word with the property `P` and goes on from the place behind it. -/
def Takes (text : Array Char) (P : List Char → Prop) (part : Rest → Rest) : Prop :=
  ∀ k p q, part k p = some q → ∃ w p', P w ∧ Stands text p w p' ∧ k p' = some q

theorem Takes.mono {Q : List Char → Prop} {part : Rest → Rest} (h : Takes text P part)
    (hPQ : ∀ w, P w → Q w) : Takes text Q part := by
  intro k p q hq
  obtain ⟨w, p', hw, hstands, hk⟩ := h k p q hq
  exact ⟨w, p', hPQ w hw, hstands, hk⟩

theorem one_takes (test : Nat → Bool) :
    Takes text (fun w => ∃ x, w = [x] ∧ test x.toNat = true) (one text test) := by
  intro k p q h
  unfold one at h
  split at h
  · next x hx =>
    split at h
    · next htest =>
      have hword : (text.toList.drop p.pos).take 1 = [x] := by
        rw [List.take_one, List.head?_drop, Array.getElem?_toList, hx]
        rfl
      exact ⟨[x], p.advance 1, ⟨x, rfl, htest⟩, hword ▸ stands_advance p 1, h⟩
    · cases h
  · cases h

/-! ### Rounds -/

section Rounds

variable {round : Rest → Rest}

theorem times_takes (hround : Takes text P round) (n : Nat) : Takes text (Words P n) (times round n) := by
  induction n with
  | zero => exact fun k p q h => ⟨[], p, words_nil, stands_nil rfl, h⟩
  | succ n ih =>
    intro k p q h
    obtain ⟨u, p', hu, hstands, h'⟩ := hround _ _ _ h
    obtain ⟨w, p'', hw, hstands', hk⟩ := ih _ _ _ h'
    exact ⟨u ++ w, p'', hw.cons hu, hstands.append hstands', hk⟩

/-- As long as rounds go on, the bound is not reached. -/
theorem ne_of_not_over {left last : Option Nat} {p : Place} (h : ¬roundsOver left last p = true) :
    left ≠ some 0 := by
  rintro rfl
  exact h rfl

theorem greedyRounds_takes (hround : Takes text P round) (fuel : Nat) (left last : Option Nat) :
    Takes text (UpTo P left) fun k => greedyRounds round k fuel left last := by
  intro k p q h
  replace h : greedyRounds round k fuel left last p = some q := h
  induction fuel generalizing left last p with
  | zero => exact ⟨[], p, upTo_nil left, stands_nil rfl, h⟩
  | succ fuel ih =>
    unfold greedyRounds at h
    split at h
    · exact ⟨[], p, upTo_nil left, stands_nil rfl, h⟩
    · next hover =>
      split at h
      · next q' hq =>
        obtain ⟨u, p', hu, hstands, h'⟩ := hround _ _ _ hq
        obtain rfl := Option.some.inj h
        obtain ⟨w, p'', hw, hstands', hk⟩ := ih _ _ _ h'
        exact ⟨u ++ w, p'', hw.cons (ne_of_not_over hover) hu, hstands.append hstands', hk⟩
      · exact ⟨[], p, upTo_nil left, stands_nil rfl, h⟩

theorem reluctantRounds_takes (hround : Takes text P round) (fuel : Nat) (left last : Option Nat) :
    Takes text (UpTo P left) fun k => reluctantRounds round k fuel left last := by
  intro k p q h
  replace h : reluctantRounds round k fuel left last p = some q := h
  induction fuel generalizing left last p with
  | zero => exact ⟨[], p, upTo_nil left, stands_nil rfl, h⟩
  | succ fuel ih =>
    unfold reluctantRounds at h
    split at h
    · next q' hq =>
      obtain rfl := Option.some.inj h
      exact ⟨[], p, upTo_nil left, stands_nil rfl, hq⟩
    · split at h
      · cases h
      · next hover =>
        obtain ⟨u, p', hu, hstands, h'⟩ := hround _ _ _ h
        obtain ⟨w, p'', hw, hstands', hk⟩ := ih _ _ _ h'
        exact ⟨u ++ w, p'', hw.cons (ne_of_not_over hover) hu, hstands.append hstands', hk⟩

theorem timesSettled_takes (hround : Takes text P round) {n : Nat} {p q : Place}
    (h : timesSettled round n p = some q) : ∃ w, Words P n w ∧ Stands text p w q := by
  induction n generalizing p with
  | zero =>
    obtain rfl := Option.some.inj h
    exact ⟨[], words_nil, stands_nil rfl⟩
  | succ n ih =>
    unfold timesSettled at h
    split at h
    · next p' hp =>
      obtain ⟨u, _, hu, hstands, hsome⟩ := hround _ _ _ hp
      obtain rfl := Option.some.inj hsome
      obtain ⟨w, hw, hstands'⟩ := ih h
      exact ⟨u ++ w, hw.cons hu, hstands.append hstands'⟩
    · cases h

theorem possessiveRounds_takes (hround : Takes text P round) (fuel : Nat) (left last : Option Nat)
    (p : Place) : ∃ w, UpTo P left w ∧ Stands text p w (possessiveRounds round fuel left last p) := by
  induction fuel generalizing left last p with
  | zero => exact ⟨[], upTo_nil left, stands_nil rfl⟩
  | succ fuel ih =>
    unfold possessiveRounds
    split
    · exact ⟨[], upTo_nil left, stands_nil rfl⟩
    · next hover =>
      split
      · next p' hp =>
        obtain ⟨u, _, hu, hstands, hsome⟩ := hround _ _ _ hp
        obtain rfl := Option.some.inj hsome
        obtain ⟨w, hw, hstands'⟩ := ih (left.map (· - 1)) (some p.pos) _
        exact ⟨u ++ w, hw.cons (ne_of_not_over hover) hu, hstands.append hstands'⟩
      · exact ⟨[], upTo_nil left, stands_nil rfl⟩

end Rounds

/-- The rounds that have to be and the others make a number of rounds within the bounds. -/
theorem Regex.spells_rounds {greed : Greed} {least : Nat} {most : Option Nat} {a : Regex} {m : Modes}
    {v w : List Char} (hv : Words (a.Spells m) least v) (hw : UpTo (a.Spells m) (most.map (· - least)) w) :
    (Regex.rounds greed least most a).Spells m (v ++ w) := by
  obtain ⟨n, hn, hw⟩ := hw
  refine ⟨least + n, Nat.le_add_right least n, fun l hl => ?_, hv.append hw⟩
  have hle : n ≤ l - least := hn (l - least) (by simp [hl])
  omega

/-! ### Matches -/

/-- **Matches.** A match of a tree takes a word that the tree spells. -/
theorem Regex.run_takes (text : Array Char) (r : Regex) (m : Modes) :
    Takes text (r.Spells m) (r.run text m) := by
  induction r generalizing m with
  | empty => exact fun k p q h => ⟨[], p, rfl, stands_nil rfl, h⟩
  | char c => exact one_takes (agree m c)
  | any => exact one_takes fun x => m.dotAll || x != 10
  | oneOf negated members => exact one_takes (admitsClass m negated members)
  | anchor a =>
    intro k p q h
    unfold run at h
    split at h
    · exact ⟨[], p, rfl, stands_nil rfl, h⟩
    · cases h
  | seq a b iha ihb =>
    intro k p q h
    obtain ⟨u, p', hu, hstands, h'⟩ := iha m _ _ _ h
    obtain ⟨v, p'', hv, hstands', hk⟩ := ihb m _ _ _ h'
    exact ⟨u ++ v, p'', ⟨u, v, rfl, hu, hv⟩, hstands.append hstands', hk⟩
  | alt a b iha ihb =>
    intro k p q h
    unfold run at h
    split at h
    · next q' hq =>
      obtain rfl := Option.some.inj h
      exact (iha m).mono (fun _ => .inl) _ _ _ hq
    · exact (ihb m).mono (fun _ => .inr) _ _ _ h
  | group i a ih =>
    intro k p q h
    -- The marks of the group make no difference to the word.
    obtain ⟨w, p', hw, hstands, hk⟩ := ih m _ _ _ h
    exact ⟨w, { p' with marks := p'.marks.leave i p'.pos }, hw, hstands, hk⟩
  | «scoped» change a ih => exact ih (m.apply change)
  | atomic a ih =>
    intro k p q h
    unfold run at h
    split at h
    · next q' hq =>
      obtain ⟨w, p', hw, hstands, hsome⟩ := ih m _ _ _ hq
      obtain rfl := Option.some.inj hsome
      exact ⟨w, p', hw, hstands, h⟩
    · cases h
  | lookahead negative a ih =>
    intro k p q h
    -- What is looked at is not taken: the match goes on where it was.
    cases negative <;> unfold run at h <;> split at h
    · next q' _ => exact ⟨[], { q' with pos := p.pos }, rfl, stands_nil rfl, h⟩
    · cases h
    · cases h
    · exact ⟨[], p, rfl, stands_nil rfl, h⟩
  | lookbehind negative width a ih =>
    intro k p q h
    cases negative <;> unfold run at h <;> split at h
    · cases h
    · split at h
      · next q' _ => exact ⟨[], { q' with pos := p.pos }, rfl, stands_nil rfl, h⟩
      · cases h
    · exact ⟨[], p, rfl, stands_nil rfl, h⟩
    · split at h
      · cases h
      · exact ⟨[], p, rfl, stands_nil rfl, h⟩
  | backref i =>
    intro k p q h
    unfold run at h
    split at h
    · -- The word is whatever the group took, as long as it stands here again.
      split at h
      · exact ⟨_, _, trivial, stands_advance p _, h⟩
      · cases h
    · cases h
  | conditional i a b iha ihb =>
    intro k p q h
    unfold run at h
    split at h
    · exact (iha m).mono (fun _ => .inl) _ _ _ h
    · exact (ihb m).mono (fun _ => .inr) _ _ _ h
  | rounds greed least most a ih =>
    intro k p q h
    cases greed with
    | greedy =>
      -- First the rounds that have to be, then as many more as the bound allows.
      obtain ⟨v, p', hv, hstands, h'⟩ := times_takes (ih m) least _ _ _ h
      obtain ⟨w, p'', hw, hstands', hk⟩ := greedyRounds_takes (ih m) _ _ _ _ _ _ h'
      exact ⟨v ++ w, p'', spells_rounds hv hw, hstands.append hstands', hk⟩
    | reluctant =>
      obtain ⟨v, p', hv, hstands, h'⟩ := times_takes (ih m) least _ _ _ h
      obtain ⟨w, p'', hw, hstands', hk⟩ := reluctantRounds_takes (ih m) _ _ _ _ _ _ h'
      exact ⟨v ++ w, p'', spells_rounds hv hw, hstands.append hstands', hk⟩
    | possessive =>
      unfold run at h
      simp only at h
      split at h
      · next p' hp =>
        obtain ⟨v, hv, hstands⟩ := timesSettled_takes (ih m) hp
        obtain ⟨w, hw, hstands'⟩ := possessiveRounds_takes (ih m) _ _ none p'
        exact ⟨v ++ w, _, spells_rounds hv hw, hstands.append hstands', h⟩
      · cases h

/-! ### Code points between two bounds -/

variable {lo hi : Nat} {m : Modes}

/-- Without regard to case, a member admits no code point outside of the bounds. -/
def ClassMember.inside (lo hi : Nat) : ClassMember → Bool
  | .code c => lo ≤ c && c ≤ hi
  | .range a b => lo ≤ a && b ≤ hi
  | .category _ _ => false

/-- All that a tree takes are code points between two bounds, as long as case is not ignored. -/
def Regex.inside (lo hi : Nat) : Regex → Bool
  | .empty | .anchor _ | .lookahead _ _ | .lookbehind _ _ _ => true
  | .char c => lo ≤ c && c ≤ hi
  | .any | .backref _ => false
  | .oneOf negated members => !negated && members.all (ClassMember.inside lo hi)
  | .seq a b | .alt a b | .conditional _ a b => a.inside lo hi && b.inside lo hi
  | .group _ a | .atomic a | .rounds _ _ _ a => a.inside lo hi
  | .scoped change a => change.ignoreCase != some true && a.inside lo hi

theorem agree_iff (hm : m.ignoreCase = false) {c x : Nat} : agree m c x = true ↔ x = c := by
  simp [agree, fold, hm]

/-- One character, where case is regarded. -/
theorem Regex.spells_char (hm : m.ignoreCase = false) {c : Char} {w : List Char} :
    (Regex.char c.toNat).Spells m w ↔ w = [c] := by
  constructor
  · rintro ⟨x, rfl, hx⟩
    rw [Char.toNat_inj.mp ((agree_iff hm).mp hx)]
  · rintro rfl
    exact ⟨c, rfl, (agree_iff hm).mpr rfl⟩

theorem ClassMember.inside_of_admits (hm : m.ignoreCase = false) {member : ClassMember}
    (h : member.inside lo hi = true) {x : Nat} (hx : member.admits m x = true) : lo ≤ x ∧ x ≤ hi := by
  cases member with
  | code c =>
    obtain rfl := (agree_iff hm).mp hx
    simpa [inside] using h
  | range a b =>
    have hbounds : lo ≤ a ∧ b ≤ hi := by simpa [inside] using h
    have hbetween : a ≤ x ∧ x ≤ b := by simpa [admits, agreeing, hm] using hx
    omega
  | category k negated => cases h

/-- What a tree spells has nothing but code points between the bounds. -/
theorem Regex.Spells.inside {r : Regex} {w : List Char} (h : r.Spells m w) (hm : m.ignoreCase = false)
    (hr : r.inside lo hi = true) : ∀ c ∈ w, lo ≤ c.toNat ∧ c.toNat ≤ hi := by
  induction r generalizing m w with
  | empty | anchor a | lookahead negative a | lookbehind negative width a =>
    obtain rfl : w = [] := h
    simp
  | char c =>
    obtain ⟨x, rfl, hx⟩ := h
    rw [List.forall_mem_singleton, (agree_iff hm).mp hx]
    simpa [Regex.inside] using hr
  | any | backref i => cases hr
  | oneOf negated members =>
    obtain ⟨x, rfl, hx⟩ := h
    obtain ⟨rfl, hmembers⟩ : negated = false ∧ ∀ c ∈ members, c.inside lo hi = true := by
      simpa [Regex.inside] using hr
    obtain ⟨member, hmember, hadmits⟩ : ∃ c ∈ members, c.admits m x.toNat = true := by
      simpa [admitsClass] using hx
    rw [List.forall_mem_singleton]
    exact ClassMember.inside_of_admits hm (hmembers member hmember) hadmits
  | seq a b iha ihb =>
    obtain ⟨ha, hb⟩ := Bool.and_eq_true_iff.mp hr
    obtain ⟨u, v, rfl, hu, hv⟩ := h
    intro c hc
    exact (List.mem_append.mp hc).elim (iha hu hm ha c) (ihb hv hm hb c)
  | alt a b iha ihb | conditional i a b iha ihb =>
    obtain ⟨ha, hb⟩ := Bool.and_eq_true_iff.mp hr
    exact h.elim (fun h => iha h hm ha) fun h => ihb h hm hb
  | group i a ih | atomic a ih => exact ih h hm hr
  | «scoped» change a ih =>
    obtain ⟨hchange, ha⟩ := Bool.and_eq_true_iff.mp hr
    refine ih h ?_ ha
    -- A group that says nothing about case leaves it as it is.
    cases hcase : change.ignoreCase with
    | none => simp [Modes.apply, hcase, hm]
    | some on => cases on <;> simp_all [Modes.apply]
  | rounds greed least most a ih =>
    obtain ⟨n, -, -, hwords⟩ := h
    intro c hc
    obtain ⟨u, hu, hcu⟩ := hwords.mem hc
    exact ih hu hm hr c hcu

end TextCriteria.Pattern
