import TextCriteria.Proofs.Entries
import TextCriteria.Proofs.Pattern.Shift

namespace TextCriteria.Pattern

/-!
# Matching a renumbered tree

A tree whose groups are counted from a larger number on matches as the tree alone, as long as none of
these groups has taken part before.

* `Marks.Clear` — no group above a number has taken part.
* `Linked` — the place of a match and the place of the match of the tree alone.
* `Regex.run_shift` — both matches take the same way.
* `Regex.inTurn`, `Regex.run_looks` — looks ahead in a row, one after the other.
* `Regex.inTurn_placed` — where each one has its own groups, all of them have to succeed alone.
* `Regex.run_consuming` — the whole text, taken at once.
-/

/-! ### Marks -/

theorem lookup_put (entries : List (Nat × Nat)) (i pos j : Nat) :
    (Marks.put entries i pos).lookup j = if j = i then some pos else entries.lookup j := by
  rw [Marks.put, lookup_entry]
  split
  · rfl
  · next h => exact lookup_filter_ne entries h

/-- No group above `k` has taken part. -/
def Marks.Clear (k : Nat) (m : Marks) : Prop :=
  ∀ i, k < i → m.starts.lookup i = none ∧ m.stops.lookup i = none

theorem Marks.clear_empty (k : Nat) : Marks.Clear k {} := fun _ _ => ⟨rfl, rfl⟩

/-- `P` is the place `p` of a match of a tree with `n` groups, in a match where these groups are
    counted from `k` on. -/
structure Linked (k n : Nat) (p P : Place) : Prop where
  pos : P.pos = p.pos
  starts : ∀ i, 0 < i → P.marks.starts.lookup (i + k) = p.marks.starts.lookup i
  stops : ∀ i, 0 < i → P.marks.stops.lookup (i + k) = p.marks.stops.lookup i
  clear : p.marks.Clear n

namespace Linked

variable {k n : Nat} {p P : Place}

/-- A match begins where none of the groups has taken part. -/
theorem begin (h : P.marks.Clear k) : Linked k n { pos := P.pos } P := by
  refine ⟨rfl, fun i hi => ?_, fun i hi => ?_, Marks.clear_empty n⟩
  · exact (h (i + k) (by omega)).1
  · exact (h (i + k) (by omega)).2

/-- No group behind those of the tree has taken part either. -/
theorem clear_above (h : Linked k n p P) : P.marks.Clear (k + n) := by
  intro i hi
  obtain ⟨j, rfl⟩ : ∃ j, i = j + k := ⟨i - k, by omega⟩
  rw [h.starts j (by omega), h.stops j (by omega)]
  exact h.clear j (by omega)

theorem move (h : Linked k n p P) (pos : Nat) :
    Linked k n { p with pos := pos } { P with pos := pos } :=
  ⟨rfl, h.starts, h.stops, h.clear⟩

theorem advance (h : Linked k n p P) (d : Nat) : Linked k n (p.advance d) (P.advance d) := by
  refine ⟨?_, h.starts, h.stops, h.clear⟩
  show P.pos + d = p.pos + d
  rw [h.pos]

theorem enter (h : Linked k n p P) {i : Nat} (hi : i ≤ n) :
    Linked k n { p with marks := p.marks.enter i p.pos }
      { P with marks := P.marks.enter (i + k) P.pos } := by
  refine ⟨h.pos, fun j hj => ?_, h.stops, fun j hj => ⟨?_, (h.clear j hj).2⟩⟩
  · simp only [Marks.enter, lookup_put, h.starts j hj, h.pos, Nat.add_right_cancel_iff]
  · simp only [Marks.enter, lookup_put]
    rw [if_neg (by omega)]
    exact (h.clear j hj).1

theorem leave (h : Linked k n p P) {i : Nat} (hi : i ≤ n) :
    Linked k n { p with marks := p.marks.leave i p.pos }
      { P with marks := P.marks.leave (i + k) P.pos } := by
  refine ⟨h.pos, h.starts, fun j hj => ?_, fun j hj => ⟨(h.clear j hj).1, ?_⟩⟩
  · simp only [Marks.leave, lookup_put, h.stops j hj, h.pos, Nat.add_right_cancel_iff]
  · simp only [Marks.leave, lookup_put]
    rw [if_neg (by omega)]
    exact (h.clear j hj).2

theorem span? (h : Linked k n p P) {i : Nat} (hi : 0 < i) :
    P.marks.span? (i + k) = p.marks.span? i := by
  unfold Marks.span?
  rw [h.starts i hi, h.stops i hi]

end Linked

/-! ### Continuations -/

/-- Two continuations that end alike from linked places. -/
def Agrees (k n : Nat) (R : Place → Place → Prop) (c C : Rest) : Prop :=
  ∀ p P, Linked k n p P → Option.Rel R (c p) (C P)

/-- Two ways of making a round that lead alike into continuations that end alike. -/
def RoundsAgree (k n : Nat) (round Round : Rest → Rest) : Prop :=
  ∀ R c C, Agrees k n R c C → Agrees k n R (round c) (Round C)

theorem agrees_some (k n : Nat) : Agrees k n (Linked k n) some some := fun _ _ h => .some h

variable {k n : Nat} {R : Place → Place → Prop} {c C : Rest} {text : Array Char}

/-- Two matches that end alike, each followed by what depends on its end. -/
theorem rel_followed {S : Place → Place → Prop} {f F : Rest} {d D : Option Place} {x X : Option Place} :
    Option.Rel S x X → (∀ q Q, S q Q → Option.Rel R (f q) (F Q)) → Option.Rel R d D →
    Option.Rel R (match x with | some q => f q | none => d) (match X with | some Q => F Q | none => D)
  | .some hq, hsome, _ => hsome _ _ hq
  | .none, _, hnone => hnone

theorem one_agrees (test : Nat → Bool) (h : Agrees k n R c C) :
    Agrees k n R (one text test c) (one text test C) := by
  intro p P hp
  unfold one
  rw [hp.pos]
  split
  · split
    · exact h _ _ (hp.advance 1)
    · exact .none
  · exact .none

/-! ### Rounds -/

section Rounds

variable {round Round : Rest → Rest}

theorem times_agrees (hround : RoundsAgree k n round Round) (h : Agrees k n R c C) (count : Nat) :
    Agrees k n R (times round count c) (times Round count C) := by
  induction count with
  | zero => exact h
  | succ count ih => exact hround R _ _ ih

theorem roundsOver_eq {p P : Place} (h : Linked k n p P) (left last : Option Nat) :
    roundsOver left last P = roundsOver left last p := by
  unfold roundsOver
  rw [h.pos]

theorem greedyRounds_agrees (hround : RoundsAgree k n round Round) (h : Agrees k n R c C)
    (fuel : Nat) (left last : Option Nat) :
    Agrees k n R (greedyRounds round c fuel left last) (greedyRounds Round C fuel left last) := by
  induction fuel generalizing left last with
  | zero => exact h
  | succ fuel ih =>
    intro p P hp
    simp only [greedyRounds, roundsOver_eq hp, hp.pos]
    split
    · exact h p P hp
    · have hmore := ih (left.map (· - 1)) (some p.pos)
      exact rel_followed (hround R _ _ hmore p P hp) (fun _ _ => .some) (h p P hp)

theorem reluctantRounds_agrees (hround : RoundsAgree k n round Round) (h : Agrees k n R c C)
    (fuel : Nat) (left last : Option Nat) :
    Agrees k n R (reluctantRounds round c fuel left last)
      (reluctantRounds Round C fuel left last) := by
  induction fuel generalizing left last with
  | zero => exact h
  | succ fuel ih =>
    intro p P hp
    simp only [reluctantRounds, roundsOver_eq hp, hp.pos]
    refine rel_followed (h p P hp) (fun _ _ => .some) ?_
    split
    · exact .none
    · exact hround R _ _ (ih (left.map (· - 1)) (some p.pos)) p P hp

theorem possessiveRounds_linked (hround : RoundsAgree k n round Round) (fuel : Nat)
    (left last : Option Nat) {p P : Place} (hp : Linked k n p P) :
    Linked k n (possessiveRounds round fuel left last p)
      (possessiveRounds Round fuel left last P) := by
  induction fuel generalizing left last p P with
  | zero => exact hp
  | succ fuel ih =>
    simp only [possessiveRounds, roundsOver_eq hp, hp.pos]
    split
    · exact hp
    · have hround := hround _ _ _ (agrees_some k n) p P hp
      generalize round some p = x at hround ⊢
      generalize Round some P = X at hround ⊢
      cases hround with
      | some hq => exact ih _ _ hq
      | none => exact hp

theorem timesSettled_rel (hround : RoundsAgree k n round Round) (count : Nat) {p P : Place}
    (hp : Linked k n p P) :
    Option.Rel (Linked k n) (timesSettled round count p) (timesSettled Round count P) := by
  induction count generalizing p P with
  | zero => exact .some hp
  | succ count ih =>
    exact rel_followed (hround _ _ _ (agrees_some k n) p P hp) (fun _ _ => ih) .none

end Rounds

/-! ### Trees -/

/-- **Simulation.** A tree and the same tree with its groups counted from `k` on take the same way from
    linked places into continuations that end alike. -/
theorem Regex.run_shift (text : Array Char) {k n : Nat} {r : Regex} (hr : r.Within n) (m : Modes)
    {R : Place → Place → Prop} {c C : Rest} (h : Agrees k n R c C) :
    Agrees k n R (r.run text m c) ((r.shift k).run text m C) := by
  induction r generalizing m R c C with
  | empty => exact h
  | char x => exact one_agrees _ h
  | any => exact one_agrees _ h
  | oneOf negated members => exact one_agrees _ h
  | anchor a =>
    intro p P hp
    simp only [shift, run, hp.pos]
    split
    · exact h p P hp
    · exact .none
  | seq a b iha ihb => exact iha hr.1 m (ihb hr.2 m h)
  | alt a b iha ihb =>
    intro p P hp
    exact rel_followed (iha hr.1 m h p P hp) (fun _ _ => .some) (ihb hr.2 m h p P hp)
  | group i a ih =>
    intro p P hp
    have hleave : Agrees k n R (fun q => c { q with marks := q.marks.leave i q.pos })
        (fun q => C { q with marks := q.marks.leave (i + k) q.pos }) :=
      fun q Q hq => h _ _ (hq.leave hr.2.1)
    exact ih hr.2.2 m hleave _ _ (hp.enter hr.2.1)
  | «scoped» change a ih => exact ih hr (m.apply change) h
  | atomic a ih =>
    intro p P hp
    exact rel_followed (ih hr m (agrees_some k n) p P hp) h .none
  | lookahead negative a ih =>
    intro p P hp
    have ha := ih hr m (agrees_some k n) p P hp
    cases negative with
    | false =>
      simp only [shift, run, hp.pos]
      exact rel_followed ha (fun _ _ hq => h _ _ (hq.move p.pos)) .none
    | true => exact rel_followed ha (fun _ _ _ => .none) (h p P hp)
  | lookbehind negative w a ih =>
    intro p P hp
    have ha := ih hr m (agrees_some k n) _ _ (hp.move (p.pos - w.least))
    cases negative with
    | false =>
      simp only [shift, run, hp.pos]
      split
      · exact .none
      · exact rel_followed ha (fun _ _ hq => h _ _ (hq.move p.pos)) .none
    | true =>
      simp only [shift, run, hp.pos]
      split
      · exact h p P hp
      · exact rel_followed ha (fun _ _ _ => .none) (h p P hp)
  | backref i =>
    intro p P hp
    simp only [shift, run, hp.span? hr, hp.pos]
    split
    · split
      · exact h _ _ (hp.advance _)
      · exact .none
    · exact .none
  | conditional i a b iha ihb =>
    intro p P hp
    simp only [shift, run, hp.span? hr.1]
    split
    · exact iha hr.2.1 m h p P hp
    · exact ihb hr.2.2 m h p P hp
  | rounds greed least most a ih =>
    intro p P hp
    have hround : RoundsAgree k n (fun c q => a.run text m c q)
        (fun c q => (a.shift k).run text m c q) := fun _ _ _ h => ih hr m h
    cases greed with
    | greedy =>
      simp only [shift, run]
      refine times_agrees hround (fun q Q hq => ?_) least p P hp
      rw [hq.pos]
      exact greedyRounds_agrees hround h _ _ _ q Q hq
    | reluctant =>
      simp only [shift, run]
      refine times_agrees hround (fun q Q hq => ?_) least p P hp
      rw [hq.pos]
      exact reluctantRounds_agrees hround h _ _ _ q Q hq
    | possessive =>
      simp only [shift, run]
      refine rel_followed (timesSettled_rel hround least hp) (fun q Q hq => ?_) .none
      rw [hq.pos]
      exact h _ _ (possessiveRounds_linked hround _ _ _ hq)

/-! ### Looks ahead in a row -/

namespace Regex

/-- Matches some trees at one position, one after the other. Where groups begin and end in one of them
    is known to those after it. -/
def inTurn (text : Array Char) (m : Modes) : List Regex → Place → Option Place
  | [], p => some p
  | r :: rest, p =>
    match r.run text m some p with
    | some q => inTurn text m rest { q with pos := p.pos }
    | none => none

/-- A row of looks ahead matches what is looked for in turn, and goes on from the same position. -/
theorem run_looks (text : Array Char) (m : Modes) (trees tail : List Regex) (c : Rest) (p : Place) :
    (ofItems (trees.map (.lookahead false) ++ tail)).run text m c p
      = (inTurn text m trees p).bind ((ofItems tail).run text m c) := by
  induction trees generalizing p with
  | nil => rfl
  | cons r rest ih =>
    simp only [List.map_cons, List.cons_append, ofItems, run, inTurn]
    cases r.run text m some p with
    | none => rfl
    | some q => exact ih { q with pos := p.pos }

theorem inTurn_pos {text : Array Char} {m : Modes} {trees : List Regex} {p q : Place}
    (h : inTurn text m trees p = some q) : q.pos = p.pos := by
  induction trees generalizing p with
  | nil =>
    obtain rfl := Option.some.inj h
    rfl
  | cons r rest ih =>
    unfold inTurn at h
    split at h
    · have hpos := ih h
      exact hpos
    · cases h

/-- Some trees with their groups counted on from those of the trees before them. Each comes with its
    number of groups. -/
def placed : Nat → List (Nat × Regex) → List Regex
  | _, [] => []
  | k, (n, r) :: rest => r.shift k :: placed (k + n) rest

/-- Trees that have their own groups match in turn if each of them matches alone. -/
theorem inTurn_placed (text : Array Char) (m : Modes) {parts : List (Nat × Regex)}
    (hparts : ∀ e ∈ parts, e.2.Within e.1) {k : Nat} {P : Place} (hP : P.marks.Clear k) :
    (inTurn text m (placed k parts) P).isSome = true ↔
      ∀ e ∈ parts, (e.2.run text m some { pos := P.pos }).isSome = true := by
  induction parts generalizing k P with
  | nil => simp [placed, inTurn]
  | cons e rest ih =>
    obtain ⟨n, r⟩ := e
    have hr : r.Within n := hparts (n, r) List.mem_cons_self
    have hrel := run_shift text hr m (agrees_some k n) _ P (Linked.begin hP)
    rw [List.forall_mem_cons]
    unfold placed inTurn
    generalize r.run text m some { pos := P.pos } = x at hrel ⊢
    generalize (r.shift k).run text m some P = X at hrel ⊢
    cases hrel with
    | none => simp
    | @some q Q hq =>
      -- The groups of this tree are clear for the next ones, whose numbers are larger.
      have hclear : Marks.Clear (k + n) ({ Q with pos := P.pos } : Place).marks := hq.clear_above
      simpa using ih (fun e he => hparts e (List.mem_cons_of_mem _ he)) hclear

/-! ### The whole text -/

/-- A round that takes any one character. -/
def TakesAny (text : Array Char) (round : Rest → Rest) : Prop :=
  ∀ c p, round c p = if p.pos < text.size then c (p.advance 1) else none

theorem takesAny_any (text : Array Char) {m : Modes} (hm : m.dotAll = true) :
    TakesAny text (fun c q => Regex.any.run text m c q) := by
  intro c p
  simp only [run, one, hm, Bool.true_or, if_true]
  rcases Nat.lt_or_ge p.pos text.size with hlt | hge
  · rw [Array.getElem?_eq_getElem hlt, if_pos hlt]
  · rw [Array.getElem?_eq_none hge, if_neg (by omega)]

/-- Any characters, as many as possible, up to the end of the text. -/
theorem greedyRounds_any {text : Array Char} {round : Rest → Rest} (hround : TakesAny text round)
    {c : Rest} (hc : ∀ p : Place, c p = if p.pos = text.size then some p else none) (fuel : Nat)
    {last : Option Nat} {p : Place} (hlast : last ≠ some p.pos) (hp : p.pos ≤ text.size)
    (hfuel : text.size ≤ p.pos + fuel) :
    greedyRounds round c fuel none last p = some { p with pos := text.size } := by
  induction fuel generalizing last p with
  | zero =>
    have hend : p.pos = text.size := by omega
    rw [← hend]
    simp only [greedyRounds, hc, if_pos hend]
  | succ fuel ih =>
    have hover : roundsOver none last p = false := by
      simp [roundsOver, beq_eq_false_iff_ne, hlast]
    simp only [greedyRounds, hover, Option.map_none, hround _ p]
    rcases Nat.lt_or_ge p.pos text.size with hlt | hge
    · have hpos : (p.advance 1).pos = p.pos + 1 := rfl
      have hnext := ih (show some p.pos ≠ some (p.advance 1).pos by simp [hpos])
        (by omega) (by omega)
      rw [if_neg (by simp), if_pos hlt, hnext]
      rfl
    · have hend : p.pos = text.size := by omega
      rw [if_neg (by simp), if_neg (by omega), hc, if_pos hend, ← hend]

/-- A number of any characters. -/
theorem times_any {text : Array Char} {round : Rest → Rest} (hround : TakesAny text round) (n : Nat)
    (c : Rest) {p : Place} (hp : p.pos ≤ text.size) :
    times round n c p = if p.pos + n ≤ text.size then c (p.advance n) else none := by
  induction n generalizing p with
  | zero => simp [times, hp, Place.advance]
  | succ n ih =>
    simp only [times, hround _ p]
    rcases Nat.lt_or_ge p.pos text.size with hlt | hge
    · have hpos : (p.advance 1).pos = p.pos + 1 := rfl
      have hadd : (p.advance 1).advance n = p.advance (n + 1) := by
        simp only [Place.advance, Nat.add_assoc, Nat.add_comm 1 n]
      rw [if_pos hlt, ih (by omega), hpos, hadd, Nat.add_assoc, Nat.add_comm 1 n]
    · rw [if_neg (by omega), if_neg (by omega)]

/-- The rest of the text, of `least` characters at the least. -/
def consuming (least : Nat) : List Regex :=
  [.scoped { dotAll := some true } (ofItems [.rounds .greedy least none .any]), .anchor .textEnd]

/-- A match of the rest of a text ends where the text ends. -/
theorem run_consuming (text : Array Char) (m : Modes) (least : Nat) {p : Place}
    (hp : p.pos ≤ text.size) :
    (ofItems (consuming least)).run text m some p
      = if p.pos + least ≤ text.size then some { p with pos := text.size } else none := by
  have hround := takesAny_any text (show (m.apply { dotAll := some true }).dotAll = true from rfl)
  have hc : ∀ q : Place, (if Anchor.textEnd.holds text m q.pos then some q else none)
      = if q.pos = text.size then some q else none := by
    intro q
    simp [Anchor.holds]
  have htake := times_any hround least (fun q => greedyRounds
    (fun c q => Regex.any.run text (m.apply { dotAll := some true }) c q)
    (fun q => if Anchor.textEnd.holds text m q.pos then some q else none)
    (text.size - q.pos + 1) none none q) hp
  refine htake.trans ?_
  split
  · rename_i hle
    exact greedyRounds_any hround hc _ (by simp) hle (by omega)
  · rfl

end Regex

end TextCriteria.Pattern
