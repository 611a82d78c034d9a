import TextCriteria.Proofs.Pattern.Ways

namespace TextCriteria.Pattern

/-!
# Stretches of characters

An item that takes one character may be repeated over a stretch of characters that pass its test, and the
repetition may stop after any number of them that its bounds allow.

* `stretch` — how many characters pass a test from a position on.
* `stretch_add` — what is left of a stretch behind some of its characters.
* `mem_timesWays_one`, `mem_greedyWays_one` — where rounds over single characters may stop.
* `Regex.mem_ways_rounds` — where a repetition of an item that takes one character may stop.
-/

variable {text : Array Char} {test : Nat → Bool} {p q : Place}

/-- How many characters pass a test from a position on. -/
def stretch (text : Array Char) (test : Nat → Bool) (i : Nat) : Nat :=
  ((text.toList.drop i).takeWhile fun c => test c.toNat).length

theorem stretch_le (text : Array Char) (test : Nat → Bool) (i : Nat) :
    stretch text test i ≤ text.size - i := by
  have hle := (List.takeWhile_prefix (l := text.toList.drop i) fun c => test c.toNat).length_le
  simpa [stretch] using hle

/-- A stretch goes on over the first character if this passes the test. -/
theorem stretch_eq (text : Array Char) (test : Nat → Bool) (i : Nat) :
    stretch text test i = match text[i]? with
      | some c => if test c.toNat then stretch text test (i + 1) + 1 else 0
      | none => 0 := by
  unfold stretch
  rcases Nat.lt_or_ge i text.size with hlt | hge
  · rw [List.drop_eq_getElem_cons (by simpa using hlt), List.takeWhile_cons, Array.getElem?_eq_getElem hlt]
    simp only [Array.getElem_toList]
    cases test text[i].toNat <;> rfl
  · rw [List.drop_eq_nil_of_le (by simpa using hge), Array.getElem?_eq_none hge]
    rfl

theorem mem_oneWays : q ∈ oneWays text test p ↔ 0 < stretch text test p.pos ∧ q = p.advance 1 := by
  rw [stretch_eq, oneWays]
  cases text[p.pos]? with
  | none => simp
  | some c => cases htest : test c.toNat <;> simp [htest]

theorem stretch_succ {i : Nat} (h : 0 < stretch text test i) :
    stretch text test i = stretch text test (i + 1) + 1 := by
  have heq := stretch_eq text test i
  split at heq
  · split at heq <;> omega
  · omega

/-- Behind some characters of a stretch the others are left. -/
theorem stretch_add {i n : Nat} (h : n ≤ stretch text test i) :
    stretch text test i = stretch text test (i + n) + n := by
  induction n generalizing i with
  | zero => rfl
  | succ n ih =>
    have hsucc := stretch_succ (show 0 < stretch text test i by omega)
    have hrest := ih (i := i + 1) (by omega)
    rw [Nat.add_right_comm, Nat.add_assoc] at hrest
    omega

theorem Place.advance_advance (p : Place) (m n : Nat) : (p.advance m).advance n = p.advance (m + n) := by
  simp [Place.advance, Nat.add_assoc]

/-- So many rounds over single characters. -/
theorem mem_timesWays_one {n : Nat} :
    q ∈ timesWays (oneWays text test) n p ↔ n ≤ stretch text test p.pos ∧ q = p.advance n := by
  induction n generalizing p with
  | zero => simp [timesWays, Place.advance]
  | succ n ih =>
    simp only [timesWays, List.mem_flatMap, mem_oneWays, ih]
    constructor
    · rintro ⟨r, ⟨hpos, rfl⟩, hle, rfl⟩
      have hsucc := stretch_succ hpos
      have hle : n ≤ stretch text test (p.pos + 1) := hle
      exact ⟨by omega, by rw [Place.advance_advance, Nat.add_comm]⟩
    · rintro ⟨hle, rfl⟩
      have hsucc := stretch_succ (show 0 < stretch text test p.pos by omega)
      refine ⟨p.advance 1, ⟨by omega, rfl⟩, ?_, by rw [Place.advance_advance, Nat.add_comm]⟩
      show n ≤ stretch text test (p.pos + 1)
      omega

/-- Further rounds over single characters: as far as the stretch goes and the bound allows. -/
theorem mem_greedyWays_one {fuel : Nat} {left last : Option Nat} (hlast : last ≠ some p.pos)
    (hfuel : stretch text test p.pos ≤ fuel) :
    q ∈ greedyWays (oneWays text test) fuel left last p ↔
      ∃ n, (∀ l, left = some l → n ≤ l) ∧ n ≤ stretch text test p.pos ∧ q = p.advance n := by
  induction fuel generalizing p left last with
  | zero =>
    rw [greedyWays, List.mem_singleton]
    constructor
    · rintro rfl
      exact ⟨0, fun _ _ => Nat.zero_le _, Nat.zero_le _, rfl⟩
    · rintro ⟨n, -, hle, rfl⟩
      obtain rfl : n = 0 := by omega
      rfl
  | succ fuel ih =>
    -- A round over a character moves on, so the guard against rounds that take nothing never stops it.
    have hmoved : some p.pos ≠ some (p.advance 1).pos := by simp [Place.advance]
    rw [greedyWays]
    by_cases hover : left = some 0
    · -- The bound is reached, and the match stays where it is.
      have hstop : roundsOver left last p = true := by simp [roundsOver, hover]
      rw [if_pos hstop, List.mem_singleton]
      constructor
      · rintro rfl
        exact ⟨0, fun _ _ => Nat.zero_le _, Nat.zero_le _, rfl⟩
      · rintro ⟨n, hbound, -, rfl⟩
        obtain rfl : n = 0 := Nat.le_zero.mp (hbound 0 hover)
        rfl
    · have hgo : ¬roundsOver left last p = true := by simp [roundsOver, hover, hlast]
      rw [if_neg hgo, List.mem_append, List.mem_singleton, List.mem_flatMap]
      constructor
      · rintro (⟨r, hr, hq⟩ | rfl)
        · obtain ⟨hpos, rfl⟩ := mem_oneWays.mp hr
          have hsucc := stretch_succ hpos
          obtain ⟨n, hbound, hle, rfl⟩ := (ih hmoved (by
            show stretch text test (p.pos + 1) ≤ fuel
            omega)).mp hq
          have hle : n ≤ stretch text test (p.pos + 1) := hle
          refine ⟨n + 1, fun l hl => ?_, by omega, by rw [Place.advance_advance, Nat.add_comm]⟩
          have hmore := hbound (l - 1) (by simp [hl])
          have hne : l ≠ 0 := fun h => hover (hl.trans (congrArg some h))
          omega
        · exact ⟨0, fun _ _ => Nat.zero_le _, Nat.zero_le _, rfl⟩
      · rintro ⟨n, hbound, hle, rfl⟩
        cases n with
        | zero => exact .inr rfl
        | succ n =>
          have hsucc := stretch_succ (show 0 < stretch text test p.pos by omega)
          refine .inl ⟨p.advance 1, mem_oneWays.mpr ⟨by omega, rfl⟩, ?_⟩
          refine (ih hmoved ?_).mpr ⟨n, fun l hl => ?_, ?_, ?_⟩
          · show stretch text test (p.pos + 1) ≤ fuel
            omega
          · obtain ⟨l', hl', rfl⟩ := Option.map_eq_some_iff.mp hl
            have := hbound l' hl'
            omega
          · show n ≤ stretch text test (p.pos + 1)
            omega
          · rw [Place.advance_advance, Nat.add_comm]

/-- **Repetitions.** A repetition of an item that takes one character may stop behind any number of
    characters within its bounds, as long as these pass the test of the item. -/
theorem Regex.mem_ways_rounds {a : Regex} {m : Modes} {least : Nat} {most : Option Nat}
    (ha : a.ways text m = oneWays text test) (hbounds : ∀ l, most = some l → least ≤ l) :
    q ∈ (Regex.rounds .greedy least most a).ways text m p ↔
      ∃ n, least ≤ n ∧ (∀ l, most = some l → n ≤ l) ∧ n ≤ stretch text test p.pos ∧ q = p.advance n := by
  have hfuel (r : Place) : stretch text test r.pos ≤ text.size - r.pos + 1 := by
    have := stretch_le text test r.pos
    omega
  -- The least number of rounds comes first, and what is left of the bound is for the further ones.
  simp only [ways, ha, List.mem_flatMap, mem_timesWays_one]
  constructor
  · rintro ⟨r, ⟨hle, rfl⟩, hq⟩
    obtain ⟨n, hbound, hle', rfl⟩ := (mem_greedyWays_one (by simp) (hfuel _)).mp hq
    have hadd := stretch_add hle
    have hle' : n ≤ stretch text test (p.pos + least) := hle'
    refine ⟨least + n, Nat.le_add_right least n, fun l hl => ?_, by omega, p.advance_advance least n⟩
    have hmore := hbound (l - least) (by simp [hl])
    have hleast := hbounds l hl
    omega
  · rintro ⟨n, hleast, hbound, hle, rfl⟩
    have hadd := stretch_add (show least ≤ stretch text test p.pos by omega)
    refine ⟨p.advance least, ⟨by omega, rfl⟩,
      (mem_greedyWays_one (by simp) (hfuel _)).mpr ⟨n - least, fun l hl => ?_, ?_, ?_⟩⟩
    · obtain ⟨l', hl', rfl⟩ := Option.map_eq_some_iff.mp hl
      have := hbound l' hl'
      omega
    · show n - least ≤ stretch text test (p.pos + least)
      omega
    · rw [Place.advance_advance, Nat.add_sub_cancel' hleast]

end TextCriteria.Pattern
