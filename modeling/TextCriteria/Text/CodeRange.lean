namespace TextCriteria

/-!
# Sets of code points

Character classes are closed ranges of code points in increasing order.

* `CodeRange.member` — the reading of such a list as a set; it stops at the first range that
  begins above the code point.
* `CodeRange.member_eq_any` — on ascending ranges stopping early loses nothing.
-/

/-- A closed range of code points, first and last. -/
abbrev CodeRange := Nat × Nat

namespace CodeRange

/-- Membership in ascending ranges: the search ends at the first range above the code point. -/
def member : List CodeRange → Nat → Bool
  | [], _ => false
  | (lo, hi) :: rest, c => if c < lo then false else if c ≤ hi then true else member rest c

/-- Ranges ascend: each one ends before the next begins. -/
def Ascending : List CodeRange → Prop
  | [] => True
  | [r] => r.1 ≤ r.2
  | r :: s :: rest => r.1 ≤ r.2 ∧ r.2 < s.1 ∧ Ascending (s :: rest)

theorem Ascending.tail {r : CodeRange} {rest : List CodeRange} (h : Ascending (r :: rest)) :
    Ascending rest := by
  cases rest with
  | nil => trivial
  | cons s rest => exact h.2.2

/-- Below the first of some ascending ranges there is no member. -/
theorem Ascending.no_member_below {r : CodeRange} {rest : List CodeRange} {c : Nat}
    (h : Ascending (r :: rest)) (hc : c < r.1) :
    (r :: rest).any (fun s => s.1 ≤ c && c ≤ s.2) = false := by
  induction rest generalizing r with
  | nil => simp; omega
  | cons s rest ih =>
    have below := ih h.tail (Nat.lt_trans hc (Nat.lt_of_le_of_lt h.1 h.2.1))
    rw [List.any_cons, below]
    simp
    omega

/-- On ascending ranges the early stop loses nothing. -/
theorem member_eq_any {rs : List CodeRange} (h : Ascending rs) (c : Nat) :
    member rs c = rs.any fun s => s.1 ≤ c && c ≤ s.2 := by
  induction rs with
  | nil => rfl
  | cons r rest ih =>
    by_cases below : c < r.1
    · rw [h.no_member_below below]
      simp [member, below]
    · by_cases inside : c ≤ r.2
      · simp [member, below, inside, Nat.le_of_not_lt below]
      · simp [member, below, inside, ih h.tail]

end CodeRange
end TextCriteria
