import Mathlib.Data.List.Basic

namespace TextCriteria

/-!
# Entries and histories

Lists of entries that are looked up by name, and lists of what happened, one thing after the other.

* `lookup_entry`, `lookup_filter_ne` — what is found under a name when an entry comes or goes.
* `append_singleton_split` — a place in a history with one more thing at its end.
-/

variable {α β : Type}

theorem lookup_entry [BEq α] [LawfulBEq α] [DecidableEq α] (name field : α) (b : β)
    (entries : List (α × β)) :
    ((name, b) :: entries).lookup field = if field = name then some b else entries.lookup field := by
  by_cases h : field = name
  · rw [if_pos h, h, List.lookup_cons_self]
  · rw [if_neg h, List.lookup_cons, beq_false_of_ne h]

/-- What is under one name does not depend on what is under another one. -/
theorem lookup_filter_ne [BEq α] [LawfulBEq α] (entries : List (α × β)) {name field : α}
    (h : field ≠ name) : (entries.filter fun e => e.1 != name).lookup field = entries.lookup field := by
  induction entries with
  | nil => rfl
  | cons e rest ih =>
    obtain ⟨other, b⟩ := e
    rw [List.filter_cons]
    by_cases he : other = name
    · have hother : (field == other) = false := beq_false_of_ne (he ▸ h)
      rw [if_neg (by simp [he]), List.lookup_cons, hother, ih]
    · rw [if_pos (by simp [he]), List.lookup_cons, List.lookup_cons, ih]

/-- Nothing is left under a name whose entries are gone. -/
theorem lookup_filter_self [BEq α] [LawfulBEq α] (entries : List (α × β)) (name : α) :
    (entries.filter fun e => e.1 != name).lookup name = none := by
  refine List.lookup_eq_none_iff.mpr fun e he => ?_
  have hname : e.1 ≠ name := by simpa using (List.mem_filter.mp he).2
  exact bne_iff_ne.mpr hname.symm

/-- A place in a list with one more item behind it is the last one, or a place in the list itself. -/
theorem append_singleton_split {l before after : List α} {x y : α}
    (h : l ++ [x] = before ++ y :: after) :
    (before = l ∧ y = x ∧ after = []) ∨ ∃ front, after = front ++ [x] ∧ l = before ++ y :: front := by
  rcases List.eq_nil_or_concat after with rfl | ⟨front, z, rfl⟩
  · obtain ⟨rfl, hx⟩ := List.append_inj' h rfl
    exact .inl ⟨rfl, (List.singleton_inj.mp hx).symm, rfl⟩
  · have heq : l ++ [x] = (before ++ y :: front) ++ [z] := by simpa using h
    obtain ⟨hl, hx⟩ := List.append_inj' heq rfl
    obtain rfl := List.singleton_inj.mp hx
    exact .inr ⟨front, List.concat_eq_append, hl⟩

end TextCriteria
