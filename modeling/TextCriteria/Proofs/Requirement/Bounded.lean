import TextCriteria.Proofs.Pattern.Stretch
import TextCriteria.Proofs.Requirement.Standard

namespace TextCriteria.Fragment

open TextCriteria.Pattern

/-!
# Fragments with bounds

A fragment that looks ahead at one item with bounds, and perhaps at the end of the text behind it.

* `bounded` — the tree of such a fragment.
* `compile_bounded` — what it compiles to; `compile_reversed`, if its bounds are in the wrong order.
-/

/-- A pattern that only looks ahead. -/
def ahead (r : Regex) : Regex := Regex.ofItems [.lookahead false r]

/-- A pattern that only looks ahead matches where the one that it looks ahead at does. -/
theorem ahead_matchAt (r : Regex) (text : Array Char) (m : Modes) :
    ((ahead r).matchAt text m 0).isSome = (r.run text m some { pos := 0 }).isSome := by
  simp only [ahead, Regex.matchAt, Regex.ofItems, Regex.run, Option.isSome_map]
  cases r.run text m some { pos := 0 } <;> rfl

/-- What stands behind the item: the end of the text, or nothing. -/
def endText (toEnd : Bool) : List Char := if toEnd then ['\\', 'Z'] else []

/-- The tree of an item with bounds, perhaps with the end of the text behind it. -/
def boundedBody (least : Nat) (most : Option Nat) (r : Regex) (toEnd : Bool) : Regex :=
  Regex.ofItems (.rounds .greedy least most r :: if toEnd then [.anchor .textEnd] else [])

/-- The tree of a fragment that looks ahead at an item with bounds. -/
def bounded (least : Nat) (most : Option Nat) (r : Regex) (toEnd : Bool) : Regex :=
  ahead (boundedBody least most r toEnd)

variable {flags : Flags} {f : Fragment} {pre s : List Char} {r : Regex} {least : Nat} {most : Option Nat}
  {toEnd : Bool}

/-- A fragment that looks ahead is read from behind its first parenthesis on. -/
theorem readText_lookahead (flags : Flags) (hk : f.kind = .lookahead) :
    ∃ n left, readText flags f.render.toList
      = ((Draft.start flags.verbose n).enter (.look false false none) flags.verbose left).readAll
        (f.body.toList ++ [')']) := by
  have htext : f.render.toList = '(' :: '?' :: '=' :: (f.body.toList ++ [')']) := by
    rw [render_lookahead hk, toList_asLookahead, core_lookahead hk]
  obtain ⟨left, hopen⟩ := Draft.readAll_look (Draft.start_ready flags.verbose f.render.toList.length)
    (f.body.toList ++ [')'])
  exact ⟨_, left, (congrArg (Draft.readAll _) htext).trans hopen⟩

theorem unmarked_end (toEnd : Bool) : Unmarked (endText toEnd ++ [')']) := by
  cases toEnd <;> exact ⟨by decide, by decide⟩

theorem toList_bounded (hbody : f.body.toList = pre ++ '{' :: (s ++ '}' :: endText toEnd)) :
    f.body.toList ++ [')'] = pre ++ '{' :: (s ++ '}' :: (endText toEnd ++ [')'])) := by
  rw [hbody]
  simp

/-- A fragment with bounds in order is read to its tree. -/
theorem readText_bounded (flags : Flags) (hk : f.kind = .lookahead) (hadds : Draft.Adds pre r)
    (hr : r.repeatable = .yes) (hs : States s least most) (hle : ∀ l, most = some l → least ≤ l)
    (hbody : f.body.toList = pre ++ '{' :: (s ++ '}' :: endText toEnd)) :
    ReadsTo flags f.render.toList (bounded least most r toEnd) := by
  obtain ⟨n, left, hread⟩ := readText_lookahead flags hk
  -- Neither the end of the text nor the parenthesis makes the repetition lazy or possessive.
  rw [ReadsTo, hread, toList_bounded hbody, hadds.between hr hs hle _ (unmarked_end toEnd)]
  cases toEnd with
  | false =>
    rw [endText, if_neg Bool.false_ne_true, List.nil_append, Draft.readAll_cons, readLexeme_closing]
    exact ⟨_, rfl, rfl, rfl, rfl, rfl⟩
  | true =>
    rw [endText, if_pos rfl, List.cons_append, List.singleton_append, Draft.readAll_textEnd,
      Draft.readAll_cons, readLexeme_closing]
    exact ⟨_, rfl, rfl, rfl, rfl, rfl⟩

/-- **Bounds.** A fragment with bounds in order compiles to its tree. Where repetitions are forbidden it is
    refused. -/
theorem compile_bounded (hflags : flags.Accepted) (hk : f.kind = .lookahead) (hadds : Draft.Adds pre r)
    (hr : r.repeatable = .yes) (hfault : r.fault? false = none) (hs : States s least most)
    (hle : ∀ l, most = some l → least ≤ l)
    (hbody : f.body.toList = pre ++ '{' :: (s ++ '}' :: endText toEnd)) :
    compile f.render flags = if flags.template then .error (.malformed (.templateRepeat .greedy) none)
      else .ok ⟨f.render, flags.inForce, bounded least most r toEnd⟩ := by
  have hbounded : (bounded least most r toEnd).fault? flags.template
      = if flags.template then some (.templateRepeat .greedy) else none := by
    cases flags.template
    · cases toEnd <;> simp [bounded, ahead, boundedBody, Regex.ofItems, Regex.fault?, hfault]
    · rfl
  rw [(readText_bounded flags hk hadds hr hs hle hbody).compile_eq hflags, hbounded]
  cases flags.template <;> rfl

/-- **Bounds in the wrong order.** The fragment is malformed. -/
theorem compile_reversed (hflags : flags.Accepted) (hk : f.kind = .lookahead) (hadds : Draft.Adds pre r)
    {most : Nat} (hs : States s least (some most)) (hlt : most < least)
    (hbody : f.body.toList = pre ++ '{' :: (s ++ '}' :: endText toEnd)) :
    ∃ left, compile f.render flags = .error (.malformed .boundsReversed left) := by
  obtain ⟨n, left, hread⟩ := readText_lookahead flags hk
  rw [toList_bounded hbody, hadds.reversed hs hlt] at hread
  exact ⟨_, compile_eq_error.mpr (compileChars_error_of_read hflags hread)⟩

end TextCriteria.Fragment
