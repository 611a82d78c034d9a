import TextCriteria.Proofs.Pattern.Matching
import TextCriteria.Proofs.Pattern.Wrapping

namespace TextCriteria.Pattern

/-!
# Items in a row

A pattern without parentheses open and without bars is a row of items.

* `Draft.Row` — the items read so far.
* `Draft.Row.grow` — a row goes on with what stands between parentheses.
* `Draft.Row.complete` — a row compiles if its items contain nothing that is refused.
* `Draft.readAll_consuming` — the part that takes the whole text.
-/

theorem Regex.fault?_ofItems {template : Bool} {items : List Regex} :
    (ofItems items).fault? template = none ↔ ∀ r ∈ items, r.fault? template = none := by
  induction items with
  | nil => simp [ofItems, fault?]
  | cons r rest ih =>
    simp only [ofItems, fault?, List.forall_mem_cons, ← ih]
    cases r.fault? template <;> simp

namespace Draft

theorem missingGroup?_eq_none {d : Draft} :
    d.missingGroup? = none ↔ ∀ a ∈ d.asked, a.1 ≤ d.groups := by
  simp [missingGroup?]

/-- The items that have been read, where no parenthesis is open and no bar has been read. -/
structure Row (verbose : Bool) (items : List Regex) (D : Draft) : Prop where
  frame : D.frame.bare = { opened := .whole, left := 0, verbose := verbose, items := items.reverse }
  outer : D.outer = []
  asked : ∀ a ∈ D.asked, a.1 ≤ D.groups

namespace Row

variable {verbose : Bool} {items rs : List Regex} {D D' d : Draft}

theorem start (verbose : Bool) (n : Nat) : Row verbose [] (start verbose n) :=
  ⟨rfl, rfl, by simp [Draft.start]⟩

theorem verbose_eq (h : Row verbose items D) : D.frame.verbose = verbose :=
  (congrArg Frame.verbose h.frame :)

theorem withItem (h : Row verbose items D) (r : Regex) :
    Row verbose (items ++ [r]) (D.withItem r) := by
  refine ⟨?_, h.outer, h.asked⟩
  rw [List.reverse_append]
  exact congrArg (fun f : Frame => { f with items := r :: f.items }) h.frame

/-- A row goes on with the items between parentheses. -/
theorem grow (h : Row verbose items D) (hgrows : D.Grows rs d D')
    (hd : ∀ a ∈ d.asked, a.1 ≤ d.groups) : Row verbose (items ++ rs.reverse) D' := by
  refine ⟨?_, ?_, fun a ha => ?_⟩
  · have hitems : D.frame.items = items.reverse := (congrArg Frame.items h.frame :)
    rw [hgrows.frame, h.frame, hitems, List.reverse_append, List.reverse_reverse]
  · have houter := hgrows.outer
    rw [h.outer, List.map_nil, List.map_eq_nil_iff] at houter
    exact houter
  · rw [hgrows.groups]
    rcases hgrows.asked a ha with ⟨b, hb, heq⟩ | ⟨b, hb, heq⟩
    · have hle := h.asked b hb
      rw [heq] at hle
      exact Nat.le_trans hle hgrows.groups_le
    · rw [← heq]
      exact hd b hb

theorem body (h : Row verbose items D) : D.frame.body = Regex.ofItems items := by
  have hbranches : D.frame.branches = [] := (congrArg Frame.branches h.frame :)
  have hitems : D.frame.items = items.reverse := (congrArg Frame.items h.frame :)
  simp only [Frame.body, Frame.branch, hbranches, hitems, List.reverse_reverse]
  rfl

theorem complete (h : Row verbose items D) {template : Bool}
    (hitems : ∀ r ∈ items, r.fault? template = none) : D.Complete template :=
  ⟨h.outer, missingGroup?_eq_none.mpr h.asked, by rw [h.body, Regex.fault?_ofItems]; exact hitems⟩

end Row

/-! ### The whole text -/

/-- What takes the whole text: any characters, and the end of the text. -/
theorem readAll_consuming (D : Draft) {mark : Char} {least : Nat}
    (hmark : mark = '*' ∧ least = 0 ∨ mark = '+' ∧ least = 1) :
    D.readAll ['(', '?', 's', ':', '.', mark, ')', '\\', 'Z']
      = .ok ((D.withItem (.scoped { dotAll := some true }
          (Regex.ofItems [.rounds .greedy least none .any]))).withItem (.anchor .textEnd)) := by
  have hopen : ∀ verbose, readLexeme verbose '(' ['?', 's', ':', '.', mark, ')', '\\', 'Z']
      = .ok (.opening (.scoped { dotAll := some true }), ['.', mark, ')', '\\', 'Z']) := by
    intro verbose
    cases verbose <;> rfl
  have hany : ∀ verbose, readLexeme verbose '.' [mark, ')', '\\', 'Z']
      = .ok (.item .any, [mark, ')', '\\', 'Z']) := by
    intro verbose
    cases verbose <;> rfl
  have hrounds : ∀ verbose, readLexeme verbose mark [')', '\\', 'Z']
      = .ok (.rounds .greedy least none, [')', '\\', 'Z']) := by
    intro verbose
    obtain ⟨rfl, rfl⟩ | ⟨rfl, rfl⟩ := hmark <;> cases verbose <;> rfl
  rw [readAll_cons, hopen]
  simp only [push, pushOpening, bind, Except.bind]
  rw [readAll_cons, hany]
  simp only [push, bind, Except.bind]
  rw [readAll_cons, hrounds]
  simp only [push, pushRounds, enter, Draft.withItem, Regex.repeatable, bind, Except.bind]
  rw [readAll_cons, readLexeme_closing]
  simp only [push, pushClosing, bind, Except.bind]
  rw [readAll_textEnd]
  rfl

end Draft

/-- A text that is a row with an item that is refused is malformed. -/
theorem compileChars_malformed_of_row {flags : Flags} {text : List Char} {D : Draft} {verbose : Bool}
    {items : List Regex} (hflags : flags.Accepted) (hread : readText flags text = .ok D)
    (hglobals : D.globals = []) (row : D.Row verbose items)
    (hfault : ¬ ∀ r ∈ items, r.fault? flags.template = none) :
    (compileChars text flags).Malformed := by
  refine compileChars_malformed_of_fault hflags hread hglobals row.outer
    (Draft.missingGroup?_eq_none.mpr row.asked) ?_
  rw [row.body, Ne, Regex.fault?_ofItems]
  exact hfault

end TextCriteria.Pattern
