import TextCriteria.Pattern.Draft
import TextCriteria.Proofs.Pattern.Locality

namespace TextCriteria.Pattern

open TextCriteria.Text

/-!
# Reading in single steps

A text is read by adding one lexeme after the other to a draft, whatever bound the reader is given.

* `Draft.readAll_cons` — the reader takes one lexeme and goes on.
* `Outcome.Malformed` — the outcome for a text that is no pattern.
* `Draft.Reads` — some lexemes lead from one draft through a text to another draft.
* `Draft.readAll_eq_ok` — a text is read exactly when its lexemes lead through it.
* `Draft.lexemes` — the lexemes of a text.
-/

/-- A text was refused because it is malformed. -/
def Outcome.Malformed {α : Type} (x : Outcome α) : Prop :=
  ∃ cause left, x = .error (.malformed cause left)

/-! ### One lexeme after the other -/

namespace Draft

/-- The bound makes no difference once it is large enough. -/
theorem readSome_eq (fuel : Nat) (d : Draft) (s : List Char) (h : s.length ≤ fuel) :
    readSome fuel d s = readSome s.length d s := by
  induction fuel using Nat.strongRecOn generalizing d s with
  | ind fuel ih =>
    cases s with
    | nil => cases fuel <;> simp [readSome]
    | cons c rest =>
      obtain ⟨fuel, rfl⟩ : ∃ k, fuel = k + 1 := ⟨fuel - 1, by simp at h; omega⟩
      simp only [readSome, List.length_cons, bind, Except.bind]
      cases hl : readLexeme d.frame.verbose c rest with
      | error e => rfl
      | ok x =>
        have hshort := readLexeme_shorter hl
        simp only [List.length_cons] at hshort h
        cases hp : d.push x.1 (rest.length + 1) x.2.length with
        | error e => simp [hp]
        | ok d' =>
          simp only [hp]
          rw [ih fuel (by omega) d' x.2 (by omega)]
          rcases Nat.lt_or_ge rest.length (fuel + 1) with hlt | hge
          · exact (ih rest.length (by omega) d' x.2 (by omega)).symm
          · omega

@[simp] theorem readAll_nil (d : Draft) : d.readAll [] = .ok d := rfl

/-- The reader takes one lexeme, adds it and goes on with the rest. -/
theorem readAll_cons (d : Draft) (c : Char) (rest : List Char) :
    d.readAll (c :: rest)
      = (readLexeme d.frame.verbose c rest >>= fun x =>
          d.push x.1 (rest.length + 1) x.2.length >>= fun d' => d'.readAll x.2) := by
  unfold readAll
  simp only [List.length_cons, readSome, bind, Except.bind]
  cases hl : readLexeme d.frame.verbose c rest with
  | error e => rfl
  | ok x =>
    have hshort := readLexeme_shorter hl
    simp only [List.length_cons] at hshort
    cases hp : d.push x.1 (rest.length + 1) x.2.length with
    | error e => simp [hp]
    | ok d' =>
      simp only [hp]
      exact readSome_eq _ _ _ (by omega)

/-- The lexemes `ls`, added one by one, lead from the draft `d` through the text `s` to the draft `e`;
    `n` characters follow the text. None of the lexemes looks behind the end of the text, unless the
    last one is a comment that is still open there; `isOpen` tells whether it is. -/
inductive Reads (n : Nat) : Bool → Draft → List Char → List Lexeme → Draft → Prop
  | done (d : Draft) : Reads n false d [] [] d
  | comment {d : Draft} {c : Char} {rest : List Char}
      (hopen : OpenComment d.frame.verbose c rest) : Reads n true d (c :: rest) [.skip] d
  | step {isOpen : Bool} {d d' e : Draft} {c : Char} {rest rest' : List Char} {l : Lexeme}
      {ls : List Lexeme} (hl : readLexeme d.frame.verbose c rest = .ok (l, rest'))
      (pass : Passes (readLexeme d.frame.verbose c) rest l rest')
      (hp : d.push l (rest.length + 1 + n) (rest'.length + n) = .ok d')
      (hs : Reads n isOpen d' rest' ls e) : Reads n isOpen d (c :: rest) (l :: ls) e

/-- A comment that is still open is a lexeme to the end. -/
theorem readLexeme_open {verbose : Bool} {c : Char} {s : List Char} (h : OpenComment verbose c s)
    (t : List Char) :
    readLexeme verbose c (s ++ t) = (skipLine t >>= fun r => .ok (.skip, r)) := by
  obtain ⟨rfl, rfl, hskip⟩ := h
  have hlayout : isLayout '#' = false := by decide
  simp [readLexeme, hlayout, hskip t]

/-- A text is read exactly when its lexemes lead through it. -/
theorem readAll_eq_ok {d e : Draft} {s : List Char} :
    d.readAll s = .ok e ↔ ∃ isOpen ls, Reads 0 isOpen d s ls e := by
  constructor
  · intro h
    induction hn : s.length using Nat.strongRecOn generalizing d s with
    | ind n ih =>
      cases s with
      | nil =>
        obtain rfl : d = e := by simpa using h
        exact ⟨false, [], .done _⟩
      | cons c rest =>
        rw [readAll_cons] at h
        obtain ⟨⟨l, rest'⟩, hl, h⟩ := bind_eq_ok.mp h
        obtain ⟨d', hp, h⟩ := bind_eq_ok.mp h
        obtain pass | ⟨rfl, rfl, hopen⟩ := readLexeme_passes hl
        · obtain ⟨isOpen, ls, hs⟩ := ih rest'.length (hn ▸ readLexeme_shorter hl) h rfl
          exact ⟨isOpen, l :: ls, .step hl pass hp hs⟩
        · obtain rfl : d = d' := by simpa [push] using hp
          obtain rfl : d = e := by simpa using h
          exact ⟨true, [.skip], .comment hopen⟩
  · rintro ⟨isOpen, ls, h⟩
    induction h with
    | done => rfl
    | @comment d c rest hopen =>
      have hl := readLexeme_open hopen []
      rw [List.append_nil] at hl
      rw [readAll_cons, hl]
      rfl
    | step hl _ hp _ ih =>
      simp only [Nat.add_zero] at hp
      rw [readAll_cons, hl]
      simp only [bind, Except.bind]
      rw [hp]
      exact ih

/-- A text is read in the same way before a closing parenthesis. A comment that is still open at its
    end takes the parenthesis and the rest of the line with it. -/
theorem Reads.beyond {isOpen : Bool} {d e : Draft} {s : List Char} {ls : List Lexeme} {t : List Char}
    (h : Reads (t.length + 1) isOpen d s ls e) :
    d.readAll (s ++ ')' :: t)
      = if isOpen then skipLine t >>= e.readAll else e.readAll (')' :: t) := by
  induction h with
  | done d => rfl
  | @comment d c rest hopen =>
    have hline : skipLine (')' :: t) = skipLine t := by simp [skipLine]
    rw [List.cons_append, readAll_cons, readLexeme_open hopen, hline]
    cases skipLine t <;> rfl
  | @step isOpen d d' e c rest rest' l ls hl pass hp hs ih =>
    have hleft : (rest ++ ')' :: t).length + 1 = rest.length + 1 + (t.length + 1) := by
      rw [List.length_append, List.length_cons]
      omega
    have hafter : (rest' ++ ')' :: t).length = rest'.length + (t.length + 1) := by
      rw [List.length_append, List.length_cons]
    rw [List.cons_append, readAll_cons, pass.beyond t]
    simp only [bind, Except.bind]
    rw [hleft, hafter, hp]
    exact ih

/-- The lexemes of a text, at most as many as the first argument says. -/
def lexemesSome : Nat → Draft → List Char → List Lexeme
  | _, _, [] => []
  | 0, _, _ => []
  | fuel + 1, d, c :: rest =>
    match readLexeme d.frame.verbose c rest with
    | .error _ => []
    | .ok (l, rest') =>
      match d.push l (rest.length + 1) rest'.length with
      | .error _ => [l]
      | .ok d' => l :: lexemesSome fuel d' rest'

/-- The lexemes of a text, as far as it can be read. -/
def lexemes (d : Draft) (text : List Char) : List Lexeme :=
  lexemesSome text.length d text

theorem lexemesSome_eq (fuel : Nat) (d : Draft) (s : List Char) (h : s.length ≤ fuel) :
    lexemesSome fuel d s = lexemesSome s.length d s := by
  induction fuel using Nat.strongRecOn generalizing d s with
  | ind fuel ih =>
    cases s with
    | nil => cases fuel <;> rfl
    | cons c rest =>
      obtain ⟨fuel, rfl⟩ : ∃ k, fuel = k + 1 := ⟨fuel - 1, by simp at h; omega⟩
      simp only [lexemesSome, List.length_cons]
      cases hl : readLexeme d.frame.verbose c rest with
      | error e => rfl
      | ok x =>
        have hshort := readLexeme_shorter hl
        simp only [List.length_cons] at hshort h
        cases hp : d.push x.1 (rest.length + 1) x.2.length with
        | error e => simp [hp]
        | ok d' =>
          simp only [hp]
          rw [ih fuel (by omega) d' x.2 (by omega)]
          rcases Nat.lt_or_ge rest.length (fuel + 1) with hlt | hge
          · rw [ih rest.length (by omega) d' x.2 (by omega)]
          · omega

@[simp] theorem lexemes_nil (d : Draft) : d.lexemes [] = [] := rfl

/-- The lexemes of a text are the first one and those of the rest, as far as they can be added. -/
theorem lexemes_cons (d : Draft) (c : Char) (rest : List Char) :
    d.lexemes (c :: rest)
      = match readLexeme d.frame.verbose c rest with
        | .error _ => []
        | .ok (l, rest') =>
          match d.push l (rest.length + 1) rest'.length with
          | .error _ => [l]
          | .ok d' => l :: d'.lexemes rest' := by
  unfold lexemes
  simp only [List.length_cons, lexemesSome]
  cases hl : readLexeme d.frame.verbose c rest with
  | error e => rfl
  | ok x =>
    have hshort := readLexeme_shorter hl
    simp only [List.length_cons] at hshort
    cases hp : d.push x.1 (rest.length + 1) x.2.length with
    | error e => simp [hp]
    | ok d' =>
      simp only [hp]
      rw [lexemesSome_eq _ _ _ (by omega)]

/-- The lexemes that lead through a text are those of the text. -/
theorem Reads.lexemes_eq {isOpen : Bool} {d e : Draft} {s : List Char} {ls : List Lexeme}
    (h : Reads 0 isOpen d s ls e) : d.lexemes s = ls := by
  induction h with
  | done d => rfl
  | @comment d c rest hopen =>
    have hl : readLexeme d.frame.verbose c rest = .ok (.skip, []) := by
      simpa [skipLine, bind, Except.bind] using readLexeme_open hopen []
    simp only [lexemes_cons, hl, push, lexemes_nil]
  | step hl _ hp _ ih =>
    simp only [Nat.add_zero] at hp
    simp only [lexemes_cons, hl, hp, ih]

end Draft

/-! ### What lexemes contain -/

namespace Lexeme

/-- How many groups are opened. -/
def groupCount : Lexeme → Nat
  | .opening (.capture _) => 1
  | _ => 0

/-- The name of the group that is opened. -/
def groupName? : Lexeme → Option (List Char)
  | .opening (.capture name) => name
  | _ => none

/-- The name by which a group is referred to. -/
def name? : Lexeme → Option (List Char)
  | .reference (.name name) => some name
  | .opening (.conditional (.name name)) => some name
  | _ => none

/-- The number by which a group is referred to. -/
def number? : Lexeme → Option Nat
  | .reference (.number i) => some i
  | .opening (.conditional (.number i)) => some i
  | _ => none

/-- Refers to a group by its number. -/
def refersByNumber (l : Lexeme) : Bool :=
  l.number?.isSome

/-- Asks for flags of the whole pattern. -/
def isGlobal : Lexeme → Bool
  | .globalFlags _ => true
  | _ => false

/-- The group numbers that conditionals ask for, given those asked for before. -/
def asks : Lexeme → List Nat → List Nat
  | .opening (.conditional (.number i)), asked => if i ∈ asked then asked else i :: asked
  | _, asked => asked

/-- Whether layout is free inside the parentheses that are open, from the inside out. -/
def layout : Lexeme → List Bool → List Bool
  | .opening (.scoped change), verbose :: outer => change.verbose.getD verbose :: verbose :: outer
  | .opening _, verbose :: outer => verbose :: verbose :: outer
  | .closing, _ :: outer => outer
  | .globalFlags letters, verbose :: outer => (verbose || letters.contains 'x') :: outer
  | _, layout => layout

end Lexeme
end TextCriteria.Pattern
