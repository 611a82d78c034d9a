import Mathlib.Data.List.TakeWhile
import TextCriteria.Proofs.Composition.Body
import TextCriteria.Proofs.Requirement.Bounded

namespace TextCriteria

open TextCriteria.Pattern TextCriteria.Text

/-!
# Lengths

A fragment on the length of a text counts dots. A dot takes no line break unless the flags say so, so what is
counted are the characters before the first one.

* `reach` — how many characters dots take from the start of a text on.
* `Fragment.Dots` — the fragments on lengths, with their bounds.
* `Fragment.Dots.compile_eq` — what they compile to; `Fragment.Dots.tells`, which texts they accept.
* `Fragment.Tells` — a fragment compiles, and it accepts a text exactly under a condition.
* `Fragment.lengths_reach` — what all of them say about the reach of a text, under all flags;
  `Fragment.lengths_template`, the flag under which they are refused.
* `Fragment.measuresLength_iff` — the texts whose length they decide; `Fragment.not_measuresLength_lines`,
  one that has a line break.
-/

/-! ### Dots -/

/-- How many characters dots take from the start of a text on: those before the first line break, or all of
    them where dots take line breaks too. -/
def reach (flags : Flags) (value : String) : Nat :=
  if flags.dotAll then value.length else (value.toList.takeWhile fun c => !isLineBreak c).length

theorem reach_le (flags : Flags) (value : String) : reach flags value ≤ value.length := by
  unfold reach
  split
  · exact Nat.le_refl _
  · rw [← String.length_toList]
    exact (List.takeWhile_prefix _).length_le

namespace Fragment

theorem dot_toNat (c : Char) : (c.toNat != 10) = !isLineBreak c := by
  have hcode : c.toNat = 10 ↔ c = '\n' := Char.toNat_inj (d := '\n')
  rw [Bool.eq_iff_iff]
  simp [isLineBreak, hcode]

/-- Dots go on as far as the reach of a text. -/
theorem stretch_dot (flags : Flags) (value : String) :
    stretch value.toList.toArray (fun x => flags.inForce.modes.dotAll || x != 10) 0 = reach flags value := by
  have hmode : flags.inForce.modes.dotAll = flags.dotAll := flags.inForce_hasBit (by omega)
  unfold stretch reach
  rw [hmode, List.drop_zero]
  cases flags.dotAll with
  | true =>
    simp only [Bool.true_or, if_true]
    rw [List.takeWhile_eq_self_iff.mpr fun _ _ => rfl, String.length_toList]
  | false => simp only [Bool.false_or, dot_toNat, Bool.false_eq_true, if_false]

/-- What a look ahead at an item with bounds accepts, if the item takes one character. -/
theorem bounded_matchAt {text : Array Char} {m : Modes} {a : Regex} {test : Nat → Bool} {least : Nat}
    {most : Option Nat} (ha : a.ways text m = oneWays text test) (hle : ∀ l, most = some l → least ≤ l)
    (toEnd : Bool) :
    ((bounded least most a toEnd).matchAt text m 0).isSome = true ↔
      ∃ n, least ≤ n ∧ (∀ l, most = some l → n ≤ l) ∧ n ≤ stretch text test 0 ∧
        (toEnd = true → n = text.size) := by
  let rest : Regex := Regex.ofItems (if toEnd then [.anchor .textEnd] else [])
  have hrest (n : Nat) : (rest.run text m some (Pattern.Place.advance { pos := 0 } n)).isSome = true ↔
      (toEnd = true → n = text.size) := by
    cases toEnd <;> simp [rest, Regex.ofItems, Regex.run, Anchor.holds, Pattern.Place.advance]
  have hbody : (boundedBody least most a toEnd).run text m some { pos := 0 }
      = (Regex.rounds .greedy least most a).run text m (rest.run text m some) { pos := 0 } := rfl
  have hlook := ahead_matchAt (boundedBody least most a toEnd) text m
  rw [bounded, hlook, hbody, Regex.isSome_run_iff]
  simp only [Regex.mem_ways_rounds ha hle]
  constructor
  · -- The place where the rest succeeds tells the number of rounds.
    rintro ⟨q, ⟨n, hleast, hmost, hn, rfl⟩, hq⟩
    exact ⟨n, hleast, hmost, hn, (hrest n).mp hq⟩
  · rintro ⟨n, hleast, hmost, hn, hend⟩
    exact ⟨_, ⟨n, hleast, hmost, hn, rfl⟩, (hrest n).mpr hend⟩

/-! ### Fragments on lengths -/

/-- The fragments on lengths whose numbers are small enough: the least and the most number of dots, and
    whether the text ends behind them. -/
inductive Dots : Fragment → Nat → Option Nat → Bool → Prop
  | least {n : Nat} (h : n < maxRepeat) (message : Value) :
      Dots (Requirement.minLength n message).fragment n none false
  | most {n : Nat} (h : n < maxRepeat) (message : Value) :
      Dots (Requirement.maxLength n message).fragment 0 (some n) true
  | between {a b : Nat} (ha : a < maxRepeat) (hb : b < maxRepeat) (message : Value) :
      Dots (Requirement.lengthBetween a b message).fragment a (some b) true
  | exactly {n : Nat} (h : n < maxRepeat) (message : Value) :
      Dots (Requirement.exactLength n message).fragment n (some n) true
  | preset {n : Nat} (h : n < maxRepeat) : Dots (Preset.chars n).fragment n none false

variable {flags : Flags} {f : Fragment} {least : Nat} {most : Option Nat} {toEnd : Bool}

/-- Such a fragment looks ahead at a dot with its bounds. -/
theorem Dots.body_eq (h : f.Dots least most toEnd) : f.kind = .lookahead ∧ ∃ s, States s least most ∧
    f.body.toList = ['.'] ++ '{' :: (s ++ '}' :: endText toEnd) := by
  cases h with
  | least h message =>
    exact ⟨rfl, _, states_least h, by simp [Requirement.minLength, Requirement.of, lookahead, endText]⟩
  | most h message =>
    exact ⟨rfl, _, states_most h, by simp [Requirement.maxLength, Requirement.of, lookahead, endText]⟩
  | between ha hb message =>
    exact ⟨rfl, _, states_between ha hb,
      by simp [Requirement.lengthBetween, Requirement.of, lookahead, endText]⟩
  | exactly h message =>
    exact ⟨rfl, _, states_exactly h, by simp [Requirement.exactLength, Requirement.of, lookahead, endText]⟩
  | preset h => exact ⟨rfl, _, states_least h, by simp [Preset.chars, lookahead, endText]⟩

/-- What a fragment on lengths compiles to. Where repetitions are forbidden it is refused. -/
theorem Dots.compile_eq (hflags : flags.Accepted) (h : f.Dots least most toEnd)
    (hle : ∀ l, most = some l → least ≤ l) :
    compile f.render flags = if flags.template then .error (.malformed (.templateRepeat .greedy) none)
      else .ok ⟨f.render, flags.inForce, bounded least most .any toEnd⟩ := by
  obtain ⟨hk, s, hs, hbody⟩ := h.body_eq
  exact compile_bounded hflags hk Draft.adds_dot rfl rfl hs hle hbody

/-- With bounds in the wrong order it is malformed under all flags. -/
theorem Dots.malformed (hflags : flags.Accepted) {most : Nat} (h : f.Dots least (some most) toEnd)
    (hlt : most < least) : (compile f.render flags).Malformed := by
  obtain ⟨hk, s, hs, hbody⟩ := h.body_eq
  obtain ⟨left, hrefused⟩ := compile_reversed hflags hk Draft.adds_dot hs hlt hbody
  exact ⟨_, left, hrefused⟩

/-- The fragment compiles alone, and it accepts the text exactly under a condition. -/
def Tells (flags : Flags) (f : Fragment) (value : String) (condition : Prop) : Prop :=
  ∃ c, compile f.render flags = .ok c ∧ (c.accepts value = true ↔ condition)

theorem Tells.congr {value : String} {P Q : Prop} (h : f.Tells flags value P) (hPQ : P ↔ Q) :
    f.Tells flags value Q := by
  obtain ⟨c, hc, haccepts⟩ := h
  exact ⟨c, hc, haccepts.trans hPQ⟩

theorem Tells.accepts_iff {value : String} {P : Prop} (h : f.Tells flags value P) :
    f.Accepts flags value ↔ P := by
  obtain ⟨c, hc, haccepts⟩ := h
  exact (Fragment.accepts_iff hc value).trans haccepts

/-- **Dots.** A fragment on lengths accepts a text if some number of dots within its bounds, and within the
    reach of the text, leads to the end if there has to be one. -/
theorem Dots.tells (hflags : flags.Accepted) (htemplate : flags.template = false)
    (h : f.Dots least most toEnd) (hle : ∀ l, most = some l → least ≤ l) (value : String) :
    f.Tells flags value (∃ n, least ≤ n ∧ (∀ l, most = some l → n ≤ l) ∧ n ≤ reach flags value ∧
      (toEnd = true → n = value.length)) := by
  refine ⟨_, (h.compile_eq hflags hle).trans (if_neg (by simp [htemplate])), ?_⟩
  have hmatch := bounded_matchAt (Regex.ways_any value.toList.toArray flags.inForce.modes) hle toEnd
  rw [stretch_dot, List.size_toArray, String.length_toList] at hmatch
  exact hmatch

section Texts

variable (hflags : flags.Accepted) (htemplate : flags.template = false) (value : String)
include hflags htemplate

/-- A least number of dots. -/
theorem Dots.tells_open (h : f.Dots least none false) :
    f.Tells flags value (least ≤ reach flags value) := by
  refine (h.tells hflags htemplate (by simp) value).congr ⟨?_, fun hreach => ?_⟩
  · rintro ⟨n, hleast, -, hn, -⟩
    omega
  · exact ⟨least, Nat.le_refl least, by simp, hreach, by simp⟩

/-- Dots up to the end. Only one number of them leads there, and only if all characters are within reach. -/
theorem Dots.tells_toEnd {most : Nat} (h : f.Dots least (some most) true) (hle : least ≤ most) :
    f.Tells flags value (reach flags value = value.length ∧ least ≤ value.length ∧ value.length ≤ most) := by
  refine (h.tells hflags htemplate (by simpa using hle) value).congr
    ⟨?_, fun ⟨hall, hleast, hmost⟩ => ?_⟩
  · rintro ⟨n, hleast, hmost, hn, hend⟩
    have hend := hend rfl
    have hmost := hmost most rfl
    have hreach := reach_le flags value
    omega
  · exact ⟨value.length, hleast, by simpa using hmost, hall.ge, fun _ => rfl⟩

variable (message : Value)

theorem minLength_tells {n : Nat} (hn : n < maxRepeat) :
    (Requirement.minLength n message).fragment.Tells flags value (n ≤ reach flags value) :=
  Dots.tells_open hflags htemplate value (.least hn message)

theorem maxLength_tells {n : Nat} (hn : n < maxRepeat) :
    (Requirement.maxLength n message).fragment.Tells flags value
      (reach flags value = value.length ∧ value.length ≤ n) :=
  (Dots.tells_toEnd hflags htemplate value (.most hn message) (Nat.zero_le n)).congr (by omega)

theorem exactLength_tells {n : Nat} (hn : n < maxRepeat) :
    (Requirement.exactLength n message).fragment.Tells flags value
      (reach flags value = value.length ∧ value.length = n) :=
  (Dots.tells_toEnd hflags htemplate value (.exactly hn message) (Nat.le_refl n)).congr (by omega)

/-- Between two bounds, both of them included. -/
theorem lengthBetween_tells {a b : Nat} (ha : a < maxRepeat) (hb : b < maxRepeat) (hab : a ≤ b) :
    (Requirement.lengthBetween a b message).fragment.Tells flags value
      (reach flags value = value.length ∧ a ≤ reach flags value ∧ reach flags value ≤ b) :=
  (Dots.tells_toEnd hflags htemplate value (.between ha hb message) hab).congr (by omega)

end Texts

/-! ### A single dot -/

/-- One dot is no repetition, so it compiles under all flags. -/
theorem compile_required (hflags : flags.Accepted) (message : Value) :
    compile (Requirement.required message).fragment.render flags
      = .ok ⟨(Requirement.required message).fragment.render, flags.inForce, ahead (Regex.ofItems [.any])⟩ := by
  have hbody : (Requirement.required message).fragment.body.toList ++ [')'] = ['.', ')'] := by
    simp [Requirement.required, Requirement.of, lookahead]
  obtain ⟨n, left, hread⟩ := readText_lookahead flags (f := (Requirement.required message).fragment) rfl
  have hreads : ReadsTo flags (Requirement.required message).fragment.render.toList
      (ahead (Regex.ofItems [.any])) := by
    rw [ReadsTo, hread, hbody, Draft.readAll_dot, Draft.readAll_cons, readLexeme_closing]
    exact ⟨_, rfl, rfl, rfl, rfl, rfl⟩
  exact hreads.compile_eq hflags

theorem required_tells (hflags : flags.Accepted) (message : Value) (value : String) :
    (Requirement.required message).fragment.Tells flags value (1 ≤ reach flags value) := by
  refine ⟨_, compile_required hflags message, ?_⟩
  have hstretch := stretch_dot flags value
  rw [Compiled.accepts, Compiled.match?, ahead_matchAt, Regex.isSome_run_iff]
  simp only [Regex.mem_ways_cons, Regex.mem_ways_nil, Regex.ways_any, mem_oneWays, hstretch]
  simp [Nat.succ_le_iff]

/-! ### All of them -/

section Bounds

variable (hflags : flags.Accepted)
include hflags

/-- Where repetitions are forbidden, a fragment on lengths accepts nothing. -/
theorem Dots.not_accepts (htemplate : flags.template = true) (h : f.Dots least most toEnd)
    (hle : ∀ l, most = some l → least ≤ l) (value : String) : ¬f.Accepts flags value := by
  rintro ⟨c, hc, -⟩
  rw [h.compile_eq hflags hle, if_pos htemplate] at hc
  cases hc

/-- What it accepts under whatever flags: a text with so many characters in reach. -/
theorem Dots.accepts_open (h : f.Dots least none false) (value : String) :
    f.Accepts flags value ↔ flags.template = false ∧ least ≤ reach flags value := by
  cases htemplate : flags.template with
  | true => exact iff_of_false (h.not_accepts hflags htemplate (by simp) value) fun h => nomatch h.1
  | false => rw [(h.tells_open hflags htemplate value).accepts_iff, and_iff_right rfl]

/-- And one that is all in reach, with a length within the bounds. -/
theorem Dots.accepts_toEnd {most : Nat} (h : f.Dots least (some most) true) (value : String) :
    f.Accepts flags value ↔ flags.template = false ∧ reach flags value = value.length ∧
      least ≤ value.length ∧ value.length ≤ most := by
  by_cases hle : least ≤ most
  · cases htemplate : flags.template with
    | true =>
      exact iff_of_false (h.not_accepts hflags htemplate (by simpa using hle) value) fun h => nomatch h.1
    | false => rw [(h.tells_toEnd hflags htemplate value hle).accepts_iff, and_iff_right rfl]
  · -- There is no pattern, and no length is within the bounds.
    obtain ⟨cause, left, hrefused⟩ := h.malformed hflags (Nat.not_le.mp hle)
    refine iff_of_false ?_ (by omega)
    rintro ⟨c, hc, -⟩
    cases hc.symm.trans hrefused

variable {a b n : Nat} (message : Value)

/-- Composition and diagnosis blame bounds in the wrong order, behind requirements that compile. -/
theorem lengthBetween_blamed (ha : a < maxRepeat) (hb : b < maxRepeat) (hlt : b < a)
    {before : List Requirement} (hbefore : ∀ q ∈ before, q.Compiles flags) (after : List Requirement) :
    let r := Requirement.lengthBetween a b message
    r.BlamedBy (compose (before ++ r :: after) flags) ∧
      ∀ value, r.BlamedBy (diagnose (before ++ r :: after) value flags) := by
  have hmalformed := (Dots.between ha hb message).malformed hflags hlt
  exact ⟨(blamedBy_compose hbefore).mpr hmalformed,
    fun value => (blamedBy_diagnose hbefore value).mpr hmalformed⟩

theorem lengthBetween_compiles_iff (htemplate : flags.template = false) (ha : a < maxRepeat)
    (hb : b < maxRepeat) :
    Pattern.Compiles flags (Requirement.lengthBetween a b message).fragment.render ↔ a ≤ b := by
  constructor
  · rintro ⟨c, hc⟩
    by_contra hlt
    obtain ⟨cause, left, hrefused⟩ := (Dots.between ha hb message).malformed hflags (Nat.not_le.mp hlt)
    cases hc.symm.trans hrefused
  · intro hab
    obtain ⟨c, hc, -⟩ := lengthBetween_tells hflags htemplate "" message ha hb hab
    exact ⟨c, hc⟩

/-- Two bounds ask for what each of them asks for. -/
theorem lengthBetween_accepts_iff (ha : a < maxRepeat) (hb : b < maxRepeat) (value : String) :
    (Requirement.lengthBetween a b message).fragment.Accepts flags value ↔
      (Requirement.minLength a message).fragment.Accepts flags value ∧
        (Requirement.maxLength b message).fragment.Accepts flags value := by
  rw [(Dots.between ha hb message).accepts_toEnd hflags, (Dots.least ha message).accepts_open hflags,
    (Dots.most hb message).accepts_toEnd hflags]
  constructor
  · rintro ⟨htemplate, hall, hleast, hmost⟩
    exact ⟨⟨htemplate, by omega⟩, htemplate, hall, Nat.zero_le _, hmost⟩
  · rintro ⟨⟨htemplate, hleast⟩, -, hall, -, hmost⟩
    exact ⟨htemplate, hall, by omega, hmost⟩

theorem exactLength_accepts_iff (hn : n < maxRepeat) (value : String) :
    (Requirement.exactLength n message).fragment.Accepts flags value ↔
      (Requirement.lengthBetween n n message).fragment.Accepts flags value := by
  rw [(Dots.exactly hn message).accepts_toEnd hflags, (Dots.between hn hn message).accepts_toEnd hflags]

end Bounds

/-- **Lengths.** The fragments on lengths regard the reach of a text, and those with an upper bound ask that
    it be the whole text. Where repetitions are forbidden, only the single dot is left. Bounds in the wrong
    order are refused, and bounds in order can be asked for one by one. -/
theorem lengths_reach (hflags : flags.Accepted) {n a b : Nat} (hn : n < maxRepeat) (ha : a < maxRepeat)
    (hb : b < maxRepeat) (message : Value) (value : String) :
    (flags.template = false →
      (Requirement.minLength n message).fragment.Tells flags value (n ≤ reach flags value) ∧
      (Requirement.maxLength n message).fragment.Tells flags value
        (reach flags value = value.length ∧ value.length ≤ n) ∧
      (Requirement.exactLength n message).fragment.Tells flags value
        (reach flags value = value.length ∧ value.length = n) ∧
      (Pattern.Compiles flags (Requirement.lengthBetween a b message).fragment.render ↔ a ≤ b) ∧
      (a ≤ b → (Requirement.lengthBetween a b message).fragment.Tells flags value
        (reach flags value = value.length ∧ a ≤ reach flags value ∧ reach flags value ≤ b))) ∧
    (flags.template = true → ∀ (f : Fragment) least most toEnd, f.Dots least most toEnd →
      (∀ l, most = some l → least ≤ l) →
      compile f.render flags = .error (.malformed (.templateRepeat .greedy) none)) ∧
    (Requirement.required message).fragment.Tells flags value (1 ≤ reach flags value) ∧
    (b < a → ∀ before after, (∀ q ∈ before, q.Compiles flags) →
      let r := Requirement.lengthBetween a b message
      r.BlamedBy (compose (before ++ r :: after) flags) ∧
        ∀ value, r.BlamedBy (diagnose (before ++ r :: after) value flags)) ∧
    ((Requirement.lengthBetween a b message).fragment.Accepts flags value ↔
      (Requirement.minLength a message).fragment.Accepts flags value ∧
        (Requirement.maxLength b message).fragment.Accepts flags value) ∧
    ((Requirement.exactLength n message).fragment.Accepts flags value ↔
      (Requirement.lengthBetween n n message).fragment.Accepts flags value) := by
  refine ⟨fun htemplate => ?_, fun htemplate f least most toEnd h hle => ?_, ?_,
    fun hlt before after hbefore => ?_, ?_, ?_⟩
  · exact ⟨minLength_tells hflags htemplate value message hn,
      maxLength_tells hflags htemplate value message hn,
      exactLength_tells hflags htemplate value message hn,
      lengthBetween_compiles_iff hflags message htemplate ha hb,
      lengthBetween_tells hflags htemplate value message ha hb⟩
  · rw [h.compile_eq hflags hle, if_pos htemplate]
  · exact required_tells hflags message value
  · exact lengthBetween_blamed hflags message ha hb hlt hbefore after
  · exact lengthBetween_accepts_iff hflags message ha hb value
  · exact exactLength_accepts_iff hflags message hn value

/-- Dots stop at a line break, and the end of the text is not reached. -/
theorem lengths_reach_lines :
    Flags.Accepted 0 ∧ 2 < maxRepeat ∧ 4 < maxRepeat ∧
      (Requirement.minLength 2 .null).fragment.Accepts 0 "ab\nc" ∧
      ¬(Requirement.lengthBetween 2 4 .null).fragment.Accepts 0 "ab\nc" := by
  have hflags : Flags.Accepted 0 := ⟨_, rfl⟩
  have htwo : 2 < maxRepeat := by decide
  have hfour : 4 < maxRepeat := by decide
  have hreach : reach 0 "ab\nc" = 2 := by decide
  obtain ⟨hmin, -, -, -, hbetween⟩ := (lengths_reach hflags htwo htwo hfour .null "ab\nc").1 rfl
  have hbetween := hbetween (by decide)
  rw [hreach] at hmin hbetween
  exact ⟨hflags, htwo, hfour, hmin.accepts_iff.mpr (Nat.le_refl 2),
    mt hbetween.accepts_iff.mp (by decide)⟩

/-- **Repetitions forbidden.** Under the flag that forbids them, no bound on the length compiles. -/
theorem lengths_template :
    Flags.Accepted 1 ∧ 1 ≤ reach 1 "a" ∧
      compile (Requirement.minLength 1 .null).fragment.render 1
        = .error (.malformed (.templateRepeat .greedy) none) :=
  ⟨⟨_, rfl⟩, by decide, rfl⟩

/-! ### Where lengths are measured -/

/-- The fragments on lengths decide the length of a text. -/
def MeasuresLength (flags : Flags) (value : String) : Prop :=
  ∀ n a b, n < maxRepeat → a < maxRepeat → b < maxRepeat → a ≤ b → ∀ message,
    (Requirement.minLength n message).fragment.Tells flags value (n ≤ value.length) ∧
    (Requirement.maxLength n message).fragment.Tells flags value (value.length ≤ n) ∧
    (Requirement.lengthBetween a b message).fragment.Tells flags value
      (a ≤ value.length ∧ value.length ≤ b) ∧
    (Requirement.exactLength n message).fragment.Tells flags value (value.length = n) ∧
    (Requirement.required message).fragment.Tells flags value (value ≠ "")

/-- They do so if the reach is the length, or longer than any bound. -/
theorem measuresLength_iff_reach (hflags : flags.Accepted) (htemplate : flags.template = false)
    (value : String) :
    MeasuresLength flags value ↔ reach flags value = value.length ∨ maxRepeat ≤ reach flags value + 1 := by
  have hle := reach_le flags value
  constructor
  · intro h
    by_contra hshort
    -- A bound right above the reach is met by the length, and not by the dots.
    have hn : reach flags value + 1 < maxRepeat := by omega
    have hmin := (h _ 0 0 hn (by decide) (by decide) (Nat.le_refl 0) .null).1.accepts_iff
    rw [(minLength_tells hflags htemplate value .null hn).accepts_iff] at hmin
    omega
  · intro h n a b hn ha hb hab message
    have hempty : value ≠ "" ↔ value.length ≠ 0 := by simp
    -- A reach beyond all bounds that can be written decides them just as the length does.
    refine ⟨(minLength_tells hflags htemplate value message hn).congr (by omega),
      (maxLength_tells hflags htemplate value message hn).congr (by omega),
      (lengthBetween_tells hflags htemplate value message ha hb hab).congr (by omega),
      (exactLength_tells hflags htemplate value message hn).congr (by omega),
      (required_tells hflags message value).congr ?_⟩
    have hlarge : maxRepeat = 4294967295 := rfl
    rw [hempty]
    omega

/-- The first `k` members pass a test if all do, or if those before the first that does not are as many. -/
theorem forall_take_iff {α : Type} (test : α → Bool) (l : List α) (k : Nat) :
    (∀ c ∈ l.take k, test c = true) ↔
      (l.takeWhile test).length = l.length ∨ k ≤ (l.takeWhile test).length := by
  induction l generalizing k with
  | nil => simp
  | cons c l ih =>
    cases k with
    | zero => simp
    | succ k =>
      cases hc : test c with
      | true => simp [hc, ih k]
      | false => simp [hc]

/-- **Lengths of texts.** Without flags, the fragments on lengths decide the length of exactly the texts that
    have no line break before the last bound that can be written. -/
theorem measuresLength_iff (value : String) :
    MeasuresLength 0 value ↔ '\n' ∉ value.toList.take (maxRepeat - 1) := by
  have hreach : reach 0 value = (value.toList.takeWhile fun c => !isLineBreak c).length := rfl
  have htake := forall_take_iff (fun c => !isLineBreak c) value.toList (maxRepeat - 1)
  rw [measuresLength_iff_reach ⟨_, rfl⟩ rfl, hreach, ← String.length_toList, ← Nat.sub_le_iff_le_add,
    ← htake]
  simp only [isLineBreak, Bool.not_eq_true', beq_eq_false_iff_ne, ne_eq]
  exact ⟨fun h hmem => h _ hmem rfl, fun h c hmem hc => h (hc ▸ hmem)⟩

/-- **Line breaks.** A text of three characters with a line break in it is no text of at most three. -/
theorem not_measuresLength_lines :
    "a\nb".length ≤ 3 ∧ ¬(Requirement.maxLength 3 .null).fragment.Accepts 0 "a\nb" ∧
      ¬MeasuresLength 0 "a\nb" := by
  have hnot : ¬(Requirement.maxLength 3 .null).fragment.Accepts 0 "a\nb" := by
    rintro ⟨c, hc, haccepts⟩
    cases hc
    revert haccepts
    decide
  refine ⟨by decide, hnot, fun h => ?_⟩
  have hmax := (h 3 0 0 (by decide) (by decide) (by decide) (Nat.le_refl 0) .null).2.1
  exact hnot (hmax.accepts_iff.mpr (by decide))

end Fragment
end TextCriteria
