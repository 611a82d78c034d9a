import TextCriteria.Proofs.Composition.Diagnosis
import TextCriteria.Proofs.Pattern.Caseless
import TextCriteria.Proofs.Requirement.Bounded

namespace TextCriteria

open TextCriteria.Pattern TextCriteria.Text

/-!
# Counts of characters

A fragment that counts holds for the texts that have enough characters of a class, wherever these stand.
Each round of it goes to the next character of the class, which leaves the others for the rounds behind it.

* `CharacterKind.has` — the characters of a kind.
* `countP_findIdx?` — counting by going to the next one that counts.
* `Fragment.mem_ways_nextMember` — one round of such a fragment; `Fragment.exists_times_nextMember`, some
  rounds.
* `Fragment.compile_atLeast` — what such a fragment compiles to.
* `Fragment.Counts` — the fragments that count, with what they count.
* `Fragment.counts_characters` — which texts they accept; `Fragment.counts_template`, the exception.
-/

/-! ### Characters of a kind -/

/-- Whether a character is of a kind. All of them are characters of ASCII. -/
def CharacterKind.has : CharacterKind → Char → Bool
  | .letter, c => ('a' ≤ c && c ≤ 'z') || ('A' ≤ c && c ≤ 'Z')
  | .lowercase, c => 'a' ≤ c && c ≤ 'z'
  | .uppercase, c => 'A' ≤ c && c ≤ 'Z'
  | .digit, c => '0' ≤ c && c ≤ '9'
  | .special, c => "!@#$%^&*?~".toList.contains c

/-- Whether a character is a special one in passwords. -/
def Preset.hasSpecial (c : Char) : Bool := "!@#$%^&*".toList.contains c

/-- Counting goes to the next one that counts, and on from there. -/
theorem countP_findIdx? {α : Type} (hit : α → Bool) (l : List α) :
    l.countP hit = match l.findIdx? hit with
      | none => 0
      | some i => (l.drop (i + 1)).countP hit + 1 := by
  induction l with
  | nil => rfl
  | cons c rest ih =>
    rw [List.findIdx?_cons, List.countP_cons]
    cases hc : hit c with
    | true => simp
    | false =>
      simp only [Bool.false_eq_true, ↓reduceIte, Nat.add_zero, ih]
      cases rest.findIdx? hit <;> rfl

/-- The next one that counts stands behind a stretch of those that do not. -/
theorem findIdx?_eq_some_iff {α : Type} (hit : α → Bool) (l : List α) (n : Nat) :
    l.findIdx? hit = some n ↔
      n ≤ (l.takeWhile fun c => !hit c).length ∧ 0 < ((l.drop n).takeWhile hit).length := by
  induction l generalizing n with
  | nil => simp
  | cons c rest ih =>
    cases hc : hit c with
    | true => cases n <;> simp [List.findIdx?_cons, hc]
    | false => cases n <;> simp [List.findIdx?_cons, hc, ih]

namespace Fragment

/-! ### Rounds to the next member -/

section Rounds

variable {text : Array Char} {m : Modes} {members : List ClassMember} {p q : Pattern.Place}

/-- Whether a character is a member of a class. -/
def isMember (m : Modes) (members : List ClassMember) (c : Char) : Bool :=
  admitsClass m false members c.toNat

/-- The complement of a class has all other characters. -/
theorem admitsClass_complement (m : Modes) (members : List ClassMember) (c : Char) :
    admitsClass m true members c.toNat = !isMember m members c := by
  simp [isMember, admitsClass]

/-- **One round.** It goes behind the next member of the class: what it goes over before is no member, so it
    cannot stop any earlier. -/
theorem mem_ways_nextMember : q ∈ (nextMember members).ways text m p ↔
    ∃ i, (text.toList.drop p.pos).findIdx? (isMember m members) = some i ∧ q = p.advance (i + 1) := by
  have hscoped : (nextMember members).ways text m p
      = (Regex.ofItems [.rounds .greedy 0 none (.oneOf true members), .oneOf false members]).ways text m p := rfl
  have hstretch (i : Nat) : (text.toList.drop p.pos).findIdx? (isMember m members) = some i ↔
      i ≤ stretch text (admitsClass m true members) p.pos ∧
        0 < stretch text (admitsClass m false members) (p.pos + i) := by
    rw [findIdx?_eq_some_iff, stretch, stretch, List.drop_drop]
    simp only [admitsClass_complement]
    rfl
  have hbounds : ∀ l, (none : Option Nat) = some l → 0 ≤ l := by simp
  simp only [hscoped, Regex.mem_ways_cons, Regex.mem_ways_nil,
    Regex.mem_ways_rounds (Regex.ways_oneOf text m true members) hbounds, Regex.ways_oneOf, mem_oneWays,
    hstretch]
  constructor
  · rintro ⟨_, ⟨i, -, -, hi, rfl⟩, _, ⟨hpos, rfl⟩, rfl⟩
    exact ⟨i, ⟨hi, hpos⟩, p.advance_advance i 1⟩
  · rintro ⟨i, ⟨hi, hpos⟩, rfl⟩
    exact ⟨_, ⟨i, Nat.zero_le i, by simp, hi, rfl⟩, _, ⟨hpos, rfl⟩, (p.advance_advance i 1).symm⟩

/-- **Rounds.** There are as many as there are members of the class from the place on. -/
theorem exists_times_nextMember (n : Nat) (p : Pattern.Place) :
    (∃ q, q ∈ timesWays ((nextMember members).ways text m) n p) ↔
      n ≤ (text.toList.drop p.pos).countP (isMember m members) := by
  induction n generalizing p with
  | zero => simp [timesWays]
  | succ n ih =>
    -- The first round takes one member; the others find those behind it.
    rw [countP_findIdx?]
    simp only [timesWays, List.mem_flatMap, mem_ways_nextMember]
    cases (text.toList.drop p.pos).findIdx? (isMember m members) with
    | none => simp
    | some i =>
      have hdrop : text.toList.drop (p.advance (i + 1)).pos = (text.toList.drop p.pos).drop (i + 1) :=
        List.drop_drop.symm
      have hrest := ih (p.advance (i + 1))
      rw [hdrop] at hrest
      simpa using hrest

/-- The tree of a fragment that counts. -/
def counting (members : List ClassMember) (n : Nat) : Regex :=
  Regex.ofItems [.lookahead false (Regex.ofItems [.rounds .greedy n (some n) (nextMember members)])]

theorem counting_matchAt (members : List ClassMember) (n : Nat) (text : Array Char) (m : Modes) :
    ((counting members n).matchAt text m 0).isSome = true
      ↔ n ≤ text.toList.countP (isMember m members) := by
  have htree : counting members n
      = ahead (Regex.ofItems [.rounds .greedy n (some n) (nextMember members)]) := rfl
  have htimes := @exists_times_nextMember text m members n { pos := 0 }
  rw [htree, ahead_matchAt, Regex.isSome_run_iff]
  simp only [Regex.mem_ways_cons, Regex.mem_ways_nil, Regex.mem_ways_exactly]
  simpa using htimes

end Rounds

/-! ### What is compiled -/

variable {flags : Flags} {text : String} {members : List ClassMember} {n : Nat}

/-- A number that a repetition can have is one that can be written. -/
theorem writable?_of_lt (hn : n < maxRepeat) : writable? n = .ok n := by
  have hlength : (decimal n).length ≤ maxDigits := by
    rw [← String.length_toList]
    exact length_decimal_le hn
  exact if_pos hlength

/-- What a fragment that counts compiles to. Where repetitions are forbidden it is refused. -/
theorem compile_atLeast (hflags : flags.Accepted) (h : IsClass text.toList members) (hn : n < maxRepeat) :
    compile (Requirement.atLeast text n).render flags
      = if flags.template then .error (.malformed (.templateRepeat .greedy) none)
        else .ok ⟨(Requirement.atLeast text n).render, flags.inForce, counting members n⟩ := by
  have hbody : (Requirement.atLeast text n).body.toList = ('(' :: '?' :: ':' :: '[' :: '^' ::
      (text.toList ++ ']' :: '*' :: '[' :: (text.toList ++ [']', ')']))) ++
        '{' :: ((decimal n).toList ++ '}' :: endText false) := by
    simp [Requirement.atLeast, lookahead, endText, String.toList_append]
  exact compile_bounded hflags rfl (adds_nextMember h) rfl rfl (states_exactly hn) (by simp) hbody

/-- **Counts.** A fragment that counts accepts the texts with enough members of its class. -/
theorem atLeast_accepts (hflags : flags.Accepted) (htemplate : flags.template = false)
    (h : IsClass text.toList members) (hn : n < maxRepeat) :
    ∃ c, compile (Requirement.atLeast text n).render flags = .ok c ∧ ∀ value,
      c.accepts value = true ↔ n ≤ value.toList.countP (isMember flags.inForce.modes members) := by
  refine ⟨_, (compile_atLeast hflags h hn).trans (if_neg (by simp [htemplate])), fun value => ?_⟩
  exact counting_matchAt members n value.toList.toArray flags.inForce.modes

/-- The same under whatever flags. -/
theorem atLeast_accepts_iff (hflags : flags.Accepted) (h : IsClass text.toList members) (hn : n < maxRepeat)
    (value : String) : (Requirement.atLeast text n).Accepts flags value ↔ flags.template = false ∧
      n ≤ value.toList.countP (isMember flags.inForce.modes members) := by
  cases htemplate : flags.template with
  | true =>
    refine iff_of_false ?_ fun h => nomatch h.1
    rintro ⟨c, hc, -⟩
    rw [compile_atLeast hflags h hn, if_pos htemplate] at hc
    cases hc
  | false =>
    obtain ⟨c, hc, haccepts⟩ := atLeast_accepts hflags htemplate h hn
    rw [Fragment.accepts_iff hc, haccepts, and_iff_right rfl]

/-! ### The classes that are counted -/

variable {m : Modes}

theorem admits_range (hm : m.ignoreCase = false) (lo hi c : Char) :
    (ClassMember.range lo.toNat hi.toNat).admits m c.toNat = (lo ≤ c && c ≤ hi) := by
  simp [ClassMember.admits, agreeing, hm, Char.le_def, UInt32.le_iff_toNat_le]

/-- A class of single characters has these, where case makes no difference to them. -/
theorem isMember_codes {text : String} (h : ∀ d ∈ text.toList, m.CaseFree d.toNat) (c : Char) :
    isMember m (codes text) c = text.toList.contains c := by
  have hcode : ∀ d ∈ text.toList, (agree m d.toNat c.toNat = true ↔ c = d) := fun d hd => by
    rw [(h d hd).agree_iff, Char.toNat_inj]
  rw [Bool.eq_iff_iff]
  simp only [isMember, admitsClass, codes, List.any_map, Function.comp_def, ClassMember.admits, Bool.bne_false,
    List.any_eq_true, List.contains_iff_mem]
  constructor
  · rintro ⟨d, hd, hc⟩
    rwa [(hcode d hd).mp hc]
  · exact fun hc => ⟨c, hc, (hcode c hc).mpr rfl⟩

/-- The class of a kind has the characters of that kind, where case is regarded. -/
theorem isMember_classMembers (hm : m.ignoreCase = false) (kind : CharacterKind) :
    isMember m (classMembers kind) = kind.has := by
  funext c
  have hlower : (ClassMember.range 97 122).admits m c.toNat = ('a' ≤ c && c ≤ 'z') :=
    admits_range hm 'a' 'z' c
  have hupper : (ClassMember.range 65 90).admits m c.toNat = ('A' ≤ c && c ≤ 'Z') :=
    admits_range hm 'A' 'Z' c
  have hdigit : (ClassMember.range 48 57).admits m c.toNat = ('0' ≤ c && c ≤ '9') :=
    admits_range hm '0' '9' c
  cases kind with
  | special => exact isMember_codes (fun _ _ => .inl hm) c
  | _ => simp [isMember, admitsClass, classMembers, CharacterKind.has, hlower, hupper, hdigit]

/-- The fragments that count: how many characters they ask for, and which ones. -/
inductive Counts : Fragment → Nat → (Char → Bool) → Prop
  | characters (kind : CharacterKind) (n : Nat) (message : Value) :
      Counts (Requirement.characters kind n message).fragment n kind.has
  | preset (kind : CharacterKind) (n : Nat) (message : String) :
      Counts (Preset.counted kind.members n message).fragment n kind.has
  | presetSpecial (n : Nat) (message : String) :
      Counts (Preset.counted Preset.specialMembers n message).fragment n Preset.hasSpecial

variable {f : Fragment} {has : Char → Bool}

/-- The fragments that count have a class in brackets, with the characters that they count. -/
theorem Counts.class_eq (h : f.Counts n has) : ∃ text members, f = Requirement.atLeast text n ∧
    IsClass text.toList members ∧ ∀ m : Modes, m.ignoreCase = false → isMember m members = has := by
  cases h with
  | characters kind n message =>
    exact ⟨_, _, rfl, isClass_members kind, fun m hm => isMember_classMembers hm kind⟩
  | preset kind n message =>
    exact ⟨_, _, rfl, isClass_members kind, fun m hm => isMember_classMembers hm kind⟩
  | presetSpecial n message =>
    exact ⟨_, _, rfl, isClass_specialMembers, fun m hm => funext (isMember_codes fun _ _ => .inl hm)⟩

/-- A requirement on a length, or one that counts characters up to a number that can be written. -/
def IsCountOrLength (r : Requirement) : Prop :=
  (∃ n, r = Preset.chars n) ∨ ∃ n has, n < maxRepeat ∧ r.fragment.Counts n has

theorem isCountOrLength_counted (kind : CharacterKind) {n : Nat} (hn : n < maxRepeat) (message : String) :
    IsCountOrLength (Preset.counted kind.members n message) :=
  .inr ⟨n, kind.has, hn, .preset kind n message⟩

/-- The presets for passwords have requirements on lengths and counts of characters. -/
theorem isCountOrLength_password :
    ∀ e ∈ Preset.groups .password, ∀ r ∈ e.2, IsCountOrLength r := by
  have hlength (n : Nat) : IsCountOrLength (Preset.chars n) := .inl ⟨n, rfl⟩
  have hone : 1 < maxRepeat := by decide
  have htwo : 2 < maxRepeat := by decide
  simp only [Preset.groups, List.forall_mem_cons, List.not_mem_nil, false_imp_iff, implies_true, and_true]
  exact ⟨⟨hlength 6, isCountOrLength_counted .digit hone _⟩,
    ⟨hlength 8, isCountOrLength_counted .digit hone _, isCountOrLength_counted .lowercase hone _,
      isCountOrLength_counted .uppercase hone _⟩,
    hlength 10, isCountOrLength_counted .digit htwo _, isCountOrLength_counted .lowercase hone _,
    isCountOrLength_counted .uppercase hone _, .inr ⟨1, _, hone, .presetSpecial 1 _⟩⟩

/-- **Counts of characters.** Where case is regarded, the fragments that count compile, and they accept
    exactly the texts with so many characters of theirs, whatever stands between these. Where repetitions
    are forbidden they are refused. The presets for passwords consist of such fragments and of lengths. -/
theorem counts_characters (hflags : flags.Accepted) (hcase : flags.ignoreCase = false)
    (hf : f.Counts n has) (hn : n < maxRepeat) :
    (flags.template = false → ∃ c, compile f.render flags = .ok c ∧
      ∀ value, c.accepts value = true ↔ n ≤ value.toList.countP has) ∧
    (flags.template = true →
      compile f.render flags = .error (.malformed (.templateRepeat .greedy) none)) ∧
    ∀ e ∈ Preset.groups .password, ∀ r ∈ e.2, IsCountOrLength r := by
  obtain ⟨text, members, rfl, hclass, hmember⟩ := hf.class_eq
  refine ⟨fun htemplate => ?_, fun htemplate => ?_, isCountOrLength_password⟩
  · obtain ⟨c, hcompile, haccepts⟩ := atLeast_accepts hflags htemplate hclass hn
    have hmodes : flags.inForce.modes.ignoreCase = false := flags.inForce_ignoreCase.trans hcase
    rw [hmember _ hmodes] at haccepts
    exact ⟨c, hcompile, haccepts⟩
  · rw [compile_atLeast hflags hclass hn, if_pos htemplate]

theorem counts_characters_digits :
    Flags.Accepted 0 ∧ Flags.ignoreCase 0 = false ∧ 2 < maxRepeat ∧
      ∃ c, compile (Requirement.characters .digit 2 .null).fragment.render 0 = .ok c ∧
        c.accepts "a1\nb2" = true := by
  have hflags : Flags.Accepted 0 := ⟨_, rfl⟩
  obtain ⟨c, hcompile, haccepts⟩ :=
    (counts_characters hflags rfl (.characters .digit 2 .null) (by decide)).1 rfl
  exact ⟨hflags, rfl, by decide, c, hcompile, (haccepts _).mpr (by decide)⟩

/-- **Repetitions forbidden.** Under the flag that forbids them, no fragment that counts compiles. -/
theorem counts_template :
    Flags.Accepted 1 ∧ Flags.ignoreCase 1 = false ∧ 1 ≤ "1".toList.countP CharacterKind.digit.has ∧
      compile (Requirement.characters .digit 1 .null).fragment.render 1
        = .error (.malformed (.templateRepeat .greedy) none) :=
  ⟨⟨_, rfl⟩, rfl, by decide, rfl⟩

end Fragment

end TextCriteria
