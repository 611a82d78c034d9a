import TextCriteria.Proofs.Pattern.Locality
import TextCriteria.Proofs.Requirement.Count
import TextCriteria.Requirement.Standard

namespace TextCriteria

open TextCriteria.Pattern TextCriteria.Text

/-!
# Counts of the characters of any class

A caller may count the characters of a class of its own. The text of the class stands in the fragment twice: behind
a caret, for the characters to go over, and by itself, for the one that counts. So the count is right for each
text that is a class and has no caret of its own in front.

* `IsBracketed` — the texts that are a class between brackets.
* `Compiled.admits` — the characters that a class matches.
* `isClass_iff` — a text without a caret in front is a class in any place if it is one between brackets alone.
* `compile_bracketed` — what a class between brackets compiles to.
* `Fragment.counts_any_class` — which texts are accepted; `Fragment.counts_any_class_excepted`, the exceptions.
-/

/-- Between brackets the text is a single class, or the complement of one. -/
def IsBracketed (text : String) : Prop :=
  ∃ negated members, readLexeme false '[' (text.toList ++ [']']) = .ok (.item (.oneOf negated members), [])

/-- A class as a pattern of its own. -/
def bracketed (text : String) : String := "[" ++ text ++ "]"

/-- Whether a pattern matches a single character. -/
def Pattern.Compiled.admits (c : Compiled) (x : Char) : Bool := c.accepts (String.singleton x)

/-! ### Classes in brackets -/

/-- **Classes in brackets.** A text that does not begin with a caret is a class in any place, and so is its
    complement, if it is a class between brackets alone. -/
theorem isClass_iff {text : List Char} (hcaret : text.head? ≠ some '^') {members : List ClassMember} :
    IsClass text members ↔
      readLexeme false '[' (text ++ [']']) = .ok (.item (.oneOf false members), []) := by
  have hread (verbose : Bool) (t : List Char) : readLexeme verbose '[' t = readClass t := by
    cases verbose <;> rfl
  have hhead (t : List Char) : (text ++ ']' :: t).head? ≠ some '^' := by
    cases text with
    | nil => simp
    | cons c rest => simpa using hcaret
  constructor
  · exact fun h => h.1 false []
  · intro h
    rw [hread, readClass_plain (hhead [])] at h
    obtain ⟨⟨members', rest⟩, hmembers, h⟩ := bind_eq_ok.mp h
    obtain ⟨hitem, rfl⟩ := Outcome.ok_inj h
    cases hitem
    have hextends (left fuel : Nat) (hfuel : (text ++ [']']).length + 1 ≤ fuel) (t : List Char) :
        readMembers left fuel [] (text ++ ']' :: t) = .ok (members', t) := by
      have hmore := readMembers_extends hmembers left hfuel t
      rwa [List.append_assoc] at hmore
    have hlength (t : List Char) : (text ++ [']']).length + 1 ≤ (text ++ ']' :: t).length + 1 := by simp
    refine ⟨fun verbose t => ?_, fun verbose t => ?_⟩
    · rw [hread, readClass_plain (hhead t), hextends _ _ (hlength t)]
      rfl
    · rw [hread, readClass_caret, hextends _ _ (hlength t)]
      rfl

variable {flags : Flags} {text : String} {members : List ClassMember} {n : Nat}

/-- Without a caret in front, such a text is a class in any place. -/
theorem IsBracketed.isClass (h : IsBracketed text) (hcaret : text.toList.head? ≠ some '^') :
    ∃ members, IsClass text.toList members := by
  obtain ⟨negated, members, hread⟩ := h
  cases negated with
  | false => exact ⟨members, (isClass_iff hcaret).mpr hread⟩
  | true =>
    -- Only a caret makes a complement.
    have hhead : (text.toList ++ [']']).head? ≠ some '^' := by
      cases htext : text.toList with
      | nil => simp
      | cons c rest => simpa [htext] using hcaret
    have hclass : readClass (text.toList ++ [']']) = .ok (.item (.oneOf true members), []) := hread
    rw [readClass_plain hhead] at hclass
    obtain ⟨x, -, hx⟩ := bind_eq_ok.mp hclass
    cases hx

/-- A class between brackets compiles under all flags. -/
theorem compile_bracketed (hflags : flags.Accepted) (h : IsClass text.toList members) :
    compile (bracketed text) flags
      = .ok ⟨bracketed text, flags.inForce, Regex.ofItems [.oneOf false members]⟩ := by
  have htext : (bracketed text).toList = '[' :: (text.toList ++ [']']) := by
    simp [bracketed, String.toList_append]
  have hreads : ReadsTo flags (bracketed text).toList (Regex.ofItems [.oneOf false members]) := by
    rw [htext, ReadsTo, readText, Draft.readAll_cons, h.1]
    exact ⟨_, rfl, rfl, rfl, rfl, rfl⟩
  exact hreads.compile_eq hflags

/-- It matches the characters that are members of the class. -/
theorem admits_bracketed (text : String) (flags : Flags) (members : List ClassMember) :
    Compiled.admits ⟨text, flags, Regex.ofItems [.oneOf false members]⟩
      = Fragment.isMember flags.modes members := by
  funext x
  have htext : (String.singleton x).toList.toArray = #[x] := by simp
  have hfirst : #[x][0]? = some x := rfl
  simp only [Compiled.admits, Compiled.accepts, Compiled.match?, Regex.matchAt, htext, Regex.ofItems, Regex.run,
    one, hfirst, Fragment.isMember]
  cases admitsClass flags.modes false members x.toNat <;> rfl

/-- A count that can be written can be asked for. -/
theorem Requirement.atLeastFor_natCast (text : String) (hn : n < maxRepeat) :
    Requirement.atLeastFor text (.int n) = .ok (Requirement.atLeast text n) := by
  rw [Requirement.atLeastFor, count?_natCast]
  simp only [Fragment.writable?_of_lt hn, bind, Except.bind]

namespace Fragment

/-- **Any class.** Let a text without a caret in front be a single class between brackets. Under whatever flags,
    the class compiles, and a count of its characters can be asked for. Where repetitions are not forbidden the
    fragment compiles too, and it accepts exactly the texts in which the class matches so many characters. Where
    they are forbidden it is refused. -/
theorem counts_any_class (hflags : flags.Accepted) (htext : IsBracketed text)
    (hcaret : text.toList.head? ≠ some '^') (hn : n < maxRepeat) :
    Requirement.atLeastFor text (.int n) = .ok (Requirement.atLeast text n) ∧
    ∃ one, compile (bracketed text) flags = .ok one ∧
      (flags.template = false → ∃ c, compile (Requirement.atLeast text n).render flags = .ok c ∧
        ∀ value, c.accepts value = true ↔ n ≤ value.toList.countP one.admits) ∧
      (flags.template = true → compile (Requirement.atLeast text n).render flags
        = .error (.malformed (.templateRepeat .greedy) none)) := by
  obtain ⟨members, hclass⟩ := htext.isClass hcaret
  refine ⟨Requirement.atLeastFor_natCast text hn, _, compile_bracketed hflags hclass, fun htemplate => ?_,
    fun htemplate => ?_⟩
  · rw [admits_bracketed]
    exact atLeast_accepts hflags htemplate hclass hn
  · rw [compile_atLeast hflags hclass hn, if_pos htemplate]

/-- A bracket in the first place, a range in any case, and a named class: three characters of the text count. -/
theorem counts_any_class_bracket :
    Flags.Accepted 2 ∧ IsBracketed "]b-d\\d" ∧ 3 < maxRepeat ∧
      ∃ c, compile (Requirement.atLeast "]b-d\\d" 3).render 2 = .ok c ∧
        c.accepts "x]C\n7" = true ∧ c.accepts "x]C\n" = false := by
  have hflags : Flags.Accepted 2 := ⟨_, rfl⟩
  have htext : IsBracketed "]b-d\\d" := ⟨_, _, rfl⟩
  obtain ⟨-, one, hone, hcounts, -⟩ := counts_any_class hflags htext (by decide) (by decide : 3 < maxRepeat)
  obtain ⟨c, hc, haccepts⟩ := hcounts rfl
  obtain rfl := Except.ok.inj (hone.symm.trans (compile_bracketed hflags ((isClass_iff (by decide)).mpr rfl)))
  refine ⟨hflags, htext, by decide, c, hc, (haccepts _).mpr (by decide +kernel), ?_⟩
  rw [← Bool.not_eq_true, haccepts]
  decide +kernel

/-- **Exceptions.** Where repetitions are forbidden, no count compiles. A text with a caret in front is a class
    too, but behind another caret it is not its complement: a character of the class is not found behind one
    that is none. -/
theorem counts_any_class_excepted :
    (Flags.Accepted 1 ∧ IsBracketed "0-9" ∧ 1 < maxRepeat ∧
      compile (Requirement.atLeast "0-9" 1).render 1 = .error (.malformed (.templateRepeat .greedy) none)) ∧
    Flags.Accepted 0 ∧ IsBracketed "^a" ∧ ∃ one c, compile (bracketed "^a") 0 = .ok one ∧
      compile (Requirement.atLeast "^a" 1).render 0 = .ok c ∧
      "ab".toList.countP one.admits = 1 ∧ c.accepts "ab" = false :=
  ⟨⟨⟨_, rfl⟩, ⟨_, _, rfl⟩, by decide, rfl⟩, ⟨_, rfl⟩, ⟨_, _, rfl⟩, _, _, rfl, rfl, rfl, rfl⟩

end Fragment

end TextCriteria
