import TextCriteria.Proofs.Requirement.Shape
import TextCriteria.Proofs.Text.Pieces

namespace TextCriteria

open TextCriteria.Pattern TextCriteria.Text

/-!
# Mail addresses

The class of the host takes points as well, so a match may try to end the host at any of them. Only letters
may stand behind the one where it does end, so this is the last one.

* `IsMailAddress` — a user and a host with one `@` between them.
* `mailTree`, `spells_mail` — the tree of the shape spells such addresses.
* `mail_addresses` — a builder with the requirement decides whether a text is one;
  `mail_template_refused`, the flag under which it fails.
-/

/-! ### Addresses -/

/-- The characters of a user. -/
def isUserCharacter (c : Char) : Bool := isAsciiLetter c || isAsciiDigit c || "._%+-".toList.contains c

/-- The characters of a host in front of its last point. -/
def isHostCharacter (c : Char) : Bool := isAsciiLetter c || isAsciiDigit c || ".-".toList.contains c

/-- A host ends in at least two letters behind its last point. -/
def IsMailHost (host : List Char) : Prop :=
  ∃ name top, host = name ++ '.' :: top ∧ '.' ∉ top ∧ name ≠ [] ∧ (∀ c ∈ name, isHostCharacter c = true) ∧
    2 ≤ top.length ∧ ∀ c ∈ top, isAsciiLetter c = true

/-- A mail address has exactly one `@`, with a user in front of it and a host behind it. -/
def IsMailAddress (s : List Char) : Prop :=
  ∃ user host, pieces '@' s = [user, host] ∧ user ≠ [] ∧ (∀ c ∈ user, isUserCharacter c = true) ∧
    IsMailHost host

/-! ### The tree -/

/-- A user, an `@`, a host up to a point, and at least two letters. -/
def mailTree : Regex :=
  Regex.ofItems [.rounds .greedy 1 none (.oneOf false (alphanumericOr "._%+-")), .char '@'.toNat,
    .rounds .greedy 1 none (.oneOf false (alphanumericOr ".-")), .char '.'.toNat,
    .rounds .greedy 2 none (.oneOf false (Fragment.classMembers .letter))]

theorem isShape_mail : IsShape Shape.email mailTree where
  body flags := by
    refine .of_isAscii (by decide +kernel) ?_
    unfold ReadsTo Pattern.readText
    cases flags.verbose <;> exact ⟨_, rfl, rfl, rfl, rfl, rfl⟩
  render flags := by
    refine .of_isAscii (by decide +kernel) ?_
    unfold ReadsTo Pattern.readText
    cases flags.verbose <;> exact ⟨_, rfl, rfl, rfl, rfl, rfl⟩
  regular := rfl
  repeats := rfl

variable {m : Modes}

/-- **Words.** The tree spells the mail addresses. -/
theorem spells_mail (hm : m.ignoreCase = false) (s : List Char) : mailTree.Spells m s ↔ IsMailAddress s := by
  have hfree (c : Char) : m.CaseFree c.toNat := .inl hm
  have huser : (Regex.oneOf false (alphanumericOr "._%+-")).SpellsOne m isUserCharacter :=
    spellsOne_alphanumericOr hm _
  have hname : (Regex.oneOf false (alphanumericOr ".-")).SpellsOne m isHostCharacter :=
    spellsOne_alphanumericOr hm _
  have hspells : mailTree.Spells m s ↔ ∃ user v, s = user ++ v ∧
      (1 ≤ user.length ∧ ∀ c ∈ user, isUserCharacter c = true) ∧ ∃ host, v = '@' :: host ∧
        ∃ name v', host = name ++ v' ∧ (1 ≤ name.length ∧ ∀ c ∈ name, isHostCharacter c = true) ∧
          ∃ top, v' = '.' :: top ∧ 2 ≤ top.length ∧ ∀ c ∈ top, isAsciiLetter c = true := by
    simp only [mailTree, huser.many_cons, (hfree '@').spells_cons, hname.many_cons, (hfree '.').spells_cons,
      Regex.spells_singleton, (spellsOne_letter hm).many]
  rw [hspells]
  constructor
  · rintro ⟨user, _, rfl, ⟨hne, huser⟩, _, rfl, name, _, rfl, ⟨hname, hhost⟩, top, rfl, htop, hletters⟩
    have hname_at : '@' ∉ name := not_mem_of_forall hhost (by decide)
    have htop_at : '@' ∉ top := not_mem_of_forall hletters (by decide)
    refine ⟨user, name ++ '.' :: top, ?_, List.length_pos_iff.mp hne, huser, name, top, rfl, ?_,
      List.length_pos_iff.mp hname, hhost, htop, hletters⟩
    · exact pieces_eq_pair_iff.mpr ⟨rfl, not_mem_of_forall huser (by decide), by simp [hname_at, htop_at]⟩
    · exact not_mem_of_forall hletters (by decide)
  · rintro ⟨user, host, hpieces, hne, huser, name, top, rfl, -, hname, hhost, htop, hletters⟩
    obtain ⟨rfl, -, -⟩ := pieces_eq_pair_iff.mp hpieces
    exact ⟨user, _, rfl, ⟨List.length_pos_iff.mpr hne, huser⟩, _, rfl, name, _, rfl,
      ⟨List.length_pos_iff.mpr hname, hhost⟩, top, rfl, htop, hletters⟩

/-! ### Builders -/

/-- **Mail addresses.** Where case is regarded and repetitions are not forbidden, a builder with the
    requirement accepts exactly the mail addresses. Where repetitions are forbidden it fails for the
    requirement. -/
theorem mail_addresses {b : Builder} (hb : b.requirements = []) (hflags : b.flags.Accepted)
    (hcase : b.flags.ignoreCase = false) (message : Value) :
    (b.flags.template = false → (b.call (.email message)).Decides IsMailAddress) ∧
    (b.flags.template = true →
      ∀ value, (Requirement.email message).BlamedBy ((b.call (.email message)).isValid (.str value))) := by
  have hmodes : b.flags.inForce.modes.ignoreCase = false := b.flags.inForce_ignoreCase.trans hcase
  have hadded : (b.change (.email message)).added = [.email message] := Change.one_added _
  refine isShape_mail.settles hb hflags hadded (spells_mail hmodes) ?_
  rintro ⟨user, host, hpieces, -⟩
  cases hpieces

/-- An address whose host has several points, and a text with two users. -/
theorem mail_addresses_host :
    (Builder.create .null {}).requirements = [] ∧ (Builder.create .null {}).flags.Accepted ∧
    (Builder.create .null {}).flags.ignoreCase = false ∧ (Builder.create .null {}).flags.template = false ∧
    ((Builder.create .null {}).call (.email .null)).isValid (.str "ann+1@mail.example.org") = .ok true ∧
    ((Builder.create .null {}).call (.email .null)).isValid (.str "ann@bob@example.org") ≠ .ok true := by
  have hdecides := (mail_addresses (b := Builder.create .null {}) rfl ⟨_, rfl⟩ rfl .null).1 rfl
  refine ⟨rfl, ⟨_, rfl⟩, rfl, rfl, (hdecides.isValid_iff _).mpr ?_, fun h => ?_⟩
  · refine ⟨"ann+1".toList, "mail.example.org".toList, by decide, by decide, List.all_eq_true.mp rfl, ?_⟩
    exact ⟨"mail.example".toList, "org".toList, by decide, by decide, by decide, List.all_eq_true.mp rfl,
      by decide, List.all_eq_true.mp rfl⟩
  · obtain ⟨user, host, hpieces, -⟩ := (hdecides.isValid_iff _).mp h
    have hlength : (pieces '@' "ann@bob@example.org".toList).length = 2 := congrArg List.length hpieces
    exact absurd hlength (by decide)

/-- **Repetitions forbidden.** An address is not accepted where repetitions are forbidden. -/
theorem mail_template_refused :
    Flags.Accepted 1 ∧ Flags.ignoreCase 1 = false ∧ IsMailAddress "a@b.cc".toList ∧
      ((Builder.create (.int 1) {}).call (.email .null)).isValid (.str "a@b.cc")
        = .error (.record (.pattern (.str (Fragment.anchored Shape.email).render)
            (.str "internal: unsupported template operator MAX_REPEAT")
            (.str "Must be a valid email address"))) := by
  refine ⟨⟨_, rfl⟩, rfl, ⟨['a'], "b.cc".toList, by decide, by decide, List.all_eq_true.mp rfl, ?_⟩, rfl⟩
  exact ⟨['b'], ['c', 'c'], by decide, by decide, by decide, List.all_eq_true.mp rfl, by decide,
    List.all_eq_true.mp rfl⟩

end TextCriteria
