import TextCriteria.Proofs.Requirement.Shape

namespace TextCriteria

open TextCriteria.Pattern TextCriteria.Text

/-!
# Web addresses

Nothing in the shape tells where its host ends: labels and paths have most of their characters in common. But a
host has no slash and no colon. So the host ends at the first slash, and a text with a scheme in front is not at
the same time one without.

* `IsWebAddress` — a host of at least two labels and a path, with a scheme in front of them or without.
* `webTree`, `spells_web` — the trees of the two shapes.
* `web_addresses` — a builder with the requirement decides whether a text is such an address, and the two ways
  of asking for a scheme go together; `web_template_refused`, the flag under which it fails.
-/

/-! ### Addresses -/

def isLabelCharacter (c : Char) : Bool := isAsciiLetter c || isAsciiDigit c || "_-".toList.contains c

def isPathCharacter (c : Char) : Bool := isAsciiLetter c || isAsciiDigit c || "_ ./?%&=-".toList.contains c

/-- A label of a host is not empty. -/
def IsLabel (s : List Char) : Prop := s ≠ [] ∧ ∀ c ∈ s, isLabelCharacter c = true

instance (s : List Char) : Decidable (IsLabel s) :=
  decidable_of_iff (s ≠ [] ∧ s.all isLabelCharacter = true) (by simp [IsLabel])

/-- At least two labels with a single point between each two of them. -/
def IsHost (s : List Char) : Prop := 2 ≤ (pieces '.' s).length ∧ ∀ label ∈ pieces '.' s, IsLabel label

/-- No path, or a slash and what follows it. -/
def IsPath (s : List Char) : Prop := s = [] ∨ ∃ rest, s = '/' :: rest ∧ ∀ c ∈ rest, isPathCharacter c = true

/-- The text up to its first slash is a host, and what is left is a path. -/
def IsHostAndPath (s : List Char) : Prop := IsHost (s.takeWhile (· != '/')) ∧ IsPath (s.dropWhile (· != '/'))

/-- What follows the scheme in front of a text, if it has one. -/
def withoutScheme? (s : List Char) : Option (List Char) :=
  (s.dropPrefix? "http://".toList).or (s.dropPrefix? "https://".toList)

/-- A web address, whose scheme is required or may be left out. -/
def IsWebAddress (schemeRequired : Bool) (s : List Char) : Prop :=
  match withoutScheme? s with
  | some rest => IsHostAndPath rest
  | none => schemeRequired = false ∧ IsHostAndPath s

/-! ### The trees -/

def labelTree : Regex := .rounds .greedy 1 none (.oneOf false (alphanumericOr "_-"))

/-- Labels with points between them. -/
def hostItems : List Regex :=
  [.rounds .greedy 1 none (.scoped {} (.ofItems [labelTree, .char '.'.toNat])), labelTree]

def pathTree : Regex :=
  .rounds .greedy 0 (some 1) (.scoped {} (.ofItems [.char '/'.toNat,
    .rounds .greedy 0 none (.oneOf false (alphanumericOr "_ ./?%&=-"))]))

def schemeItems : List Regex :=
  "http".toList.map (fun c => .char c.toNat) ++ .rounds .greedy 0 (some 1) (.char 's'.toNat) ::
    "://".toList.map fun c => .char c.toNat

/-- The scheme, which is required or may be left out, the host and the path. -/
def webTree (schemeRequired : Bool) : Regex :=
  let scheme := if schemeRequired then schemeItems
    else [.rounds .greedy 0 (some 1) (.scoped {} (.ofItems schemeItems))]
  .ofItems (scheme ++ (hostItems ++ [pathTree]))

theorem isShape_web (schemeRequired : Bool) :
    IsShape (Shape.url schemeRequired) (webTree schemeRequired) where
  body flags := by
    refine .of_isAscii (by cases schemeRequired <;> decide +kernel) ?_
    unfold ReadsTo Pattern.readText
    cases schemeRequired <;> cases flags.verbose <;> exact ⟨_, rfl, rfl, rfl, rfl, rfl⟩
  render flags := by
    refine .of_isAscii (by cases schemeRequired <;> decide +kernel) ?_
    unfold ReadsTo Pattern.readText
    cases schemeRequired <;> cases flags.verbose <;> exact ⟨_, rfl, rfl, rfl, rfl, rfl⟩
  regular := by cases schemeRequired <;> rfl
  repeats := by cases schemeRequired <;> rfl

/-! ### Where the host ends -/

variable {s : List Char}

/-- A host has only points and characters of labels. -/
theorem IsHost.not_mem (h : IsHost s) {c : Char} (hpoint : c ≠ '.') (hc : isLabelCharacter c = false) :
    c ∉ s := by
  intro hmem
  obtain ⟨label, hlabel, hclabel⟩ := exists_mem_pieces hmem hpoint
  exact not_mem_of_forall (h.2 label hlabel).2 hc hclabel

/-- However a text is cut into a host and a path, the cut is at the first slash. -/
theorem isHostAndPath_iff : IsHostAndPath s ↔ ∃ host path, s = host ++ path ∧ IsHost host ∧ IsPath path := by
  constructor
  · rintro ⟨hhost, hpath⟩
    exact ⟨_, _, List.takeWhile_append_dropWhile.symm, hhost, hpath⟩
  · rintro ⟨host, path, rfl, hhost, hpath⟩
    have hslash : ∀ c ∈ host, (c != '/') = true := fun c hc =>
      bne_iff_ne.mpr fun heq => hhost.not_mem (by decide) (by decide) (heq ▸ hc)
    have hends : path.takeWhile (· != '/') = [] ∧ path.dropWhile (· != '/') = path := by
      rcases hpath with rfl | ⟨rest, rfl, -⟩ <;> exact ⟨rfl, rfl⟩
    rw [IsHostAndPath, List.takeWhile_append_of_pos hslash, List.dropWhile_append_of_pos hslash, hends.1,
      hends.2, List.append_nil]
    exact ⟨hhost, hpath⟩

/-! ### Schemes -/

theorem withoutScheme?_eq_some_iff {rest : List Char} : withoutScheme? s = some rest ↔
    s = "http://".toList ++ rest ∨ s = "https://".toList ++ rest := by
  have hdrop (scheme : List Char) : s.dropPrefix? scheme = some rest ↔ s = scheme ++ rest := by
    simp [List.dropPrefix?_eq_some_iff]
  rw [withoutScheme?, Option.or_eq_some_iff, hdrop, hdrop]
  refine or_congr_right (and_iff_right_of_imp ?_)
  rintro rfl
  rfl

/-- A host and a path without a scheme do not begin with one: there is no colon in a host. -/
theorem IsHostAndPath.withoutScheme?_eq_none (h : IsHostAndPath s) : withoutScheme? s = none := by
  refine Option.eq_none_iff_forall_ne_some.mpr fun rest hrest => ?_
  have hcolon : ':' ∈ s.takeWhile (· != '/') := by
    rcases withoutScheme?_eq_some_iff.mp hrest with rfl | rfl <;> simp
  exact h.1.not_mem (by decide) (by decide) hcolon

theorem isWebAddress_iff {schemeRequired : Bool} : IsWebAddress schemeRequired s ↔
    (∃ rest, withoutScheme? s = some rest ∧ IsHostAndPath rest) ∨
      (schemeRequired = false ∧ IsHostAndPath s) := by
  unfold IsWebAddress
  split
  · next rest hrest =>
    have hnot : ¬IsHostAndPath s := fun h => by simp [h.withoutScheme?_eq_none] at hrest
    simp [hrest, hnot]
  · next hrest => simp [hrest]

/-- A scheme may be left out exactly if there is one or `https` can be put in front. -/
theorem isWebAddress_optional_iff : IsWebAddress false s ↔
    IsWebAddress true s ∨ IsWebAddress true ("https://".toList ++ s) := by
  have hhttps : withoutScheme? ("https://".toList ++ s) = some s := withoutScheme?_eq_some_iff.mpr (.inr rfl)
  rw [isWebAddress_iff, isWebAddress_iff, isWebAddress_iff, hhttps]
  simp

/-! ### What the trees spell -/

variable {m : Modes}

theorem spells_label (hm : m.ignoreCase = false) (s : List Char) : labelTree.Spells m s ↔ IsLabel s := by
  rw [labelTree, (spellsOne_alphanumericOr hm _).many, IsLabel, Nat.succ_le_iff, List.length_pos_iff]
  rfl

theorem spells_host (hm : m.ignoreCase = false) (s : List Char) :
    (Regex.ofItems hostItems).Spells m s ↔ IsHost s := by
  have hlabel (label : List Char) (h : IsLabel label) : '.' ∉ label := not_mem_of_forall h.2 (by decide)
  rw [hostItems, spells_separated (.inl hm) (spells_label hm) hlabel, IsHost]
  simp

theorem spells_path (hm : m.ignoreCase = false) (s : List Char) : pathTree.Spells m s ↔ IsPath s := by
  rw [pathTree, spells_marked (.inl hm) (spellsOne_alphanumericOr hm _)]
  simp [IsPath, isPathCharacter]

theorem spells_scheme (hm : m.ignoreCase = false) (s : List Char) :
    (Regex.ofItems schemeItems).Spells m s ↔ s = "http://".toList ∨ s = "https://".toList := by
  have hfree (c : Char) : m.CaseFree c.toNat := .inl hm
  have hrest (word : String) (w : List Char) :
      (Regex.ofItems (word.toList.map fun c => .char c.toNat)).Spells m w ↔ w = word.toList := by
    have hword : (Regex.ofItems (word.toList.map (fun c => .char c.toNat) ++ [])).Spells m w ↔
        ∃ v, w = word.toList ++ v ∧ (Regex.ofItems []).Spells m v := Regex.spells_word fun c _ => hfree c
    simpa using hword
  rw [schemeItems, Regex.spells_word fun c _ => hfree c]
  simp only [Regex.spells_optional_cons, (hfree 's').spells_cons, hrest]
  constructor
  · rintro ⟨_, rfl, rfl | ⟨_, rfl, rfl⟩⟩
    · exact .inl rfl
    · exact .inr rfl
  · rintro (rfl | rfl)
    · exact ⟨_, rfl, .inl rfl⟩
    · exact ⟨_, rfl, .inr ⟨_, rfl, rfl⟩⟩

/-- **Words.** The trees spell the web addresses. -/
theorem spells_web (hm : m.ignoreCase = false) (schemeRequired : Bool) (s : List Char) :
    (webTree schemeRequired).Spells m s ↔ IsWebAddress schemeRequired s := by
  have hbody (v : List Char) : (Regex.ofItems (hostItems ++ [pathTree])).Spells m v ↔ IsHostAndPath v := by
    rw [Regex.spells_append, isHostAndPath_iff]
    simp only [spells_host hm, Regex.spells_singleton, spells_path hm]
  have hscheme : (Regex.ofItems (schemeItems ++ (hostItems ++ [pathTree]))).Spells m s ↔
      ∃ rest, withoutScheme? s = some rest ∧ IsHostAndPath rest := by
    rw [Regex.spells_append]
    simp only [spells_scheme hm, hbody, withoutScheme?_eq_some_iff]
    grind
  rw [isWebAddress_iff, ← hscheme, webTree]
  cases schemeRequired with
  | true => simp
  | false =>
    rw [if_neg Bool.false_ne_true, List.singleton_append, Regex.spells_optional_cons, hbody, or_comm,
      Regex.spells_cons]
    simp only [Regex.spells_scoped, ← Regex.spells_append, true_and]

/-! ### Builders -/

/-- **Web addresses.** Where case is regarded and repetitions are not forbidden, a builder with the requirement
    accepts exactly the web addresses. One that does not ask for a scheme accepts what one that does accepts as
    it is or with `https` in front. Where repetitions are forbidden it fails for the requirement. -/
theorem web_addresses {b : Builder} (hb : b.requirements = []) (hflags : b.flags.Accepted)
    (hcase : b.flags.ignoreCase = false) (message : Value) :
    (b.flags.template = false →
      (∀ schemeRequired,
        (b.call (.url (.bool schemeRequired) message)).Decides (IsWebAddress schemeRequired)) ∧
      ∀ value : String, (b.call (.url (.bool false) message)).isValid (.str value) = .ok true ↔
        (b.call (.url (.bool true) message)).isValid (.str value) = .ok true ∨
          (b.call (.url (.bool true) message)).isValid (.str ("https://" ++ value)) = .ok true) ∧
    (b.flags.template = true → ∀ schemeRequired value, (Requirement.url schemeRequired message).BlamedBy
      ((b.call (.url (.bool schemeRequired) message)).isValid (.str value))) := by
  have hmodes : b.flags.inForce.modes.ignoreCase = false := b.flags.inForce_ignoreCase.trans hcase
  have hempty (schemeRequired : Bool) : ¬IsWebAddress schemeRequired [] := by
    cases schemeRequired
    · exact fun h => absurd h.2.1.1 (by decide)
    · exact fun h => Bool.noConfusion h.1
  have hadded (schemeRequired : Bool) : (b.change (.url (.bool schemeRequired) message)).added
      = [.url schemeRequired message] := Change.one_added _
  have hsettles (schemeRequired : Bool) := (isShape_web schemeRequired).settles hb hflags
    (hadded schemeRequired) (spells_web hmodes schemeRequired) (hempty schemeRequired)
  refine ⟨fun htemplate => ⟨fun schemeRequired => (hsettles schemeRequired).1 htemplate, fun value => ?_⟩,
    fun htemplate schemeRequired => (hsettles schemeRequired).2 htemplate⟩
  have hdecides (schemeRequired : Bool) (value : String) :=
    ((hsettles schemeRequired).1 htemplate).isValid_iff value
  rw [hdecides, hdecides, hdecides, String.toList_append]
  exact isWebAddress_optional_iff

/-- A host and a path, which are an address only if no scheme is required. -/
theorem web_addresses_host :
    (Builder.create .null {}).requirements = [] ∧ (Builder.create .null {}).flags.Accepted ∧
    (Builder.create .null {}).flags.ignoreCase = false ∧ (Builder.create .null {}).flags.template = false ∧
    ((Builder.create .null {}).call (.url (.bool false) .null)).isValid (.str "my-site.org/a b?c=d")
      = .ok true ∧
    ((Builder.create .null {}).call (.url (.bool true) .null)).isValid (.str "my-site.org/a b?c=d")
      ≠ .ok true := by
  have hdecides := ((web_addresses (b := Builder.create .null {}) rfl ⟨_, rfl⟩ rfl .null).1 rfl).1
  have hnone : withoutScheme? "my-site.org/a b?c=d".toList = none := by decide
  refine ⟨rfl, ⟨_, rfl⟩, rfl, rfl, ((hdecides false).isValid_iff _).mpr ?_, fun h => ?_⟩
  · exact ⟨rfl, ⟨by decide, by decide⟩, .inr ⟨"a b?c=d".toList, by decide, List.all_eq_true.mp rfl⟩⟩
  · rw [(hdecides true).isValid_iff "my-site.org/a b?c=d", isWebAddress_iff, hnone] at h
    simp at h

/-- **Repetitions forbidden.** An address is not accepted where repetitions are forbidden. -/
theorem web_template_refused :
    Flags.Accepted 1 ∧ Flags.ignoreCase 1 = false ∧ IsWebAddress true "http://a.b".toList ∧
      ((Builder.create (.int 1) {}).call (.url (.bool true) .null)).isValid (.str "http://a.b")
        = .error (.record (.pattern (.str (Fragment.anchored (Shape.url true)).render)
            (.str "internal: unsupported template operator MAX_REPEAT")
            (.str "Valid URL"))) := by
  exact ⟨⟨_, rfl⟩, rfl, ⟨⟨by decide, by decide⟩, .inl rfl⟩, rfl⟩

end TextCriteria
