import TextCriteria.Proofs.Format.Numeral
import TextCriteria.Proofs.Requirement.Shape

namespace TextCriteria

open TextCriteria.Pattern TextCriteria.Text

/-!
# Network addresses

A byte has three rows of digits: one for 250 and above, one for the other numbers from 200, and one for those
below in at most three digits. There is no letter in the shape, so the flag for case makes no difference.

* `IsNetworkAddress` — four bytes with points between them.
* `octetTree`, `spells_octet` — the tree of a byte.
* `network_addresses` — a builder with the requirement decides whether a text is such an address;
  `network_template_refused`, the flag under which it fails.
-/

/-! ### Addresses -/

/-- A number of at most 255 in one to three digits. Zeros may stand in front. -/
def IsByte (s : List Char) : Prop :=
  1 ≤ s.length ∧ s.length ≤ 3 ∧ (∀ c ∈ s, isAsciiDigit c = true) ∧ ofDigits 10 s ≤ 255

instance (s : List Char) : Decidable (IsByte s) :=
  decidable_of_iff (1 ≤ s.length ∧ s.length ≤ 3 ∧ s.all isAsciiDigit = true ∧ ofDigits 10 s ≤ 255)
    (by simp [IsByte])

/-- Four bytes, with a single point between each two of them. -/
def IsNetworkAddress (s : List Char) : Prop :=
  (pieces '.' s).length = 4 ∧ ∀ group ∈ pieces '.' s, IsByte group

/-! ### The tree -/

def octetTree : Regex :=
  numeralTree [⟨2, 2, false⟩, ⟨5, 5, false⟩, ⟨0, 5, false⟩]
    [[⟨2, 2, false⟩, ⟨0, 4, false⟩, ⟨0, 9, false⟩], [⟨0, 1, true⟩, ⟨0, 9, false⟩, ⟨0, 9, true⟩]]

/-- Three bytes with a point behind each of them, and one more. -/
def networkTree : Regex :=
  Regex.ofItems [.rounds .greedy 3 (some 3) (.scoped {} (.ofItems [octetTree, .char '.'.toNat])), octetTree]

theorem isShape_network : IsShape Shape.ipv4 networkTree where
  body flags := by
    refine .of_isAscii (by decide +kernel) ?_
    unfold ReadsTo Pattern.readText
    cases flags.verbose <;> exact ⟨_, rfl, rfl, rfl, rfl, rfl⟩
  render flags := by
    refine .of_isAscii (by decide +kernel) ?_
    unfold ReadsTo Pattern.readText
    cases flags.verbose <;> exact ⟨_, rfl, rfl, rfl, rfl, rfl⟩
  regular := rfl
  repeats := rfl

variable {m : Modes}

/-- **Bytes.** The rows of the tree are those of the numbers up to 255. -/
theorem spells_octet (s : List Char) : octetTree.Spells m s ↔ IsByte s := by
  have hbyte : IsByte s ↔
      DigitsWith (fun digits => 1 ≤ digits.length ∧ digits.length ≤ 3 ∧ valueOf digits ≤ 255) s := by
    rw [IsByte, DigitsWith, List.length_map, ofDigits_eq]
    grind
  rw [octetTree, spells_numeralTree (by decide), hbyte]
  refine digitsWith_congr fun digits hdigits => ?_
  -- A case for each number of digits up to three, and one for more of them, which no row has.
  rcases digits with _ | ⟨x, _ | ⟨y, _ | ⟨z, _ | ⟨u, more⟩⟩⟩⟩
  · simp [InRow]
  · have hx : x ≤ 9 := by simpa using hdigits
    simp [InRow, valueOf]
    omega
  · have hxy : x ≤ 9 ∧ y ≤ 9 := by simpa using hdigits
    simp [InRow, valueOf]
    omega
  · have hxyz : x ≤ 9 ∧ y ≤ 9 ∧ z ≤ 9 := by simpa using hdigits
    simp [InRow, valueOf]
    omega
  · simp [InRow]

theorem IsByte.not_mem {s : List Char} (h : IsByte s) : '.' ∉ s := not_mem_of_forall h.2.2.1 (by decide)

/-- **Words.** The tree spells the network addresses. -/
theorem spells_network (s : List Char) : networkTree.Spells m s ↔ IsNetworkAddress s := by
  have hpoint : m.CaseFree '.'.toNat := .inr (by decide)
  rw [networkTree, spells_separated hpoint spells_octet fun _ => IsByte.not_mem, IsNetworkAddress,
    ← and_assoc]
  refine and_congr_left fun _ => ?_
  simp only [Option.some.injEq, forall_eq']
  omega

/-! ### Builders -/

/-- **Network addresses.** Where repetitions are not forbidden, a builder with the requirement accepts exactly
    the network addresses, whatever the other flags are. Where repetitions are forbidden it fails for the
    requirement. -/
theorem network_addresses {b : Builder} (hb : b.requirements = []) (hflags : b.flags.Accepted)
    (message : Value) :
    (b.flags.template = false → (b.call (.ipv4 message)).Decides IsNetworkAddress) ∧
    (b.flags.template = true →
      ∀ value, (Requirement.ipv4 message).BlamedBy ((b.call (.ipv4 message)).isValid (.str value))) := by
  have hadded : (b.change (.ipv4 message)).added = [.ipv4 message] := Change.one_added _
  exact isShape_network.settles hb hflags hadded spells_network fun h => absurd h.1 (by decide)

/-- An address with a zero in front of a byte, and a text with a byte that is too large. Case is ignored. -/
theorem network_addresses_caseless :
    (Builder.create (.int 2) {}).requirements = [] ∧ (Builder.create (.int 2) {}).flags.Accepted ∧
    (Builder.create (.int 2) {}).flags.template = false ∧
    ((Builder.create (.int 2) {}).call (.ipv4 .null)).isValid (.str "192.068.0.255") = .ok true ∧
    ((Builder.create (.int 2) {}).call (.ipv4 .null)).isValid (.str "192.168.0.256") ≠ .ok true := by
  have hdecides := (network_addresses (b := Builder.create (.int 2) {}) rfl ⟨_, rfl⟩ .null).1 rfl
  refine ⟨rfl, ⟨_, rfl⟩, rfl, (hdecides.isValid_iff _).mpr ?_, fun h => ?_⟩
  · exact ⟨by decide, by decide⟩
  · obtain ⟨-, hbytes⟩ := (hdecides.isValid_iff _).mp h
    exact absurd (hbytes "256".toList (by decide)).2.2.2 (by decide)

/-- **Repetitions forbidden.** An address is not accepted where repetitions are forbidden. -/
theorem network_template_refused :
    Flags.Accepted 1 ∧ IsNetworkAddress "1.2.3.4".toList ∧
      ((Builder.create (.int 1) {}).call (.ipv4 .null)).isValid (.str "1.2.3.4")
        = .error (.record (.pattern (.str (Fragment.anchored Shape.ipv4).render)
            (.str "internal: unsupported template operator MAX_REPEAT")
            (.str "Valid IPv4 address"))) := by
  exact ⟨⟨_, rfl⟩, ⟨by decide, by decide⟩, rfl⟩

end TextCriteria
