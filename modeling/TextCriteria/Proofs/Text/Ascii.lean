import TextCriteria.Text.Ascii

namespace TextCriteria.Text

/-!
# Texts of ASCII

A text is kept as its bytes, and to take a long one apart into its characters is slow. In a text of ASCII every
byte is a character, and the characters can be read off.

* `byteChars` — a character for every byte; `isAscii`, texts whose bytes are all in ASCII.
* `toList_eq_byteChars` — these have no other characters.
-/

/-- A character for every byte of a text. -/
def byteChars (s : String) : List Char := s.toByteArray.data.toList.map fun b => Char.ofNat b.toNat

/-- Whether all bytes of a text are in ASCII. -/
def isAscii (s : String) : Bool := s.toByteArray.data.toList.all fun b => b.toNat < 128

theorem bytes_eq (s : String) : s.toByteArray.data.toList = s.toList.flatMap String.utf8EncodeChar := by
  rw [← String.utf8Encode_toList, List.utf8Encode, List.toList_data_toByteArray]

theorem utf8EncodeChar_of_lt {c : Char} (h : c.toNat < 128) :
    String.utf8EncodeChar c = [UInt8.ofNat c.toNat] := by
  unfold String.utf8EncodeChar
  exact if_pos (Nat.le_of_lt_succ h)

/-- The first byte of a character beyond ASCII is beyond ASCII too. -/
theorem exists_large_byte {c : Char} (h : ¬ c.toNat < 128) :
    ∃ b ∈ String.utf8EncodeChar c, ¬ b.toNat < 128 := by
  have hlarge : ¬ c.val.toNat ≤ 0x7f := fun hle => h (Nat.lt_succ_of_le hle)
  unfold String.utf8EncodeChar
  simp only [if_neg hlarge]
  split
  · exact ⟨_, List.mem_cons_self, by simp; omega⟩
  · split
    · exact ⟨_, List.mem_cons_self, by simp; omega⟩
    · exact ⟨_, List.mem_cons_self, by simp; omega⟩

/-- **ASCII.** The characters of a text of ASCII are those of its bytes. -/
theorem toList_eq_byteChars {s : String} (h : isAscii s = true) : s.toList = byteChars s := by
  have hbytes : ∀ b ∈ s.toByteArray.data.toList, b.toNat < 128 := by
    intro b hb
    exact of_decide_eq_true (List.all_eq_true.mp h b hb)
  have hchars : ∀ c ∈ s.toList, c.toNat < 128 := by
    intro c hc
    by_cases hsmall : c.toNat < 128
    · exact hsmall
    · obtain ⟨b, hb, hlarge⟩ := exists_large_byte hsmall
      refine absurd (hbytes b ?_) hlarge
      rw [bytes_eq]
      exact List.mem_flatMap.mpr ⟨c, hc, hb⟩
  rw [byteChars, bytes_eq]
  generalize s.toList = chars at hchars ⊢
  induction chars with
  | nil => rfl
  | cons c rest ih =>
    obtain ⟨hc, hrest⟩ := List.forall_mem_cons.mp hchars
    have hbyte : (UInt8.ofNat c.toNat).toNat = c.toNat := Nat.mod_eq_of_lt (by omega)
    rw [List.flatMap_cons, utf8EncodeChar_of_lt hc, List.singleton_append, List.map_cons, ← ih hrest, hbyte,
      Char.ofNat_toNat]

end TextCriteria.Text
