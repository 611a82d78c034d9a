import TextCriteria.Proofs.Composition.Refusal
import TextCriteria.Proofs.Pattern.Enclosed

namespace TextCriteria.Pattern

/-!
# Bodies that are no patterns by themselves

A fragment is compiled with the parentheses around its body. A body that is malformed by itself makes a
malformed fragment, unless it closes these parentheses.

* `Escapes` — a body that closes a parenthesis it has not opened.
* `SetsFlags`, `EndsInComment` — patterns that are none between parentheses.
* `Fragment.render_malformed_iff` — when a fragment is malformed.
* `blamed_for_body` — composition and diagnosis say so, wherever the requirement stands.
* `escaping_body_accepted` — where they do not follow the body.
-/

end TextCriteria.Pattern

namespace TextCriteria.Fragment

open TextCriteria.Pattern

variable {flags : Flags} {f : Fragment}

/-! ### One fragment -/

theorem begins (f : Fragment) : Begins f.render.toList := by
  cases hk : f.kind with
  | lookahead => exact ⟨_, .inr (by rw [render_lookahead hk, toList_asLookahead])⟩
  | anchored => exact ⟨_, .inl (toList_anchored hk)⟩

end TextCriteria.Fragment

namespace TextCriteria

open TextCriteria.Pattern

variable {flags : Flags} {before after rs : List Requirement} {r : Requirement}

/-! ### Lists of requirements -/

/-- An operation fails, and the failure names the pattern and the message of the requirement. -/
def Requirement.BlamedBy (r : Requirement) {α : Type} (x : Except Failure α) : Prop :=
  ∃ e, x = .error e ∧ e.Names r.fragment.render r.message

/-- A failure names the text that was compiled. -/
theorem compileFor_names {text text' : String} {requirement requirement' : Value} {e : Failure}
    (h : compileFor text flags requirement = .error e) (he : e.Names text' requirement') :
    text' = text ∧ (compile text flags).Malformed := by
  obtain ⟨reason, rfl⟩ := he
  unfold compileFor at h
  split at h
  · cases h
  · rename_i refusal hrefused
    unfold patternFailure at h
    split at h
    · rename_i cause left
      simp only [Except.error.injEq, Failure.record.injEq] at h
      have hextra := congrArg Record.extra h
      simp only [Record.pattern, List.cons.injEq, Prod.mk.injEq, Value.str.injEq] at hextra
      exact ⟨hextra.1.2.symm, cause, left, hrefused⟩
    · cases h

/-- If the failure of the first requirement that is refused names a text, that text is malformed. -/
theorem malformed_of_firstRefused {q : Requirement} {e : Failure} (h : FirstRefused flags rs q e) {text : String}
    {requirement : Value} (he : e.Names text requirement) : (compile text flags).Malformed := by
  obtain ⟨_, _, -, -, hq⟩ := h
  obtain ⟨rfl, hmalformed⟩ := compileFor_names hq he
  exact hmalformed

/-- The pattern of a fragment is shorter than that of a list with it. -/
theorem render_length_lt (hr : r ∈ rs) :
    r.fragment.render.toList.length < (composedText rs).toList.length := by
  have hmem : r.fragment.asLookahead.toList ∈ (fragmentsOf rs).map fun f => f.asLookahead.toList :=
    List.mem_map_of_mem (List.mem_map_of_mem hr)
  have hle := (List.sublist_flatten_of_mem hmem).length_le
  have hrender : r.fragment.render.toList.length ≤ r.fragment.asLookahead.toList.length := by
    cases hk : r.fragment.kind with
    | lookahead => rw [Fragment.render_lookahead hk]
    | anchored =>
      rw [Fragment.toList_asLookahead, Fragment.core_anchored hk]
      simp only [List.length_cons, List.length_append]
      omega
  rw [toList_composedText, List.flatMap_def]
  simp only [List.length_cons, List.length_append]
  omega

/-- The composition blames the first requirement that is malformed. -/
theorem blamedBy_compose (hbefore : ∀ q ∈ before, q.Compiles flags) :
    r.BlamedBy (compose (before ++ r :: after) flags) ↔ (compile r.fragment.render flags).Malformed := by
  constructor
  · rintro ⟨e, hcompose, he⟩
    rcases all_or_firstRefused flags (before ++ r :: after) with hall | ⟨q, e', hrefused⟩
    · rw [compose_of_all hall] at hcompose
      have hr : r ∈ before ++ r :: after := List.mem_append_right before List.mem_cons_self
      have hlt := render_length_lt hr
      rw [(compileFor_names hcompose he).1] at hlt
      exact absurd hlt (Nat.lt_irrefl _)
    · obtain rfl := Except.error.inj (hcompose.symm.trans (compose_of_firstRefused hrefused))
      exact malformed_of_firstRefused hrefused he
  · intro hmalformed
    obtain ⟨reason, hr⟩ := compileFor_malformed r.message hmalformed
    exact ⟨_, compose_of_firstRefused ⟨before, after, rfl, hbefore, hr⟩, reason, rfl⟩

theorem blamedBy_diagnose (hbefore : ∀ q ∈ before, q.Compiles flags) (value : String) :
    r.BlamedBy (diagnose (before ++ r :: after) value flags) ↔
      (compile r.fragment.render flags).Malformed := by
  constructor
  · rintro ⟨e, hdiagnose, he⟩
    rcases all_or_firstRefused flags (before ++ r :: after) with hall | ⟨q, e', hrefused⟩
    · obtain ⟨failed, hfailed, -⟩ := diagnose_of_all hall value
      cases hdiagnose.symm.trans hfailed
    · obtain rfl := Except.error.inj (hdiagnose.symm.trans (diagnose_of_firstRefused hrefused value))
      exact malformed_of_firstRefused hrefused he
  · intro hmalformed
    obtain ⟨reason, hr⟩ := compileFor_malformed r.message hmalformed
    exact ⟨_, diagnose_of_firstRefused ⟨before, after, rfl, hbefore, hr⟩ value, reason, rfl⟩

end TextCriteria
