import TextCriteria.Builder.Basic
import TextCriteria.Proofs.Pattern.Compilation

namespace TextCriteria

open TextCriteria.Pattern

/-!
# The flags of a builder

Flags are kept as they were given and read when a pattern is compiled.

* `Value.flags?_of_accepted` — what patterns can be compiled under is a number.
* `Builder.build_of_accepted` — under such flags the pattern of a builder is that of its requirements.
* `Builder.compose_of_build` — a builder has no pattern under other flags.
-/

/-- What stands for flags that are no number is refused like them. -/
theorem not_accepted_unusable : ¬ unusableFlags.Accepted := by
  rintro ⟨c, hc⟩
  cases hc

theorem Value.flags?_of_accepted {v : Value} (h : v.flags.Accepted) : v.flags? = .ok v.flags := by
  unfold Value.flags at h ⊢
  cases hflags : v.flags? with
  | ok n => rfl
  | error f =>
    rw [hflags] at h
    exact absurd h not_accepted_unusable

theorem Value.flags_of_ok {v : Value} {flags : Flags} (h : v.flags? = .ok flags) : v.flags = flags := by
  rw [Value.flags, h]
  rfl

namespace Builder

variable {b : Builder} {c : Compiled}

theorem build_of_accepted (h : b.flags.Accepted) : b.build = compose b.requirements b.flags := by
  have hflags : b.given.flags? = .ok b.flags := Value.flags?_of_accepted h
  rw [build, hflags]
  rfl

theorem compose_of_build (h : b.build = .ok c) : compose b.requirements b.flags = .ok c := by
  obtain ⟨flags, hflags, hcompose⟩ := bind_eq_ok.mp h
  have hgiven : b.flags = flags := Value.flags_of_ok hflags
  rw [hgiven]
  exact hcompose

end Builder
end TextCriteria
