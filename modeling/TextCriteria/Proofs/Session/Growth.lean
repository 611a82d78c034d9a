import TextCriteria.Proofs.Builder.Growth
import TextCriteria.Proofs.Session.Frame

namespace TextCriteria

/-!
# The requirements of a builder within a session

* `Step.Regular` — the steps that do not make a builder anew.
* `Step.Grows` — what a step adds to the requirements of a builder.
* `Step.run_grows` — one step; `Session.run_append`, some steps.
* `requirements_only_grow` — every step of every run appends what its own call adds, and nothing else.
-/

variable {on : String} {b : Builder} {s : Session}

/-! ### Calls -/

@[simp] theorem Builder.append_nil (b : Builder) : b.append [] = b := by
  simp [Builder.append]

theorem Builder.append_append (b : Builder) (rs rs' : List Requirement) :
    (b.append rs).append rs' = b.append (rs ++ rs') := by
  simp [Builder.append]

/-- A builder that is there is used as it is. -/
theorem builder_run (hb : s.builders.lookup on = some b) : (builder on).run.run s = (.ok b, s) := by
  rw [builder, Action.bind_run, Action.get_run]
  simp only [hb]
  rfl

/-- A call answers with what it has added. -/
theorem callOn_grows {form : Call.Form} (hform : form ∈ Call.forms) (arguments : Arguments)
    (hb : s.builders.lookup on = some b) :
    ∃ c : Change, form.Grows b.settings arguments c ∧
      ((Session.callOn on form arguments).run.run s).1 = .ok (.added c.failure c.added) ∧
      ((Session.callOn on form arguments).run.run s).2.builders.lookup on
        = some (b.append c.added) := by
  unfold Session.callOn Call.Form.Grows
  rw [Action.bind_run, builder_run hb]
  cases hcall : form.call arguments with
  | error f =>
    refine ⟨.fail f, ⟨rfl, rfl⟩, rfl, ?_⟩
    rw [Change.fail, Builder.append_nil]
    exact hb
  | ok call =>
    cases call with
    | none => exact absurd hcall (Call.Form.call_ne_none hform arguments)
    | some call => exact ⟨b.change call, call.change_grows b.settings, rfl, lookup_putNamed_self⟩

/-! ### Steps -/

/-- A step that does not make the builder `on` anew. Calls are those that have a form. -/
def Step.Regular (on : String) : Step → Prop
  | .create other _ _ => other ≠ on
  | .call _ form _ => form ∈ Call.forms
  | _ => True

/-- What a step adds to the requirements of the builder `on`: a call on it adds what it says in its
    answer; nothing else adds any. -/
def Step.Grows (on : String) (settings : Settings) (reply : Reply) (added : List Requirement) :
    Step → Prop
  | .call other form arguments =>
    (other ≠ on ∧ added = []) ∨
      (other = on ∧ ∃ c : Change, form.Grows settings arguments c ∧ added = c.added ∧
        reply = .added c.failure c.added)
  | _ => added = []

/-- **Step.** A builder has the requirements that it had and what the step adds; its flags and settings are
    the same. -/
theorem Step.run_grows {step : Step} (hstep : step.Regular on) (hb : s.builders.lookup on = some b) :
    ∃ added, (step.run s).2.builders.lookup on = some (b.append added) ∧
      step.Grows on b.settings (step.run s).1 added := by
  by_cases htouched : step.builderOf? = some on
  · -- Of the steps that touch this builder, only a call is regular.
    cases step with
    | create other given settings => exact absurd (Option.some.inj htouched) hstep
    | call other form arguments =>
      obtain rfl := Option.some.inj htouched
      obtain ⟨c, hgrows, hreply, hlookup⟩ := callOn_grows hstep arguments hb
      have hrun : (Step.call other form arguments).run s = _ := Step.run_of_ok hreply
      rw [hrun]
      exact ⟨c.added, hlookup, .inr ⟨rfl, c, hgrows, rfl, rfl⟩⟩
    | _ => cases htouched
  · refine ⟨[], ?_, ?_⟩
    · rw [Builder.append_nil]
      exact (step.run_frame s).builder on b htouched hb
    · cases step with
      | call other form arguments =>
        exact .inl ⟨fun heq => htouched (congrArg some heq), rfl⟩
      | _ => rfl

/-- **Run.** Over some steps the requirements of a builder only grow. -/
theorem Session.run_append {steps : List Step} (hsteps : ∀ x ∈ steps, x.Regular on)
    (hb : s.builders.lookup on = some b) :
    ∃ added, (s.run steps).2.builders.lookup on = some (b.append added) := by
  have hstep : ∀ x ∈ steps, ∀ s' : Session, (∃ added, s'.builders.lookup on = some (b.append added)) →
      ∃ added, (x.run s').2.builders.lookup on = some (b.append added) := by
    rintro x hx s' ⟨added, hadded⟩
    obtain ⟨others, hothers, -⟩ := Step.run_grows (hsteps x hx) hadded
    exact ⟨added ++ others, by rw [← Builder.append_append]; exact hothers⟩
  exact Session.run_invariant hstep ⟨[], by rwa [Builder.append_nil]⟩

/-- **Append-only.** Whatever was done before with a builder, and whether the next step succeeds or fails:
    the requirements before the step are those at the start with others behind them, and after it they
    are the same with what the step adds behind them. Flags and settings are those at the start. -/
theorem requirements_only_grow {before : List Step} {step : Step}
    (hb : s.builders.lookup on = some b) (hbefore : ∀ x ∈ before, x.Regular on)
    (hstep : step.Regular on) :
    ∃ earlier added,
      (s.run before).2.builders.lookup on = some (b.append earlier) ∧
      (step.run (s.run before).2).2.builders.lookup on = some ((b.append earlier).append added) ∧
      step.Grows on b.settings (step.run (s.run before).2).1 added := by
  obtain ⟨earlier, hearlier⟩ := Session.run_append hbefore hb
  obtain ⟨added, hadded, hgrows⟩ := Step.run_grows hstep hearlier
  exact ⟨earlier, added, hearlier, hadded, hgrows⟩

/-- A rule string of which the second rule fails, behind a call that fails. -/
theorem requirements_only_grow_rules :
    ∃ earlier added failure,
      let least := Call.formWith "has_min_length" (.needed "length") (.length .least)
      let rules := Call.formOf "field" (.needed "name") (.needed "rules") .field
      let b := Builder.create .null {}
      let s := (Session.run { builders := [("b", b)] } [.call "b" least [("length", .int (-1))]]).2
      let step := Step.call "b" rules [("name", .str "n"), ("rules", .str "required|min:x|email")]
      s.builders.lookup "b" = some (b.append earlier) ∧
        (step.run s).1 = .added failure added ∧
        (step.run s).2.builders.lookup "b" = some ((b.append earlier).append added) := by
  have hleast : Call.formWith "has_min_length" (.needed "length") (.length .least) ∈ Call.forms := by
    simp [Call.forms]
  have hrules : Call.formOf "field" (.needed "name") (.needed "rules") .field ∈ Call.forms := by
    simp [Call.forms]
  have hbefore : ∀ x ∈ [Step.call "b" _ [("length", .int (-1))]], x.Regular "b" :=
    List.forall_mem_singleton.mpr hleast
  obtain ⟨earlier, added, hearlier, hadded, ⟨hne, -⟩ | ⟨-, c, -, rfl, hreply⟩⟩ :=
    @requirements_only_grow "b" (Builder.create .null {}) { builders := [("b", Builder.create .null {})] }
      _ (.call "b" _ [("name", .str "n"), ("rules", .str "required|min:x|email")]) rfl hbefore hrules
  · exact absurd rfl hne
  · exact ⟨earlier, c.added, c.failure, hearlier, hreply, hadded⟩

end TextCriteria
