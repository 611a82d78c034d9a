import TextCriteria.Proofs.Builder.Growth

namespace TextCriteria

/-!
# What changes add

* `Change.Adds` — every requirement that is added has a property; `Change.Single.adds`,
  `PresetGrows.adds` and `RulesGrow.adds` say when.
* `Call.Worded` — calls with messages that are texts, or with none where there is a standard one.
* `Call.change_worded` — they add requirements with messages that are texts.
-/

variable {P Q : Requirement → Prop} {s : Settings} {c : Change}

/-- Every requirement that is added has the property `P`. -/
def Change.Adds (P : Requirement → Prop) (c : Change) : Prop := ∀ r ∈ c.added, P r

theorem Change.Single.adds (h : c.Single Q) (hQ : ∀ r, Q r → P r) : c.Adds P := by
  intro r hr
  rcases h with ⟨q, hq, hadded, -⟩ | ⟨hadded, -⟩
  · rw [hadded, List.mem_singleton] at hr
    rw [hr]
    exact hQ q hq
  · rw [hadded] at hr
    cases hr

theorem PresetGrows.adds {type level : Value} (h : PresetGrows s type level c)
    (hpreset : ∀ t, ∀ e ∈ Preset.groups t, ∀ r ∈ e.2, P r) : c.Adds P := by
  intro r hr
  rcases h with ⟨t, l, group, -, -, hgroup, hadded, -⟩ | ⟨f, -, hadded, -⟩
  · exact hpreset t _ (Preset.mem_groups hgroup) r (hadded ▸ hr)
  · rw [hadded] at hr
    cases hr

/-- What is added together is made with a message that is a text, or belongs to a preset. -/
theorem Group.forall_mem {rs : List Requirement} (h : Group rs)
    (hmade : ∀ text r, Requirement.Made (.str text) r → P r)
    (hpreset : ∀ t, ∀ e ∈ Preset.groups t, ∀ r ∈ e.2, P r) : ∀ r ∈ rs, P r := by
  cases h with
  | single h => exact List.forall_mem_singleton.mpr (hmade _ _ h)
  | preset h => exact hpreset _ _ (Preset.mem_groups h)

theorem RulesGrow.adds {name rules : Value} (h : RulesGrow s name rules c)
    (hmade : ∀ text r, Requirement.Made (.str text) r → P r)
    (hpreset : ∀ t, ∀ e ∈ Preset.groups t, ∀ r ∈ e.2, P r) : c.Adds P := by
  intro r hr
  unfold RulesGrow at h
  split at h
  · obtain ⟨done, rest, -, hdone, hadded, -⟩ := h
    rw [hadded] at hr
    obtain ⟨t, ht, hr⟩ := List.mem_flatMap.mp hr
    exact (hdone t ht).1.forall_mem hmade hpreset r hr
  · rw [h.1] at hr
    cases hr

/-! ### Messages -/

theorem Preset.groups_worded (type : PresetType) :
    ∀ e ∈ Preset.groups type, ∀ r ∈ e.2, r.Worded := by
  cases type <;> simp [Preset.groups, Preset.chars, Preset.counted, Preset.lower, Preset.upper,
    Preset.digit, Requirement.Worded]

/-- The messages of a call are texts. They may be left out where there is a standard one. -/
def Call.Worded : Call → Prop
  | .addRequirement _ message | .shape _ message => ∃ s, message = .str s
  | .length _ _ message | .lengthBetween _ _ message | .required message | .characters _ _ message
  | .email message | .url _ message | .ipv4 message | .date _ message | .phone _ message =>
    message.IsWording
  | .preset _ _ | .field _ _ => True

/-- **Messages.** Calls with messages that are texts add requirements with such messages. -/
theorem Call.change_worded (s : Settings) {c : Call} (h : c.Worded) :
    (c.change s).Adds Requirement.Worded := by
  have hgrows := c.change_grows s
  cases c with
  | addRequirement fragment message => exact hgrows.adds fun r hr => h.imp fun _ ht => hr.trans ht
  | shape pattern message => exact hgrows.adds fun r hr => h.imp fun _ ht => hr.trans ht
  | preset type level => exact hgrows.adds Preset.groups_worded
  | field name rules =>
    exact hgrows.adds (fun text r hr => hr.worded (.inr ⟨text, rfl⟩)) Preset.groups_worded
  | _ => exact Change.Single.adds hgrows fun r hr => hr.worded h

end TextCriteria
