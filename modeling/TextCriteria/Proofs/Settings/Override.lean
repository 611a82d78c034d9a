import Mathlib.Data.List.Induction
import TextCriteria.Proofs.Entries
import TextCriteria.Session.Step

namespace TextCriteria

/-!
# Overrides

A caller may override fields one by one: those of settings that exist, and the entries that a file states.
The latest override of a field counts, and fields without one are as they were.

* `latest?` — the latest override of a field.
* `Settings.Overlays` — settings with the latest override of every field over a base.
* `Document.withOverrides_arguments` — the arguments that the entries of a file give under overrides.
-/

/-- The latest override of a field. -/
def latest? (field : String) (overrides : Arguments) : Option Value :=
  overrides.reverse.lookup field

theorem latest?_append (field : String) (overrides others : Arguments) :
    latest? field (overrides ++ others) = (latest? field others).or (latest? field overrides) := by
  rw [latest?, List.reverse_append, List.lookup_append]
  rfl

/-! ### Over settings -/

/-- What stands under the name of a field: a value, or settings of the log. -/
def Settings.held? (s : Settings) (field : String) : Option LogChoice :=
  (s.fields.map (fun f => (f.1, LogChoice.replaced f.2)) ++ [("logging", s.logging)]).lookup field

/-- Every field has the latest value that it was overridden with, or that of the base. -/
def Settings.Overlays (base : Settings) (overrides : Arguments) (s : Settings) : Prop :=
  ∀ field ∈ Settings.names,
    s.held? field = ((latest? field overrides).map .replaced).or (base.held? field)

/-- A field that is replaced has the new value, and the others are as before. -/
theorem Settings.held?_replace (s : Settings) (v : Value) {name field : String}
    (hname : name ∈ Settings.names) :
    (s.replace field v).held? name = if field = name then some (.replaced v) else s.held? name := by
  have hnames : name = "default_flags" ∨ name = "default_phone_region" ∨ name = "default_date_format" ∨
      name = "url_require_protocol" ∨ name = "default_password_level" ∨
      name = "default_username_level" ∨ name = "logging" := by
    simpa [names, fields] using hname
  unfold replace
  split
  case h_8 =>
    -- The name of no field is no name of one that is asked for.
    rw [if_neg]
    rintro rfl
    simp_all
  all_goals
    rcases hnames with rfl | rfl | rfl | rfl | rfl | rfl | rfl <;>
      simp [held?, fields, List.lookup_cons]

theorem Settings.replaceAll_append (s : Settings) (overrides others : Arguments) :
    s.replaceAll (overrides ++ others) = (s.replaceAll overrides).replaceAll others :=
  List.foldl_append

theorem Settings.overlays_replaceAll (base : Settings) (overrides : Arguments) :
    base.Overlays overrides (base.replaceAll overrides) := by
  intro name hname
  induction overrides using List.reverseRecOn with
  | nil => simp [replaceAll, latest?]
  | append_singleton others o ih =>
    obtain ⟨field, v⟩ := o
    have hlast : base.replaceAll (others ++ [(field, v)]) = (base.replaceAll others).replace field v := by
      rw [replaceAll_append]
      rfl
    rw [hlast, held?_replace _ _ hname, latest?_append]
    by_cases hfield : field = name
    · simp [hfield, latest?]
    · simp [hfield, latest?, lookup_entry, Ne.symm hfield, ih]

/-! ### Over the entries of a file -/

namespace Document

variable {entries : List (Value × Value)} {arguments : Arguments}

/-- An entry that is put among others is found under its name, and the others are as before. -/
theorem put_arguments (h : textKeys? entries = some arguments) (name : String) (v : Value) :
    ∃ arguments', textKeys? (Json.put name v entries) = some arguments' ∧
      ∀ field, arguments'.lookup field = if field = name then some v else arguments.lookup field := by
  induction entries generalizing arguments with
  | nil =>
    obtain rfl := Option.some.inj h
    exact ⟨[(name, v)], rfl, fun field => lookup_entry name field v []⟩
  | cons e rest ih =>
    obtain ⟨key, w⟩ := e
    -- Only texts are keys here.
    cases key with
    | str k =>
      obtain ⟨others, hothers, rfl⟩ : ∃ others, textKeys? rest = some others ∧ (k, w) :: others = arguments := by
        simpa [textKeys?] using h
      by_cases hk : k = name
      · refine ⟨(k, v) :: others, by simp [Json.put, hk, textKeys?, hothers], fun field => ?_⟩
        rw [lookup_entry, lookup_entry, hk]
        by_cases hfield : field = name <;> simp [hfield]
      · obtain ⟨others', hothers', hlookup⟩ := ih hothers
        refine ⟨(k, w) :: others', by simp [Json.put, hk, textKeys?, hothers'], fun field => ?_⟩
        rw [lookup_entry, lookup_entry, hlookup]
        by_cases hfield : field = k <;> simp [hfield, hk]
    | _ => cases h

/-- The arguments that entries give under overrides: a field has its latest override, or the value of its
    entry. -/
theorem withOverrides_arguments (h : textKeys? entries = some arguments) (overrides : Arguments) :
    ∃ arguments', argumentsOf (withOverrides entries overrides) = .ok arguments' ∧
      ∀ field, arguments'.lookup field = (latest? field overrides).or (arguments.lookup field) := by
  suffices hkeys : ∃ arguments', textKeys? (withOverrides entries overrides) = some arguments' ∧
      ∀ field, arguments'.lookup field = (latest? field overrides).or (arguments.lookup field) by
    obtain ⟨arguments', hkeys, hlookup⟩ := hkeys
    exact ⟨arguments', by rw [argumentsOf, hkeys], hlookup⟩
  induction overrides using List.reverseRecOn with
  | nil => exact ⟨arguments, h, fun field => by simp [latest?]⟩
  | append_singleton others o ih =>
    obtain ⟨name, v⟩ := o
    obtain ⟨arguments', hkeys, hlookup⟩ := ih
    obtain ⟨final, hfinal, hput⟩ := put_arguments hkeys name v
    have hlast : withOverrides entries (others ++ [(name, v)])
        = Json.put name v (withOverrides entries others) := List.foldl_append
    refine ⟨final, by rw [hlast, hfinal], fun field => ?_⟩
    rw [hput, latest?_append, latest?, List.reverse_singleton, lookup_entry]
    by_cases hfield : field = name <;> simp [hfield, hlookup]

end Document
end TextCriteria
