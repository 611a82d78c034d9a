import TextCriteria.Builder.Change
import TextCriteria.Proofs.Pattern.Readers

namespace TextCriteria

open TextCriteria.Pattern

/-!
# Regions and templates of calls

A value is looked up in a catalog by its text, and where nothing is found there is a note with its other text.
Either both of them can be written or none, so the note is never what keeps a requirement from being added.

* `failureOf` — what a result fails with, if it does.
* `Change.noted_added`, `Change.noted_failure` — a note that cannot be written fails behind what is added.
* `Value.text_of_shown_error`, `Value.shown_of_not_isTrue` — when the two texts of a value can be written.
* `Value.LookedUp` — what was found for a value; `lookupNote_failure`, that the note can be written then.
* `Requirement.date_eq_ok`, `Requirement.phone_eq_ok` — what is made of a value; `Requirement.date_eq_error`,
  `Requirement.phone_eq_error`, when nothing is.
* `phoneChange_result`, `dateChange_result` — it is what the calls add.
-/

/-! ### Results and notes -/

/-- What a result fails with, if it does. -/
def failureOf {α : Type} : Except Failure α → Option Failure
  | .ok _ => none
  | .error f => some f

@[simp] theorem failureOf_ok {α : Type} (a : α) : failureOf (.ok a) = none := rfl

@[simp] theorem failureOf_error {α : Type} (f : Failure) : failureOf (.error f : Except Failure α) = some f := rfl

namespace Change

@[simp] theorem noted_added (rs : List Requirement) (topic : Topic) (text : Except Failure String) :
    (noted rs topic text).added = rs := by cases text <;> rfl

@[simp] theorem noted_failure (rs : List Requirement) (topic : Topic) (text : Except Failure String) :
    (noted rs topic text).failure = failureOf text := by cases text <;> rfl

@[simp] theorem one_added (r : Requirement) : (one r).added = [r] := noted_added _ _ _

theorem mem_one {r q : Requirement} : q ∈ (one r).added ↔ q = r := by
  rw [one_added, List.mem_singleton]

theorem mem_ofResult {x : Except Failure Requirement} {q : Requirement} (h : q ∈ (ofResult x).added) :
    x = .ok q := by
  cases x with
  | error f => cases h
  | ok r => rw [mem_one.mp h]

/-- A requirement is there before its message is written. -/
@[simp] theorem one_failure (r : Requirement) : (one r).failure = failureOf r.message.text := by
  rw [one, noted_failure]
  cases r.message.text <;> rfl

end Change

/-! ### Texts of values -/

namespace Value

variable {v : Value} {f : Failure}

theorem text_eq_error : v.text = .error f ↔ v.text? = none ∧ f = .unwritable := by
  unfold text orUnwritable
  cases v.text? <;> simp [eq_comm]

theorem shown_eq_error : v.shown = .error f ↔ v.shown? = none ∧ f = .unwritable := by
  unfold shown orUnwritable
  cases v.shown? <;> simp [eq_comm]

/-- Only texts, members of catalogs, dates and foreign objects are shown in another way, and all of these can
    be written. -/
theorem text_of_shown_error (h : v.shown = .error f) : v.text = .error f := by
  obtain ⟨hshown, hf⟩ := shown_eq_error.mp h
  refine text_eq_error.mpr ⟨?_, hf⟩
  cases v with
  | str | choice | date | moment | foreign => simp [shown?] at hshown
  | _ => exact hshown

/-- What does not count as given has no number of many digits in it. -/
theorem shown_of_not_isTrue (h : v.isTrue = false) : ∃ s, v.shown = .ok s := by
  suffices hshown : ∃ s, v.shown? = some s by
    obtain ⟨s, hs⟩ := hshown
    exact ⟨s, by rw [shown, hs]; rfl⟩
  cases v with
  | int n =>
    obtain rfl : n = 0 := by simpa [isTrue] using h
    exact ⟨_, rfl⟩
  | bool b => cases b <;> exact ⟨_, rfl⟩
  | list items | tuple items | set items =>
    obtain rfl : items = [] := by simpa [isTrue] using h
    exact ⟨_, rfl⟩
  | dict entries =>
    obtain rfl : entries = [] := by simpa [isTrue] using h
    exact ⟨_, rfl⟩
  | null | float | str | bytes | choice | date | moment | foreign => exact ⟨_, rfl⟩

end Value

/-! ### Values that are looked up -/

section Lookup

variable {α : Type} {v : Value} {f : Failure} {found : Except Failure (Option α)}

/-- What a value is looked up to: only its text can fail, and where nothing is found it can be shown. -/
structure Value.LookedUp (v : Value) (found : Except Failure (Option α)) : Prop where
  text : ∀ f, found = .error f → v.text = .error f
  shown : found = .ok none → ∃ s, v.shown = .ok s

theorem Value.lookedUp_named (v : Value) (find : String → Option α) : v.LookedUp (v.named? find) := by
  unfold Value.named?
  cases htrue : v.isTrue with
  | false => exact ⟨fun f hf => (nomatch hf), fun _ => Value.shown_of_not_isTrue htrue⟩
  | true =>
    cases htext : v.text with
    | error e =>
      refine ⟨fun f hf => ?_, fun h => nomatch h⟩
      have hsame : (.error e : Except Failure (Option α)) = .error f := hf
      rw [htext, Except.error.inj hsame]
    | ok s =>
      refine ⟨fun f hf => (nomatch hf), fun _ => ?_⟩
      cases hshown : v.shown with
      | ok shown => exact ⟨shown, rfl⟩
      | error e => cases htext.symm.trans (Value.text_of_shown_error hshown)

/-- A text is looked up as it is, if the empty one is not found anyway. -/
theorem Value.named?_str {find : String → Option α} (h : find "" = Option.none) (s : String) :
    (Value.str s).named? find = .ok (find s) := by
  unfold Value.named?
  by_cases hs : s = ""
  · rw [hs, h]
    rfl
  · have htrue : (Value.str s).isTrue = true := by simp [Value.isTrue, hs]
    rw [if_pos htrue]
    rfl

theorem PhoneRegion.lookedUp (v : Value) : v.LookedUp (PhoneRegion.ofValue? v) := by
  unfold PhoneRegion.ofValue?
  split
  · exact ⟨fun f hf => (nomatch hf), fun h => nomatch h⟩
  · exact Value.lookedUp_named _ _

theorem DateTemplate.lookedUp (v : Value) : v.LookedUp (DateTemplate.ofValue? v) := by
  unfold DateTemplate.ofValue?
  split
  · exact ⟨fun f hf => (nomatch hf), fun h => nomatch h⟩
  · exact Value.lookedUp_named _ _

theorem lookupNote_added (before after : String) : (lookupNote found v before after).added = [] := by
  unfold lookupNote
  split
  · rfl
  · rfl
  · exact Change.noted_added _ _ _

/-- A note fails only if the value could not be looked up. -/
theorem lookupNote_failure (h : v.LookedUp found) (before after : String) :
    (lookupNote found v before after).failure = failureOf found := by
  unfold lookupNote
  split
  · rfl
  · rfl
  · obtain ⟨s, hs⟩ := h.shown rfl
    rw [Change.note, Change.noted_failure, hs]
    rfl

/-- So it makes no difference to a requirement that is made from what was found. -/
theorem lookupNote_andThen {x : Except Failure Requirement} (h : v.LookedUp found)
    (hx : ∀ f, found = .error f → x = .error f) (before after : String) :
    ((lookupNote found v before after).andThen (.ofResult x)).added = (Change.ofResult x).added ∧
      ((lookupNote found v before after).andThen (.ofResult x)).failure = (Change.ofResult x).failure := by
  have hfailure := lookupNote_failure h before after
  have hadded : (lookupNote found v before after).added = [] := lookupNote_added before after
  unfold Change.andThen
  cases found with
  | error f =>
    rw [hfailure, hx f rfl]
    exact ⟨hadded, hfailure⟩
  | ok a =>
    rw [hfailure]
    exact ⟨by rw [failureOf_ok, hadded, List.nil_append], rfl⟩

end Lookup

/-! ### Dates and phone numbers -/

section Catalog

variable {v message : Value} {r : Requirement} {f : Failure}

/-- A date is made from the template that its value stands for. -/
theorem Requirement.date_eq_ok : Requirement.date v message = .ok r ↔ ∃ t, DateTemplate.resolve v = .ok t ∧
    r = .of (.anchored t.shape) message ("Valid date in " ++ t.code ++ " format") := by
  unfold Requirement.date
  cases DateTemplate.resolve v with
  | error f => simp [bind, Except.bind]
  | ok t => simp [bind, Except.bind, eq_comm]

/-- A phone number is made from the region that its value stands for, with the name that it gives. -/
theorem Requirement.phone_eq_ok : Requirement.phone v message = .ok r ↔
    ∃ p name, PhoneRegion.resolve v = .ok p ∧ p.nameFor v = .ok name ∧
      r = .of (.anchored p.shape) message ("Valid " ++ name ++ " phone number") := by
  unfold Requirement.phone
  cases PhoneRegion.resolve v with
  | error f => simp [bind, Except.bind]
  | ok p =>
    cases hname : p.nameFor v with
    | error f => simp [bind, Except.bind, hname]
    | ok name => simp [bind, Except.bind, hname, eq_comm]

theorem Requirement.date_of_resolve {t : DateTemplate} (h : DateTemplate.resolve v = .ok t) (message : Value) :
    Requirement.date v message
      = .ok (.of (.anchored t.shape) message ("Valid date in " ++ t.code ++ " format")) :=
  date_eq_ok.mpr ⟨t, h, rfl⟩

theorem DateTemplate.resolve_error (h : DateTemplate.ofValue? v = .error f) (message : Value) :
    Requirement.date v message = .error f := by
  unfold Requirement.date DateTemplate.resolve
  rw [h]
  rfl

theorem PhoneRegion.resolve_error (h : PhoneRegion.ofValue? v = .error f) (message : Value) :
    Requirement.phone v message = .error f := by
  unfold Requirement.phone PhoneRegion.resolve
  rw [h]
  rfl

/-- A value that a region was found for has a text, if there is need of one. -/
theorem PhoneRegion.nameFor_of_resolve {p : PhoneRegion} (h : PhoneRegion.resolve v = .ok p) :
    ∃ name, p.nameFor v = .ok name := by
  unfold nameFor
  split
  · exact ⟨_, rfl⟩
  · split
    · rename_i hchoice htrue
      cases htext : v.text with
      | ok name => exact ⟨name, rfl⟩
      | error f =>
        have hvalue : PhoneRegion.ofValue? v = .error f := by
          unfold PhoneRegion.ofValue?
          split
          · exact absurd rfl (hchoice _)
          · rw [Value.named?, if_pos htrue, htext]
            rfl
        rw [resolve, hvalue] at h
        cases h
    · exact ⟨_, rfl⟩

theorem Requirement.phone_of_resolve {p : PhoneRegion} (h : PhoneRegion.resolve v = .ok p) (message : Value) :
    ∃ r, Requirement.phone v message = .ok r ∧ r.fragment = .anchored p.shape := by
  obtain ⟨name, hname⟩ := PhoneRegion.nameFor_of_resolve h
  exact ⟨_, phone_eq_ok.mpr ⟨p, name, h, hname, rfl⟩, rfl⟩

/-- Nothing but the text of a value keeps a phone number from being made. -/
theorem Requirement.phone_eq_error (h : Requirement.phone v message = .error f) : v.text = .error f := by
  cases hvalue : PhoneRegion.ofValue? v with
  | error e =>
    rw [PhoneRegion.resolve_error hvalue] at h
    obtain rfl := Except.error.inj h
    exact (PhoneRegion.lookedUp v).text _ hvalue
  | ok found =>
    have hresolve : PhoneRegion.resolve v = .ok (found.getD .international) := by
      rw [PhoneRegion.resolve, hvalue]
      rfl
    obtain ⟨r, hr, -⟩ := Requirement.phone_of_resolve hresolve message
    cases h.symm.trans hr

theorem Requirement.date_eq_error (h : Requirement.date v message = .error f) : v.text = .error f := by
  cases hvalue : DateTemplate.ofValue? v with
  | error e =>
    rw [DateTemplate.resolve_error hvalue] at h
    obtain rfl := Except.error.inj h
    exact (DateTemplate.lookedUp v).text _ hvalue
  | ok found =>
    have hresolve : DateTemplate.resolve v = .ok (found.getD .yearMonthDay) := by
      rw [DateTemplate.resolve, hvalue]
      rfl
    cases h.symm.trans (Requirement.date_of_resolve hresolve message)

/-- The call for a phone number adds what is made of its value, or of that of the settings. -/
theorem phoneChange_result (s : Settings) (region message : Value) :
    (phoneChange s region message).added
        = (Change.ofResult (Requirement.phone (region.getD s.phoneRegion) message)).added ∧
      (phoneChange s region message).failure
        = (Change.ofResult (Requirement.phone (region.getD s.phoneRegion) message)).failure :=
  lookupNote_andThen (PhoneRegion.lookedUp _) (fun _ hf => PhoneRegion.resolve_error hf message) _ _

theorem dateChange_result (s : Settings) (template message : Value) :
    (dateChange s template message).added
        = (Change.ofResult (Requirement.date (template.getD s.dateTemplate) message)).added ∧
      (dateChange s template message).failure
        = (Change.ofResult (Requirement.date (template.getD s.dateTemplate) message)).failure :=
  lookupNote_andThen (DateTemplate.lookedUp _) (fun _ hf => DateTemplate.resolve_error hf message) _ _

theorem phoneChange_added {s : Settings} {region : Value}
    (h : Requirement.phone (region.getD s.phoneRegion) message = .ok r) :
    (phoneChange s region message).added = [r] := by
  rw [(phoneChange_result s region message).1, h]
  exact Change.one_added r

theorem dateChange_added {s : Settings} {template : Value}
    (h : Requirement.date (template.getD s.dateTemplate) message = .ok r) :
    (dateChange s template message).added = [r] := by
  rw [(dateChange_result s template message).1, h]
  exact Change.one_added r

theorem phoneChange_mem {s : Settings} {region : Value} (h : r ∈ (phoneChange s region message).added) :
    Requirement.phone (region.getD s.phoneRegion) message = .ok r :=
  Change.mem_ofResult ((phoneChange_result s region message).1 ▸ h)

theorem dateChange_mem {s : Settings} {template : Value} (h : r ∈ (dateChange s template message).added) :
    Requirement.date (template.getD s.dateTemplate) message = .ok r :=
  Change.mem_ofResult ((dateChange_result s template message).1 ▸ h)

end Catalog
end TextCriteria
