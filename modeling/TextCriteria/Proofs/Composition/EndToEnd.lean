import TextCriteria.Proofs.Builder.Flags
import TextCriteria.Proofs.Builder.Growth
import TextCriteria.Proofs.Composition.Body
import TextCriteria.Proofs.Pattern.Ways

namespace TextCriteria

open TextCriteria.Pattern

/-!
# Shapes from end to end

A shape stands between the start of a line and the end of the text. So it accepts a text if its pattern can be
matched from the first position to the last one, by whichever of its ways.

* `Compiled.Spans` — a pattern has a way from end to end of a text; `Compiled.fullMatch`, the search for it.
* `Fragment.readAlone_of_compiles` — a body that compiles, and does so inside of its fragment too.
* `Fragment.anchored_accepts` — which texts a shape accepts.
* `Builder.isValid_alone` — a builder with a single requirement.
* `shape_spans` — the shapes of the caller.
-/

/-! ### Matches from end to end -/

/-- One of the ways of a pattern leads from end to end of a text. -/
def Pattern.Compiled.Spans (c : Compiled) (value : String) : Prop :=
  ∃ q ∈ c.tree.ways value.toList.toArray c.flags.modes { pos := 0 }, q.pos = value.length

/-- Whether a pattern matches from end to end: a match that stops before the end goes back for another. -/
def Pattern.Compiled.fullMatch (c : Compiled) (value : String) : Bool :=
  (c.tree.run value.toList.toArray c.flags.modes
    (fun q => if q.pos == value.length then some q else none) { pos := 0 }).isSome

/-- Going back finds a way to the end if there is one. -/
theorem Pattern.Compiled.fullMatch_iff (c : Compiled) (value : String) :
    c.fullMatch value = true ↔ c.Spans value := by
  rw [fullMatch, Regex.isSome_run_iff]
  refine exists_congr fun q => and_congr_right fun _ => ?_
  by_cases hq : q.pos = value.length <;> simp [hq]

namespace Fragment

variable {flags : Flags} {f : Fragment}

/-- A body that compiles, and does so inside of its fragment too, is read alone. -/
theorem readAlone_of_compiles (hbody : Pattern.Compiles flags f.body)
    (hrender : Pattern.Compiles flags f.render) : flags.Accepted ∧ ∃ ls, ReadAlone flags f.body ls := by
  -- That the flags are accepted comes from the rendering: a body may begin with flags of its own.
  obtain ⟨alone, halone⟩ := hrender
  obtain ⟨y, hy, -⟩ := compile_eq_ok.mp halone
  obtain ⟨e, hreadE, -, -, hforceE⟩ := compileChars_complete hy
  have hflags := (hforceE (f.begins.globals hreadE)).1
  obtain ⟨c, hc⟩ := hbody
  obtain ⟨x, hx, -⟩ := compile_eq_ok.mp hc
  obtain ⟨d, hread, hd, -, hforce⟩ := compileChars_complete hx
  rcases readThrough_or_malformed hflags hread hd.outer hd.missing with
    ⟨ls, through⟩ | ⟨cause, left, hrefused⟩
  · -- Inside of its fragment the body is read in the same way, so it adds no flags either.
    obtain rfl := draftOf_eq hread
    have hinForce := (hforce (through.reads.globals through.globals)).2
    have hfault := hd.fault
    rw [hinForce, Flags.inForce_template] at hfault
    exact ⟨hflags, ls, through, hfault⟩
  · cases halone.symm.trans hrefused

/-- **Shapes.** A shape accepts the texts that its pattern matches from end to end. -/
theorem anchored_accepts {p : String} {c alone : Compiled} (hp : compile p flags = .ok c)
    (halone : compile (anchored p).render flags = .ok alone) (value : String) :
    alone.accepts value = c.fullMatch value := by
  obtain ⟨hflags, ls, hread⟩ := readAlone_of_compiles (f := anchored p) ⟨c, hp⟩ ⟨alone, halone⟩
  have htree := compile_eq_ok.mpr ⟨_, hread.compileChars_eq hflags, rfl⟩
  obtain rfl := Except.ok.inj (hp.symm.trans htree)
  have hwhole := (whole_of_body hflags hread).1
  rw [hwhole.accepts_eq halone, holds, tree_anchored hread.toReadThrough rfl, anchoredItems_run]
  simp only [Compiled.fullMatch, List.size_toArray, String.length_toList]

end Fragment

/-! ### A single requirement -/

/-- A builder with a single requirement. Where repetitions are not forbidden, it accepts the texts that the
    fragment accepts alone, except for the empty one; else it fails without a requirement. -/
theorem Builder.isValid_alone {b : Builder} {r : Requirement} {alone : Compiled}
    (hb : b.requirements = [r]) (hbody : Pattern.Compiles b.flags r.fragment.body)
    (halone : compile r.fragment.render b.flags = .ok alone) (value : String) :
    (b.flags.template = false ∧ ∃ verdict, b.isValid (.str value) = .ok verdict ∧
      (verdict = true ↔ alone.accepts value = true ∧ value ≠ "")) ∨
    (b.flags.template = true ∧ ∃ e, e.Names (composedText [r]) .null ∧ b.isValid (.str value) = .error e) := by
  obtain ⟨hflags, ls, hread⟩ := Fragment.readAlone_of_compiles hbody ⟨alone, halone⟩
  have hwhole := (Fragment.whole_of_body hflags hread).1
  have haccepts := hwhole.accepts_eq halone
  have hone : ∀ f ∈ fragmentsOf [r], f.Whole b.flags := by simpa [fragmentsOf] using hwhole
  have hbuild : b.build = compose [r] b.flags := by rw [Builder.build_of_accepted hflags, hb]
  rcases compose_of_kept hflags hone (List.pairwise_singleton _ _) (List.pairwise_singleton _ _) with
    ⟨htemplate, c, hc, hverdict⟩ | ⟨htemplate, e, he, hrefused⟩
  · refine .inl ⟨htemplate, c.accepts value, ?_, ?_⟩
    · simp [Builder.isValid, hbuild, hc, Builder.subject, bind, Except.bind]
    · simp [hverdict, haccepts, fragmentsOf]
  · refine .inr ⟨htemplate, e, he, ?_⟩
    simp [Builder.isValid, hbuild, hrefused, bind, Except.bind]

/-- **Shapes of the caller.** Let a pattern compile alone and as a shape, whatever it is made of. Then the shape
    accepts exactly the texts that one of the ways of the pattern spans from end to end. A builder that holds
    only the shape accepts these except for the empty text, as long as repetitions are not forbidden. -/
theorem shape_spans {p : String} {flags : Flags} {c alone : Compiled} (hp : compile p flags = .ok c)
    (halone : compile (Fragment.anchored p).render flags = .ok alone) (value : String) :
    (c.fullMatch value = true ↔ c.Spans value) ∧
    (alone.accepts value = true ↔ c.Spans value) ∧
    ∀ given settings message, (Builder.create given settings).flags = flags →
      let b := (Builder.create given settings).call (.shape p message)
      (flags.template = false → ∃ verdict, b.isValid (.str value) = .ok verdict ∧
        (verdict = true ↔ c.Spans value ∧ value ≠ "")) ∧
      (flags.template = true →
        ∃ e, e.Names (composedText b.requirements) .null ∧ b.isValid (.str value) = .error e) := by
  have hspans : alone.accepts value = true ↔ c.Spans value := by
    rw [Fragment.anchored_accepts hp halone, c.fullMatch_iff]
  refine ⟨c.fullMatch_iff value, hspans, ?_⟩
  rintro given settings message rfl b
  have hb : b.requirements = [⟨.anchored p, message⟩] := Change.one_added _
  have hverdict := Builder.isValid_alone hb ⟨c, hp⟩ halone value
  rw [hspans, ← hb] at hverdict
  rcases hverdict with ⟨htemplate, hok⟩ | ⟨htemplate, hrefused⟩
  · exact ⟨fun _ => hok, fun h => absurd (htemplate.symm.trans h) Bool.false_ne_true⟩
  · exact ⟨fun h => absurd (h.symm.trans htemplate) Bool.false_ne_true, fun _ => hrefused⟩

/-- An alternative at the top of the pattern: the match goes back to the longer branch, and a line break behind
    it is not passed over. -/
theorem shape_spans_branches :
    ∃ c, compile "a|(a)b\\1?" 0 = .ok c ∧ c.Spans "ab" ∧ ¬c.Spans "ab\n" ∧
      ∃ verdict, ((Builder.create .null {}).call (.shape "a|(a)b\\1?" (.str "m"))).isValid (.str "ab")
        = .ok verdict ∧ verdict = true := by
  have halone : ∃ alone, compile (Fragment.anchored "a|(a)b\\1?").render 0 = .ok alone ∧
      alone.accepts "ab" = true ∧ alone.accepts "ab\n" = false := ⟨_, rfl, rfl, rfl⟩
  have hp : ∃ c, compile "a|(a)b\\1?" 0 = .ok c := ⟨_, rfl⟩
  obtain ⟨alone, halone, hshort, hlong⟩ := halone
  obtain ⟨c, hp⟩ := hp
  obtain ⟨-, hspans, hbuilder⟩ := shape_spans hp halone "ab"
  obtain ⟨-, hspans', -⟩ := shape_spans hp halone "ab\n"
  obtain ⟨verdict, hvalid, hverdict⟩ := (hbuilder .null {} (.str "m") rfl).1 rfl
  refine ⟨c, hp, hspans.mp hshort, fun h => ?_, verdict, hvalid, hverdict.mpr ⟨hspans.mp hshort, by decide⟩⟩
  rw [hspans'.mpr h] at hlong
  cases hlong

/-- **Repetitions forbidden.** A shape without any of its own, which the text has, is refused by the builder. -/
theorem shape_template_refused :
    ∃ c alone, compile "a" 1 = .ok c ∧ compile (Fragment.anchored "a").render 1 = .ok alone ∧
      c.fullMatch "a" = true ∧ alone.accepts "a" = true ∧
      ((Builder.create (.int 1) {}).call (.shape "a" (.str "m"))).isValid (.str "a")
        = .error (.record (.pattern (.str "^(?=^(?:a)\\Z)(?s:.+)\\Z")
            (.str "internal: unsupported template operator MAX_REPEAT") .null)) :=
  ⟨_, _, rfl, rfl, rfl, rfl, rfl⟩

end TextCriteria
