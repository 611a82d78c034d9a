import TextCriteria.Proofs.Text.Blank
import TextCriteria.Proofs.Text.Pieces
import TextCriteria.RuleString

namespace TextCriteria

open TextCriteria.Text

/-!
# Rule strings and their rules

A bar ends a rule, and the first colon behind it ends the name of the next one. Neither is a blank, so blanks
beside them belong to the ends of names and parameters, where they are dropped.

* `RuleToken.Plain` — the rules that can be written: no bar, no colon in the name, no blanks at the ends.
* `RuleString.token_pair`, `RuleString.token_alone` — what a piece states, with a colon and without one.
* `RuleString.parse_joined` — the rules of a joined string are those of its parts.
* `RuleString.parse_render` — what is written for some rules is read as these.
* `RuleString.Edge` — where blanks count for nothing; `RuleString.parse_spaced`, that they do so there.
* `rules_round_trip` — what is written and what is read.
-/

/-- The name has no bar and no colon and the parameter no bar, and there are no blanks at their ends. -/
structure RuleToken.Plain (t : RuleToken) : Prop where
  name_bar : '|' ∉ t.name.toList
  name_colon : ':' ∉ t.name.toList
  name_ends : Unpadded isBlank t.name.toList
  param_bar : ∀ p ∈ t.param, '|' ∉ p.toList
  param_ends : ∀ p ∈ t.param, Unpadded isBlank p.toList

namespace RuleString

variable {piece name param blanks x y : List Char} {t : RuleToken} {ts : List RuleToken}

theorem bar_not_blank : isBlank '|' = false := by decide

theorem colon_not_blank : isBlank ':' = false := by decide

theorem not_mem_of_blanks {c : Char} (hblanks : ∀ b ∈ blanks, isBlank b = true) (hc : isBlank c = false) :
    c ∉ blanks :=
  not_mem_of_forall hblanks hc

/-! ### One rule -/

/-- A piece without a colon is a name. -/
theorem token_alone (h : ':' ∉ piece) : token piece = ⟨String.ofList (trim piece), none⟩ := by
  have hname : ∀ c ∈ trim piece, (c != ':') = true := by
    intro c hc
    have hmem : c ∈ piece := mem_of_mem_stripped hc
    exact bne_iff_ne.mpr fun heq => h (heq ▸ hmem)
  have htake : (trim piece).takeWhile (fun c => c != ':') = trim piece := List.takeWhile_eq_self_iff.mpr hname
  have hdrop : (trim piece).dropWhile (fun c => c != ':') = [] := by simpa using hname
  have htwice : trim (trim piece) = trim piece := stripped_of_unpadded (unpadded_stripped isBlank piece)
  simp only [token, htake, hdrop, htwice]

/-- The first colon of a piece stands between a name and a parameter. -/
theorem token_pair (h : ':' ∉ name) : token (name ++ ':' :: param)
    = ⟨String.ofList (trim name), some (String.ofList (trim param))⟩ := by
  -- The blanks beside the colon are not at the ends of the piece.
  have hpiece : trim (name ++ ':' :: param) = name.dropWhile isBlank ++ ':' :: param.rdropWhile isBlank :=
    stripped_around colon_not_blank
  have hname : ∀ c ∈ name.dropWhile isBlank, (c != ':') = true := by
    intro c hc
    have hmem : c ∈ name := (List.dropWhile_suffix isBlank).mem hc
    exact bne_iff_ne.mpr fun heq => h (heq ▸ hmem)
  have hcolon : (':' != ':') = false := rfl
  have htake : (trim (name ++ ':' :: param)).takeWhile (fun c => c != ':') = name.dropWhile isBlank := by
    rw [hpiece, List.takeWhile_append_of_pos hname, List.takeWhile_cons_of_neg (by simp), List.append_nil]
  have hdrop : (trim (name ++ ':' :: param)).dropWhile (fun c => c != ':')
      = ':' :: param.rdropWhile isBlank := by
    rw [hpiece, List.dropWhile_append_of_pos hname, List.dropWhile_cons_of_neg (by simp)]
  have htrimName : trim (name.dropWhile isBlank) = trim name := stripped_dropWhile
  have htrimParam : trim (param.rdropWhile isBlank) = trim param := stripped_rdropWhile
  simp only [token, htake, hdrop, htrimName, htrimParam]

/-- Blanks in front of a piece are no part of what it states. -/
theorem token_append_left (hblanks : ∀ b ∈ blanks, isBlank b = true) :
    token (blanks ++ piece) = token piece := by
  have hcolon := not_mem_of_blanks hblanks colon_not_blank
  have htrim (s : List Char) : trim (blanks ++ s) = trim s := stripped_append_left hblanks
  rcases not_mem_or_split ':' piece with hnot | ⟨name, param, rfl, hname⟩
  · rw [token_alone hnot, token_alone (by simp [hcolon, hnot]), htrim]
  · rw [← List.append_assoc, token_pair hname, token_pair (by simp [hcolon, hname]), htrim]

/-- Nor are blanks behind it. -/
theorem token_append_right (hblanks : ∀ b ∈ blanks, isBlank b = true) :
    token (piece ++ blanks) = token piece := by
  have hcolon := not_mem_of_blanks hblanks colon_not_blank
  have htrim (s : List Char) : trim (s ++ blanks) = trim s := stripped_append_right hblanks
  rcases not_mem_or_split ':' piece with hnot | ⟨name, param, rfl, hname⟩
  · rw [token_alone hnot, token_alone (by simp [hcolon, hnot]), htrim]
  · rw [List.append_assoc, List.cons_append, token_pair hname, token_pair hname, htrim]

/-- What a piece states can be written, since there is no bar in a piece. -/
theorem token_plain (h : '|' ∉ piece) : (token piece).Plain := by
  have hbar {s : List Char} (hs : ∀ c ∈ s, c ∈ piece) : '|' ∉ trim s :=
    fun hmem => h (hs _ (mem_of_mem_stripped hmem))
  have hends (s : List Char) : Unpadded isBlank (trim s) := unpadded_stripped isBlank s
  rcases not_mem_or_split ':' piece with hnot | ⟨name, param, rfl, hname⟩
  · have hcolon : ':' ∉ trim piece := fun hmem => hnot (mem_of_mem_stripped hmem)
    rw [token_alone hnot]
    constructor <;> simp [hcolon, hbar, hends]
  · have hcolon : ':' ∉ trim name := fun hmem => hname (mem_of_mem_stripped hmem)
    have hnameBar : '|' ∉ trim name := hbar fun c hc => List.mem_append_left _ hc
    have hparamBar : '|' ∉ trim param := hbar fun c hc => List.mem_append_right _ (List.mem_cons_of_mem _ hc)
    rw [token_pair hname]
    constructor <;> simp [hcolon, hnameBar, hparamBar, hends]

/-- What is written for a rule states it. -/
theorem token_renderToken (h : t.Plain) : token (renderToken t).toList = t := by
  obtain ⟨name, param⟩ := t
  have hname : trim name.toList = name.toList := stripped_of_unpadded h.name_ends
  cases param with
  | none => rw [renderToken, token_alone h.name_colon, hname, String.ofList_toList]
  | some param =>
    have hparam : trim param.toList = param.toList := stripped_of_unpadded (h.param_ends param rfl)
    have htext : (renderToken ⟨name, some param⟩).toList = name.toList ++ ':' :: param.toList := by
      simp [renderToken]
    rw [htext, token_pair h.name_colon, hname, hparam, String.ofList_toList, String.ofList_toList]

theorem bar_not_mem_renderToken (h : t.Plain) : '|' ∉ (renderToken t).toList := by
  obtain ⟨name, param⟩ := t
  cases param with
  | none => exact h.name_bar
  | some param =>
    have hparam := h.param_bar param rfl
    have hname : '|' ∉ name.toList := h.name_bar
    simp [renderToken, hname, hparam]

/-! ### Several rules -/

theorem parse_joined (x y : String) : parse (x ++ "|" ++ y) = parse x ++ parse y := by
  have hjoined : (x ++ "|" ++ y).toList = x.toList ++ '|' :: y.toList := by simp
  rw [parse, hjoined, pieces_joined, List.map_append]
  rfl

/-- **Writing and reading.** What is written for some rules is read as these rules. -/
theorem parse_render (hne : ts ≠ []) (h : ∀ t ∈ ts, t.Plain) : parse (render ts) = ts := by
  have hone {t : RuleToken} (ht : t.Plain) : parse (renderToken t) = [t] := by
    rw [parse, pieces_of_not_mem (bar_not_mem_renderToken ht), List.map_singleton, token_renderToken ht]
  induction ts with
  | nil => exact absurd rfl hne
  | cons t rest ih =>
    obtain ⟨ht, hrest⟩ := List.forall_mem_cons.mp h
    cases rest with
    | nil => simpa [render] using hone ht
    | cons t' rest =>
      have hrender : render (t :: t' :: rest) = renderToken t ++ "|" ++ render (t' :: rest) := by
        simp [render]
      rw [hrender, parse_joined, hone ht, ih (List.cons_ne_nil t' rest) hrest]
      rfl

/-- What is read can be written. -/
theorem parse_plain (rules : String) : ∀ t ∈ parse rules, t.Plain := by
  intro t ht
  obtain ⟨piece, hpiece, rfl⟩ := List.mem_map.mp ht
  exact token_plain (not_mem_of_mem_pieces hpiece)

/-- There is one rule more than there are bars. -/
theorem length_parse (rules : String) : (parse rules).length = rules.toList.count '|' + 1 := by
  rw [parse, List.length_map, length_pieces]

theorem parse_ne_nil (rules : String) : parse rules ≠ [] := by
  intro hnil
  have hlength := length_parse rules
  rw [hnil] at hlength
  cases hlength

/-! ### Blanks -/

/-- There is no colon behind the last bar. -/
def NameSoFar (x : List Char) : Prop :=
  ∃ before name, x = before ++ name ∧ (before = [] ∨ before.getLast? = some '|') ∧ ':' ∉ name

/-- Two parts of a rule string with the ends of a name or a parameter between them: the ends of the string, the
    two sides of a bar, and the two sides of the first colon of a rule. -/
inductive Edge : List Char → List Char → Prop
  | start (y : List Char) : Edge [] y
  | finish (x : List Char) : Edge x []
  | beforeBar (x y : List Char) : Edge x ('|' :: y)
  | behindBar (x y : List Char) : Edge (x ++ ['|']) y
  | beforeColon {x : List Char} (hx : NameSoFar x) (y : List Char) : Edge x (':' :: y)
  | behindColon {x : List Char} (hx : NameSoFar x) (y : List Char) : Edge (x ++ [':']) y

/-- The piece behind the last bar has no colon. -/
theorem NameSoFar.last_piece {before : List (List Char)} (hx : NameSoFar x)
    (hpieces : pieces '|' x = before ++ [piece]) : ':' ∉ piece := by
  obtain ⟨front, name, rfl, hfront, hname⟩ := hx
  -- The last piece is one of the pieces of the name.
  have hlast : (pieces '|' name).getLast? = some piece := by
    rcases hfront with rfl | hbar
    · rw [List.nil_append] at hpieces
      simp [hpieces]
    · obtain ⟨front, rfl⟩ := List.getLast?_eq_some_iff.mp hbar
      rw [List.append_assoc, List.singleton_append, pieces_joined] at hpieces
      have hlast := congrArg List.getLast? hpieces
      obtain ⟨first, more, hmore⟩ := List.exists_cons_of_ne_nil (pieces_ne_nil '|' name)
      simpa [List.getLast?_append, hmore] using hlast
  exact fun hmem => hname (mem_of_mem_pieces (List.mem_of_getLast? hlast) hmem)

/-- Blanks at an edge do not change what the piece around them states. -/
theorem Edge.token_eq (h : Edge x y) {before more : List (List Char)} {p q : List Char}
    (hx : pieces '|' x = before ++ [p]) (hy : pieces '|' y = q :: more)
    (hblanks : ∀ b ∈ blanks, isBlank b = true) : token (p ++ blanks ++ q) = token (p ++ q) := by
  cases h with
  | start y =>
    obtain ⟨-, rfl⟩ := List.append_singleton_inj.mp (show [] ++ [[]] = before ++ [p] from hx)
    exact token_append_left hblanks
  | finish x =>
    obtain ⟨rfl, -⟩ := List.cons.inj (show [[]] = q :: more from hy)
    rw [List.append_nil, List.append_nil, token_append_right hblanks]
  | beforeBar x y =>
    obtain ⟨rfl, -⟩ := List.cons.inj (show [] :: pieces '|' y = q :: more from hy)
    rw [List.append_nil, List.append_nil, token_append_right hblanks]
  | behindBar x y =>
    have hpieces : pieces '|' (x ++ ['|']) = pieces '|' x ++ [[]] := pieces_joined '|' x []
    obtain ⟨-, rfl⟩ := List.append_singleton_inj.mp (hpieces.symm.trans hx)
    exact token_append_left hblanks
  | beforeColon hname y =>
    have hp := hname.last_piece hx
    obtain ⟨first, others, hfirst⟩ := List.exists_cons_of_ne_nil (pieces_ne_nil '|' y)
    have hpieces : pieces '|' (':' :: y) = (':' :: first) :: others := by simp [pieces, hfirst]
    obtain ⟨rfl, -⟩ := List.cons.inj (hpieces.symm.trans hy)
    have htrim : trim (p ++ blanks) = trim p := stripped_append_right hblanks
    have hcolon : ':' ∉ p ++ blanks := by simp [hp, not_mem_of_blanks hblanks colon_not_blank]
    rw [token_pair hcolon, token_pair hp, htrim]
  | @behindColon x hname y =>
    obtain ⟨front, last, hfront⟩ : ∃ front last, pieces '|' x = front ++ [last] :=
      ⟨_, _, (List.dropLast_append_getLast (pieces_ne_nil '|' x)).symm⟩
    have hlast := hname.last_piece hfront
    have hpieces : pieces '|' (x ++ [':']) = front ++ [last ++ [':']] := pieces_append hfront rfl
    obtain ⟨-, rfl⟩ := List.append_singleton_inj.mp (hpieces.symm.trans hx)
    have htrim : trim (blanks ++ q) = trim q := stripped_append_left hblanks
    simp only [List.append_assoc, List.cons_append, List.nil_append]
    rw [token_pair hlast, token_pair hlast, htrim]

/-- **Blanks.** Blanks at an edge do not change the rules. -/
theorem parse_spaced {x blanks y : String} (h : Edge x.toList y.toList)
    (hblanks : ∀ b ∈ blanks.toList, isBlank b = true) : parse (x ++ blanks ++ y) = parse (x ++ y) := by
  obtain ⟨before, p, hx⟩ : ∃ before p, pieces '|' x.toList = before ++ [p] :=
    ⟨_, _, (List.dropLast_append_getLast (pieces_ne_nil '|' x.toList)).symm⟩
  obtain ⟨q, more, hy⟩ := List.exists_cons_of_ne_nil (pieces_ne_nil '|' y.toList)
  have hbar := not_mem_of_blanks hblanks bar_not_blank
  have hblank : pieces '|' blanks.toList = [] ++ [blanks.toList] := pieces_of_not_mem hbar
  have hspaced : pieces '|' (blanks.toList ++ y.toList) = (blanks.toList ++ q) :: more :=
    pieces_append hblank hy
  have hwith : pieces '|' (x ++ blanks ++ y).toList = before ++ (p ++ blanks.toList ++ q) :: more := by
    rw [String.toList_append, String.toList_append, List.append_assoc, pieces_append hx hspaced,
      List.append_assoc]
  have hwithout : pieces '|' (x ++ y).toList = before ++ (p ++ q) :: more := by
    rw [String.toList_append, pieces_append hx hy]
  rw [parse, parse, hwith, hwithout, List.map_append, List.map_append, List.map_cons, List.map_cons,
    h.token_eq hx hy hblanks]

/-! ### Writing, reading and blanks -/

/-- **Rule strings.** What is written for some rules that can be written is read as these. Every string is read as
    such rules, one more than it has bars, and what is written for them is read as the same ones again. Blanks
    make no difference at the ends of the string, beside its bars, and beside the first colon of a rule. -/
theorem rules_round_trip :
    (∀ ts : List RuleToken, ts ≠ [] → (∀ t ∈ ts, t.Plain) → parse (render ts) = ts) ∧
    (∀ rules : String, (parse rules).length = rules.toList.count '|' + 1 ∧ (∀ t ∈ parse rules, t.Plain) ∧
      parse (render (parse rules)) = parse rules) ∧
    ∀ x blanks y : String, Edge x.toList y.toList → (∀ b ∈ blanks.toList, isBlank b = true) →
      parse (x ++ blanks ++ y) = parse (x ++ y) := by
  refine ⟨fun ts => parse_render, fun rules => ⟨length_parse rules, parse_plain rules, ?_⟩,
    fun x blanks y => parse_spaced⟩
  exact parse_render (parse_ne_nil rules) (parse_plain rules)

/-- A parameter with a colon and an empty one, and a blank beside the first colon of a rule. -/
theorem rules_round_trip_date :
    (∀ t ∈ [(⟨"date", some "a:b"⟩ : RuleToken), ⟨"", some ""⟩], t.Plain) ∧
    parse (render [⟨"date", some "a:b"⟩, ⟨"", some ""⟩]) = [⟨"date", some "a:b"⟩, ⟨"", some ""⟩] ∧
    Edge "url|min:".toList "3".toList ∧ parse ("url|min:" ++ "\u2028\x1c" ++ "3") = parse ("url|min:" ++ "3") := by
  have hdate : (⟨"date", some "a:b"⟩ : RuleToken).Plain :=
    ⟨by decide, by decide, by decide, by simp, by
      rintro p ⟨⟩
      decide⟩
  have hempty : (⟨"", some ""⟩ : RuleToken).Plain :=
    ⟨by decide, by decide, unpadded_nil, by simp, by
      rintro p ⟨⟩
      exact unpadded_nil⟩
  have hplain : ∀ t ∈ [(⟨"date", some "a:b"⟩ : RuleToken), ⟨"", some ""⟩], t.Plain := by
    simp only [List.forall_mem_cons]
    exact ⟨hdate, hempty, by simp⟩
  have hname : NameSoFar "url|min".toList := ⟨"url|".toList, "min".toList, rfl, .inr rfl, by decide⟩
  have hedge : Edge "url|min:".toList "3".toList := .behindColon hname "3".toList
  have hblanks : ∀ b ∈ "\u2028\x1c".toList, isBlank b = true := List.all_eq_true.mp rfl
  exact ⟨hplain, rules_round_trip.1 _ (List.cons_ne_nil _ _) hplain, hedge,
    rules_round_trip.2.2 _ _ _ hedge hblanks⟩

end RuleString

end TextCriteria
