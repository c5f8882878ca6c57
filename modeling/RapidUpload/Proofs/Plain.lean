import RapidUpload.Console.Print
import RapidUpload.Proofs.Tags

/-!
# Plain text on the console

A text is shown as it is where the console finds nothing in it to carry out: no tag, no backslash
before a bracket, no name of an emoji, no tab and no control that vanishes, and no half of a pair,
which cannot be written.

* `Console.Plain`: such a text.
* `Console.Verbatim`: behind a label in green the console shows a text as it is.
* `Console.Lawful`: what is known of a console about such texts.
* `Console.lawful_standard`: the console that carries markup out in full, over an output of bytes,
  is lawful.
-/

namespace RapidUpload

/-! ### Texts in parts -/

namespace Text

variable {p : Char → Bool}

theorem divide_ne_nil (p : Char → Bool) (cs : List Char) : divide p cs ≠ [] := by
  cases cs with
  | nil => simp [divide]
  | cons c rest => unfold divide; split <;> simp

theorem divide_cons_true {c : Char} (h : p c = true) (rest : List Char) :
    divide p (c :: rest) = [] :: divide p rest := by
  rw [divide, h]

theorem divide_cons_false {c : Char} (h : p c = false) {rest part : List Char}
    {parts : List (List Char)} (hrest : divide p rest = part :: parts) :
    divide p (c :: rest) = (c :: part) :: parts := by
  rw [divide, h, hrest]

/-- The parts hold all other characters, in order. -/
theorem flatten_divide (p : Char → Bool) (cs : List Char) :
    (divide p cs).flatten = cs.filter fun c => !p c := by
  induction cs with
  | nil => rfl
  | cons c rest ih =>
    obtain ⟨part, parts, hrest⟩ := List.exists_cons_of_ne_nil (divide_ne_nil p rest)
    cases hc : p c with
    | true => rw [divide_cons_true hc, List.filter_cons_of_neg (by simp [hc])]; exact ih
    | false =>
      rw [divide_cons_false hc hrest, List.filter_cons_of_pos (by simp [hc]), ← ih, hrest]
      rfl

/-- A text without such characters is one part. -/
theorem divide_of_none {cs : List Char} (h : ∀ c ∈ cs, p c = false) : divide p cs = [cs] := by
  induction cs with
  | nil => rfl
  | cons c rest ih =>
    exact divide_cons_false (h c List.mem_cons_self)
      (ih fun d hd => h d (List.mem_cons_of_mem _ hd))

/-- With the character put back between them the parts are the text. -/
theorem intercalate_divide (d : Char) (cs : List Char) :
    List.intercalate [d] (divide (· == d) cs) = cs := by
  induction cs with
  | nil => rfl
  | cons c rest ih =>
    obtain ⟨part, parts, hrest⟩ := List.exists_cons_of_ne_nil (divide_ne_nil (· == d) rest)
    rw [hrest] at ih
    by_cases hc : c = d
    · rw [divide_cons_true (p := (· == d)) (beq_iff_eq.mpr hc), hrest,
        List.intercalate_cons_cons, ih, hc]
      rfl
    · rw [divide_cons_false (p := (· == d)) (beq_eq_false_iff_ne.mpr hc) hrest]
      cases parts with
      | nil => rw [List.intercalate_singleton] at ih ⊢; rw [ih]
      | cons q qs =>
        rw [List.intercalate_cons_cons] at ih ⊢
        rw [← ih]
        rfl

/-! ### Halves in parts of a text -/

/-- The character keeps itself, whatever stands around it. -/
def keepsItself (c : Char) : Bool := c.toNat < 0x10d800

theorem code_of_keeps {c : Char} (h : keepsItself c = true) : isHalf (code c) = false := by
  rw [keepsItself, decide_eq_true_eq] at h
  have hshift : isHalf (c.toNat - halfShift) = false := by
    rw [Bool.eq_false_iff, Ne, isHalf_iff, halfShift]
    omega
  rw [code, if_neg (Bool.eq_false_iff.mp hshift)]
  exact not_isHalf c.valid

/-- Such characters hold no half, in front of others. -/
theorem hasHalf_append {word : List Char} (h : ∀ c ∈ word, keepsItself c = true) (cs : List Char) :
    hasHalf (String.ofList (word ++ cs)) = hasHalf (String.ofList cs) := by
  simp only [hasHalf, String.toList_ofList]
  induction word with
  | nil => rfl
  | cons c word ih =>
    obtain ⟨hc, hword⟩ := List.forall_mem_cons.mp h
    have hmark : c.toNat ≠ 0x10e000 := by
      rw [keepsItself, decide_eq_true_eq] at hc
      omega
    rw [List.cons_append, codes_cons hmark, List.any_cons, code_of_keeps hc, Bool.false_or]
    exact ih hword

/-- Nor does one behind them. -/
theorem hasHalf_concat {d : Char} (h : keepsItself d = true) (cs : List Char) :
    hasHalf (String.ofList (cs ++ [d])) = hasHalf (String.ofList cs) := by
  have hd := code_of_keeps h
  simp only [hasHalf, String.toList_ofList]
  have hown : isHalf d.toNat = false := not_isHalf d.valid
  fun_induction codes cs with
  | case1 => simp [codes, hd]
  | case2 c =>
    by_cases hc : c = mark
    · have hmark : isHalf (code mark) = false := by decide +kernel
      simp [codes, hc, hown, hmark]
    · simp [codes, hc, hd]
  | case3 e rest ih => simp only [List.cons_append, codes, if_true, List.any_cons, ih]
  | case4 c e rest hc ih =>
    simp only [List.cons_append, codes, if_neg hc, List.any_cons] at ih ⊢
    rw [ih]

end Text

namespace Console

/-! ### Marks on their way to the console -/

/-- What keeps the marks of each part keeps those of all parts. -/
theorem marks_flatMap {f : List Char → List Char} (h : ∀ part, marks (f part) = marks part)
    (parts : List (List Char)) : marks (parts.flatMap f) = marks parts.flatten := by
  induction parts with
  | nil => rfl
  | cons part parts ih =>
    rw [List.flatMap_cons, List.flatten_cons, marks_append, marks_append, h, ih]

theorem marks_filter {p : Char → Bool} (h : ∀ c, isMark c = true → p c = true) (cs : List Char) :
    marks (cs.filter p) = marks cs := by
  rw [marks, List.countP_filter]
  refine List.countP_congr fun c _ => ?_
  by_cases hc : isMark c = true <;> simp [hc, h c]

theorem marks_divide {p : Char → Bool} (h : ∀ c, isMark c = true → p c = false) (cs : List Char) :
    marks (Text.divide p cs).flatten = marks cs := by
  rw [Text.flatten_divide]
  exact marks_filter (fun c hc => by simp [h c hc]) cs

theorem marks_intercalate {d : Char} (hd : isMark d = false) (parts : List (List Char)) :
    marks (List.intercalate [d] parts) = marks parts.flatten := by
  induction parts with
  | nil => rfl
  | cons part parts ih =>
    cases parts with
    | nil => simp [List.intercalate_singleton]
    | cons q qs =>
      rw [List.intercalate_cons_cons, marks_append, marks_append, ih, List.flatten_cons,
        marks_append]
      simp [hd]

/-! ### Lines -/

/-- A character that stands on the console as it is. -/
def isOrdinary (c : Char) : Bool := !isSilent c && c != '\t'

theorem isSilent_of_mark {c : Char} (h : isMark c = true) : isSilent c = false := by
  simp only [isMark, Bool.or_eq_true, beq_iff_eq] at h
  rcases h with rfl | rfl <;> decide

theorem loud_of_ordinary {cs : List Char} (h : ∀ c ∈ cs, isOrdinary c = true) : loud cs = cs :=
  List.filter_eq_self.mpr fun c hc => (Bool.and_eq_true_iff.mp (h c hc)).1

theorem fillTabs_of_ordinary {cs : List Char} (h : ∀ c ∈ cs, isOrdinary c = true) :
    fillTabs cs = cs := by
  have hdivide : Text.divide (· == '\t') cs = [cs] :=
    Text.divide_of_none fun c hc => by
      simpa using (Bool.and_eq_true_iff.mp (h c hc)).2
  rw [fillTabs, hdivide]
  rfl

/-- Ordinary characters stand on the console as they are. -/
theorem layOut_of_ordinary {cs : List Char} (h : ∀ c ∈ cs, isOrdinary c = true) :
    layOut cs = String.ofList (cs ++ ['\n']) := by
  have hlines : (Text.divide (· == '\n') cs).map fillTabs = Text.divide (· == '\n') cs := by
    refine (List.map_congr_left fun line hline => fillTabs_of_ordinary fun c hc => h c ?_).trans
      (List.map_id _)
    have hmem : c ∈ (Text.divide (· == '\n') cs).flatten := List.mem_flatten.mpr ⟨line, hline, hc⟩
    rw [Text.flatten_divide] at hmem
    exact (List.mem_filter.mp hmem).1
  rw [layOut, loud_of_ordinary h, hlines, Text.intercalate_divide]

theorem mem_tabbed {part : List Char} {c : Char} (h : c ∈ tabbed part) : c ∈ part ∨ c = ' ' := by
  simp only [tabbed, List.mem_append, List.mem_singleton, List.mem_replicate] at h
  rcases h with h | ⟨-, h⟩
  · exact h
  · exact .inr h

theorem marks_tabbed (part : List Char) : marks (tabbed part) = marks part := by
  have hspaces : ∀ n, marks (List.replicate n ' ') = 0 := fun n =>
    List.countP_eq_zero.mpr fun c hc => by rw [List.eq_of_mem_replicate hc]; decide
  simp [tabbed, hspaces, show isMark ' ' = false by decide]

/-- A line is filled with spaces at its tabs. -/
theorem mem_fillTabs {line : List Char} {c : Char} (h : c ∈ fillTabs line) :
    (c ∈ line ∧ c ≠ '\t') ∨ c = ' ' := by
  have hpart : ∀ part ∈ Text.divide (· == '\t') line, c ∈ part → c ∈ line ∧ c ≠ '\t' := by
    intro part hpart hc
    have hmem : c ∈ (Text.divide (· == '\t') line).flatten := List.mem_flatten.mpr ⟨part, hpart, hc⟩
    rw [Text.flatten_divide, List.mem_filter] at hmem
    exact ⟨hmem.1, by simpa using hmem.2⟩
  rw [fillTabs, List.mem_append, List.mem_flatMap] at h
  rcases h with ⟨part, hmem, hc⟩ | hc
  · rcases mem_tabbed hc with hc | hc
    · exact .inl (hpart part (List.dropLast_subset _ hmem) hc)
    · exact .inr hc
  · rw [List.getLastD_eq_getLast?, List.getLast?_eq_some_getLast (Text.divide_ne_nil _ _)] at hc
    exact .inl (hpart _ (List.getLast_mem _) hc)

theorem marks_fillTabs (line : List Char) : marks (fillTabs line) = marks line := by
  have hne := Text.divide_ne_nil (· == '\t') line
  have hparts := marks_divide (p := (· == '\t')) (fun c hc => by
    simp only [isMark, Bool.or_eq_true, beq_iff_eq] at hc
    rcases hc with rfl | rfl <;> decide) line
  rw [← List.dropLast_concat_getLast hne, List.flatten_append, List.flatten_singleton,
    marks_append] at hparts
  rw [fillTabs, marks_append, marks_flatMap marks_tabbed, List.getLastD_eq_getLast?,
    List.getLast?_eq_some_getLast hne]
  exact hparts

theorem mem_intercalate {d c : Char} {lines : List (List Char)}
    (h : c ∈ List.intercalate [d] lines) : c = d ∨ ∃ line ∈ lines, c ∈ line := by
  induction lines with
  | nil => simp [List.intercalate] at h
  | cons line lines ih =>
    cases lines with
    | nil => exact .inr ⟨line, List.mem_cons_self, by simpa [List.intercalate_singleton] using h⟩
    | cons q qs =>
      rw [List.intercalate_cons_cons, List.mem_append, List.mem_append, List.mem_singleton] at h
      rcases h with (h | h) | h
      · exact .inr ⟨line, List.mem_cons_self, h⟩
      · exact .inl h
      · exact (ih h).imp_right fun ⟨line, hl, hc⟩ => ⟨line, List.mem_cons_of_mem _ hl, hc⟩

/-- Nothing that vanishes is left on the console, and no tab. -/
theorem ordinary_of_layOut {cs : List Char} {c : Char} (h : c ∈ (layOut cs).toList) :
    isOrdinary c = true := by
  have hends : isOrdinary '\n' = true := by decide
  rw [layOut, String.toList_ofList, List.mem_append, List.mem_singleton] at h
  rcases h with h | rfl
  · rcases mem_intercalate h with rfl | ⟨line, hline, hc⟩
    · exact hends
    · obtain ⟨part, hpart, rfl⟩ := List.mem_map.mp hline
      rcases mem_fillTabs hc with ⟨hc, htab⟩ | rfl
      · have hmem : c ∈ (Text.divide (· == '\n') (loud cs)).flatten :=
          List.mem_flatten.mpr ⟨part, hpart, hc⟩
        rw [Text.flatten_divide, loud, List.filter_filter, List.mem_filter,
          Bool.and_eq_true] at hmem
        rw [isOrdinary, hmem.2.2, Bool.true_and, bne_iff_ne]
        exact htab
      · decide
  · exact hends

/-- Laying a text out keeps its marks. -/
theorem marks_layOut (cs : List Char) : marks (layOut cs).toList = marks cs := by
  have hlines := marks_divide (p := (· == '\n')) (fun c hc => by
    simp only [isMark, Bool.or_eq_true, beq_iff_eq] at hc
    rcases hc with rfl | rfl <;> decide) (loud cs)
  have hends : isMark '\n' = false := by decide
  have hloud : marks (loud cs) = marks cs :=
    marks_filter (fun c hc => by simp [isSilent_of_mark hc]) cs
  rw [layOut, String.toList_ofList, marks_append, marks_intercalate hends, ← List.flatMap_def,
    marks_flatMap marks_fillTabs, hlines, hloud]
  simp [hends]

namespace Markup

/-! ### Labels -/

/-- Behind a word that was shown in green, with its tags closed. -/
def Draft.afterGreen (word : List Char) : Draft := ⟨word.toArray, [], [⟨0, word.length, "green"⟩]⟩

/-- A character that the console shows as it is, whatever stands around it. -/
def isHarmless (c : Char) : Bool := !isMark c && c != ':' && isOrdinary c && Text.keepsItself c

theorem isHarmless_iff {c : Char} :
    isHarmless c = true ↔
      isMark c = false ∧ c ≠ ':' ∧ isOrdinary c = true ∧ Text.keepsItself c = true := by
  simp [isHarmless, and_assoc]

/-- A word that a colon ends and that the console shows as it is. -/
structure IsLabel (word : List Char) : Prop where
  marks : ∀ c ∈ word, isMark c = false
  ordinary : ∀ c ∈ word, isOrdinary c = true
  keeps : ∀ c ∈ word, Text.keepsItself c = true
  colon : ∃ before, ':' ∉ before ∧ word = before ++ [':']

/-- Harmless characters and a colon at their end are such a word. -/
theorem isLabel_of_harmless {before : List Char} (h : before.all isHarmless = true) :
    IsLabel (before ++ [':']) := by
  have hall := fun c hc => isHarmless_iff.mp (List.all_eq_true.mp h c hc)
  refine ⟨?_, ?_, ?_, before, fun hc => (hall _ hc).2.1 rfl, rfl⟩
  · exact List.forall_mem_append.mpr
      ⟨fun c hc => (hall c hc).1, List.forall_mem_singleton.mpr (by decide)⟩
  · exact List.forall_mem_append.mpr
      ⟨fun c hc => (hall c hc).2.2.1, List.forall_mem_singleton.mpr (by decide)⟩
  · exact List.forall_mem_append.mpr
      ⟨fun c hc => (hall c hc).2.2.2, List.forall_mem_singleton.mpr (by decide)⟩

theorem IsLabel.shown {word : List Char} (h : IsLabel word) : shownPlain word = word := by
  have hescape : unescape word = word := (unescape_eq_iff word).mpr <| by
    rintro ⟨before, after, rfl⟩
    exact absurd (h.marks '\\' (by simp)) (by decide)
  have hends : ∀ before : List Char, ':' ∉ before →
      Emoji.replace (before ++ [':']) = before ++ [':'] := by
    intro before hb
    induction before with
    | nil => rw [List.nil_append, Emoji.replace]; simp [Emoji.code?, Emoji.replace]
    | cons c before ih =>
      rw [List.mem_cons, not_or] at hb
      rw [List.cons_append, Emoji.replace, if_neg (by simpa using Ne.symm hb.1), ih hb.2]
  obtain ⟨before, hb, rfl⟩ := h.colon
  rw [shownPlain, hescape, hends before hb]

/-- The word for the color of a label. -/
def green : List Char := ['g', 'r', 'e', 'e', 'n']

/-- A text behind a label in green, with the markup that makes it so. -/
def labeled (word text : List Char) : List Char :=
  '[' :: green ++ ']' :: (word ++ ('[' :: ('/' :: green) ++ ']' :: ' ' :: text))

/-- A tag that starts a text is taken off it. -/
theorem split_of_tagged {cs inside after : List Char} (h : Tagged cs inside after) :
    split cs = .tag 0 inside :: split after := by
  have hb : backslashes cs = (0, cs) := by
    rw [h.eq]
    rfl
  refine split_of_lead ?_
  rw [lead?, hb, tag?_iff.mpr h]
  rfl

theorem split_labeled {word : List Char} (h : IsLabel word) (text : List Char) :
    split (labeled word text)
      = .tag 0 green :: .plain word :: .tag 0 ('/' :: green) :: split (' ' :: text) := by
  have hne : word ≠ [] := by
    obtain ⟨before, -, rfl⟩ := h.colon
    simp
  have hin : Unbracketed green := by simp [Unbracketed, green]
  have hclose : split ('[' :: ('/' :: green) ++ ']' :: ' ' :: text)
      = .tag 0 ('/' :: green) :: split (' ' :: text) :=
    split_of_tagged ⟨⟨'/', rfl, by decide⟩, List.forall_mem_cons.mpr ⟨by decide, hin⟩, rfl⟩
  rw [labeled, split_of_tagged ⟨⟨'g', rfl, by decide⟩, hin, rfl⟩, split_append hne h.marks hclose]

theorem step_tag (d : Draft) (inside : List Char) : d.step (.tag 0 inside) = d.take inside := by
  have hput : d.put [] = d := by simp [Draft.put]
  show (d.put []).take inside = _
  rw [hput]

/-- The label is shown, and its tags are closed behind it. -/
theorem foldlM_labeled {word : List Char} (h : IsLabel word) (text : List Char) :
    (split (labeled word text)).foldlM Draft.step .empty
      = (split (' ' :: text)).foldlM Draft.step (.afterGreen word) := by
  have hname : Style.normal green = .ok "green" := rfl
  have hopen : Draft.step .empty (.tag 0 green) = .ok ⟨#[], [⟨"green", none, 0⟩], []⟩ := by
    rw [step_tag]
    rfl
  have hword : Draft.step ⟨#[], [⟨"green", none, 0⟩], []⟩ (.plain word)
      = .ok ⟨word.toArray, [⟨"green", none, 0⟩], []⟩ := by
    rw [Draft.step, h.shown]
    simp [Draft.put]
  have hclose : Draft.step ⟨word.toArray, [⟨"green", none, 0⟩], []⟩ (.tag 0 ('/' :: green))
      = .ok (.afterGreen word) := by
    have hhandler : (⟨"green", none, 0⟩ : OpenTag).isHandler = false := by decide
    rw [step_tag]
    show Draft.closeNamed _ green = _
    rw [Draft.closeNamed, hname]
    simp [bind, Except.bind, Draft.close, hhandler, Draft.spanOf, OpenTag.words, Draft.afterGreen,
      green]
  rw [split_labeled h, List.foldlM_cons, hopen]
  show (List.foldlM _ _ _ : Except Fault Draft) = _
  rw [List.foldlM_cons, hword]
  show (List.foldlM _ _ _ : Except Fault Draft) = _
  rw [List.foldlM_cons, hclose]
  rfl

end Markup

/-! ### Plain text -/

/-- Nothing in the text keeps the console from showing it as it is: there is no tag in it, no
backslash before a bracket and no name of an emoji, all characters are ordinary, and none is half of
a pair. -/
structure Plain (cs : List Char) : Prop where
  tags : ¬Markup.HasTag cs
  escapes : ¬Markup.HasEscape cs
  emoji : Emoji.replace cs = cs
  ordinary : ∀ c ∈ cs, isOrdinary c = true
  whole : Text.hasHalf (String.ofList cs) = false

/-- Without brackets, backslashes and colons ordinary characters are plain. -/
theorem plain_of_harmless {cs : List Char} (h : cs.all Markup.isHarmless = true) : Plain cs := by
  have hall := fun c hc => Markup.isHarmless_iff.mp (List.all_eq_true.mp h c hc)
  have hwhole : Text.hasHalf (String.ofList cs) = false := by
    have happend := Text.hasHalf_append (fun c hc => (hall c hc).2.2.2) []
    rw [List.append_nil] at happend
    rw [happend]
    rfl
  refine ⟨?_, ?_, Markup.replace_of_no_colon fun hm => (hall ':' hm).2.1 rfl,
    fun c hc => (hall c hc).2.2.1, hwhole⟩
  · rintro ⟨before, inside, after, tagged, rfl, ht⟩
    have hopen : '[' ∈ before ++ tagged := List.mem_append_right _ (ht.eq ▸ List.mem_cons_self)
    exact absurd (hall '[' hopen).1 (by decide)
  · rintro ⟨before, after, rfl⟩
    exact absurd (hall '\\' (by simp)).1 (by decide)

namespace Markup

theorem hasTag_space {text : List Char} : HasTag (' ' :: text) ↔ HasTag text := by
  constructor
  · rintro ⟨before, inside, after, tagged, he, ht⟩
    cases before with
    | nil =>
      rw [List.nil_append, ht.eq] at he
      exact absurd (List.cons.inj he).1 (by decide)
    | cons c before =>
      obtain ⟨-, rfl⟩ := List.cons.inj he
      exact ⟨before, inside, after, tagged, rfl, ht⟩
  · rintro ⟨before, inside, after, tagged, rfl, ht⟩
    exact ⟨' ' :: before, inside, after, tagged, rfl, ht⟩

theorem unescape_space (text : List Char) : unescape (' ' :: text) = ' ' :: unescape text := rfl

theorem replace_space (text : List Char) :
    Emoji.replace (' ' :: text) = ' ' :: Emoji.replace text := by
  rw [Emoji.replace, if_neg (by decide)]

end Markup

open Markup

/-- Behind a label in green the console shows a text as it is. -/
def Verbatim (c : Console) (word text : List Char) : Prop :=
  c.print (String.ofList (labeled word text)) = .ok (String.ofList (word ++ ' ' :: text ++ ['\n']))

/-- What is known of a console, of the texts behind a label in green. -/
structure Lawful (c : Console) : Prop where
  /-- What is no markup is shown. -/
  plain : ∀ {word text}, IsLabel word → Plain text → c.Verbatim word text
  /-- A tag is carried out: it is not shown, or it is a fault. -/
  tag : ∀ {word text}, IsLabel word → ':' ∉ text → HasTag text → ¬c.Verbatim word text
  /-- A backslash that makes a bracket text is not shown. -/
  escape : ∀ {word text}, IsLabel word → ':' ∉ text → HasEscape text → ¬c.Verbatim word text
  /-- Tabs are filled, and some controls are not shown. -/
  control : ∀ {word text}, IsLabel word → ':' ∉ text → ∀ d ∈ text, isOrdinary d = false →
    ¬c.Verbatim word text
  /-- Half of a pair has no bytes, so it cannot be shown. -/
  half : ∀ {word text}, IsLabel word → Text.hasHalf (String.ofList text) = true →
    ¬c.Verbatim word text

/-- A lawful console shows a text without colons as it is only if it is plain. -/
theorem Lawful.plain_of_verbatim {c : Console} (hc : c.Lawful) {word text : List Char}
    (h : IsLabel word) (hcolon : ':' ∉ text) (hv : c.Verbatim word text) : Plain text where
  tags ht := hc.tag h hcolon ht hv
  escapes he := hc.escape h hcolon he hv
  emoji := replace_of_no_colon hcolon
  ordinary d hd := by
    cases ho : isOrdinary d with
    | true => rfl
    | false => exact absurd hv (hc.control h hcolon d hd ho)
  whole := by
    cases hw : Text.hasHalf (String.ofList text) with
    | false => rfl
    | true => exact absurd hv (hc.half h hw)

/-! ### The console that carries markup out in full -/

variable {word text : List Char}

/-- What is printed of a labeled text, when its tags are carried out: the text as it was marked, and
nothing else decides but whether the styles are known. -/
theorem render_labeled (h : IsLabel word) :
    render (String.ofList (labeled word text)) = (do
      let d ← (split (' ' :: text)).foldlM Draft.step (.afterGreen word)
      let m : Marked := ⟨d.shown.toList, d.spans ++ d.opened.map d.spanOf⟩
      (styled m).forM fun s => Style.check s.words
      return layOut m.text) := by
  rw [render, Markup.read, String.toList_ofList, foldlM_labeled h, bind_assoc]
  rfl

theorem mem_styled {m : Marked} {s : Span} (h : s ∈ styled m) : s ∈ m.spans := by
  unfold styled at h
  split at h
  · exact (List.mem_filter.mp h).1
  · split at h
    · exact (List.mem_filter.mp h).1
    · exact h

theorem forM_check {spans : List Span} (h : ∀ s ∈ spans, s.words = "green") :
    (spans.forM fun s => Style.check s.words) = .ok () := by
  have hgreen : Style.check "green" = .ok () := rfl
  induction spans with
  | nil => rfl
  | cons s spans ih =>
    obtain ⟨hs, hspans⟩ := List.forall_mem_cons.mp h
    show (Style.check s.words >>= fun _ => spans.forM fun s => Style.check s.words) = _
    rw [hs, hgreen]
    exact ih hspans

/-- Plain text behind a label is shown as it is. -/
theorem render_plain (h : IsLabel word) (ht : Plain text) :
    render (String.ofList (labeled word text))
      = .ok (String.ofList (word ++ ' ' :: text ++ ['\n'])) := by
  have hsplit : split (' ' :: text) = [.plain (' ' :: text)] :=
    split_of_no_tag (by simp) fun p hp => by
      cases htag : p.isTag with
      | false => rfl
      | true => exact absurd (hasTag_space.mp ((exists_tag_iff _).mp ⟨p, hp, htag⟩)) ht.tags
  have hshown : shownPlain (' ' :: text) = ' ' :: text := by
    rw [shownPlain, unescape_space, (unescape_eq_iff text).mpr ht.escapes, replace_space, ht.emoji]
  have hordinary : ∀ c ∈ word ++ ' ' :: text, isOrdinary c = true := by
    intro c hc
    rcases List.mem_append.mp hc with hc | hc
    · exact h.ordinary c hc
    · rcases List.mem_cons.mp hc with rfl | hc
      · decide
      · exact ht.ordinary c hc
  have hstep : (split (' ' :: text)).foldlM Draft.step (.afterGreen word)
      = .ok ((Draft.afterGreen word).put (' ' :: text)) := by
    rw [hsplit, List.foldlM_cons, Draft.step, hshown]
    rfl
  have htext : ((Draft.afterGreen word).put (' ' :: text)).shown.toList = word ++ ' ' :: text :=
    Draft.toList_put _ _
  have hcheck : ((styled ⟨word ++ ' ' :: text, [⟨0, word.length, "green"⟩]⟩).forM
      fun s => Style.check s.words) = .ok () :=
    forM_check fun s hs => by rw [List.mem_singleton.mp (mem_styled hs)]
  rw [render_labeled h, hstep, ← layOut_of_ordinary hordinary]
  show (((styled ⟨((Draft.afterGreen word).put (' ' :: text)).shown.toList, _⟩).forM
    fun s => Style.check s.words) >>= fun _ => _) = _
  rw [htext]
  exact congrArg (· >>= fun _ => .ok (layOut (word ++ ' ' :: text))) hcheck

/-- What is shown behind a label is laid out from what its text comes to. -/
theorem drafted_of_render {shown : String} (h : IsLabel word)
    (hrender : render (String.ofList (labeled word text)) = .ok shown) :
    ∃ d, (split (' ' :: text)).foldlM Draft.step (.afterGreen word) = .ok d ∧
      layOut d.shown.toList = shown := by
  rw [render_labeled h] at hrender
  cases hd : (split (' ' :: text)).foldlM Draft.step (.afterGreen word) with
  | error e => rw [hd] at hrender; cases hrender
  | ok d =>
    refine ⟨d, rfl, ?_⟩
    simp only [hd, bind, Except.bind] at hrender
    split at hrender
    · cases hrender
    · exact Except.ok.inj hrender

/-- A text without colons that is shown as it is holds no tag, no backslash before a bracket, no tab
and no control that vanishes. -/
theorem clear_of_render (h : IsLabel word) (hcolon : ':' ∉ text)
    (hrender : render (String.ofList (labeled word text))
      = .ok (String.ofList (word ++ ' ' :: text ++ ['\n']))) :
    ¬HasTag text ∧ ¬HasEscape text ∧ ∀ c ∈ text, isOrdinary c = true := by
  obtain ⟨d, hd, hlaid⟩ := drafted_of_render h hrender
  have hsource : ':' ∉ (split (' ' :: text)).flatMap Piece.source := by
    rw [split_source]
    simpa using hcolon
  -- what is shown has as many marks as what was written, so no tag was carried out
  have hmarks := Draft.marks_foldlM hd hsource
  have hshown : marks d.shown.toList = marks word + marks (' ' :: text) := by
    have hend : isMark '\n' = false := by decide
    rw [← marks_layOut, hlaid, String.toList_ofList, marks_append, marks_append]
    simp [hend]
  have hword : marks (Draft.afterGreen word).shown.toList = marks word := rfl
  rw [split_source, hword] at hmarks
  have htags : ∀ p ∈ split (' ' :: text), p.isTag = false := fun p hp => by
    have hzero : (split (' ' :: text)).countP Piece.isTag = 0 := by omega
    simpa using List.countP_eq_zero.mp hzero p hp
  have hsplit := split_of_no_tag (by simp) htags
  have hspace : ':' ∉ ' ' :: text := by simpa using hcolon
  have hescape : unescape (' ' :: text) = ' ' :: text := by
    rw [hsplit] at hd
    cases hd
    rw [Draft.toList_put, marks_append, shownPlain_of_no_colon hspace, hword] at hshown
    exact (marks_unescape _).2 (Nat.add_left_cancel hshown)
  refine ⟨fun ht => ?_, ?_, fun c hc => ?_⟩
  · obtain ⟨p, hp, htag⟩ := (exists_tag_iff _).mpr (hasTag_space.mpr ht)
    exact Bool.noConfusion ((htags p hp).symm.trans htag)
  · rw [unescape_space] at hescape
    exact (unescape_eq_iff text).mp (List.cons.inj hescape).2
  · have hmem : c ∈ (layOut d.shown.toList).toList := by
      rw [hlaid, String.toList_ofList]
      simp [hc]
    exact ordinary_of_layOut hmem

theorem encode_ok_iff {r : Except Fault String} {shown : String} :
    encode r = .ok shown ↔ r = .ok shown ∧ Text.hasHalf shown = false := by
  cases r with
  | error e => exact iff_of_false (fun h => nomatch h) fun h => nomatch h.1
  | ok text =>
    show (if Text.hasHalf text then _ else _) = _ ↔ _
    cases hh : Text.hasHalf text with
    | true =>
      refine iff_of_false (fun h => nomatch h) ?_
      rintro ⟨he, hw⟩
      cases he
      cases hh.symm.trans hw
    | false => exact ⟨fun h => by cases h; exact ⟨rfl, hh⟩, fun h => h.1⟩

theorem verbatim_standard (h : IsLabel word) :
    standard.encoded.Verbatim word text ↔
      render (String.ofList (labeled word text))
          = .ok (String.ofList (word ++ ' ' :: text ++ ['\n'])) ∧
        Text.hasHalf (String.ofList text) = false := by
  have hspace : Text.hasHalf (String.ofList (' ' :: text)) = Text.hasHalf (String.ofList text) :=
    Text.hasHalf_append (List.forall_mem_singleton.mpr (by decide)) text
  show encode (render _) = _ ↔ _
  rw [encode_ok_iff, Text.hasHalf_concat (by decide), Text.hasHalf_append h.keeps, hspace]

/-- **The console is lawful** over an output of bytes. -/
theorem lawful_standard : standard.encoded.Lawful where
  plain h ht := (verbatim_standard h).mpr ⟨render_plain h ht, ht.whole⟩
  tag h hcolon ht hv := (clear_of_render h hcolon ((verbatim_standard h).mp hv).1).1 ht
  escape h hcolon he hv := (clear_of_render h hcolon ((verbatim_standard h).mp hv).1).2.1 he
  control h hcolon d hd ho hv := by
    have hordinary := (clear_of_render h hcolon ((verbatim_standard h).mp hv).1).2.2 d hd
    cases ho.symm.trans hordinary
  half h hh hv := by cases hh.symm.trans ((verbatim_standard h).mp hv).2

end Console

end RapidUpload
