import RapidUpload.Console.Markup

/-!
# Tags in a text

What markup does to a text.  A text is cut into plain pieces and tags without a loss.  A tag is not
shown, and a tag or a bracket with a backslash before it is shown without the backslash, so each of
them costs one of the marks that markup is made with.

* `Markup.HasTag`, `Markup.HasEscape`: a tag stands in a text, or a backslash before a bracket.
* `Markup.exists_tag_iff`: cutting a text finds its tags.
* `Markup.Draft.marks_foldlM`: what is shown has fewer marks than what was written by the number of
  its tags.
-/

namespace RapidUpload

namespace Console

/-! ### Marks -/

/-- A character that markup is made with. -/
def isMark (c : Char) : Bool := c == '[' || c == '\\'

/-- The marks of a text, counted. -/
def marks (cs : List Char) : Nat := cs.countP isMark

@[simp] theorem marks_nil : marks [] = 0 := rfl

@[simp] theorem marks_append (as bs : List Char) : marks (as ++ bs) = marks as + marks bs :=
  List.countP_append

@[simp] theorem marks_cons (c : Char) (cs : List Char) :
    marks (c :: cs) = marks cs + if isMark c then 1 else 0 := List.countP_cons

namespace Markup

/-! ### Tags -/

/-- No bracket stands in the text. -/
def Unbracketed (cs : List Char) : Prop := ∀ d ∈ cs, d ≠ '[' ∧ d ≠ ']'

theorem close?_eq {cs inside after : List Char} (h : close? cs = some (inside, after)) :
    Unbracketed inside ∧ cs = inside ++ ']' :: after := by
  induction cs generalizing inside with
  | nil => cases h
  | cons c rest ih =>
    unfold close? at h
    by_cases hclose : c = ']'
    · rw [if_pos (beq_iff_eq.mpr hclose)] at h
      cases h
      exact ⟨List.forall_mem_nil _, by rw [hclose]; rfl⟩
    · rw [if_neg (by simpa using hclose)] at h
      by_cases hopen : c = '['
      · rw [if_pos (beq_iff_eq.mpr hopen)] at h
        cases h
      · rw [if_neg (by simpa using hopen), Option.map_eq_some_iff] at h
        obtain ⟨⟨inside, after⟩, hrest, he⟩ := h
        cases he
        obtain ⟨hin, rfl⟩ := ih hrest
        exact ⟨List.forall_mem_cons.mpr ⟨⟨hopen, hclose⟩, hin⟩, rfl⟩

theorem close?_append {inside : List Char} (h : Unbracketed inside) (after : List Char) :
    close? (inside ++ ']' :: after) = some (inside, after) := by
  induction inside with
  | nil => rfl
  | cons c rest ih =>
    obtain ⟨⟨hopen, hclose⟩, hrest⟩ := List.forall_mem_cons.mp h
    rw [List.cons_append, close?, if_neg (by simpa using hclose), if_neg (by simpa using hopen),
      ih hrest]
    rfl

/-- A text is a tag and what follows it. -/
structure Tagged (cs inside after : List Char) : Prop where
  starts : ∃ c ∈ inside.head?, isTagStart c = true
  unbracketed : Unbracketed inside
  eq : cs = '[' :: inside ++ ']' :: after

theorem not_bracket_of_tagStart {c : Char} (h : isTagStart c = true) : c ≠ '[' ∧ c ≠ ']' := by
  constructor
  · rintro rfl
    exact absurd h (by decide)
  · rintro rfl
    exact absurd h (by decide)

theorem tag?_iff {cs inside after : List Char} :
    tag? cs = some (inside, after) ↔ Tagged cs inside after := by
  constructor
  · intro h
    unfold tag? at h
    split at h
    · rename_i c rest
      split at h
      · rename_i hc
        rw [Option.map_eq_some_iff] at h
        obtain ⟨⟨inside, after⟩, hrest, he⟩ := h
        cases he
        obtain ⟨hin, rfl⟩ := close?_eq hrest
        exact ⟨⟨c, rfl, hc⟩, List.forall_mem_cons.mpr ⟨not_bracket_of_tagStart hc, hin⟩, rfl⟩
      · cases h
    · cases h
  · rintro ⟨⟨c, hhead, hc⟩, hin, rfl⟩
    obtain ⟨rest, rfl⟩ : ∃ rest, inside = c :: rest := by
      cases inside with
      | nil => cases hhead
      | cons d rest => cases hhead; exact ⟨rest, rfl⟩
    obtain ⟨-, hrest⟩ := List.forall_mem_cons.mp hin
    show (if isTagStart c then (close? (rest ++ ']' :: after)).map _ else none) = _
    rw [if_pos hc, close?_append hrest]
    rfl

/-- A tag stands somewhere in the text. -/
def HasTag (cs : List Char) : Prop :=
  ∃ before inside after tagged, cs = before ++ tagged ∧ Tagged tagged inside after

theorem backslashes_eq (cs : List Char) :
    cs = List.replicate (backslashes cs).1 '\\' ++ (backslashes cs).2 := by
  fun_induction backslashes cs with
  | case1 rest ih => rw [List.replicate_succ, List.cons_append, ← ih]
  | case2 cs _ => rfl

theorem lead?_eq {cs inside after : List Char} {n : Nat} (h : lead? cs = some (n, inside, after)) :
    Tagged ('[' :: inside ++ ']' :: after) inside after ∧
      cs = List.replicate n '\\' ++ ('[' :: inside ++ ']' :: after) := by
  rw [lead?, Option.map_eq_some_iff] at h
  obtain ⟨⟨inside, after⟩, htag, he⟩ := h
  cases he
  have ht := tag?_iff.mp htag
  refine ⟨ht.eq ▸ ht, ?_⟩
  rw [← ht.eq]
  exact backslashes_eq cs

/-- No tag starts where the text starts, if none does behind the backslashes there. -/
theorem tag?_of_lead? {cs : List Char} (h : lead? cs = none) : tag? cs = none := by
  rw [lead?, Option.map_eq_none_iff] at h
  cases cs with
  | nil => rfl
  | cons c rest =>
    by_cases hc : c = '\\'
    · rw [hc]
      rfl
    · have hb : backslashes (c :: rest) = (0, c :: rest) := by
        unfold backslashes
        split
        · rename_i he
          exact absurd (List.cons.inj he).1 hc
        · rfl
      rwa [hb] at h

/-! ### Pieces -/

/-- The text a piece was cut out of. -/
def Piece.source : Piece → List Char
  | .plain cs => cs
  | .tag n inside => List.replicate n '\\' ++ ('[' :: inside ++ [']'])

/-- The piece is a tag. -/
def Piece.isTag : Piece → Bool
  | .plain _ => false
  | .tag _ _ => true

theorem Piece.source_cons (c : Char) (pieces : List Piece) :
    (Piece.cons c pieces).flatMap Piece.source = c :: pieces.flatMap Piece.source := by
  unfold Piece.cons
  split <;> rfl

theorem Piece.mem_cons {c : Char} {pieces : List Piece} {p : Piece} (h : p ∈ Piece.cons c pieces)
    (hp : p.isTag = true) : p ∈ pieces := by
  unfold Piece.cons at h
  split at h
  · rcases List.mem_cons.mp h with rfl | h
    · cases hp
    · exact List.mem_cons_of_mem _ h
  · rcases List.mem_cons.mp h with rfl | h
    · cases hp
    · exact h

theorem Piece.mem_cons_of_tag {c : Char} {pieces : List Piece} {p : Piece} (h : p ∈ pieces)
    (hp : p.isTag = true) : p ∈ Piece.cons c pieces := by
  unfold Piece.cons
  split
  · rcases List.mem_cons.mp h with rfl | h
    · cases hp
    · exact List.mem_cons_of_mem _ h
  · exact List.mem_cons_of_mem _ h

/-- A text is cut into its pieces without a loss. -/
theorem split_source (cs : List Char) : (split cs).flatMap Piece.source = cs := by
  fun_induction split cs with
  | case1 => rfl
  | case2 c rest n inside after h _ ih =>
    rw [List.flatMap_cons, ih, (lead?_eq h).2, Piece.source]
    simp
  | case3 c rest h ih => rw [Piece.source_cons, ih]

/-- **Tags are found.** Some piece of a text is a tag exactly where a tag stands in the text. -/
theorem exists_tag_iff (cs : List Char) : (∃ p ∈ split cs, p.isTag = true) ↔ HasTag cs := by
  fun_induction split cs with
  | case1 =>
    refine ⟨fun ⟨_, h, _⟩ => (nomatch h), ?_⟩
    rintro ⟨before, inside, after, tagged, he, ht⟩
    rw [ht.eq] at he
    simp at he
  | case2 c rest n inside after h _ ih =>
    obtain ⟨ht, he⟩ := lead?_eq h
    exact ⟨fun _ => ⟨_, inside, after, _, he, ht⟩, fun _ => ⟨_, List.mem_cons_self, rfl⟩⟩
  | case3 c rest h ih =>
    constructor
    · rintro ⟨p, hp, htag⟩
      obtain ⟨before, inside, after, tagged, rfl, ht⟩ := ih.mp ⟨p, Piece.mem_cons hp htag, htag⟩
      exact ⟨c :: before, inside, after, tagged, rfl, ht⟩
    · rintro ⟨before, inside, after, tagged, he, ht⟩
      cases before with
      | nil =>
        -- a tag at the very start would have been taken
        have hnone := tag?_of_lead? h
        rw [he, List.nil_append, tag?_iff.mpr ht] at hnone
        cases hnone
      | cons d before =>
        obtain ⟨-, rfl⟩ := List.cons.inj he
        obtain ⟨p, hp, htag⟩ := ih.mpr ⟨before, inside, after, tagged, rfl, ht⟩
        exact ⟨p, Piece.mem_cons_of_tag hp htag, htag⟩

/-- A text without tags is one plain piece. -/
theorem split_of_no_tag {cs : List Char} (hne : cs ≠ []) (h : ∀ p ∈ split cs, p.isTag = false) :
    split cs = [.plain cs] := by
  fun_induction split cs with
  | case1 => exact absurd rfl hne
  | case2 c rest n inside after hl _ ih => exact nomatch h _ List.mem_cons_self
  | case3 c rest hl ih =>
    have hrest : ∀ p ∈ split rest, p.isTag = false := fun p hp => by
      cases htag : p.isTag with
      | false => rfl
      | true => exact htag.symm.trans (h p (Piece.mem_cons_of_tag hp htag))
    cases rest with
    | nil => rw [split]; rfl
    | cons d rest => rw [ih (by simp) hrest]; rfl

/-- A tag is taken off the start of a text. -/
theorem split_of_lead {cs inside after : List Char} {n : Nat}
    (h : lead? cs = some (n, inside, after)) : split cs = .tag n inside :: split after := by
  cases cs with
  | nil => cases h
  | cons c rest =>
    rw [split]
    split
    · rename_i he
      cases h.symm.trans he
      rfl
    · rename_i he
      cases h.symm.trans he

/-- A character that makes no markup joins the plain piece behind it. -/
theorem split_cons {c : Char} (h : isMark c = false) (rest : List Char) :
    split (c :: rest) = Piece.cons c (split rest) := by
  simp only [isMark, Bool.or_eq_false_iff, beq_eq_false_iff_ne] at h
  have hb : backslashes (c :: rest) = (0, c :: rest) := by
    unfold backslashes
    split
    · rename_i he
      exact absurd (List.cons.inj he).1 h.2
    · rfl
  have hlead : lead? (c :: rest) = none := by
    rw [lead?, hb, Option.map_eq_none_iff]
    unfold tag?
    split
    · rename_i he
      exact absurd (List.cons.inj he).1 h.1
    · rfl
  rw [split]
  split
  · rename_i he
    cases hlead.symm.trans he
  · rfl

/-- Characters that make no markup are one plain piece before a tag. -/
theorem split_append {word rest inside : List Char} {n : Nat} {pieces : List Piece}
    (hne : word ≠ []) (hword : ∀ c ∈ word, isMark c = false)
    (hrest : split rest = .tag n inside :: pieces) :
    split (word ++ rest) = .plain word :: .tag n inside :: pieces := by
  induction word with
  | nil => exact absurd rfl hne
  | cons c word ih =>
    obtain ⟨hc, hword⟩ := List.forall_mem_cons.mp hword
    rw [List.cons_append, split_cons hc]
    cases word with
    | nil => rw [List.nil_append, hrest]; rfl
    | cons d word => rw [ih (by simp) hword]; rfl

/-! ### What is shown of a plain piece -/

/-- Backslashes go from before brackets, and nothing else does. -/
theorem marks_unescape (cs : List Char) :
    marks (unescape cs) ≤ marks cs ∧ (marks (unescape cs) = marks cs → unescape cs = cs) := by
  fun_induction unescape cs with
  | case1 rest ih =>
    have hb : isMark '\\' = true := by decide
    have ho : isMark '[' = true := by decide
    simp only [marks_cons, hb, ho, if_true]
    omega
  | case2 c rest _ ih =>
    simp only [marks_cons, Nat.add_le_add_iff_right, Nat.add_right_cancel_iff]
    exact ⟨ih.1, fun h => by rw [ih.2 h]⟩
  | case3 => exact ⟨Nat.le_refl _, fun _ => rfl⟩

/-- A backslash stands before an opening bracket. -/
def HasEscape (cs : List Char) : Prop := ∃ before after, cs = before ++ '\\' :: '[' :: after

theorem unescape_eq_iff (cs : List Char) : unescape cs = cs ↔ ¬HasEscape cs := by
  fun_induction unescape cs with
  | case1 rest ih =>
    exact iff_of_false (fun h => absurd (List.cons.inj h).1 (by decide)) fun h => h ⟨[], rest, rfl⟩
  | case2 c rest hne ih =>
    rw [List.cons.injEq, ih]
    refine ⟨fun h => ?_, fun h => ⟨rfl, ?_⟩⟩
    · rintro ⟨before, after, he⟩
      cases before with
      | nil =>
        obtain ⟨rfl, rfl⟩ := List.cons.inj he
        exact hne after rfl rfl
      | cons d before => exact h.2 ⟨before, after, (List.cons.inj he).2⟩
    · rintro ⟨before, after, rfl⟩
      exact h ⟨c :: before, after, rfl⟩
  | case3 =>
    refine iff_of_true rfl ?_
    rintro ⟨before, after, he⟩
    simp at he

theorem mem_unescape {cs : List Char} {c : Char} (h : c ∈ unescape cs) : c ∈ cs := by
  fun_induction unescape cs with
  | case1 rest ih =>
    rcases List.mem_cons.mp h with rfl | h
    · exact List.mem_cons_of_mem _ List.mem_cons_self
    · exact List.mem_cons_of_mem _ (List.mem_cons_of_mem _ (ih h))
  | case2 d rest _ ih =>
    rcases List.mem_cons.mp h with rfl | h
    · exact List.mem_cons_self
    · exact List.mem_cons_of_mem _ (ih h)
  | case3 => exact h

/-- Without a colon there is no name of an emoji. -/
theorem replace_of_no_colon {cs : List Char} (h : ':' ∉ cs) : Emoji.replace cs = cs := by
  induction cs with
  | nil => rw [Emoji.replace]
  | cons c rest ih =>
    rw [List.mem_cons, not_or] at h
    rw [Emoji.replace, if_neg (by simpa using Ne.symm h.1), ih h.2]

/-- Without a colon a plain piece loses backslashes before brackets, and nothing else. -/
theorem shownPlain_of_no_colon {cs : List Char} (h : ':' ∉ cs) : shownPlain cs = unescape cs :=
  replace_of_no_colon fun hm => h (mem_unescape hm)

/-! ### Pieces are shown -/

namespace Draft

@[simp] theorem toList_put (d : Draft) (cs : List Char) :
    (d.put cs).shown.toList = d.shown.toList ++ cs := by
  simp [put]

theorem close_shown {d d' : Draft} {t : OpenTag} {opened : List OpenTag}
    (h : d.close t opened = .ok d') : d'.shown = d.shown := by
  unfold close at h
  split at h
  · split at h
    · cases h; rfl
    · cases h
  · cases h; rfl

theorem closeNamed_shown {d d' : Draft} {name : List Char} (h : d.closeNamed name = .ok d') :
    d'.shown = d.shown := by
  unfold closeNamed at h
  split at h
  · split at h
    · exact close_shown h
    · cases h
  · cases hn : Style.normal name with
    | error e => rw [hn] at h; cases h
    | ok normal =>
      simp only [hn, bind, Except.bind] at h
      split at h
      · exact close_shown h
      · cases h

/-- A tag shows nothing. -/
theorem take_shown {d d' : Draft} {inside : List Char} (h : d.take inside = .ok d') :
    d'.shown = d.shown := by
  unfold take at h
  split at h
  · exact closeNamed_shown h
  · cases hn : Style.normal (inside.takeWhile (· != '=')) with
    | error e => rw [hn] at h; cases h
    | ok normal => rw [hn] at h; cases h; rfl

/-- A tag costs a mark of those it was made with, and nothing is shown with more marks than it was
written with. -/
theorem marks_step {d d' : Draft} {p : Piece} (h : d.step p = .ok d') (hp : ':' ∉ p.source) :
    marks d'.shown.toList + (if p.isTag then 1 else 0)
      ≤ marks d.shown.toList + marks p.source := by
  cases p with
  | plain cs =>
    cases h
    have hcolon : ':' ∉ cs := hp
    rw [toList_put, marks_append, shownPlain_of_no_colon hcolon]
    exact Nat.add_le_add_left (marks_unescape cs).1 _
  | tag n inside =>
    have hslashes : ∀ k, marks (List.replicate k '\\') = k := fun k => by
      rw [marks, List.countP_replicate]
      rfl
    have hsource : marks (Piece.tag n inside).source = n + marks ('[' :: inside ++ [']']) := by
      rw [Piece.source, marks_append, hslashes]
    have hopen : 0 < marks ('[' :: inside ++ [']']) :=
      List.countP_pos_iff.mpr ⟨'[', List.mem_cons_self, by decide⟩
    rw [hsource]
    simp only [step] at h
    split at h
    · cases h
      have hcolon : ':' ∉ '[' :: inside ++ [']'] := fun hm => hp (List.mem_append_right _ hm)
      have hless := (marks_unescape ('[' :: inside ++ [']'])).1
      rw [toList_put, toList_put, marks_append, marks_append, hslashes,
        shownPlain_of_no_colon hcolon]
      simp only [Piece.isTag, if_true]
      omega
    · rw [take_shown h, toList_put, marks_append, hslashes]
      simp only [Piece.isTag, if_true]
      omega

theorem marks_foldlM {d d' : Draft} {pieces : List Piece}
    (h : pieces.foldlM step d = .ok d') (hp : ':' ∉ pieces.flatMap Piece.source) :
    marks d'.shown.toList + pieces.countP Piece.isTag
      ≤ marks d.shown.toList + marks (pieces.flatMap Piece.source) := by
  induction pieces generalizing d with
  | nil =>
    cases h
    exact Nat.le_refl _
  | cons p pieces ih =>
    rw [List.flatMap_cons, List.mem_append, not_or] at hp
    rw [List.foldlM_cons] at h
    cases hd : d.step p with
    | error e => rw [hd] at h; cases h
    | ok d₁ =>
      rw [hd] at h
      have hstep := marks_step hd hp.1
      have hrest := ih h hp.2
      rw [List.countP_cons, List.flatMap_cons, marks_append]
      omega

end Draft

end Markup

end Console

end RapidUpload
