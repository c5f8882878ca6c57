import RapidUpload.Console.Emoji
import RapidUpload.Console.Handler
import RapidUpload.Console.Style

/-!
# Markup of the console

A tag in square brackets styles the text after it, up to the tag that closes it; tags are not
shown.  A backslash before a tag makes it text.

* `Markup.split`: a text as plain pieces and tags.
* `Markup.read`: what is shown of a text, with the spans that its tags style; a closing tag without
  an opening one is an error.
* `Markup.escape`: the text that is shown as the given one.
-/

namespace RapidUpload.Console.Markup

/-- A plain piece, or a tag without its brackets and the backslashes before it. -/
inductive Piece where
  | plain (cs : List Char)
  | tag (backslashes : Nat) (inside : List Char)

/-! ### Tags -/

/-- May follow the bracket that opens a tag. -/
def isTagStart (c : Char) : Bool :=
  ('a' ≤ c && c ≤ 'z') || c == '#' || c == '/' || c == '@'

/-- The text up to the closing bracket and what follows it; no bracket opens before. -/
def close? : List Char → Option (List Char × List Char)
  | [] => none
  | c :: rest =>
    if c == ']' then some ([], rest)
    else if c == '[' then none
    else (close? rest).map fun (inside, after) => (c :: inside, after)

/-- The tag a text starts with and what follows it. -/
def tag? : List Char → Option (List Char × List Char)
  | '[' :: c :: rest =>
    if isTagStart c then (close? rest).map fun (inside, after) => (c :: inside, after) else none
  | _ => none

/-- The backslashes a text starts with, counted, and what follows them. -/
def backslashes : List Char → Nat × List Char
  | '\\' :: rest => ((backslashes rest).1 + 1, (backslashes rest).2)
  | cs => (0, cs)

/-- The tag a text starts with, with the backslashes before it, and what follows it. -/
def lead? (cs : List Char) : Option (Nat × List Char × List Char) :=
  (tag? (backslashes cs).2).map fun (inside, after) => ((backslashes cs).1, inside, after)

theorem length_close? {cs inside after : List Char} (h : close? cs = some (inside, after)) :
    after.length < cs.length := by
  induction cs generalizing inside with
  | nil => cases h
  | cons c rest ih =>
    unfold close? at h
    split at h
    · cases h
      exact Nat.lt_succ_self _
    · split at h
      · cases h
      · cases hr : close? rest with
        | none => simp [hr] at h
        | some p =>
          simp only [hr, Option.map_some, Option.some.injEq, Prod.mk.injEq] at h
          exact Nat.lt_succ_of_lt (@ih p.1 (by rw [hr, ← h.2]))

theorem length_tag? {cs inside after : List Char} (h : tag? cs = some (inside, after)) :
    after.length < cs.length := by
  unfold tag? at h
  split at h
  · rename_i c rest
    split at h
    · cases hr : close? rest with
      | none => simp [hr] at h
      | some p =>
        simp only [hr, Option.map_some, Option.some.injEq, Prod.mk.injEq] at h
        have := @length_close? rest p.1 after (by rw [hr, ← h.2])
        simp only [List.length_cons]
        omega
    · cases h
  · cases h

theorem length_backslashes (cs : List Char) : (backslashes cs).2.length ≤ cs.length := by
  fun_induction backslashes cs with
  | case1 rest ih => exact Nat.le_succ_of_le ih
  | case2 cs _ => exact Nat.le_refl _

theorem length_lead? {cs inside after : List Char} {n : Nat}
    (h : lead? cs = some (n, inside, after)) : after.length < cs.length := by
  unfold lead? at h
  cases ht : tag? (backslashes cs).2 with
  | none => simp [ht] at h
  | some p =>
    simp only [ht, Option.map_some, Option.some.injEq, Prod.mk.injEq] at h
    have h₁ := @length_tag? (backslashes cs).2 p.1 after (by rw [ht, ← h.2.2])
    exact Nat.lt_of_lt_of_le h₁ (length_backslashes cs)

/-- Puts a character before the pieces. -/
def Piece.cons (c : Char) : List Piece → List Piece
  | .plain cs :: rest => .plain (c :: cs) :: rest
  | pieces => .plain [c] :: pieces

/-- A text as plain pieces and tags. -/
def split (cs : List Char) : List Piece :=
  match cs with
  | [] => []
  | c :: rest =>
    match h : lead? (c :: rest) with
    | some (n, inside, after) =>
      have := length_lead? h
      .tag n inside :: split after
    | none => Piece.cons c (split rest)
termination_by cs.length
decreasing_by
  · exact this
  · exact Nat.lt_succ_self _

/-! ### What is shown -/

/-- A plain piece without the backslashes before opening brackets. -/
def unescape : List Char → List Char
  | '\\' :: '[' :: rest => '[' :: unescape rest
  | c :: rest => c :: unescape rest
  | [] => []

/-- What is shown of a plain piece. -/
def shownPlain (cs : List Char) : List Char := Emoji.replace (unescape cs)

/-- A tag that is open: its normal form, what stands after its equals sign, and where the text it
styles starts. -/
structure OpenTag where
  name : String
  parameters : Option (List Char)
  start : Nat

/-- The words of the style a tag asks for. -/
def OpenTag.words (t : OpenTag) : String :=
  match t.parameters with
  | some ps => t.name ++ " " ++ String.ofList ps
  | none => t.name

/-- A tag for a handler. -/
def OpenTag.isHandler (t : OpenTag) : Bool := t.name.toList.head? == some '@'

/-- A stretch of text and the words of the style it is shown in. -/
structure Span where
  start : Nat
  stop : Nat
  words : String

/-- A text on its way: what is shown so far, the tags that are open, the last one first, and the
spans of those that are closed. -/
structure Draft where
  shown : Array Char
  opened : List OpenTag
  spans : List Span

namespace Draft

/-- Nothing yet. -/
def empty : Draft := ⟨#[], [], []⟩

/-- Shows more. -/
def put (d : Draft) (cs : List Char) : Draft := { d with shown := d.shown ++ cs.toArray }

/-- The span of an open tag up to here. -/
def spanOf (d : Draft) (t : OpenTag) : Span := ⟨t.start, d.shown.size, t.words⟩

/-- Closes a tag and leaves others open. A handler asks for no style, and what it is given must
stand for a value. -/
def close (d : Draft) (t : OpenTag) (opened : List OpenTag) : Except Fault Draft :=
  if t.isHandler then
    if isHandled (t.parameters.getD []) then .ok { d with opened := opened }
    else .error (.undefined .markup)
  else .ok { d with opened := opened, spans := d.spanOf t :: d.spans }

/-- Closes the last tag of a name, or the last one at all. -/
def closeNamed (d : Draft) (name : List Char) : Except Fault Draft := do
  if name.isEmpty then
    match d.opened with
    | t :: rest => d.close t rest
    | [] => throw (.undefined .markup)
  else
    let name ← Style.normal name
    match d.opened.find? (·.name = name) with
    | some t => d.close t (d.opened.eraseP (·.name = name))
    | none => throw (.undefined .markup)

/-- Takes a tag. -/
def take (d : Draft) (inside : List Char) : Except Fault Draft := do
  let parameters := inside.dropWhile (· != '=')
  match inside.takeWhile (· != '=') with
  | '/' :: name => d.closeNamed (Text.trim Text.isSpace name)
  | name =>
    let parameters := if parameters.isEmpty then none else some (parameters.drop 1)
    return { d with opened := ⟨← Style.normal name, parameters, d.shown.size⟩ :: d.opened }

/-- Takes a piece. -/
def step (d : Draft) : Piece → Except Fault Draft
  | .plain cs => .ok (d.put (shownPlain cs))
  | .tag n inside =>
    let d := d.put (List.replicate (n / 2) '\\')
    if n % 2 = 1 then .ok (d.put (shownPlain ('[' :: inside ++ [']']))) else d.take inside

end Draft

/-- What is shown of a text, and the spans that its tags style. -/
structure Marked where
  text : List Char
  spans : List Span

/-- What is shown of a text; tags that are left open reach to its end. -/
def read (cs : List Char) : Except Fault Marked := do
  let d ← (split cs).foldlM Draft.step .empty
  return ⟨d.shown.toList, d.spans ++ d.opened.map d.spanOf⟩

/-! ### Escapes -/

/-- A piece with the backslashes that make a tag text. -/
def Piece.escaped : Piece → List Char
  | .plain cs => cs
  | .tag n inside => List.replicate (2 * n + 1) '\\' ++ '[' :: inside ++ [']']

/-- A text with an end that makes no tag behind it text. -/
def sealed (cs : List Char) : List Char :=
  match cs.reverse with
  | '\\' :: '\\' :: _ => cs
  | '\\' :: _ => cs ++ ['\\']
  | _ => cs

/-- The text that is shown as the given one. -/
def escape (s : String) : String :=
  String.ofList (sealed ((split s.toList).flatMap Piece.escaped))

end RapidUpload.Console.Markup
