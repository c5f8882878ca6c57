import RapidUpload.Console.EmojiTable
import RapidUpload.Text.Case
import RapidUpload.Text.Word

/-!
# Emoji of the console

A name between two colons stands for an emoji: `Emoji.replace` puts it in its place.  A name that
is not known stays as it is, its colons with it.
-/

namespace RapidUpload.Console.Emoji

/-- The words of a row taken by twos. -/
def byTwos : List String → List (String × String)
  | name :: shown :: rest => (name, shown) :: byTwos rest
  | _ => []

/-- The names and what they stand for. -/
def entries : List (String × String) := emojiRows.flatMap fun row => byTwos (row.splitOn " ")

/-- The text up to the next colon and what follows it; no space comes before the colon. -/
def code? : List Char → Option (List Char × List Char)
  | [] => none
  | c :: rest =>
    if c == ':' then some ([], rest)
    else if Text.isSpace c then none
    else (code? rest).map fun (name, after) => (c :: name, after)

theorem length_code? {cs name after : List Char} (h : code? cs = some (name, after)) :
    after.length < cs.length := by
  induction cs generalizing name with
  | nil => cases h
  | cons c rest ih =>
    unfold code? at h
    split at h
    · cases h
      exact Nat.lt_succ_self _
    · split at h
      · cases h
      · cases hr : code? rest with
        | none => simp [hr] at h
        | some p =>
          simp only [hr, Option.map_some, Option.some.injEq, Prod.mk.injEq] at h
          have := @ih p.1 (by rw [hr, ← h.2])
          exact Nat.lt_succ_of_lt this

/-- Cuts an ending off. -/
def cut? (ending : String) (cs : List Char) : Option (List Char) :=
  if ending.toList.isSuffixOf cs then some (cs.take (cs.length - ending.length)) else none

/-- A name without the ending that asks for a kind of picture, and the character that picks the
kind. -/
def variant (cs : List Char) : List Char × List Char :=
  match cut? "-emoji" cs, cut? "-text" cs with
  | some name, _ => (name, [Char.ofNat 0xfe0f])
  | none, some name => (name, [Char.ofNat 0xfe0e])
  | none, none => (cs, [])

/-- What stands for the text between two colons. -/
def shown (cs : List Char) : List Char :=
  let (name, pick) := variant cs
  match entries.lookup (Text.small (String.ofList name)) with
  | some emoji => emoji.toList ++ pick
  | none => ':' :: cs ++ [':']

/-- The text with each known name replaced. -/
def replace (cs : List Char) : List Char :=
  match cs with
  | [] => []
  | c :: rest =>
    if c == ':' then
      match h : code? rest with
      | some (name, after) =>
        have := length_code? h
        shown name ++ replace after
      | none => c :: replace rest
    else c :: replace rest
termination_by cs.length
decreasing_by
  · exact Nat.lt_succ_of_lt this
  all_goals exact Nat.lt_succ_self _

end RapidUpload.Console.Emoji
