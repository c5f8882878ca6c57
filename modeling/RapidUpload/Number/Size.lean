import RapidUpload.Fault
import RapidUpload.Json.Integer
import RapidUpload.Number.Double

/-!
# Numbers in messages

A message is made before it is told, and one with a number that has no text cannot be made.

* `Integer.text`: an integer in digits.
* `Integer.refuse`: a refusal that names an integer.
* `Json.told`: a value in running text.
* `Size.kilobytes`, `Size.megabytes`: a count of bytes with some places after the point: the
  binary64 number nearest to the quotient, then its decimal.
-/

namespace RapidUpload

/-- An integer in digits; one with too many has no text. -/
def Integer.text (n : Int) : Except Fault String :=
  if Short n then .ok (toString n) else .error (.undefined .longInteger)

theorem Integer.text_of_short {n : Int} (h : Short n) : text n = .ok (toString n) := if_pos h

theorem Integer.text_of_not_short {n : Int} (h : ¬Short n) :
    text n = .error (.undefined .longInteger) := if_neg h

theorem Integer.short_of_text {n : Int} {t : String} (h : text n = .ok t) : Short n := by
  by_cases hn : Short n
  · exact hn
  · rw [text_of_not_short hn] at h
    cases h

theorem Integer.text_error {n : Int} {e : Fault} (h : text n = .error e) :
    ¬Short n ∧ e = .undefined .longInteger := by
  by_cases hn : Short n
  · rw [text_of_short hn] at h
    cases h
  · rw [text_of_not_short hn] at h
    cases h
    exact ⟨hn, rfl⟩

/-- The fault of a refusal that names an integer. -/
def Integer.refuse (refusal : Int → Refusal) (n : Int) : Fault :=
  if Short n then .refused (refusal n) else .undefined .longInteger

/-- A value in running text; one with an integer of too many digits has none. -/
def Json.told (v : Json) : Except Fault String :=
  if v.isShort then .ok v.shown else .error (.undefined .longInteger)

theorem Json.told_of_short {v : Json} (h : v.isShort = true) : v.told = .ok v.shown := if_pos h

theorem Json.told_of_not_short {v : Json} (h : v.isShort = false) :
    v.told = .error (.undefined .longInteger) := if_neg (by rw [h]; exact Bool.false_ne_true)

theorem Json.told_error {v : Json} {e : Fault} (h : v.told = .error e) :
    v.isShort = false ∧ e = .undefined .longInteger := by
  rw [told] at h
  split at h
  · cases h
  · rename_i hs
    cases h
    exact ⟨Bool.not_eq_true _ ▸ hs, rfl⟩

/-- The fault of an answer outside the protocol, which is worded with what the server sent. -/
def MismatchCause.fault (cause : MismatchCause) (payload expected : Json) : Fault :=
  if payload.isShort then .mismatch cause payload expected else .undefined .longInteger

theorem MismatchCause.fault_of_short (cause : MismatchCause) {payload : Json}
    (h : payload.isShort = true) (expected : Json) :
    cause.fault payload expected = .mismatch cause payload expected := if_pos h

end RapidUpload

namespace RapidUpload.Size

/-- A count of bytes in a unit; a size past the largest binary64 number has no text. -/
def inUnit (unit places bytes : Nat) : Except Fault String :=
  let x := Double.ofRatio false bytes unit
  if x.isInfinite then .error (.undefined .sizeTooLarge) else .ok (x.fixed places)

/-- A count of bytes in kilobytes. -/
def kilobytes (places bytes : Nat) : Except Fault String := inUnit 1024 places bytes

/-- A count of bytes in megabytes. -/
def megabytes (places bytes : Nat) : Except Fault String := inUnit (1024 * 1024) places bytes

end RapidUpload.Size
