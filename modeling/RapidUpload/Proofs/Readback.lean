import RapidUpload.Http.Client
import RapidUpload.Proofs.Fitting
import RapidUpload.Proofs.Quoting

/-!
# Reading values back

A value that is written on the wire is read back as itself, if no number in it is a binary64 one,
its texts are whole, its integers are short enough and no object names a field twice.  The reader
takes the characters of the value and leaves what follows, so a row of values is read one by one.

* `Json.readNumber_toDigits`: an integer is read up to what follows it.
* `Json.Portable room v`: a value of that kind, with room for what stands one inside the other.
* `Json.readItems_wireItems`, `Json.readFields_wireFields`: the rows of items and of fields.
* `Json.Portable.reads`: every such value is read up to what follows it.
* `Json.Portable.read_wire`, `Json.Portable.ascii`: the text of a value is ASCII, and stands for it.
* `HttpClient.decode_wire`: a client that is sent the text reads the value.
-/

namespace RapidUpload

namespace Json

/-! ### Integers -/

/-- No number goes on with what follows. -/
def Stops (rest : List Char) : Prop :=
  ∀ c ∈ rest.head?, c.isDigit = false ∧ c ≠ '.' ∧ c ≠ 'e' ∧ c ≠ 'E'

theorem stops_nil : Stops [] := fun _ h => nomatch h

theorem stops_cons {c : Char} (h : c.isDigit = false ∧ c ≠ '.' ∧ c ≠ 'e' ∧ c ≠ 'E')
    (rest : List Char) : Stops (c :: rest) := by
  rintro _ ⟨⟩
  exact h

section Numbers

variable {rest : List Char}

theorem readFraction_of_stops (h : Stops rest) : readFraction rest = (none, rest) := by
  cases rest with
  | nil => rfl
  | cons c rest =>
    have hc := (h c rfl).2.1
    rw [readFraction]
    exact fun _ he => hc (List.cons.inj he).1

theorem readExponent_of_stops (h : Stops rest) : readExponent rest = (none, rest) := by
  cases rest with
  | nil => rfl
  | cons c rest =>
    obtain ⟨-, -, he, hE⟩ := h c rfl
    rw [readExponent, if_neg (by simp [he, hE])]

theorem digitRun_append {ds : List Char} (hd : ∀ c ∈ ds, c.isDigit = true) (h : Stops rest) :
    digitRun (ds ++ rest) = ds ∧ afterDigits (ds ++ rest) = rest := by
  have hrest : rest.takeWhile Char.isDigit = [] ∧ rest.dropWhile Char.isDigit = rest := by
    cases rest with
    | nil => exact ⟨rfl, rfl⟩
    | cons c rest =>
      have hc := (h c rfl).1
      simp [hc]
  rw [digitRun, afterDigits, List.takeWhile_append_of_pos hd, List.dropWhile_append_of_pos hd,
    hrest.1, hrest.2, List.append_nil]
  exact ⟨rfl, rfl⟩

theorem isDigit_toDigits (n : Nat) : ∀ c ∈ Nat.toDigits 10 n, c.isDigit = true := fun _ hc =>
  Nat.isDigit_of_mem_toDigits (by decide) (by decide) hc

/-- The first digit of a number is a zero only where the number is. -/
theorem toDigits_cons (n : Nat) :
    ∃ c cs, Nat.toDigits 10 n = c :: cs ∧ c.isDigit = true ∧ (n ≠ 0 → c ≠ '0') := by
  suffices hhead : ∃ c cs, Nat.toDigits 10 n = c :: cs ∧ (n ≠ 0 → c ≠ '0') by
    obtain ⟨c, cs, hcs, hc⟩ := hhead
    exact ⟨c, cs, hcs, isDigit_toDigits n c (by rw [hcs]; exact List.mem_cons_self), hc⟩
  induction n using Nat.strongRecOn with
  | ind n ih =>
    rw [Nat.toDigits_eq_if (by decide)]
    split
    · rename_i hn
      have hall : ∀ n ∈ List.range 10, n ≠ 0 → n.digitChar ≠ '0' := by decide
      exact ⟨_, [], rfl, hall n (List.mem_range.mpr hn)⟩
    · obtain ⟨c, cs, hcs, hc⟩ := ih (n / 10) (by omega)
      exact ⟨c, cs ++ [_], by rw [hcs, List.cons_append], fun _ => hc (by omega)⟩

theorem readWhole_toDigits (n : Nat) (h : Stops rest) :
    readWhole (Nat.toDigits 10 n ++ rest) = some (Nat.toDigits 10 n, rest) := by
  rcases Nat.eq_zero_or_pos n with rfl | hpos
  · rfl
  · obtain ⟨c, cs, hcs, hdigit, hc⟩ := toDigits_cons n
    obtain ⟨hrun, hafter⟩ := digitRun_append (isDigit_toDigits n) h
    rw [hcs] at hrun hafter ⊢
    rw [List.cons_append] at hrun hafter ⊢
    rw [readWhole, if_neg (hc (by omega)), if_pos hdigit, hrun, hafter]

theorem natOfDigits_toDigits (n : Nat) : natOfDigits (Nat.toDigits 10 n) = n :=
  Nat.ofDigitChars_eq_foldl.symm.trans (Nat.ofDigitChars_toDigits (by decide) (by decide))

/-- **An integer** within the limit is read up to what follows it. -/
theorem readNumber_toDigits (negative : Bool) {n : Nat}
    (hn : (Nat.toDigits 10 n).length ≤ Integer.digitLimit) (h : Stops rest) :
    readNumber negative (Nat.toDigits 10 n ++ rest) =
      .ok (.int (if negative then -(n : Int) else n), rest) := by
  rw [readNumber, readWhole_toDigits n h]
  dsimp only
  rw [readFraction_of_stops h]
  dsimp only
  rw [readExponent_of_stops h]
  dsimp only
  rw [if_neg (Nat.not_lt.mpr hn), natOfDigits_toDigits]

end Numbers

/-! ### Values without items -/

section Scalars

variable {c : Char} {cs rest : List Char}

/-- No word starts with another character, nor with a minus before a digit. -/
theorem readWord?_none (hc : c ≠ 'n' ∧ c ≠ 't' ∧ c ≠ 'f' ∧ c ≠ 'N' ∧ c ≠ 'I')
    (hminus : c = '-' → cs.head? ≠ some 'I') : readWord? (c :: cs) = none := by
  obtain ⟨hn, ht, hf, hN, hI⟩ := hc
  by_cases hm : c = '-'
  · subst hm
    cases cs with
    | nil => rfl
    | cons d cs =>
      have hd : 'I' ≠ d := fun h => hminus rfl (by rw [← h]; rfl)
      simp [readWord?, words, hd]
  · simp [readWord?, words, Ne.symm hn, Ne.symm ht, Ne.symm hf, Ne.symm hN, Ne.symm hI,
      Ne.symm hm]

/-- A digit starts no word, no text and no container. -/
theorem digit_ne (h : c.isDigit = true) : (c ≠ 'n' ∧ c ≠ 't' ∧ c ≠ 'f' ∧ c ≠ 'N' ∧ c ≠ 'I') ∧
    c ≠ '"' ∧ c ≠ '-' ∧ c ≠ '[' ∧ c ≠ '\x7b' ∧ c ≠ ']' := by
  refine ⟨⟨?_, ?_, ?_, ?_, ?_⟩, ?_, ?_, ?_, ?_, ?_⟩ <;>
    · rintro rfl
      cases h

theorem isSpace_digit (h : c.isDigit = true) : isSpace c = false := by
  rw [← Bool.not_eq_true]
  intro hspace
  simp only [isSpace, Bool.or_eq_true, beq_iff_eq] at hspace
  obtain ((rfl | rfl) | rfl) | rfl := hspace <;> cases h

/-- The characters of an integer: a minus where it is negative, and the digits. -/
theorem toList_toString (n : Int) : (toString n).toList =
    if n < 0 then '-' :: Nat.toDigits 10 n.natAbs else Nat.toDigits 10 n.natAbs := by
  cases n with
  | ofNat n =>
    rw [if_neg (by simp)]
    exact Nat.toList_repr
  | negSucc n =>
    rw [if_pos (Int.negSucc_lt_zero n)]
    have hneg : toString (Int.negSucc n) = "-" ++ (n + 1).repr := rfl
    rw [hneg, String.toList_append, Nat.toList_repr]
    rfl

theorem readScalar_int {n : Int} (hn : Integer.Short n) (h : Stops rest) :
    readScalar ((toString n).toList ++ rest) = .ok (.int n, rest) := by
  obtain ⟨d, ds, hds, hdigit, -⟩ := toDigits_cons n.natAbs
  obtain ⟨hword, hquote, hminus, -⟩ := digit_ne hdigit
  rw [toList_toString]
  split
  · rename_i hneg
    have hI : (Nat.toDigits 10 n.natAbs ++ rest).head? ≠ some 'I' := by
      rw [hds]
      exact fun h => hword.2.2.2.2 (Option.some.inj h)
    rw [List.cons_append, readScalar, readWord?_none (by decide) fun _ => hI]
    dsimp only
    rw [readNumber_toDigits true hn h, if_pos rfl]
    congr
    omega
  · rename_i hpos
    have hread := readNumber_toDigits false hn h
    rw [if_neg Bool.false_ne_true] at hread
    rw [hds, List.cons_append] at hread ⊢
    rw [readScalar, readWord?_none hword fun h => absurd h hminus]
    · dsimp only
      rw [hread, Int.natAbs_of_nonneg (Int.not_lt.mp hpos)]
    · exact fun _ h => hquote (List.cons.inj h).1
    · exact fun _ h => hminus (List.cons.inj h).1

/-- After its first quote a whole text is read up to what follows the last. -/
theorem quoted_append {t : String} (ht : Text.Whole t) (rest : List Char) :
    ∃ cs, quoted asciiCode t ++ rest = '"' :: cs ∧ readText cs = .ok (t, rest) := by
  refine ⟨_, ?_, readText_spelled ht rest⟩
  rw [quoted, List.append_assoc, List.cons_append, List.singleton_append]

theorem readScalar_quoted {t : String} (ht : Text.Whole t) :
    readScalar (quoted asciiCode t ++ rest) = .ok (.str t, rest) := by
  obtain ⟨cs, hcs, hread⟩ := quoted_append ht rest
  rw [hcs, readScalar, readWord?_none (by decide) fun h => absurd h (by decide)]
  dsimp only
  rw [hread]
  rfl

/-- What opens no container is read as a scalar. -/
theorem readValue_scalar (fuel room : Nat) (h : c ≠ '[' ∧ c ≠ '\x7b') :
    readValue (fuel + 1) room (c :: cs) = readScalar (c :: cs) := by
  rw [readValue]
  · exact fun _ he _ => h.1 (List.cons.inj he).1
  · exact fun _ he _ => h.2 (List.cons.inj he).1
  · exact fun _ _ he _ => h.1 (List.cons.inj he).1
  · exact fun _ _ he _ => h.2 (List.cons.inj he).1

end Scalars

/-! ### Containers -/

/-- A value that is read back, with room for what stands one inside the other. -/
inductive Portable : Nat → Json → Prop where
  | null {room : Nat} : Portable room .null
  | bool {room : Nat} (b : Bool) : Portable room (.bool b)
  | int {room : Nat} {n : Int} (h : Integer.Short n) : Portable room (.int n)
  | str {room : Nat} {t : String} (h : Text.Whole t) : Portable room (.str t)
  | arr {room : Nat} {items : List Json} (h : ∀ v ∈ items, Portable room v) :
    Portable (room + 1) (.arr items)
  | obj {room : Nat} {fields : List (String × Json)} (h : ∀ f ∈ fields, Portable room f.2)
    (hkeys : ∀ f ∈ fields, Text.Whole f.1) (hdistinct : (fields.map Prod.fst).Nodup) :
    Portable (room + 1) (.obj fields)

theorem portable_single {room : Nat} {key : String} {v : Json} (hkey : Text.Whole key)
    (h : Portable room v) : Portable (room + 1) (.obj [(key, v)]) :=
  .obj (List.forall_mem_singleton.mpr h) (List.forall_mem_singleton.mpr hkey)
    (List.nodup_cons.mpr ⟨List.not_mem_nil, List.nodup_nil⟩)

/-- What is read back fits. -/
theorem Portable.fits {room : Nat} {v : Json} (h : Portable room v) : Fits room v := by
  induction h with
  | null => exact .null
  | bool b => exact .bool b
  | int h => exact .int h
  | str _ => exact .str _
  | arr _ ih => exact .arr ih
  | obj _ _ _ ih => exact .obj ih

/-- The value is written from a character that no reader skips or takes for the end of a row. -/
def Starts (v : Json) : Prop :=
  ∃ c cs, wireChars v = c :: cs ∧ isSpace c = false ∧ c ≠ ']'

/-- The value is read up to what follows it. -/
def Reads (room : Nat) (v : Json) : Prop :=
  ∀ fuel rest, (wireChars v).length ≤ fuel → Stops rest →
    readValue fuel room (wireChars v ++ rest) = .ok (v, rest)

theorem skip_cons {c : Char} (h : isSpace c = false) (cs : List Char) : skip (c :: cs) = c :: cs :=
  List.dropWhile_cons_of_neg (by simp [h])

theorem skip_space (cs : List Char) : skip (' ' :: cs) = skip cs :=
  List.dropWhile_cons_of_pos rfl

theorem Starts.skip {v : Json} (h : Starts v) (rest : List Char) :
    Json.skip (wireChars v ++ rest) = wireChars v ++ rest := by
  obtain ⟨c, cs, hc, hspace, -⟩ := h
  rw [hc]
  exact skip_cons hspace _

/-- The characters of an integer start neither a container nor a text. -/
theorem int_starts (n : Int) : ∃ c cs, wireChars (.int n) = c :: cs ∧ isSpace c = false ∧
    c ≠ ']' ∧ c ≠ '[' ∧ c ≠ '\x7b' := by
  obtain ⟨d, ds, hds, hdigit, -⟩ := toDigits_cons n.natAbs
  obtain ⟨-, -, -, hopen, hbrace, hclose⟩ := digit_ne hdigit
  have hchars : wireChars (.int n) = (toString n).toList := rfl
  rw [hchars, toList_toString]
  split
  · exact ⟨'-', _, rfl, by decide⟩
  · exact ⟨d, ds, hds, isSpace_digit hdigit, hclose, hopen, hbrace⟩

theorem Portable.starts {room : Nat} {v : Json} (h : Portable room v) : Starts v := by
  cases h with
  | null => exact ⟨'n', _, rfl, by decide⟩
  | bool b => cases b <;> exact ⟨_, _, rfl, by decide⟩
  | @int _ n =>
    obtain ⟨c, cs, hchars, hspace, hclose, -⟩ := int_starts n
    exact ⟨c, cs, hchars, hspace, hclose⟩
  | str => exact ⟨'"', _, rfl, by decide⟩
  | arr => exact ⟨'[', _, rfl, by decide⟩
  | obj => exact ⟨'\x7b', _, rfl, by decide⟩

section Rows

variable {room : Nat} {rest : List Char}

/-- A row of items starts as its first one. -/
theorem skip_wireItems {v : Json} (h : Starts v) (items : List Json) (rest : List Char) :
    skip (wireItems (v :: items) ++ rest) = wireItems (v :: items) ++ rest := by
  rw [wireItems, List.append_assoc, List.append_assoc]
  exact h.skip _

theorem wireItems_starts {v : Json} (h : Starts v) (items : List Json) (rest : List Char) :
    ∃ c cs, wireItems (v :: items) ++ rest = c :: cs ∧ c ≠ ']' := by
  obtain ⟨c, cs, hc, -, hclose⟩ := h
  rw [wireItems, List.append_assoc, List.append_assoc, hc]
  exact ⟨c, _, rfl, hclose⟩

section Steps

variable {fuel : Nat} {cs tail : List Char} {v : Json}

/-- An item before the closing bracket is the last. -/
theorem readItems_last (h : readValue fuel room cs = .ok (v, ']' :: tail)) :
    readItems (fuel + 1) room cs = .ok ([v], tail) := by
  rw [readItems, h]
  rfl

/-- After a comma there are more items. -/
theorem readItems_more (h : readValue fuel room cs = .ok (v, ',' :: ' ' :: tail)) :
    readItems (fuel + 1) room cs =
      (readItems fuel room (skip tail)).map fun r => (v :: r.1, r.2) := by
  rw [readItems, h, ← skip_space]
  rfl

variable {k : String} {done : List (String × Json)}

/-- A field before the closing brace is the last. -/
theorem readFields_last (hk : readText cs = .ok (k, ':' :: ' ' :: tail))
    (hv : readValue fuel room (skip tail) = .ok (v, '\x7d' :: rest)) :
    readFields (fuel + 1) room ('"' :: cs) done = .ok (insert done k v, rest) := by
  rw [← skip_space] at hv
  rw [readFields, hk]
  show (readValue fuel room (skip (' ' :: tail)) >>= _) = _
  rw [hv]
  rfl

/-- After a comma there are more fields. -/
theorem readFields_more (hk : readText cs = .ok (k, ':' :: ' ' :: tail))
    (hv : readValue fuel room (skip tail) = .ok (v, ',' :: ' ' :: rest)) :
    readFields (fuel + 1) room ('"' :: cs) done =
      readFields fuel room (skip rest) (insert done k v) := by
  rw [← skip_space] at hv
  rw [readFields, hk]
  show (readValue fuel room (skip (' ' :: tail)) >>= _) = _
  rw [hv, ← skip_space]
  rfl

end Steps

/-- The items of an array are read one by one. -/
theorem readItems_wireItems {v : Json} {items : List Json}
    (h : ∀ w ∈ v :: items, Starts w ∧ Reads room w) :
    ∀ fuel rest, (wireItems (v :: items)).length ≤ fuel →
      readItems fuel room (wireItems (v :: items) ++ rest) = .ok (v :: items, rest) := by
  induction items generalizing v with
  | nil =>
    intro fuel rest hfuel
    have hv := (h v List.mem_cons_self).2
    have hchars : wireItems [v] ++ rest = wireChars v ++ ']' :: rest := by simp [wireItems]
    have hlength := congrArg List.length hchars
    simp only [List.length_append, List.length_cons] at hlength
    obtain ⟨fuel, rfl⟩ : ∃ n, fuel = n + 1 := ⟨fuel - 1, by omega⟩
    rw [hchars, readItems_last (hv fuel _ (by omega) (stops_cons (by decide) rest))]
  | cons w items ih =>
    intro fuel rest hfuel
    have hv := (h v List.mem_cons_self).2
    have hstarts := (h w (List.mem_cons_of_mem v List.mem_cons_self)).1
    have hchars : wireItems (v :: w :: items) ++ rest =
        wireChars v ++ ',' :: ' ' :: (wireItems (w :: items) ++ rest) := by
      rw [wireItems]
      simp
    have hlength := congrArg List.length hchars
    simp only [List.length_append, List.length_cons] at hlength
    obtain ⟨fuel, rfl⟩ : ∃ n, fuel = n + 1 := ⟨fuel - 1, by omega⟩
    have hitems := ih (fun x hx => h x (List.mem_cons_of_mem v hx)) fuel rest (by omega)
    rw [hchars, readItems_more (hv fuel _ (by omega) (stops_cons (by decide) _)),
      skip_wireItems hstarts, hitems]
    rfl

theorem not_mem_of_nodup {f : String × Json} {done fields : List (String × Json)}
    (h : ((done ++ f :: fields).map Prod.fst).Nodup) : f.1 ∉ done.map Prod.fst := by
  rw [List.map_append, List.nodup_append] at h
  exact fun hmem => h.2.2 _ hmem _ List.mem_cons_self rfl

/-- A new name goes last. -/
theorem insert_new {k : String} (v : Json) {done : List (String × Json)}
    (h : k ∉ done.map Prod.fst) : insert done k v = done ++ [(k, v)] := by
  induction done with
  | nil => rfl
  | cons f done ih =>
    obtain ⟨hk, hdone⟩ := not_or.mp (mt List.mem_cons.mpr h)
    rw [insert, if_neg (Ne.symm hk), ih hdone, List.cons_append]

theorem skip_wireFields (f : String × Json) (fields : List (String × Json)) (rest : List Char) :
    skip (wireFields (f :: fields) ++ rest) = wireFields (f :: fields) ++ rest := by
  rw [wireFields]
  exact skip_cons (by decide) _

/-- A field is read up to what follows its value. -/
theorem field_append {k : String} (hk : Text.Whole k) {v : Json} (hstarts : Starts v)
    (hv : Reads room v) {fuel : Nat} (hfuel : (wireChars v).length ≤ fuel) {tail : List Char}
    (htail : Stops tail) : ∃ cs value, quoted asciiCode k ++ ':' :: ' ' :: (wireChars v ++ tail) =
      '"' :: cs ∧ readText cs = .ok (k, ':' :: ' ' :: value) ∧
      readValue fuel room (skip value) = .ok (v, tail) := by
  obtain ⟨cs, hcs, hread⟩ := quoted_append hk (':' :: ' ' :: (wireChars v ++ tail))
  refine ⟨cs, _, hcs, hread, ?_⟩
  rw [hstarts.skip]
  exact hv fuel tail hfuel htail

/-- The fields of an object are read one by one, after those that were read before. -/
theorem readFields_wireFields {k : String} {v : Json} {fields : List (String × Json)}
    (h : ∀ f ∈ (k, v) :: fields, Text.Whole f.1 ∧ Starts f.2 ∧ Reads room f.2) :
    ∀ fuel rest done, (wireFields ((k, v) :: fields)).length ≤ fuel →
      ((done ++ (k, v) :: fields).map Prod.fst).Nodup →
      readFields fuel room (wireFields ((k, v) :: fields) ++ rest) done =
        .ok (done ++ (k, v) :: fields, rest) := by
  induction fields generalizing k v with
  | nil =>
    intro fuel rest done hfuel hdistinct
    obtain ⟨hk, hstarts, hv⟩ := h (k, v) List.mem_cons_self
    have hchars : wireFields [(k, v)] ++ rest =
        quoted asciiCode k ++ ':' :: ' ' :: (wireChars v ++ '\x7d' :: rest) := by
      simp [wireFields]
    have hlength := congrArg List.length hchars
    simp only [List.length_append, List.length_cons] at hlength
    obtain ⟨fuel, rfl⟩ : ∃ n, fuel = n + 1 := ⟨fuel - 1, by omega⟩
    have hvalue : (wireChars v).length ≤ fuel := by omega
    obtain ⟨cs, value, hcs, hkey, hread⟩ :=
      field_append hk hstarts hv hvalue (stops_cons (c := '\x7d') (by decide) rest)
    rw [hchars, hcs, readFields_last hkey hread, insert_new v (not_mem_of_nodup hdistinct)]
  | cons f fields ih =>
    obtain ⟨k', v'⟩ := f
    intro fuel rest done hfuel hdistinct
    obtain ⟨hk, hstarts, hv⟩ := h (k, v) List.mem_cons_self
    have hchars : wireFields ((k, v) :: (k', v') :: fields) ++ rest = quoted asciiCode k ++
        ':' :: ' ' :: (wireChars v ++ ',' :: ' ' :: (wireFields ((k', v') :: fields) ++ rest)) := by
      rw [wireFields]
      simp
    have hlength := congrArg List.length hchars
    simp only [List.length_append, List.length_cons] at hlength
    obtain ⟨fuel, rfl⟩ : ∃ n, fuel = n + 1 := ⟨fuel - 1, by omega⟩
    have hvalue : (wireChars v).length ≤ fuel := by omega
    obtain ⟨cs, value, hcs, hkey, hread⟩ := field_append hk hstarts hv hvalue
      (stops_cons (c := ',') (by decide) (' ' :: (wireFields ((k', v') :: fields) ++ rest)))
    have hrow : done ++ (k, v) :: (k', v') :: fields =
        (done ++ [(k, v)]) ++ (k', v') :: fields := by
      rw [List.append_assoc, List.singleton_append]
    rw [hchars, hcs, readFields_more hkey hread, insert_new v (not_mem_of_nodup hdistinct),
      skip_wireFields, hrow]
    rw [hrow] at hdistinct
    exact ih (fun g hg => h g (List.mem_cons_of_mem _ hg)) fuel rest _ (by omega) hdistinct

end Rows

/-! ### Values -/

section Values

variable {fuel room : Nat} {c : Char} {cs tail : List Char}

theorem readValue_arr (hc : c ≠ ']') (h : skip tail = c :: cs) :
    readValue (fuel + 1) (room + 1) ('[' :: tail) =
      (readItems fuel room (skip tail)).map fun r => (.arr r.1, r.2) := by
  rw [readValue, h]
  split
  · exact absurd (List.cons.inj ‹_›).1 hc
  · rfl

theorem readValue_obj (hc : c ≠ '\x7d') (h : skip tail = c :: cs) :
    readValue (fuel + 1) (room + 1) ('\x7b' :: tail) =
      (readFields fuel room (skip tail) []).map fun r => (.obj r.1, r.2) := by
  rw [readValue, h]
  split
  · exact absurd (List.cons.inj ‹_›).1 hc
  · rfl

/-- A value that opens no container is read as a scalar is. -/
theorem reads_of_scalar {v : Json} (hchars : wireChars v = c :: cs) (hc : c ≠ '[' ∧ c ≠ '\x7b')
    (h : ∀ rest, Stops rest → readScalar (wireChars v ++ rest) = .ok (v, rest)) : Reads room v := by
  intro fuel rest hfuel hrest
  rw [hchars, List.length_cons] at hfuel
  obtain ⟨fuel, rfl⟩ : ∃ n, fuel = n + 1 := ⟨fuel - 1, by omega⟩
  rw [← h rest hrest, hchars]
  exact readValue_scalar fuel room hc

/-- **A value** is read up to what follows it. -/
theorem Portable.reads {v : Json} (h : Portable room v) : Reads room v := by
  induction h with
  | null => exact reads_of_scalar rfl (by decide) fun rest _ => rfl
  | bool b => cases b <;> exact reads_of_scalar rfl (by decide) fun rest _ => rfl
  | @int _ n h =>
    obtain ⟨c, cs, hchars, -, -, hc⟩ := int_starts n
    exact reads_of_scalar hchars hc fun rest => readScalar_int h
  | str h => exact reads_of_scalar rfl (by decide) fun rest _ => readScalar_quoted h
  | @arr room items h ih =>
    intro fuel rest hfuel _
    obtain ⟨fuel, rfl⟩ : ∃ n, fuel = n + 1 := ⟨fuel - 1, by simp [wireChars] at hfuel; omega⟩
    have hitems : (wireItems items).length ≤ fuel := by
      simpa [wireChars] using hfuel
    cases items with
    | nil => rfl
    | cons v items =>
      have hstarts := (h v List.mem_cons_self).starts
      have hskip := skip_wireItems hstarts items rest
      obtain ⟨c, cs, hhead, hclose⟩ := wireItems_starts hstarts items rest
      have hread := readItems_wireItems (fun w hw => ⟨(h w hw).starts, ih w hw⟩) fuel rest hitems
      rw [wireChars, List.cons_append, readValue_arr hclose (hskip.trans hhead), hskip, hread]
      rfl
  | @obj room fields h hkeys hdistinct ih =>
    intro fuel rest hfuel _
    obtain ⟨fuel, rfl⟩ : ∃ n, fuel = n + 1 := ⟨fuel - 1, by simp [wireChars] at hfuel; omega⟩
    have hfields : (wireFields fields).length ≤ fuel := by
      simpa [wireChars] using hfuel
    cases fields with
    | nil => rfl
    | cons f fields =>
      have hskip := skip_wireFields f fields rest
      have hquote : '"' ≠ '\x7d' := by decide
      have hread := readFields_wireFields (fun g hg => ⟨hkeys g hg, (h g hg).starts, ih g hg⟩)
        fuel rest [] hfields hdistinct
      rw [wireChars, List.cons_append, readValue_obj hquote (hskip.trans rfl), hskip, hread]
      rfl

/-- **The text of a value** stands for it. -/
theorem Portable.read_wire {v : Json} (h : Portable room v) : read room v.wire = .ok v := by
  have hskip := h.starts.skip []
  have hread := h.reads (2 * (wireChars v).length + 1) [] (by omega) stops_nil
  rw [List.append_nil] at hskip hread
  rw [read, wire, String.toList_ofList, hskip, hread]
  rfl

end Values

/-! ### ASCII -/

/-- Every character is below U+0080. -/
def Ascii (cs : List Char) : Prop := ∀ c ∈ cs, c.toNat < 128

theorem ascii_append {xs ys : List Char} (hxs : Ascii xs) (hys : Ascii ys) : Ascii (xs ++ ys) :=
  List.forall_mem_append.mpr ⟨hxs, hys⟩

theorem ascii_cons {c : Char} {cs : List Char} (hc : c.toNat < 128) (hcs : Ascii cs) :
    Ascii (c :: cs) :=
  List.forall_mem_cons.mpr ⟨hc, hcs⟩

theorem ascii_nil : Ascii [] := fun _ h => nomatch h

theorem ascii_of_all {cs : List Char} (h : cs.all (·.toNat < 128) = true) : Ascii cs := fun c hc =>
  of_decide_eq_true (List.all_eq_true.mp h c hc)

theorem padded_ascii (width n : Nat) : Ascii (Hex.padded width n) := by
  induction width generalizing n with
  | zero => exact ascii_nil
  | succ width ih =>
    have hall : ∀ n ∈ List.range 16, (Hex.digit n).toNat < 128 := by decide
    have hdigit := hall (n % 16) (List.mem_range.mpr (Nat.mod_lt n (by decide)))
    exact ascii_append (ih (n / 16)) (ascii_cons hdigit ascii_nil)

theorem unit_ascii (n : Nat) : Ascii (unit n) :=
  ascii_cons (by decide) (ascii_cons (by decide) (padded_ascii 4 n))

theorem unescape?_ascii {c e : Char} (h : unescape? e = some c) : e.toNat < 128 := by
  refine Nat.lt_of_not_le fun hlarge => ?_
  have hne : ∀ d : Char, d.toNat < 128 → e ≠ d := by
    rintro d hd rfl
    omega
  simp [unescape?, hne '"' (by decide), hne '\\' (by decide), hne '/' (by decide),
    hne 'n' (by decide), hne 'r' (by decide), hne 't' (by decide), hne 'b' (by decide),
    hne 'f' (by decide)] at h

theorem asciiCode_ascii (n : Nat) : Ascii (asciiCode n) := by
  unfold asciiCode
  split
  · obtain ⟨-, e, rfl, -, he⟩ := shortEscape?_some ‹_›
    exact ascii_cons (by decide) (ascii_cons (unescape?_ascii he) ascii_nil)
  · split
    · rename_i hn
      have hchar : n.isValidChar := Or.inl (by omega)
      refine ascii_cons ?_ ascii_nil
      rw [Text.toNat_ofNat hchar]
      omega
    · unfold units
      split
      · exact unit_ascii n
      · exact ascii_append (unit_ascii _) (unit_ascii _)

theorem quoted_ascii (t : String) : Ascii (quoted asciiCode t) := by
  refine ascii_append (ascii_cons (by decide) fun c hc => ?_) (ascii_cons (by decide) ascii_nil)
  obtain ⟨n, -, hn⟩ := List.mem_flatMap.mp hc
  exact asciiCode_ascii n c hn

theorem int_ascii (n : Int) : Ascii (toString n).toList := by
  have hdigits : Ascii (Nat.toDigits 10 n.natAbs) := fun c hc =>
    Nat.lt_of_le_of_lt (Char.isDigit_iff_toNat.mp (isDigit_toDigits _ c hc)).2 (by decide)
  rw [toList_toString]
  split
  · exact ascii_cons (by decide) hdigits
  · exact hdigits

/-- What stands between two items, and not after the last. -/
theorem mark_ascii (last : Bool) : Ascii (if last then [] else [',', ' ']) := by
  cases last with
  | true => exact ascii_nil
  | false => exact ascii_cons (by decide) (ascii_cons (by decide) ascii_nil)

theorem wireItems_ascii {items : List Json} (h : ∀ v ∈ items, Ascii (wireChars v)) :
    Ascii (wireItems items) := by
  induction items with
  | nil => exact ascii_cons (by decide) ascii_nil
  | cons v items ih =>
    obtain ⟨hv, hitems⟩ := List.forall_mem_cons.mp h
    rw [wireItems]
    exact ascii_append (ascii_append hv (mark_ascii _)) (ih hitems)

theorem wireFields_ascii {fields : List (String × Json)} (h : ∀ f ∈ fields, Ascii (wireChars f.2)) :
    Ascii (wireFields fields) := by
  induction fields with
  | nil => exact ascii_cons (by decide) ascii_nil
  | cons f fields ih =>
    obtain ⟨hf, hfields⟩ := List.forall_mem_cons.mp h
    have hvalue := ascii_cons (c := ':') (by decide) (ascii_cons (c := ' ') (by decide) hf)
    rw [wireFields]
    exact ascii_append (ascii_append (ascii_append (quoted_ascii f.1) hvalue) (mark_ascii _))
      (ih hfields)

/-- **The text of a value** is ASCII. -/
theorem Portable.ascii {room : Nat} {v : Json} (h : Portable room v) : Ascii (wireChars v) := by
  induction h with
  | null => exact ascii_of_all rfl
  | bool b => cases b <;> exact ascii_of_all rfl
  | @int _ n => exact int_ascii n
  | @str _ t => exact quoted_ascii t
  | arr h ih => exact ascii_cons (by decide) (wireItems_ascii ih)
  | obj h hkeys hdistinct ih => exact ascii_cons (by decide) (wireFields_ascii ih)

end Json

/-- A client reads the text of a value as the value. -/
theorem HttpClient.decode_wire {room : Nat} {v : Json} (h : Json.Portable room v) :
    decode room v.wire = .ok v := by
  have hne : v.wire ≠ "" := by
    obtain ⟨c, cs, hc, -⟩ := h.starts
    intro he
    have hchars := congrArg String.toList he
    rw [Json.wire, String.toList_ofList, hc] at hchars
    cases hchars
  rw [decode, if_neg hne, h.read_wire]

end RapidUpload
