import RapidUpload.Json.Parser
import RapidUpload.Json.Printer
import RapidUpload.Proofs.Sizes

/-!
# Values within the limits

A value that was read holds no integer of too many digits and nests no deeper than the reader goes.
The same holds of every value inside of it, so each of them can be written again and be told of.

* `Json.Fits room v`: the value keeps within the limits.
* `Json.check_iff`, `Json.write_iff`: just such values are written.
* `Json.Fits.short`: they can be told of in a message.
* `Json.fits_read`: what is read fits.
* `Json.short_integer`: the integer that a short value stands for has a text.
-/

namespace RapidUpload

/-- Two steps that succeed are taken apart. -/
theorem bind_ok {ε α β : Type} {x : Except ε α} {f : α → Except ε β} {b : β}
    (h : (x >>= f) = .ok b) : ∃ a, x = .ok a ∧ f a = .ok b := by
  cases x with
  | error e => cases h
  | ok a => exact ⟨a, rfl, h⟩

namespace Json

/-- Every integer in the value has a text, and no more than `room` arrays and objects stand one
inside the other. -/
inductive Fits : Nat → Json → Prop where
  | null {room : Nat} : Fits room .null
  | bool {room : Nat} (b : Bool) : Fits room (.bool b)
  | int {room : Nat} {n : Int} (h : Integer.Short n) : Fits room (.int n)
  | float {room : Nat} (x : Double) : Fits room (.float x)
  | str {room : Nat} (t : String) : Fits room (.str t)
  | arr {room : Nat} {items : List Json} (h : ∀ v ∈ items, Fits room v) :
    Fits (room + 1) (.arr items)
  | obj {room : Nat} {fields : List (String × Json)} (h : ∀ f ∈ fields, Fits room f.2) :
    Fits (room + 1) (.obj fields)

variable {room : Nat} {v : Json}

/-! ### What can be written -/

theorem checkItems_iff {items : List Json} :
    checkItems room items = .ok () ↔ ∀ v ∈ items, check room v = .ok () := by
  induction items with
  | nil => simp [checkItems]
  | cons v items ih =>
    rw [checkItems, List.forall_mem_cons, ← ih]
    cases check room v with
    | ok u => exact ⟨fun h => ⟨rfl, h⟩, fun h => h.2⟩
    | error e => exact ⟨fun h => (nomatch h), fun h => nomatch h.1⟩

theorem checkFields_iff {fields : List (String × Json)} :
    checkFields room fields = .ok () ↔ ∀ f ∈ fields, check room f.2 = .ok () := by
  induction fields with
  | nil => simp [checkFields]
  | cons f fields ih =>
    rw [checkFields, List.forall_mem_cons, ← ih]
    cases check room f.2 with
    | ok u => exact ⟨fun h => ⟨rfl, h⟩, fun h => h.2⟩
    | error e => exact ⟨fun h => (nomatch h), fun h => nomatch h.1⟩

theorem Fits.check_eq (h : Fits room v) : check room v = .ok () := by
  induction h with
  | int h => exact if_pos h
  | arr _ ih => exact checkItems_iff.mpr ih
  | obj _ ih => exact checkFields_iff.mpr ih
  | null | bool | float | str => rfl

/-- Going through a value succeeds where it keeps within the limits. -/
theorem fits_of_check {room : Nat} (v : Json) (h : check room v = .ok ()) : Fits room v := by
  match v with
  | .null => exact .null
  | .bool b => exact .bool b
  | .float x => exact .float x
  | .str t => exact .str t
  | .int n =>
    by_cases hn : Integer.Short n
    · exact .int hn
    · rw [check, if_neg hn] at h
      cases h
  | .arr items =>
    cases room with
    | zero => cases h
    | succ room => exact .arr fun v _ => fits_of_check v (checkItems_iff.mp h v ‹_›)
  | .obj fields =>
    cases room with
    | zero => cases h
    | succ room => exact .obj fun f _ => fits_of_check f.2 (checkFields_iff.mp h f ‹_›)
termination_by v
decreasing_by
  · have := List.sizeOf_lt_of_mem ‹_ ∈ _›
    simp only [arr.sizeOf_spec]
    omega
  · have := List.sizeOf_lt_of_mem ‹_ ∈ _›
    cases f
    simp only [obj.sizeOf_spec, Prod.mk.sizeOf_spec] at this ⊢
    omega

theorem check_iff : check room v = .ok () ↔ Fits room v := ⟨fits_of_check v, Fits.check_eq⟩

/-- What keeps within the limits is written as its line. -/
theorem write_iff : write room v = .ok v.wire ↔ Fits room v := by
  rw [← check_iff, write]
  cases check room v with
  | ok u => exact ⟨fun _ => rfl, fun _ => rfl⟩
  | error e => exact ⟨fun h => (nomatch h), fun h => nomatch h⟩

/-- A value is written only as its line. -/
theorem write_ok {text : String} (h : write room v = .ok text) : text = v.wire ∧ Fits room v := by
  rw [write] at h
  cases hc : check room v with
  | ok u =>
    rw [hc] at h
    exact ⟨(Except.ok.inj h).symm, check_iff.mp hc⟩
  | error e =>
    rw [hc] at h
    cases h

/-! ### What can be told of -/

theorem isShortItems_iff {items : List Json} :
    isShortItems items = true ↔ ∀ v ∈ items, v.isShort = true := by
  induction items with
  | nil => simp [isShortItems]
  | cons v items ih => simp [isShortItems, ih]

theorem isShortFields_iff {fields : List (String × Json)} :
    isShortFields fields = true ↔ ∀ f ∈ fields, f.2.isShort = true := by
  induction fields with
  | nil => simp [isShortFields]
  | cons f fields ih => simp [isShortFields, ih]

/-- A value within the limits can be told of. -/
theorem Fits.short (h : Fits room v) : v.isShort = true := by
  induction h with
  | int h => exact decide_eq_true h
  | arr _ ih => exact isShortItems_iff.mpr ih
  | obj _ ih => exact isShortFields_iff.mpr ih
  | null | bool | float | str => rfl

theorem mem_of_find? {key : String} {fields : List (String × Json)}
    (h : find? key fields = some v) : (key, v) ∈ fields := by
  induction fields with
  | nil => cases h
  | cons f fields ih =>
    obtain ⟨k, w⟩ := f
    rw [find?] at h
    split at h
    · rename_i hk
      cases h
      exact hk ▸ List.mem_cons_self
    · exact List.mem_cons_of_mem _ (ih h)

/-- A value that is no number is no integer either. -/
theorem isShort_of_bothNaN {w : Json} (h : bothNaN v w = true) : v.isShort = true := by
  cases v with
  | float x => rfl
  | null | bool _ | int _ | str _ | arr _ | obj _ => cases w <;> cases h

mutual

/-- What equals a value that can be told of can be told of. -/
theorem isShort_of_same : ∀ {v w : Json}, same v w = true → w.isShort = true → v.isShort = true
  | .null, _, _, _ | .bool _, _, _, _ | .float _, _, _, _ | .str _, _, _, _ => rfl
  | .int n, w, h, hw => by
    refine decide_eq_true ?_
    cases w with
    | int m =>
      obtain rfl : n = m := eq_of_beq h
      exact of_decide_eq_true hw
    | float y => exact Double.short_of_equalsInt h
    | bool b =>
      obtain rfl : n = if b then 1 else 0 := eq_of_beq h
      cases b <;> decide
    | null | str _ | arr _ | obj _ => cases h
  | .arr xs, w, h, hw => by
    cases w with
    | arr ys => exact isShortItems_of_same h hw
    | float y => cases h
    | null | bool _ | int _ | str _ | obj _ => cases h
  | .obj xs, w, h, hw => by
    cases w with
    | obj ys => exact isShortFields_of_same (Bool.and_eq_true_iff.mp h).2 hw
    | float y => cases h
    | null | bool _ | int _ | str _ | arr _ => cases h

theorem isShortItems_of_same : ∀ {xs ys : List Json}, sameItems xs ys = true →
    isShortItems ys = true → isShortItems xs = true
  | [], _, _, _ => rfl
  | x :: xs, [], h, _ => nomatch h
  | x :: xs, y :: ys, h, hy => by
    obtain ⟨hy, hys⟩ := Bool.and_eq_true_iff.mp hy
    obtain ⟨hx, hxs⟩ := Bool.and_eq_true_iff.mp h
    refine Bool.and_eq_true_iff.mpr ⟨?_, isShortItems_of_same hxs hys⟩
    rcases Bool.or_eq_true_iff.mp hx with hnan | hsame
    · exact isShort_of_bothNaN hnan
    · exact isShort_of_same hsame hy

theorem isShortFields_of_same : ∀ {xs ys : List (String × Json)}, sameFields xs ys = true →
    isShortFields ys = true → isShortFields xs = true
  | [], _, _, _ => rfl
  | (k, v) :: xs, ys, h, hys => by
    obtain ⟨hv, hxs⟩ := Bool.and_eq_true_iff.mp h
    refine Bool.and_eq_true_iff.mpr ⟨?_, isShortFields_of_same hxs hys⟩
    cases hw : find? k ys with
    | none =>
      rw [hw] at hv
      cases hv
    | some w =>
      rw [hw] at hv
      rcases Bool.or_eq_true_iff.mp hv with hnan | hsame
      · exact isShort_of_bothNaN hnan
      · exact isShort_of_same hsame (isShortFields_iff.mp hys _ (mem_of_find? hw))

end

/-! ### What stands inside -/

theorem Fits.mono (h : Fits room v) {room' : Nat} (hle : room ≤ room') : Fits room' v := by
  induction h generalizing room' with
  | null => exact .null
  | bool b => exact .bool b
  | int h => exact .int h
  | float x => exact .float x
  | str t => exact .str t
  | arr _ ih =>
    obtain ⟨room', rfl⟩ : ∃ n, room' = n + 1 := ⟨room' - 1, by omega⟩
    exact .arr fun v hv => ih v hv (by omega)
  | obj _ ih =>
    obtain ⟨room', rfl⟩ : ∃ n, room' = n + 1 := ⟨room' - 1, by omega⟩
    exact .obj fun f hf => ih f hf (by omega)

/-- What a value has in a field nests less deep than the value. -/
theorem Fits.field (h : Fits (room + 1) v) (key : String) : Fits room (v.field key) := by
  rw [Json.field]
  cases hv : v.get? key with
  | none => exact .null
  | some w =>
    cases h with
    | obj h => exact h _ (mem_of_find? hv)
    | _ => cases hv

theorem Fits.orElse {w : Json} (hv : Fits room v) (hw : Fits room w) : Fits room (v.orElse w) := by
  rw [Json.orElse]
  split
  · exact hv
  · exact hw

/-! ### What is read -/

section Reading

variable {cs rest : List Char}

/-- A row of digits stands for a number of no more digits. -/
theorem foldl_digits_lt {β : Type} {f : β → Nat} {ds : List β} (hd : ∀ d ∈ ds, f d ≤ 9) :
    ds.foldl (fun n d => 10 * n + f d) 0 < pow10 ds.length := by
  suffices hfold : ∀ n, ds.foldl (fun n d => 10 * n + f d) n < (n + 1) * pow10 ds.length by
    have hzero := hfold 0
    rwa [Nat.zero_add, Nat.one_mul] at hzero
  induction ds with
  | nil => exact fun n => by simp [pow10]
  | cons d ds ih =>
    intro n
    obtain ⟨hnine, hds⟩ := List.forall_mem_cons.mp hd
    have hpow : pow10 (ds.length + 1) = 10 * pow10 ds.length := Nat.pow_succ'
    rw [List.foldl_cons, List.length_cons, hpow]
    calc _ < (10 * n + f d + 1) * pow10 ds.length := ih hds _
      _ ≤ (n + 1) * 10 * pow10 ds.length := Nat.mul_le_mul_right _ (by omega)
      _ = (n + 1) * (10 * pow10 ds.length) := Nat.mul_assoc _ _ _

theorem natOfDigits_lt {ds : List Char} (hd : ∀ c ∈ ds, c.isDigit = true) :
    natOfDigits ds < pow10 ds.length := by
  refine foldl_digits_lt fun c hc => ?_
  have hnine : c.toNat ≤ 57 := (Char.isDigit_iff_toNat.mp (hd c hc)).2
  omega

theorem readWhole_digits {whole : List Char} (h : readWhole cs = some (whole, rest)) :
    ∀ c ∈ whole, c.isDigit = true := by
  cases cs with
  | nil => cases h
  | cons c cs =>
    rw [readWhole] at h
    split at h
    · cases h
      exact List.forall_mem_singleton.mpr rfl
    · split at h
      · cases h
        exact fun d hd => List.all_eq_true.mp List.all_takeWhile d hd
      · cases h

theorem fits_readNumber {negative : Bool} (h : readNumber negative cs = .ok (v, rest)) :
    Fits room v := by
  rw [readNumber] at h
  split at h
  · cases h
  · rename_i whole tail hwhole
    dsimp only at h
    split at h
    · split at h
      · cases h
      · rename_i hlong
        cases h
        refine .int (Integer.short_iff.mpr ?_)
        calc Int.natAbs _ = natOfDigits whole := by split <;> omega
          _ < pow10 whole.length := natOfDigits_lt (readWhole_digits hwhole)
          _ ≤ pow10 Integer.digitLimit := Integer.pow10_le_pow10 (Nat.not_lt.mp hlong)
    · cases h
      exact .float _

theorem fits_words : ∀ word ∈ words, Fits room word.2 := by
  simp only [words, List.forall_mem_cons]
  exact ⟨.null, .bool true, .bool false, .float _, .float _, .float _, fun _ h => nomatch h⟩

theorem fits_readScalar (h : readScalar cs = .ok (v, rest)) : Fits room v := by
  unfold readScalar at h
  split at h
  · rename_i r hr
    cases h
    obtain ⟨word, hmem, hword⟩ := List.exists_of_findSome?_eq_some hr
    obtain ⟨-, hv⟩ := Option.ite_none_right_eq_some.mp hword
    cases hv
    exact fits_words word hmem
  · split at h
    · rename_i tail _
      cases ht : readText tail with
      | error e =>
        rw [ht] at h
        cases h
      | ok r =>
        rw [ht] at h
        cases h
        exact .str _
    · exact fits_readNumber h
    · exact fits_readNumber h

theorem forall_insert {P : Json → Prop} {fields : List (String × Json)} (key : String)
    (hfields : ∀ f ∈ fields, P f.2) (hv : P v) : ∀ f ∈ insert fields key v, P f.2 := by
  induction fields with
  | nil => exact List.forall_mem_singleton.mpr hv
  | cons f fields ih =>
    obtain ⟨hf, hfields⟩ := List.forall_mem_cons.mp hfields
    rw [insert]
    split
    · exact List.forall_mem_cons.mpr ⟨hv, hfields⟩
    · exact List.forall_mem_cons.mpr ⟨hf, ih hfields⟩

/-- What is read at the start fits, and so do the items and the fields of a row. -/
theorem fits_readValue (fuel : Nat) :
    (∀ {room cs v rest}, readValue fuel room cs = .ok (v, rest) → Fits room v) ∧
    (∀ {room cs items rest}, readItems fuel room cs = .ok (items, rest) →
      ∀ v ∈ items, Fits room v) ∧
    ∀ {room cs done fields rest}, readFields fuel room cs done = .ok (fields, rest) →
      (∀ f ∈ done, Fits room f.2) → ∀ f ∈ fields, Fits room f.2 := by
  induction fuel with
  | zero => exact ⟨fun h => (nomatch h), fun h => (nomatch h), fun h => nomatch h⟩
  | succ fuel ih =>
    obtain ⟨ihvalue, ihitems, ihfields⟩ := ih
    refine ⟨fun {room cs v rest} h => ?_, fun {room cs items rest} h => ?_,
      fun {room cs done fields rest} h hdone => ?_⟩
    · unfold readValue at h
      split at h
      · cases h
      · cases h
      · split at h
        · cases h
          exact .arr fun _ h => nomatch h
        · obtain ⟨⟨items, tail⟩, hitems, hv⟩ := bind_ok h
          cases hv
          exact .arr (ihitems hitems)
      · split at h
        · cases h
          exact .obj fun _ h => nomatch h
        · obtain ⟨⟨fields, tail⟩, hfields, hv⟩ := bind_ok h
          cases hv
          exact .obj (ihfields hfields fun _ h => nomatch h)
      · exact fits_readScalar h
    · rw [readItems] at h
      obtain ⟨⟨v, tail⟩, hv, h⟩ := bind_ok h
      dsimp only at h
      split at h
      · cases h
        exact List.forall_mem_singleton.mpr (ihvalue hv)
      · obtain ⟨⟨items, tail⟩, hitems, h⟩ := bind_ok h
        cases h
        exact List.forall_mem_cons.mpr ⟨ihvalue hv, ihitems hitems⟩
      · cases h
    · unfold readFields at h
      dsimp only at h
      split at h
      · obtain ⟨⟨key, tail⟩, -, h⟩ := bind_ok h
        dsimp only at h
        split at h
        · obtain ⟨⟨v, tail⟩, hv, h⟩ := bind_ok h
          dsimp only at h
          have hinsert := forall_insert key hdone (ihvalue hv)
          split at h
          · cases h
            exact hinsert
          · exact ihfields h hinsert
          · cases h
        · cases h
      · cases h

/-- **What is read** fits. -/
theorem fits_read {text : String} (h : read room text = .ok v) : Fits room v := by
  obtain ⟨⟨w, rest⟩, hw, h⟩ := bind_ok h
  dsimp only at h
  split at h
  · cases h
    exact (fits_readValue _).1 hw
  · cases h

end Reading

/-! ### What counts as an integer -/

theorem digitValue_le {c : Char} {d : Nat} (h : Text.digitValue? c = some d) : d ≤ 9 := by
  obtain ⟨first, hfirst, rfl⟩ := Option.map_eq_some_iff.mp h
  have hrange := List.find?_some hfirst
  simp only [Bool.and_eq_true, decide_eq_true_eq] at hrange
  omega

theorem digits_le : ∀ {cs : List Char} {ds : List Nat}, Integer.digits? cs = some ds →
    ∀ d ∈ ds, d ≤ 9
  | cs, ds, h => by
    fun_induction Integer.digits? cs generalizing ds with
    | case1 => cases h
    | case2 c =>
      obtain ⟨d, hd, rfl⟩ := Option.map_eq_some_iff.mp h
      exact List.forall_mem_singleton.mpr (digitValue_le hd)
    | case3 c rest ih | case4 c rest _ _ ih =>
      obtain ⟨d, hd, h⟩ := Option.bind_eq_some_iff.mp h
      obtain ⟨ds, hds, h⟩ := Option.bind_eq_some_iff.mp h
      cases h
      exact List.forall_mem_cons.mpr ⟨digitValue_le hd, ih _ hds⟩

/-- An integer that was read from a text has one. -/
theorem short_ofText {t : String} {n : Int} (h : Integer.ofText? t = some n) : Integer.Short n := by
  obtain ⟨ds, hds, h⟩ := Option.bind_eq_some_iff.mp h
  split at h
  · cases h
  · rename_i hlong
    cases h
    refine Integer.short_iff.mpr ?_
    calc Int.natAbs _ = ds.foldl (fun n d => 10 * n + d) 0 := by split <;> omega
      _ < pow10 ds.length := foldl_digits_lt (f := fun d => d) (digits_le hds)
      _ ≤ pow10 Integer.digitLimit := Integer.pow10_le_pow10 (Nat.not_lt.mp hlong)

/-- So has the integer that a value stands for. -/
theorem short_integer {n : Int} (h : v.integer = .ok n) (hv : v.isShort = true) :
    Integer.Short n := by
  match v with
  | .bool b =>
    cases h
    cases b <;> decide
  | .int n =>
    cases h
    exact decide_eq_true_iff.mp hv
  | .float x =>
    rw [integer] at h
    split at h
    · cases h
    · split at h
      · cases h
      · cases h
        exact x.short_truncate
  | .str t =>
    rw [integer] at h
    split at h
    · cases h
      exact short_ofText ‹_›
    · cases h

end Json

end RapidUpload
