import RapidUpload.Spill
import RapidUpload.Proofs.Delivery
import RapidUpload.Proofs.Hashing
import RapidUpload.Proofs.Splice

/-!
# What a spill file stores

A spill file takes in a stream and reads as its bytes from then on, wherever it is positioned.

* `Spill.Drained`, `Spill.Broken`: what a copy takes from a stream.
* `Spill.copy_ends`, `Spill.absorb_ends`: what is hashed is what is stored, and all of a stream that
  delivers.
* `Spill.seek_ends`, `Spill.rewind_ends`: moves go where they are asked to, and going back to the
  start does not fail.
* `Spill.delivers_of_stands`: a spill delivers what stands from its position on.
-/

namespace RapidUpload

open Step

/-! ### Files without holes -/

namespace Sparse

/-- The bytes written from the start on, without a hole. -/
def solid (content : ByteArray) : Sparse :=
  ⟨content.size, if content.size = 0 then [] else [(0, content)]⟩

/-- The file reads as the content everywhere. -/
def Holds (s : Sparse) (content : ByteArray) : Prop :=
  s.size = content.size ∧ ∀ i n, s.window i n = content.window i n

theorem is_solid (content : ByteArray) : (solid content).Is content := by
  refine ⟨rfl, fun i => ?_⟩
  unfold solid byte
  by_cases h : content.size = 0
  · rw [if_pos h, ByteArray.octet_of_size_le (by omega), byteOf]
  · rw [if_neg h, byteOf, Nat.zero_add, Nat.sub_zero]
    by_cases hi : i < content.size
    · rw [if_pos ⟨Nat.zero_le i, hi⟩]
    · rw [if_neg fun h => hi h.2, byteOf, ByteArray.octet_of_size_le (Nat.not_lt.mp hi)]

theorem Is.holds {s : Sparse} {content : ByteArray} (h : s.Is content) : s.Holds content :=
  ⟨h.size, h.window_eq⟩

theorem holds_solid (content : ByteArray) : (solid content).Holds content :=
  (is_solid content).holds

/-- Writing at the end goes on without a hole. -/
theorem write_solid {content new : ByteArray} (h : new.size ≠ 0) :
    (solid content).write content.size new = solid (content ++ new) := by
  have hne : (content ++ new).size ≠ 0 := by rw [ByteArray.size_append]; omega
  have hmax : max content.size (content.size + new.size) = (content ++ new).size := by
    rw [ByteArray.size_append]; omega
  unfold solid
  rw [if_neg hne]
  split
  · rename_i hc
    rw [write, hmax]
    rw [ByteArray.size_eq_zero_iff.mp hc, ByteArray.empty_append, ByteArray.size_empty]
  · rw [write, if_pos (by omega), hmax, Nat.sub_zero, overwrite, if_pos rfl]

end Sparse

/-! ### Copying -/

namespace FileCursor

/-- Writes chunks one behind the other. -/
def writeAll (cursor : FileCursor) (chunks : List ByteArray) : FileCursor :=
  chunks.foldl (fun c chunk => c.write chunk) cursor

/-- Chunks with something in them are spliced from the position on. -/
theorem writeAll_is {cursor : FileCursor} {content : ByteArray} (h : cursor.bytes.Is content)
    {chunks : List ByteArray} (hc : ∀ chunk ∈ chunks, chunk.size ≠ 0) :
    (cursor.writeAll chunks).bytes.Is (content.splice cursor.position (ByteArray.join chunks)) ∧
      (cursor.writeAll chunks).position = cursor.position + (ByteArray.join chunks).size := by
  induction chunks generalizing cursor content with
  | nil => exact ⟨(content.splice_empty _).symm ▸ h, rfl⟩
  | cons chunk chunks ih =>
    obtain ⟨hchunk, hchunks⟩ := List.forall_mem_cons.mp hc
    have hwrite : (cursor.write chunk).bytes.Is (content.splice cursor.position chunk) :=
      h.write _ hchunk
    obtain ⟨his, hpos⟩ := ih hwrite hchunks
    have hmoved : (cursor.write chunk).position = cursor.position + chunk.size := rfl
    rw [hmoved, ByteArray.splice_splice] at his
    exact ⟨his, by rw [ByteArray.join_cons, ByteArray.size_append, ← Nat.add_assoc]; exact hpos⟩

@[simp] theorem limits_writeAll (cursor : FileCursor) (chunks : List ByteArray) :
    (cursor.writeAll chunks).limits = cursor.limits := by
  induction chunks generalizing cursor with
  | nil => rfl
  | cons chunk chunks ih => exact ih (cursor.write chunk)

/-- At the end of a file without holes they leave no hole. -/
theorem writeAll_solid (limits : FileLimits) (content : ByteArray) {chunks : List ByteArray}
    (hc : ∀ chunk ∈ chunks, chunk.size ≠ 0) :
    writeAll ⟨limits, .solid content, content.size⟩ chunks =
      ⟨limits, .solid (content ++ ByteArray.join chunks),
        (content ++ ByteArray.join chunks).size⟩ := by
  induction chunks generalizing content with
  | nil =>
    rw [show ByteArray.join [] = .empty from rfl, ByteArray.append_empty]
    rfl
  | cons chunk chunks ih =>
    obtain ⟨hchunk, hchunks⟩ := List.forall_mem_cons.mp hc
    have hwrite : write chunk ⟨limits, .solid content, content.size⟩ =
        ⟨limits, .solid (content ++ chunk), (content ++ chunk).size⟩ := by
      rw [write, Sparse.write_solid hchunk, ByteArray.size_append]
    rw [writeAll, List.foldl_cons, hwrite, ← writeAll, ih _ hchunks, ByteArray.join_cons,
      ByteArray.append_assoc]

end FileCursor

namespace Spill

variable {ρ : Type} [Reader ρ] {limit : Nat}

/-- Reads of one copy took the chunks, each with something in it. -/
inductive Drawn : ρ → List ByteArray → ρ → Prop where
  | nil (r : ρ) : Drawn r [] r
  | cons {r r' r'' : ρ} {bytes : ByteArray} {chunks : List ByteArray}
    (hr : Reader.read (some (copySize : Int)) r = .ok (some bytes) r') (hb : bytes.size ≠ 0)
    (h : Drawn r' chunks r'') : Drawn r (bytes :: chunks) r''

/-- The stream was read to its end, in these chunks. -/
inductive Drained : ρ → List ByteArray → ρ → Prop where
  | mk {r r' r'' : ρ} {chunks : List ByteArray} {out : Option ByteArray} (h : Drawn r chunks r')
    (hr : Reader.read (some (copySize : Int)) r' = .ok out r'') (ho : (out.getD .empty).size = 0) :
    Drained r chunks r''

/-- The stream was read up to a read that failed, in these chunks. -/
inductive Broken (e : Fault) : ρ → List ByteArray → ρ → Prop where
  | mk {r r' r'' : ρ} {chunks : List ByteArray} (h : Drawn r chunks r')
    (hr : Reader.read (some (copySize : Int)) r' = .error e r'') : Broken e r chunks r''

section Draws

variable {r r' : ρ} {chunks : List ByteArray} {content : ByteArray}

theorem Drawn.nonempty (h : Drawn r chunks r') : ∀ chunk ∈ chunks, chunk.size ≠ 0 := by
  induction h with
  | nil => exact fun chunk hc => nomatch hc
  | cons _ hb _ ih => exact List.forall_mem_cons.mpr ⟨hb, ih⟩

/-- What was drawn is the start of what the stream delivers. -/
theorem Drawn.delivers (h : Drawn r chunks r') (hd : Delivers limit r content) :
    ∃ rest, content = ByteArray.join chunks ++ rest ∧ Delivers limit r' rest := by
  induction h generalizing content with
  | nil => exact ⟨content, ByteArray.empty_append.symm, hd⟩
  | cons hr _ _ ih =>
    obtain ⟨rest, hp, hr'⟩ := ends_of_ok (hd.read copySize (by decide)) hr
    obtain ⟨rest', rfl, hd'⟩ := ih hr'
    exact ⟨rest', by rw [ByteArray.join_cons, ByteArray.append_assoc]; exact hp.split, hd'⟩

theorem Drained.nonempty (h : Drained r chunks r') : ∀ chunk ∈ chunks, chunk.size ≠ 0 := by
  cases h with
  | mk h => exact h.nonempty

theorem Broken.nonempty {e : Fault} (h : Broken e r chunks r') :
    ∀ chunk ∈ chunks, chunk.size ≠ 0 := by
  cases h with
  | mk h => exact h.nonempty

/-- A stream that was read to its end has given all that it delivers. -/
theorem Drained.delivers (h : Drained r chunks r') (hd : Delivers limit r content) :
    ByteArray.join chunks = content ∧ Delivers limit r' .empty := by
  cases h with
  | mk h hr ho =>
    obtain ⟨rest, rfl, hd'⟩ := h.delivers hd
    obtain ⟨rest', hp, hr'⟩ := ends_of_ok (hd'.read copySize (by decide)) hr
    have hrest := hp.rest_eq
    rw [ho, ByteArray.since_zero] at hrest
    subst hrest
    rw [ByteArray.size_eq_zero_iff.mp (hp.empty ho)] at hr' ⊢
    exact ⟨ByteArray.append_empty.symm, hr'⟩

/-- A stream whose read failed does not deliver as many bytes at once. -/
theorem Broken.delivers {e : Fault} (h : Broken e r chunks r') (hd : Delivers limit r content) :
    limit < copySize := by
  cases h with
  | mk h hr =>
    obtain ⟨rest, rfl, hd'⟩ := h.delivers hd
    exact ends_of_error (hd'.read copySize (by decide)) hr

end Draws

/-- The spill with an open file that works. -/
def onto (s : Spill) (cursor : FileCursor) : Spill := { s with handle := some ⟨cursor, []⟩ }

theorem onto_of_handle {s : Spill} {cursor : FileCursor} (h : s.handle = some ⟨cursor, []⟩) :
    s.onto cursor = s := by
  obtain ⟨_, _, _, _, _⟩ := s
  cases h
  rfl

/-- The spill with its file open behind the bytes written so far. -/
def written (s : Spill) (content : ByteArray) : Spill :=
  s.onto ⟨s.disk.limits, .solid content, content.size⟩

theorem write_onto (s : Spill) (cursor : FileCursor) (new : ByteArray) :
    write new (s.onto cursor) = .ok () (s.onto (cursor.write new)) := rfl

/-- **Copying.**  The chunks that are taken from the stream are hashed and written one behind the
other, up to the end of the stream or a read of it that fails. -/
theorem copy_ends (r : ρ) (s : Spill) (cursor : FileCursor) {hasher : Hasher Sha1.State}
    (ht : hasher.tail.size < BlockDigest.blockSize) :
    Ends (fun (r, s) => copy hasher r s) (r, s.onto cursor)
      (fun hasher' p => ∃ chunks, Drained r chunks p.1 ∧
        hasher' = hasher.update sha1 (ByteArray.join chunks) ∧
        p.2 = s.onto (cursor.writeAll chunks))
      (fun e p => ∃ chunks, Broken e r chunks p.1 ∧ p.2 = s.onto (cursor.writeAll chunks)) := by
  generalize hs : s.onto cursor = s'
  unfold Ends
  dsimp only
  fun_induction copy hasher r s' generalizing cursor with
  | case1 hasher r s' e r' he => exact ⟨[], .mk (.nil r) he, hs.symm⟩
  | case2 hasher r s' r' he =>
    exact ⟨[], .mk (.nil r) he rfl, (Hasher.update_empty sha1 ht).symm, hs.symm⟩
  | case3 hasher r s' bytes r' he hb =>
    exact ⟨[], .mk (.nil r) he hb, (Hasher.update_empty sha1 ht).symm, hs.symm⟩
  | case4 hasher r s' bytes r' he hb e s'' hw =>
    rw [← hs, write_onto] at hw
    cases hw
  | case5 hasher r s' bytes r' he hb s'' hw ih =>
    rw [← hs, write_onto] at hw
    cases hw
    have hcopy := ih (cursor.write bytes) (Hasher.tail_update_lt sha1 hasher bytes) rfl
    split at hcopy
    · obtain ⟨chunks, ⟨hdrawn, hr, ho⟩, hh, hp⟩ := hcopy
      exact ⟨bytes :: chunks, .mk (.cons he hb hdrawn) hr ho,
        by rw [hh, Hasher.update_update, ByteArray.join_cons], hp⟩
    · obtain ⟨chunks, ⟨hdrawn, hr⟩, hp⟩ := hcopy
      exact ⟨bytes :: chunks, .mk (.cons he hb hdrawn) hr, hp⟩

end Spill

/-! ### Reading back -/

namespace FileCursor

theorem inWord_of_lt {n : Nat} (h : n < pow2 63) : inWord (n : Int) = true := by
  rw [inWord, Bool.and_eq_true, decide_eq_true_eq, decide_eq_true_eq]
  exact ⟨by omega, Int.ofNat_lt.mpr h⟩

/-- A positive count below the limit is taken. -/
theorem read_of_lt {c : FileCursor} {ask : Int} (ha : 0 < ask) (h : ask.toNat < c.limits.memory) :
    FileCursor.read (some ask) c =
      .ok (c.bytes.window c.position ask.toNat)
        { c with position := c.position + min ask.toNat c.left } := by
  have hroom := c.limits.memory_le
  have hw : inWord ask = true := by
    simp only [inWord, Bool.and_eq_true, decide_eq_true_eq]
    omega
  have hw' : inWord (ask + frameSize) = true := by
    simp only [inWord, Bool.and_eq_true, decide_eq_true_eq]
    omega
  rw [FileCursor.read, if_neg (by omega : ¬ ask < -1), if_neg (by omega : ¬ ask < 0), hw, hw']
  exact if_neg (Nat.not_le.mpr h)

/-- Any other one fails, and the file stands where it stood. -/
theorem read_of_le {c : FileCursor} {ask : Int} (ha : 0 < ask)
    (h : c.limits.memory ≤ ask.toNat) : ∃ e, FileCursor.read (some ask) c = .error e c := by
  rw [FileCursor.read, if_neg (by omega : ¬ ask < -1), if_neg (by omega : ¬ ask < 0)]
  split
  · exact ⟨_, rfl⟩
  · split
    · exact ⟨_, rfl⟩
    · exact ⟨_, if_pos h⟩

/-- A read gives a piece of what stands from the position on, unless memory has no room for all
that is asked for. -/
theorem read_ends {c : FileCursor} {content : ByteArray} (h : c.bytes.Holds content) {ask : Int}
    (ha : 0 < ask) :
    Ends (FileCursor.read (some ask)) c
      (fun out c' => IsPiece ask.toNat (content.since c.position) (some out)
        (content.since c'.position) ∧ c'.bytes = c.bytes ∧ c'.limits = c.limits)
      (fun _ c' => c.limits.memory ≤ ask.toNat ∧ c'.bytes = c.bytes ∧ c'.limits = c.limits) := by
  rcases Nat.lt_or_ge ask.toNat c.limits.memory with hw | hw
  · refine ends_ok (read_of_lt ha hw) ⟨?_, rfl, rfl⟩
    rw [h.2, left, h.1]
    exact isPiece_window content c.position (Nat.le_refl _) (by omega)
  · obtain ⟨e, he⟩ := read_of_le (c := c) ha hw
    exact ends_error he ⟨hw, rfl, rfl⟩

/-- A move within reach succeeds. -/
theorem seek_of_le {c : FileCursor} {start : Nat} (h : start ≤ c.limits.reach) :
    FileCursor.seek (start : Int) c = .ok (start : Int) { c with position := start } := by
  have hw := inWord_of_lt (Nat.lt_of_le_of_lt h c.limits.reach_lt)
  rw [FileCursor.seek, hw, if_neg (by decide), if_neg (by omega), Int.toNat_natCast]

/-- Any other one fails. -/
theorem seek_of_lt {c : FileCursor} {start : Nat} (h : c.limits.reach < start) :
    FileCursor.seek (start : Int) c = .error (.undefined .noFilePosition) c ∨
      FileCursor.seek (start : Int) c = .error (.undefined .unreachablePosition) c := by
  rw [FileCursor.seek]
  split
  · exact .inl rfl
  · rw [if_pos (by omega)]
    exact .inr rfl

end FileCursor

namespace Spill

variable {s : Spill} {limits : FileLimits} {content : ByteArray}

/-- The file is open under the limits, works, and reads as the content. -/
def Stores (s : Spill) (limits : FileLimits) (content : ByteArray) : Prop :=
  ∃ cursor, s.handle = some ⟨cursor, []⟩ ∧ cursor.limits = limits ∧ cursor.bytes.Holds content

/-- The bytes of the content that stand from the position on. -/
def Stands (s : Spill) (limits : FileLimits) (content rest : ByteArray) : Prop :=
  ∃ cursor, s.handle = some ⟨cursor, []⟩ ∧ cursor.limits = limits ∧ cursor.bytes.Holds content ∧
    rest = content.since cursor.position

/-- A step on a file that works is a step on its bytes. -/
theorem onFile_eq {β : Type} {what : SpillStep} {a : Step FileCursor β} {cursor : FileCursor}
    (h : s.handle = some ⟨cursor, []⟩) : onFile what a s =
      match a cursor with
      | .ok b c => .ok b (s.onto c)
      | .error e c => .error e (s.onto c) := by
  simp only [onFile, h, List.contains_nil, Bool.false_eq_true, if_false]
  cases a cursor <;> rfl

theorem onFile_ends {β : Type} {what : SpillStep} {a : Step FileCursor β} {cursor : FileCursor}
    {Q : β → Spill → Prop} {E : Fault → Spill → Prop} (h : s.handle = some ⟨cursor, []⟩) :
    Ends (onFile what a) s Q E ↔
      Ends a cursor (fun b c => Q b (s.onto c)) (fun e c => E e (s.onto c)) := by
  unfold Ends
  rw [onFile_eq h]
  cases a cursor <;> rfl

/-- The fault of a move out of reach. -/
def Unreached (e : Fault) : Prop :=
  e = .undefined .noFilePosition ∨ ∃ path, e = .storage (.step .seek path .invalid) .null

/-- A move goes where it is asked to, unless the file does not reach as far. -/
theorem seek_ends {cursor : FileCursor} (h : s.handle = some ⟨cursor, []⟩) (start : Nat) :
    Ends (Spill.seek start) s (fun _ s' => s' = s.onto { cursor with position := start })
      (fun e _ => cursor.limits.reach < start ∧ Unreached e) := by
  rcases Nat.lt_or_ge cursor.limits.reach start with hlt | hle
  · rcases FileCursor.seek_of_lt (c := cursor) hlt with hseek | hseek
    · exact ends_error (by rw [Spill.seek, onFile_eq h, hseek]) ⟨hlt, .inl rfl⟩
    · -- a position out of reach is worded anew
      exact ends_error (by rw [Spill.seek, onFile_eq h, hseek]) ⟨hlt, .inr ⟨_, rfl⟩⟩
  · exact ends_ok (by rw [Spill.seek, onFile_eq h, FileCursor.seek_of_le hle]) rfl

/-- Going back to the start of a file that works does not fail. -/
theorem rewind_onto (s : Spill) (cursor : FileCursor) :
    rewind (s.onto cursor) = .ok () (s.onto { cursor with position := 0 }) := by
  have hends : Ends rewind (s.onto cursor) (fun _ t => t = s.onto { cursor with position := 0 })
      fun _ _ => False :=
    ends_bind.mpr ((seek_ends (s := s.onto cursor) rfl 0).mono (fun _ _ h => ends_pure.mpr h)
      fun _ _ ⟨hlt, _⟩ => Nat.not_lt_zero _ hlt)
  obtain ⟨_, _, hrewind, rfl⟩ := ok_of_ends hends
  exact hrewind

theorem rewind_ends (h : s.Stores limits content) (E : Fault → Spill → Prop) :
    Ends rewind s (fun _ s' => s'.Stands limits content content) E := by
  obtain ⟨cursor, hc, hl, hb⟩ := h
  rw [← onto_of_handle hc]
  exact ends_ok (rewind_onto s cursor) ⟨_, rfl, hl, hb, content.since_zero.symm⟩

/-- A read gives a piece of what stands, unless memory has no room for all that is asked for. -/
theorem read_ends {rest : ByteArray} (h : s.Stands limits content rest) {ask : Int}
    (ha : 0 < ask) :
    Ends (Spill.read (some ask)) s
      (fun out s' => ∃ rest', IsPiece ask.toNat rest (some out) rest' ∧
        s'.Stands limits content rest')
      (fun _ s' => limits.memory ≤ ask.toNat ∧ s'.Stores limits content) := by
  obtain ⟨cursor, hc, rfl, hb, rfl⟩ := h
  refine (onFile_ends hc).mpr ((FileCursor.read_ends hb ha).mono ?_ ?_)
  · rintro out c ⟨hp, hbytes, hl⟩
    exact ⟨_, hp, c, rfl, hl, hbytes ▸ hb, rfl⟩
  · rintro _ c ⟨hroom, hbytes, hl⟩
    exact ⟨hroom, c, rfl, hl, hbytes ▸ hb⟩

/-- **A spill that stands at the start of a content delivers it.** -/
theorem delivers_of_stands {rest : ByteArray} (h : s.Stands limits content rest) :
    Delivers limits.largest s rest := by
  refine ⟨fun s rest => s.Stands limits content rest, ?_, h⟩
  intro s rest ask hs ha
  refine ends_map.mpr ((read_ends hs ha).mono (fun _ _ h => h) ?_)
  rintro _ _ ⟨hroom, -⟩
  exact Nat.lt_of_lt_of_le limits.largest_lt hroom

/-- The spill with a temp file on its disk. -/
def holding (s : Spill) (made : TempFile × Disk) : Spill :=
  { s with disk := made.2, temp := some made.1 }

/-- What is told of a temp file once it is made and open. -/
def createdLine (made : TempFile × Disk) : Log.Line :=
  ⟨.debug, .spill, ["Spill file created: ", made.2.tempPath made.1]⟩

/-- A new file is empty and works, under the limits of the disk, and is told of.  Where none can be
made the spill is as it was, and where the one made cannot be opened it holds it all the same. -/
theorem create_ends (s : Spill) (log : Array Log.Line) :
    Ends create ⟨s, log⟩
      (fun _ t => ∃ made, s.disk.createTemp s.folder = .ok made ∧
        made.2.openTemp made.1 = .ok (.empty made.2.limits) ∧
        t.state = (s.holding made).written .empty ∧ t.log = log.push (createdLine made))
      (fun e t => t = ⟨s, log⟩ ∨ ∃ made reason, s.disk.createTemp s.folder = .ok made ∧
        made.2.openTemp made.1 = .error reason ∧ e = creationFault reason ∧
        t = ⟨s.holding made, log⟩) := by
  unfold create
  rw [ends_bind, ends_quiet]
  cases hd : s.disk.createTemp s.folder with
  | error reason => exact ends_error (by rw [make, hd]) (.inl rfl)
  | ok made =>
    refine ends_ok (t := s.holding made) (by rw [make, hd]; rfl) ?_
    rw [ends_bind, ends_quiet]
    cases ho : made.2.openTemp made.1 with
    | error reason =>
      exact ends_error (t := s.holding made) (by rw [openMade, holding, ho])
        (.inr ⟨made, reason, rfl, ho, rfl, rfl⟩)
    | ok cursor =>
      have hcursor : cursor = .empty made.2.limits := by
        rw [Disk.openTemp] at ho
        split at ho
        · cases ho
        · exact (Except.ok.inj ho).symm
      subst hcursor
      refine ends_ok (t := (s.holding made).written .empty) (by rw [openMade, holding, ho]; rfl) ?_
      rw [ends_bind, ends_look, ends_tell]
      exact ⟨made, rfl, ho, rfl, rfl⟩

/-- Where no file can be made nothing is taken from the stream. -/
theorem absorb_of_error {ρ : Type} [Reader ρ] (r : ρ) {s : Spill} (hs : s.handle = none)
    {log : Array Log.Line} {e : Fault} {t : Logged Spill} (hc : create ⟨s, log⟩ = .error e t) :
    Spill.absorb ⟨(r, s), log⟩ = .error e ⟨(r, t.state), t.log⟩ := by
  have h : Ends Spill.absorb ⟨(r, s), log⟩ (fun _ _ => False)
      (fun e' t' => e' = e ∧ t' = ⟨(r, t.state), t.log⟩) := by
    unfold Spill.absorb
    rw [ends_bind, ends_look]
    dsimp only
    rw [hs, Option.isNone_none, if_pos rfl, ends_bind, ends_part]
    exact ends_error hc ⟨rfl, rfl⟩
  exact eq_error_of_ends h

/-- Into an open file go the chunks that are taken from the stream, from the position on. -/
theorem absorb_onto {ρ : Type} [Reader ρ] (r : ρ) (s : Spill) (cursor : FileCursor)
    (log : Array Log.Line) :
    Ends Spill.absorb ⟨(r, s.onto cursor), log⟩
      (fun hasher t => ∃ chunks, Drained r chunks t.state.1 ∧
        hasher = (Hasher.new sha1).update sha1 (ByteArray.join chunks) ∧
        t.state.2 = { s.onto (cursor.writeAll chunks) with length := hasher.length } ∧
        t.log = log.push ⟨.debug, .spill, ["Absorbed ", toString t.state.2.length, " bytes into ",
          t.state.2.shownPath]⟩)
      (fun e t => ∃ chunks, Broken e r chunks t.state.1 ∧
        t.state.2 = s.onto (cursor.writeAll chunks)) := by
  unfold Spill.absorb
  rw [ends_bind, ends_look]
  dsimp only
  rw [show (s.onto cursor).handle.isNone = false from rfl, if_neg Bool.false_ne_true, ends_bind]
  refine ends_quiet.mpr ?_
  refine (copy_ends r s cursor (Hasher.tail_new_lt sha1)).mono ?_ fun _ _ h => h
  rintro hasher ⟨r', s'⟩ ⟨chunks, hdrained, hh, hs'⟩
  dsimp only at hs'
  subst hs'
  rw [ends_bind, ends_quiet, ends_within]
  have hflush :
      flush (s.onto (cursor.writeAll chunks)) = .ok () (s.onto (cursor.writeAll chunks)) :=
    rfl
  refine ends_ok hflush ?_
  rw [ends_bind, ends_change, ends_bind, ends_look, ends_bind, ends_tell, ends_pure]
  exact ⟨chunks, hdrained, hh, rfl, rfl⟩

/-- Once the file is made, a spill without one goes on as the spill with it. -/
theorem absorb_of_create {ρ : Type} [Reader ρ] (r : ρ) {s made : Spill} (hs : s.handle = none)
    {cursor : FileCursor} {log log' : Array Log.Line}
    (hc : create ⟨s, log⟩ = .ok () ⟨made.onto cursor, log'⟩) :
    Spill.absorb ⟨(r, s), log⟩ = Spill.absorb ⟨(r, made.onto cursor), log'⟩ := by
  have hlook : ∀ (f : ρ × Spill → Act (ρ × Spill) (Hasher Sha1.State)) (s : Logged (ρ × Spill)),
      (Act.look >>= f) s = f s.state s := fun _ _ => rfl
  have hpart : Act.within Focus.second create (⟨(r, s), log⟩ : Logged (ρ × Spill)) =
      .ok () ⟨(r, made.onto cursor), log'⟩ := by
    simp only [Act.within, Focus.second, hc]
  unfold Spill.absorb
  rw [hlook, hlook]
  dsimp only
  rw [hs, Option.isNone_none, if_pos rfl, show (made.onto cursor).handle.isNone = false from rfl,
    if_neg Bool.false_ne_true]
  simp only [Bind.bind, EStateM.bind, hpart]

/-- Into a new file goes what is taken from the stream. -/
theorem absorb_of_ok {ρ : Type} [Reader ρ] (r : ρ) {s made : Spill} (hs : s.handle = none)
    {log log' : Array Log.Line} (hc : create ⟨s, log⟩ = .ok () ⟨made.written .empty, log'⟩) :
    Ends Spill.absorb ⟨(r, s), log⟩
      (fun hasher t => ∃ taken, hasher = (Hasher.new sha1).update sha1 taken ∧
        t.state.2 = { made.written taken with length := hasher.length } ∧
        t.log = log'.push ⟨.debug, .spill, ["Absorbed ", toString t.state.2.length, " bytes into ",
          t.state.2.shownPath]⟩ ∧
        ∀ {limit content}, Delivers limit r content →
          taken = content ∧ Delivers limit t.state.1 .empty)
      (fun _ _ => ∀ {limit content}, Delivers limit r content → limit < copySize) := by
  rw [Ends, absorb_of_create r hs hc, ← Ends]
  refine (absorb_onto r made _ log').mono ?_ ?_
  · rintro hasher t ⟨chunks, hdrained, hh, hstate, hlog⟩
    refine ⟨ByteArray.join chunks, hh, ?_, hlog, fun hd => hdrained.delivers hd⟩
    rw [hstate, FileCursor.writeAll_solid _ .empty hdrained.nonempty, ByteArray.empty_append]
    rfl
  · rintro e t ⟨chunks, hbroken, -⟩ limit content hd
    exact hbroken.delivers hd

/-- A temp file can be made and opened where the spill is to be. -/
def Usable (s : Spill) : Prop :=
  ∃ made cursor, s.disk.createTemp s.folder = .ok made ∧ made.2.openTemp made.1 = .ok cursor

/-- Where a temp file can be made and opened no fault comes from that. -/
theorem Usable.create_ok {s : Spill} (h : s.Usable) {log : Array Log.Line} {e : Fault}
    {t : Logged Spill} (hc : create ⟨s, log⟩ = .error e t) : False := by
  obtain ⟨made, cursor, hm, ho⟩ := h
  have hmake : make s = .ok made.1 (s.holding made) := by rw [make, hm]; rfl
  have hopen : openMade made.1 (s.holding made) =
      .ok () { s.holding made with handle := some ⟨cursor, []⟩ } := by
    rw [openMade, holding, ho]
  simp only [create, Bind.bind, EStateM.bind, Act.quiet, hmake, hopen] at hc
  cases hc

/-- The disk a temp file was made on has the limits it had. -/
theorem limits_createTemp {d : Disk} {folder : Option String} {made : TempFile × Disk}
    (h : d.createTemp folder = .ok made) : made.2.limits = d.limits := by
  unfold Disk.createTemp at h
  simp only [bind, Except.bind, pure, Except.pure, throw, throwThe, MonadExceptOf.throw] at h
  repeat' split at h
  all_goals cases h
  all_goals rfl

/-- **Absorbing.**  A new file stores what was taken from the stream and hashed. -/
theorem absorb_ends {ρ : Type} [Reader ρ] (r : ρ) {s : Spill} (hs : s.handle = none)
    (log : Array Log.Line) :
    Ends Spill.absorb ⟨(r, s), log⟩
      (fun hasher t => ∃ taken, hasher = (Hasher.new sha1).update sha1 taken ∧
        t.state.2.Stores s.disk.limits taken ∧
        ∀ {limit content}, Delivers limit r content → taken = content)
      (fun _ _ => s.Usable → ∀ {limit content}, Delivers limit r content → limit < copySize) := by
  have hmade := create_ends s log
  cases hc : create ⟨s, log⟩ with
  | error e t => exact ends_error (absorb_of_error r hs hc) fun h => (h.create_ok hc).elim
  | ok u t =>
    obtain ⟨made, hm, -, hmade, -⟩ := ends_of_ok hmade hc
    obtain ⟨_, log'⟩ := t
    dsimp only at hmade
    subst hmade
    refine (absorb_of_ok r hs hc).mono ?_ fun _ _ h _ => h
    rintro hasher t ⟨taken, hh, hstate, -, hall⟩
    refine ⟨taken, hh, ?_, fun h => (hall h).1⟩
    rw [hstate]
    exact ⟨_, rfl, limits_createTemp hm, Sparse.holds_solid taken⟩

end Spill

/-- A disk with a folder for temp files. -/
def Rehearsal.roomy : Disk :=
  ⟨.widest, fun _ => none, "/", fun _ => "", "/tmp", [], [["tmp"]], [], [], 0⟩

end RapidUpload
