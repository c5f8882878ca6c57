import RapidUpload.Proofs.Opening
import RapidUpload.Proofs.Spilling

/-!
# Sizes that are not declared

What is handed in without a size gets the size of what it gives: bytes their number, a file that of
its bytes, and a reader that can be positioned the number of bytes from where it stands to its end.
The reader is moved to its end and back to find that number, and then read from where it stood.

* `Origin.Offers disk o content`: the bytes that an origin has to give.
* `Reader.drain`: reads a stream to its end, in counts of any size.
* `Blocking.enter`: the opening of a reader, with where it leaves the reader.
* `Source.enter_inferred`: the size is the number of bytes that draining the stream gives, and these
  are the bytes that the origin had to give.
-/

namespace RapidUpload

open Step

variable {ρ σ : Type}

/-! ### Draining -/

section Drain

variable [Reader ρ] {limit : Nat} {content : ByteArray}

/-- Reads a stream up to a read that gives nothing, the first time for `asks 0` bytes and so on, and
gives all that was read. -/
def Reader.drain (asks : Nat → Nat) (r : ρ) : EStateM.Result Fault ρ ByteArray :=
  match _hr : Reader.read (some (asks 0 : Int)) r with
  | .error e r' => .error e r'
  | .ok none r' => .ok .empty r'
  | .ok (some bytes) r' =>
    if _hb : bytes.size = 0 then .ok .empty r'
    else
      match drain (fun k => asks (k + 1)) r' with
      | .ok more r'' => .ok (bytes ++ more) r''
      | .error e r'' => .error e r''
termination_by Reader.left r
decreasing_by
  have := Reader.left_read _hr
  simp only [Option.map_some, Option.getD_some] at this
  omega

/-- A stream gives all of what it delivers, in whatever counts within its limit it is drained. -/
theorem Delivers.drain {r : ρ} (h : Delivers limit r content) {asks : Nat → Nat}
    (hasks : ∀ k, 0 < asks k ∧ asks k ≤ limit) :
    ∃ r', Reader.drain asks r = .ok content r' := by
  -- on what is left: each read that gives something takes it off
  generalize hn : Reader.left r = n
  induction n using Nat.strongRecOn generalizing r content asks with
  | ind n ih =>
    obtain ⟨hpos, hle⟩ := hasks 0
    have hread := h.read (asks 0) (by omega)
    unfold Reader.drain
    split
    · rename_i e r' he
      have := ends_of_error hread he
      omega
    · rename_i r' he
      obtain ⟨rest, hp, -⟩ := ends_of_ok hread he
      exact ⟨r', by rw [ByteArray.size_eq_zero_iff.mp (hp.empty rfl)]⟩
    · rename_i bytes r' he
      obtain ⟨rest, hp, hr'⟩ := ends_of_ok hread he
      split
      · rename_i hb
        exact ⟨r', by rw [ByteArray.size_eq_zero_iff.mp (hp.empty hb)]⟩
      · rename_i hb
        have hleft := Reader.left_read he
        rw [Option.map_some, Option.getD_some] at hleft
        obtain ⟨r'', hdrain⟩ := ih _ (by omega) hr' (fun k => hasks (k + 1)) rfl
        have hsplit : content = bytes ++ rest := hp.split
        exact ⟨r'', by rw [hdrain, hsplit]⟩

end Drain

/-! ### What is opened gives all it has -/

theorem Sparse.is_ofBytes (bytes : ByteArray) : (Sparse.ofBytes bytes).Is bytes := by
  refine ⟨rfl, fun i => ?_⟩
  rw [Sparse.ofBytes, Sparse.byte, Sparse.byteOf, Nat.zero_add, Nat.sub_zero]
  by_cases hi : i < bytes.size
  · rw [if_pos ⟨Nat.zero_le i, hi⟩]
  · rw [if_neg fun h => hi h.2, Sparse.byteOf, ByteArray.octet_of_size_le (Nat.not_lt.mp hi)]

/-- Bytes in memory give all that is left to a read for all the rest. -/
theorem Cursor.read_all (c : Cursor) {ask : Option Int} (ha : ask = none ∨ ask = some (-1)) :
    ∃ c', Cursor.read ask c = .ok c.rest c' := by
  rcases ha with rfl | rfl
  · exact ⟨_, rfl⟩
  · exact ⟨_, rfl⟩

namespace Opened

variable [Reader ρ] {content : ByteArray}

/-- A file delivers its bytes from its start. -/
theorem delivers_file (limits : FileLimits) (content : ByteArray) :
    Delivers limits.largest (Opened.file (.ofBytes limits content) : Opened ρ) content := by
  refine ⟨fun o rest => ∃ c : FileCursor, o = .file c ∧ c.limits = limits ∧
    c.bytes.Holds content ∧ rest = content.since c.position, ?_, .ofBytes limits content, rfl, rfl,
    (Sparse.is_ofBytes content).holds, content.since_zero.symm⟩
  rintro _ _ ask ⟨c, rfl, rfl, hc, rfl⟩ ha
  refine read_ends (a := some <$> FileCursor.read (some ask)) rfl
    (ends_map.mpr ((FileCursor.read_ends hc ha).mono ?_ ?_))
  · rintro out c' ⟨hp, hb, hl⟩
    exact ⟨_, hp, c', rfl, hl, hb ▸ hc, rfl⟩
  · rintro _ _ ⟨hroom, -⟩
    exact Nat.lt_of_lt_of_le c.limits.largest_lt hroom

/-- The stream gives the content, however it is read to its end: in counts that memory has room for,
or all at once where memory has room for that. -/
structure Gives (stream : Opened ρ) (limits : FileLimits) (content : ByteArray) : Prop where
  drain : ∀ asks : Nat → Nat, (∀ k, 0 < asks k ∧ asks k < limits.memory) →
    ∃ stream', Reader.drain asks stream = .ok content stream'
  whole : content.size < limits.memory → ∀ ask : Option Int, ask = none ∨ ask = some (-1) →
    ∃ stream', Reader.read ask stream = .ok (some content) stream'

/-- A stream that delivers gives it, if it does so also when asked for all the rest. -/
theorem Gives.of_delivers {stream : Opened ρ} {limits : FileLimits}
    (h : Delivers limits.largest stream content)
    (hall : content.size < limits.memory → ∀ ask : Option Int, ask = none ∨ ask = some (-1) →
      ∃ stream', Reader.read ask stream = .ok (some content) stream') :
    stream.Gives limits content where
  drain _ hasks := h.drain fun k => ⟨(hasks k).1, Nat.le_sub_one_of_lt (hasks k).2⟩
  whole := hall

/-- What the stream inside gives to a read of all the rest is what the read gives. -/
theorem read_of_ok {wrap : σ → Opened ρ} {a : Step σ ByteArray} {x x' : σ} {ask : Option Int}
    (hread : Reader.read ask (wrap x) = lift wrap ((some <$> a : Step σ _) x))
    (h : a x = .ok content x') : ∃ stream', Reader.read ask (wrap x) = .ok (some content) stream' :=
  ⟨wrap x', hread.trans (by simp only [Functor.map, EStateM.map, h, lift])⟩

theorem gives_bytes (limits : FileLimits) (bytes : ByteArray) :
    (Opened.bytes (.ofBytes bytes) : Opened ρ).Gives limits bytes := by
  have hd := delivers_bytes (ρ := ρ) (.ofBytes bytes) limits.largest_lt_pow2
  have hrest : (Cursor.ofBytes bytes).rest = bytes := bytes.since_zero
  rw [hrest] at hd
  refine .of_delivers hd fun _ ask ha => ?_
  obtain ⟨c, hc⟩ := (Cursor.ofBytes bytes).read_all ha
  exact read_of_ok rfl (hrest ▸ hc)

theorem gives_file (limits : FileLimits) (bytes : ByteArray) :
    (Opened.file (.ofBytes limits bytes) : Opened ρ).Gives limits bytes := by
  refine .of_delivers (delivers_file limits bytes) fun hroom ask ha => ?_
  have hread := FileCursor.read_all (c := .ofBytes limits bytes) ha hroom
  have hwindow : (FileCursor.ofBytes limits bytes).bytes.window 0
      (FileCursor.ofBytes limits bytes).left = bytes :=
    ((Sparse.is_ofBytes bytes).window_eq 0 _).trans (ByteArray.window_of_size_le (Nat.le_refl _))
  exact read_of_ok rfl (hread.trans (congrArg (EStateM.Result.ok · _) hwindow))

theorem gives_blocking (limits : FileLimits) {b : Blocking} (hb : b.givesText = false) :
    (Opened.blocking b : Opened ρ).Gives limits b.cursor.rest := by
  refine .of_delivers (delivers_blocking hb limits.largest_lt_pow2) fun _ ask ha => ?_
  obtain ⟨c, hc⟩ := b.cursor.read_all ha
  have hread : Blocking.read ask b = .ok b.cursor.rest { b with cursor := c } := by
    simp only [Blocking.read, hc, hb, Bool.false_eq_true, if_false]
  exact read_of_ok rfl hread

end Opened

/-! ### What an origin offers -/

/-- The bytes that an origin has to give where no size is declared: its own, those of the file at
its path, or those of a reader from where it stands to its end. -/
inductive Origin.Offers (disk : Disk) : Origin ρ → ByteArray → Prop where
  | bytes (bytes : ByteArray) : Offers disk (.bytes bytes) bytes
  | path {path : String} {content : ByteArray}
    (h : disk.find (Path.normal path) = .ok (.file content)) : Offers disk (.path path) content
  | blocking {b : Blocking} (hseek : b.seekable = true) (htext : b.givesText = false) :
    Offers disk (.blocking b) b.cursor.rest

/-- The origin is a reader that stands past its end. -/
def Origin.PastEnd : Origin ρ → Prop
  | .blocking b => b.cursor.bytes.size < b.cursor.position
  | _ => False

/-- The stream of an origin gives what the origin offers.  The size found for it is that of the
content, or negative where the origin is a reader past its end. -/
theorem Origin.Offers.resolve [Reader ρ] {disk : Disk} {o : Origin ρ} {content : ByteArray}
    (h : o.Offers disk content) (name : Option String) (s : Logged σ) :
    Ends (Source.resolve disk name none o) s
      (fun x t => t.state = s.state ∧ x.1.Gives disk.limits content ∧
        x.2.1 = Source.given name o.ownName ∧
        ∃ n, x.2.2 = some n ∧ (¬o.PastEnd → n = content.size) ∧ (o.PastEnd → n < 0))
      (fun _ _ => False) := by
  cases h with
  | bytes =>
    exact ends_ok ((Opens.bytes content).resolve disk name none s)
      ⟨rfl, Opened.gives_bytes disk.limits content, rfl, _, rfl, fun _ => rfl, fun h => h.elim⟩
  | @path path content hfind =>
    have hopen : Source.openFile disk path = .ok content := by
      rw [Source.openFile, hfind]
    unfold Source.resolve
    dsimp only
    rw [ends_bind, ends_ofExcept, hopen]
    refine ⟨fun bytes he => ?_, fun e he => nomatch he⟩
    cases he
    rw [ends_bind, ends_ofExcept]
    refine ⟨fun digits _ => ?_, fun e he => nomatch he⟩
    rw [ends_bind, ends_tell, ends_pure]
    exact ⟨rfl, Opened.gives_file disk.limits content, rfl, _, rfl, fun _ => rfl, fun h => h.elim⟩
  | @blocking b hseek htext =>
    have hsize : Origin.ownSize (.blocking b : Origin ρ)
        = some ((b.cursor.bytes.size : Int) - b.cursor.position) := by
      obtain ⟨cursor, seekable, bname, givesText⟩ := b
      cases hseek
      rfl
    have hrest : b.cursor.rest.size = b.cursor.bytes.size - b.cursor.position :=
      ByteArray.size_since _ _
    refine ends_ok ((Opens.blocking b).resolve disk name none s)
      ⟨rfl, Opened.gives_blocking disk.limits htext, rfl, _, hsize, fun hw => ?_, fun hp => ?_⟩
    · have hle : b.cursor.position ≤ b.cursor.bytes.size := Nat.not_lt.mp hw
      omega
    · have hlt : b.cursor.bytes.size < b.cursor.position := hp
      omega

/-! ### The name and the size are checked -/

/-- The name and the size a source goes by, the one not empty, the other known and not negative. -/
def Source.checked (name : String) (size : Option Int) : Except Fault (String × Nat) :=
  if name = "" then .error (.refused .noName)
  else
    match size with
    | none => .error (.refused .noSize)
    | some n =>
      if n < 0 then .error (Integer.refuse .negativeSize n) else .ok (name, n.toNat)

/-- Opening finds the stream, the name and the size, and checks them. -/
theorem Source.enter_eq (disk : Disk) (name : Option String) (size : Option Int) (o : Origin ρ) :
    (enter disk name size o : Act σ (Source ρ)) = (do
      let (stream, name, size) ← resolve disk name size o
      let (name, size) ← Act.ofExcept (checked name size)
      return ⟨stream, name, size⟩) := by
  unfold enter
  congr 1
  funext ⟨stream, name, size⟩
  dsimp only
  unfold checked
  split
  · rfl
  · cases size with
    | none => rfl
    | some n => dsimp only; split <;> rfl

namespace Blocking

/-- The size that was declared, or else the one that the reader tells. -/
def sizeOr : Option Int → Step Blocking (Option Int)
  | some n => pure (some n)
  | none => remaining

/-- The opening of a blocking reader, as a step of the reader: the name and the size it goes by. -/
def enter (name : Option String) (size : Option Int) : Step Blocking (String × Nat) := do
  let size ← sizeOr size
  let b ← get
  match Source.checked (Source.given name ((b.name.map Path.lastName).getD "")) size with
  | .ok label => return label
  | .error e => throw e

theorem sizeOr_eq (size : Option Int) (b : Blocking) : ∃ n, sizeOr size b = .ok n b := by
  cases size with
  | some n => exact ⟨_, rfl⟩
  | none => exact remaining_eq b

/-- Opening leaves a reader where it stood, whether it succeeds or fails. -/
theorem enter_stays (name : Option String) (size : Option Int) (b : Blocking) :
    Ends (enter name size) b (fun _ b' => b' = b) (fun _ b' => b' = b) := by
  obtain ⟨n, hn⟩ := sizeOr_eq size b
  unfold enter
  refine ends_bind.mpr (ends_ok hn (ends_bind.mpr (ends_ok rfl ?_)))
  split
  · exact ends_pure.mpr rfl
  · exact ends_throw.mpr rfl

/-- Opening a reader as a source is that step, and the source reads on from where it leaves the
reader. -/
theorem enter_source (disk : Disk) (name : Option String) (size : Option Int) (b : Blocking)
    (s : Logged σ) :
    Source.enter disk name size (.blocking b : Origin ρ) s =
      match enter name size b with
      | .ok (name, size) b' => .ok ⟨.blocking b', name, size⟩ s
      | .error e _ => .error e s := by
  obtain ⟨n, hn⟩ := sizeOr_eq size b
  have hresolve : Source.resolve disk name size (.blocking b : Origin ρ) s
      = .ok (.blocking b, Source.given name ((b.name.map Path.lastName).getD ""), n) s := by
    cases size with
    | some m => cases hn; rfl
    | none => simp only [Source.resolve, show Blocking.remaining b = .ok n b from hn]; rfl
  have hget : (get : Step Blocking Blocking) b = .ok b b := rfl
  rw [Source.enter_eq, enter]
  simp only [bind, EStateM.bind, hresolve, hn, hget]
  cases Source.checked (Source.given name ((b.name.map Path.lastName).getD "")) n <;> rfl

end Blocking

/-! ### Opening without a size -/

namespace Source

variable [Reader ρ] {disk : Disk} {o : Origin ρ} {content : ByteArray}

/-- What is opened without a declared size: a source with a name, whose size is the number of bytes
that its stream gives, from a reader that does not stand past its end. -/
structure Inferred (limits : FileLimits) (name : Option String) (o : Origin ρ)
    (content : ByteArray) (source : Source ρ) : Prop where
  name_eq : source.name = given name o.ownName
  name_ne : source.name ≠ ""
  size_eq : source.size = content.size
  gives : source.stream.Gives limits content
  within : ¬o.PastEnd

/-- What keeps an origin without a declared size from being opened: there is no name, or it is a
reader past its end. -/
inductive Unopened (name : Option String) (o : Origin ρ) : Fault → Prop where
  | unnamed (h : given name o.ownName = "") : Unopened name o (.refused .noName)
  | pastEnd {n : Int} (h : o.PastEnd) (hn : n < 0) :
    Unopened name o (Integer.refuse .negativeSize n)

/-- Opening a reader is a step of the reader, and whether or not it can be opened the step leaves it
where it stood. -/
def LeavesReader (disk : Disk) (name : Option String) (size : Option Int) (s : Logged σ) :
    Origin ρ → Prop
  | .blocking b =>
    (enter disk name size (.blocking b : Origin ρ) s =
      match Blocking.enter name size b with
      | .ok (name, size) b' => .ok ⟨.blocking b', name, size⟩ s
      | .error e _ => .error e s) ∧
    Ends (Blocking.enter name size) b (fun _ b' => b' = b) (fun _ b' => b' = b)
  | _ => True

/-- **Sizes that are not declared.** An origin that is handed in without a size opens exactly where
it has a name and is no reader past its end.  The size is then the number of bytes that draining the
stream gives, and they are all the bytes the origin had to give.  A reader stands where it stood,
whether it was opened or not. -/
theorem enter_inferred (h : o.Offers disk content) (name : Option String) (s : Logged σ) :
    Ends (enter disk name none o) s
      (fun source t => t.state = s.state ∧ source.Inferred disk.limits name o content)
      (fun e t => t.state = s.state ∧ Unopened name o e) ∧
    LeavesReader disk name none s o := by
  refine ⟨?_, ?_⟩
  · rw [enter_eq, ends_bind]
    refine (h.resolve name s).mono ?_ fun _ _ h => h.elim
    rintro ⟨stream, label, size⟩ t ⟨hstate, hgives, rfl, n, rfl, hwithin, hpast⟩
    dsimp only at hgives ⊢
    rw [ends_bind, ends_ofExcept]
    by_cases hname : given name o.ownName = ""
    · rw [checked, if_pos hname]
      exact ⟨fun _ h => (nomatch h), fun e he => by cases he; exact ⟨hstate, .unnamed hname⟩⟩
    · rw [checked, if_neg hname]
      by_cases hp : o.PastEnd
      · rw [if_pos (hpast hp)]
        exact ⟨fun _ h => (nomatch h), fun e he => by
          cases he; exact ⟨hstate, .pastEnd hp (hpast hp)⟩⟩
      · have hn := hwithin hp
        rw [if_neg (by omega : ¬n < 0)]
        refine ⟨fun label he => ?_, fun _ h => (nomatch h)⟩
        cases he
        exact ends_pure.mpr ⟨hstate, rfl, hname, by dsimp only; omega, hgives, hp⟩
  · cases o with
    | blocking b => exact ⟨b.enter_source disk name none s, b.enter_stays name none⟩
    | path | bytes | stream | text | unsupported => trivial

end Source

/-! ### A reader in the middle of its bytes -/

namespace Rehearsal

/-- A reader of three bytes that stands behind the first. -/
def midway : Blocking := ⟨⟨⟨#[1, 2, 3]⟩, 1⟩, true, some "dir/f.bin", false⟩

/-- It has the two bytes it did not read yet, and those are its size. -/
theorem enter_inferred_midway :
    (.blocking midway : Origin Stream).Offers roomy ⟨#[2, 3]⟩ ∧
    ∃ source : Source Stream, Source.enter roomy none none (.blocking midway) ⟨(), #[]⟩
        = .ok source ⟨(), #[]⟩ ∧ source.name = "f.bin" ∧ source.size = 2 ∧
      ∃ stream, Reader.drain (fun _ => 1) source.stream = .ok ⟨#[2, 3]⟩ stream := by
  have hoffers : (.blocking midway : Origin Stream).Offers roomy midway.cursor.rest :=
    .blocking rfl rfl
  have hrest : midway.cursor.rest = ⟨#[2, 3]⟩ := by decide +kernel
  obtain ⟨hends, -⟩ := Source.enter_inferred hoffers none (⟨(), #[]⟩ : Logged Unit)
  have hname : Source.given none (Origin.ownName (.blocking midway : Origin Stream)) = "f.bin" := by
    decide +kernel
  have hopens : Source.enter roomy none none (.blocking midway : Origin Stream)
      (⟨(), #[]⟩ : Logged Unit) = .ok ⟨.blocking midway, "f.bin", 2⟩ ⟨(), #[]⟩ := by
    rw [Source.enter_eq]
    rfl
  obtain ⟨-, hsource⟩ := ends_of_ok hends hopens
  have hdrain := hsource.gives.drain (fun _ => 1) fun _ => ⟨by decide, by decide⟩
  rw [hrest] at hoffers hdrain
  exact ⟨hoffers, _, hopens, rfl, rfl, hdrain⟩

end Rehearsal

end RapidUpload
