import RapidUpload.Proofs.Delivery
import RapidUpload.Proofs.Slices
import RapidUpload.Proofs.Watch

/-!
# The course of a transfer

A transfer goes part by part: a slice is read and sent, and then the percentage is told.  The first
step that fails is the last one.

* `Round`: what was done for one part.
* `Course`: how the parts of a list are gone through.
* `Transfer.run_ends`: a transfer takes its course over the parts in the order of their numbers.
-/

namespace RapidUpload

open Step

/-- What was done for one part: the slice sent to its address, and the percentage told after it. -/
structure Round where
  url : Json
  bytes : ByteArray
  sent : Except Fault Unit
  told : Option (Int × Except Fault Unit)

namespace Round

/-- The calls of a round. -/
def events (x : Round) : List Event :=
  .put x.url x.bytes x.sent :: (x.told.map fun p => Event.told p.1 p.2).toList

/-- The slice was sent, and the callback took the percentage. -/
def Succeeded (x : Round) : Prop := x.sent = .ok () ∧ ∀ p ∈ x.told, p.2 = .ok ()

/-- The slice was not sent, or the callback failed. -/
def FailedWith (x : Round) (e : Fault) : Prop :=
  (x.sent = .error e ∧ x.told = none) ∨ (x.sent = .ok () ∧ ∃ n, x.told = some (n, .error e))

theorem succeeded_mk (url : Json) (bytes : ByteArray) (tell : Option Int) :
    Succeeded ⟨url, bytes, .ok (), tell.map (·, .ok ())⟩ := by
  refine ⟨rfl, fun p hp => ?_⟩
  obtain ⟨n, -, rfl⟩ := Option.map_eq_some_iff.mp hp
  rfl

end Round

variable {ρ α : Type}

/-- How parts are gone through, after `n` others, with the slices of a stream; `tells n` is the
percentage told after `n` parts. -/
inductive Course [Reader ρ] (size : PartSize) (tells : Nat → Option Int) :
    List Part → Nat → ρ → List Round → Except Fault Unit → Prop where
  | done {n : Nat} {r : ρ} : Course size tells [] n r [] (.ok ())
  | unread {part : Part} {parts : List Part} {n : Nat} {r r' : ρ} {e : Fault}
    (hr : Reader.readUpTo size.bytes r = .error e r') :
    Course size tells (part :: parts) n r [] (.error e)
  | unsized {part : Part} {parts : List Part} {n : Nat} {r r' : ρ} {bytes : ByteArray} {e : Fault}
    (hr : Reader.readUpTo size.bytes r = .ok bytes r')
    (hs : Size.kilobytes 1 bytes.size = .error e) :
    Course size tells (part :: parts) n r [] (.error e)
  | unnumbered {part : Part} {parts : List Part} {n : Nat} {r r' : ρ} {bytes : ByteArray}
    {e : Fault}
    (hr : Reader.readUpTo size.bytes r = .ok bytes r') (hs : Integer.text part.number = .error e) :
    Course size tells (part :: parts) n r [] (.error e)
  | unsent {part : Part} {parts : List Part} {n : Nat} {r r' : ρ} {bytes : ByteArray} {e : Fault}
    (hr : Reader.readUpTo size.bytes r = .ok bytes r') :
    Course size tells (part :: parts) n r [⟨part.url, bytes, .error e, none⟩] (.error e)
  | untold {part : Part} {parts : List Part} {n : Nat} {r r' : ρ} {bytes : ByteArray} {e : Fault}
    {p : Int} (hr : Reader.readUpTo size.bytes r = .ok bytes r') (ht : tells (n + 1) = some p) :
    Course size tells (part :: parts) n r [⟨part.url, bytes, .ok (), some (p, .error e)⟩] (.error e)
  | next {part : Part} {parts : List Part} {n : Nat} {r r' : ρ} {bytes : ByteArray}
    {rounds : List Round} {x : Except Fault Unit}
    (hr : Reader.readUpTo size.bytes r = .ok bytes r')
    (hc : Course size tells parts (n + 1) r' rounds x) :
    Course size tells (part :: parts) n r
      (⟨part.url, bytes, .ok (), (tells (n + 1)).map (·, .ok ())⟩ :: rounds) x

namespace Course

variable [Reader ρ] {size : PartSize} {tells : Nat → Option Int} {parts : List Part} {n : Nat}
  {r : ρ} {rounds : List Round} {x : Except Fault Unit} {e : Fault}

/-- The slices go to the addresses of the parts, from the first part on. -/
theorem urls (h : Course size tells parts n r rounds x) :
    rounds.map Round.url <+: parts.map Part.url := by
  induction h with
  | done => exact List.prefix_rfl
  | unread | unsized | unnumbered => exact List.nil_prefix
  | unsent | untold => exact List.prefix_cons_iff.mpr (.inr ⟨[], rfl, List.nil_prefix⟩)
  | next _ _ ih => exact List.prefix_cons_iff.mpr (.inr ⟨_, rfl, ih⟩)

/-- Where nothing failed each part had its round. -/
theorem succeeded (h : Course size tells parts n r rounds (.ok ())) :
    rounds.length = parts.length ∧ ∀ y ∈ rounds, y.Succeeded := by
  generalize hx : Except.ok () = x at h
  induction h with
  | done => exact ⟨rfl, fun y hy => nomatch hy⟩
  | unread | unsized | unnumbered | unsent | untold => cases hx
  | next _ _ ih =>
    obtain ⟨hl, hs⟩ := ih hx
    refine ⟨congrArg (· + 1) hl, fun y hy => ?_⟩
    cases hy with
    | head => exact Round.succeeded_mk _ _ _
    | tail _ hy => exact hs y hy

/-- Only the last round can have failed, with the fault of the whole. -/
theorem failed (h : Course size tells parts n r rounds (.error e)) :
    (∀ y ∈ rounds, y.Succeeded) ∨
      ∃ good bad, rounds = good ++ [bad] ∧ (∀ y ∈ good, y.Succeeded) ∧ bad.FailedWith e := by
  generalize hx : Except.error e = x at h
  induction h with
  | done => cases hx
  | unread | unsized | unnumbered => exact .inl fun y hy => nomatch hy
  | unsent =>
    cases hx
    exact .inr ⟨[], _, rfl, fun y hy => (nomatch hy), .inl ⟨rfl, rfl⟩⟩
  | untold =>
    cases hx
    exact .inr ⟨[], _, rfl, fun y hy => (nomatch hy), .inr ⟨rfl, _, rfl⟩⟩
  | next _ _ ih =>
    have hfirst := Round.succeeded_mk
    rcases ih hx with hs | ⟨good, bad, rfl, hg, hb⟩
    · exact .inl (List.forall_mem_cons.mpr ⟨hfirst _ _ _, hs⟩)
    · exact .inr ⟨_ :: good, bad, rfl, List.forall_mem_cons.mpr ⟨hfirst _ _ _, hg⟩, hb⟩

/-- Where a stream delivers its content and sizes and numbers can be told of, a transfer that fails
has a round that failed. -/
theorem failed_round {limit : Nat} {content : ByteArray}
    (h : Course size tells parts n r rounds (.error e)) (hd : Delivers limit r content)
    (hl : size.bytes ≤ limit) (hs : ∀ k ≤ size.bytes, ∀ e, Size.kilobytes 1 k ≠ .error e)
    (hn : ∀ part ∈ parts, Integer.Short part.number) : ∃ y ∈ rounds, y.FailedWith e := by
  generalize hx : Except.error e = x at h
  induction h generalizing content with
  | done => cases hx
  | unread hr =>
    have := ends_of_error (readUpTo_ends hd) hr
    omega
  | unsized hr he =>
    obtain ⟨rfl, -⟩ := ends_of_ok (readUpTo_ends hd) hr
    rw [ByteArray.size_window] at he
    exact absurd he (hs _ (Nat.min_le_left _ _) _)
  | unnumbered _ he => exact absurd (hn _ List.mem_cons_self) (Integer.text_error he).1
  | unsent =>
    cases hx
    exact ⟨_, List.mem_singleton.mpr rfl, .inl ⟨rfl, rfl⟩⟩
  | untold =>
    cases hx
    exact ⟨_, List.mem_singleton.mpr rfl, .inr ⟨rfl, _, rfl⟩⟩
  | next hr _ ih =>
    obtain ⟨-, hd'⟩ := ends_of_ok (readUpTo_ends hd) hr
    obtain ⟨y, hy, hf⟩ := ih hd' (fun part hp => hn part (List.mem_cons_of_mem _ hp)) hx
    exact ⟨y, List.mem_cons_of_mem _ hy, hf⟩

/-- The slices are those of the content, one after the other. -/
theorem slices {limit : Nat} {content : ByteArray} (h : Course size tells parts n r rounds x)
    (hd : Delivers limit r content) {i : Nat} {y : Round} (hy : rounds[i]? = some y) :
    y.bytes = content.window (i * size.bytes) size.bytes := by
  induction h generalizing content i with
  | done | unread | unsized | unnumbered => cases hy
  | unsent hr | untold hr =>
    cases i with
    | zero =>
      cases hy
      obtain ⟨rfl, -⟩ := ends_of_ok (readUpTo_ends hd) hr
      rw [Nat.zero_mul]
    | succ i => cases hy
  | next hr _ ih =>
    obtain ⟨rfl, hd'⟩ := ends_of_ok (readUpTo_ends hd) hr
    cases i with
    | zero =>
      cases hy
      rw [Nat.zero_mul]
    | succ i =>
      rw [ih hd' hy, ByteArray.window_since, Nat.succ_mul, Nat.add_comm]

end Course

namespace Transfer

/-- The percentages a callback is told, where there is one. -/
def tells (progress : Option (Progress α)) (count : Int) (n : Nat) : Option Int :=
  progress.bind fun _ => percent n count

/-- Sending a slice is one call, unless its size or its number cannot be told of.  The stream is not
touched. -/
theorem send_ends [DriveService α] (part : Part) (bytes : ByteArray) (s : Logged (ρ × Watched α)) :
    Ends (send part bytes) s
      (fun _ t => Integer.Short part.number ∧ t.state.1 = s.state.1 ∧
        t.state.2.events = s.state.2.events ++ [.put part.url bytes (.ok ())])
      (fun e t => (Size.kilobytes 1 bytes.size = .error e ∧ t.state = s.state) ∨
        (Integer.text part.number = .error e ∧ t.state = s.state) ∨
        (Integer.Short part.number ∧ t.state.1 = s.state.1 ∧
          t.state.2.events = s.state.2.events ++ [.put part.url bytes (.error e)])) := by
  unfold send
  rw [ends_bind, ends_ofExcept]
  constructor
  · intro text _
    rw [ends_bind, ends_ofExcept]
    refine ⟨fun number hnumber => ?_, fun e he => .inr (.inl ⟨he, rfl⟩)⟩
    have hshort := Integer.short_of_text hnumber
    rw [ends_bind, ends_tell, ends_bind, ends_outcome, ends_part]
    refine Watched.ends_note ?_ ?_
    · intro _ service log
      exact ends_tell.mpr ⟨hshort, rfl, rfl⟩
    · intro e service log
      dsimp only
      rw [ends_bind, ends_tell, ends_fail]
      exact .inr (.inr ⟨hshort, rfl, rfl⟩)
  · intro e he
    exact .inl ⟨he, rfl⟩

/-- After a part the percentage is told, where there is one and somebody to tell. -/
theorem report_ends (progress : Option (Progress α)) (n : Nat) (count : Int)
    (s : Logged (ρ × Watched α)) :
    Ends (report (progress.map Watched.progress) n count) s
      (fun _ t => t.state.1 = s.state.1 ∧ t.state.2.events = s.state.2.events ++
        ((tells progress count n).map fun p => Event.told p (.ok ())).toList)
      (fun e t => t.state.1 = s.state.1 ∧ ∃ p, tells progress count n = some p ∧
        t.state.2.events = s.state.2.events ++ [.told p (.error e)]) := by
  unfold report tells
  cases progress with
  | none =>
    cases percent n count <;> exact ends_pure.mpr ⟨rfl, (List.append_nil _).symm⟩
  | some tell =>
    dsimp only [Option.map_some, Option.bind_some]
    cases percent n count with
    | none => exact ends_pure.mpr ⟨rfl, (List.append_nil _).symm⟩
    | some p =>
      rw [ends_part]
      refine Watched.ends_note ?_ ?_
      · intro _ service log
        exact ⟨rfl, rfl⟩
      · intro e service log
        exact ⟨rfl, p, rfl, rfl⟩

/-- The calls of a round that succeeded come before those of the later ones. -/
theorem events_next {before sent after : List Event} {url : Json} {bytes : ByteArray}
    {tell : Option Int} (hs : sent = before ++ [.put url bytes (.ok ())])
    (ha : after = sent ++ (tell.map fun p => Event.told p (.ok ())).toList)
    (rounds : List Round) :
    after ++ rounds.flatMap Round.events = before ++
      ((⟨url, bytes, .ok (), tell.map (·, .ok ())⟩ : Round) :: rounds).flatMap Round.events := by
  rw [ha, hs, List.flatMap_cons, Round.events, Option.map_map]
  simp only [List.append_assoc, List.cons_append, List.nil_append, Function.comp_def]

/-- A list of parts takes its course. -/
theorem sendAll_ends [Reader ρ] [DriveService α] (size : PartSize) (count : Int)
    (progress : Option (Progress α)) :
    ∀ (parts : List Part) (n : Nat) (s : Logged (ρ × Watched α)),
      Ends (sendAll size count (progress.map Watched.progress) parts n) s
        (fun m t => m = n + parts.length ∧ ∃ rounds,
          Course size (tells progress count) parts n s.state.1 rounds (.ok ()) ∧
          t.state.2.events = s.state.2.events ++ rounds.flatMap Round.events)
        (fun e t => ∃ rounds,
          Course size (tells progress count) parts n s.state.1 rounds (.error e) ∧
          t.state.2.events = s.state.2.events ++ rounds.flatMap Round.events)
  | [], n, s => ends_pure.mpr ⟨rfl, [], .done, (List.append_nil _).symm⟩
  | part :: parts, n, s => by
    unfold sendAll
    rw [ends_bind, ends_part, ends_quiet]
    refine (ends_run (Reader.readUpTo size.bytes) s.state.1).mono ?_ ?_
    · intro bytes r hr
      rw [ends_bind]
      refine (send_ends part bytes _).mono ?_ ?_
      · rintro _ ⟨⟨r, w⟩, log⟩ ⟨-, rfl, hw⟩
        rw [ends_bind]
        refine (report_ends progress (n + 1) count _).mono ?_ ?_
        · rintro _ ⟨⟨r, w'⟩, log⟩ ⟨rfl, hw'⟩
          refine (sendAll_ends size count progress parts (n + 1) _).mono ?_ ?_
          · rintro m t ⟨rfl, rounds, hc, ht⟩
            refine ⟨by rw [List.length_cons]; omega, _, .next hr hc, ?_⟩
            exact ht.trans (events_next hw hw' rounds)
          · rintro e t ⟨rounds, hc, ht⟩
            exact ⟨_, .next hr hc, ht.trans (events_next hw hw' rounds)⟩
        · rintro e ⟨⟨r, w'⟩, log⟩ ⟨-, p, hp, ht⟩
          refine ⟨_, .untold hr hp, ht.trans ?_⟩
          rw [hw, List.append_assoc]
          rfl
      · rintro e ⟨⟨r, w⟩, log⟩ (⟨he, ht⟩ | ⟨he, ht⟩ | ⟨-, -, ht⟩)
        · cases ht
          exact ⟨[], .unsized hr he, (List.append_nil _).symm⟩
        · cases ht
          exact ⟨[], .unnumbered hr he, (List.append_nil _).symm⟩
        · exact ⟨_, .unsent hr, ht⟩
    · intro e r hr
      exact ⟨[], .unread hr, (List.append_nil _).symm⟩

/-- **A transfer takes its course** over the parts in the order of their numbers, unless they are
too large to be told of. -/
theorem run_ends [Reader ρ] [DriveService α] (size : PartSize) (parts : List Part) (count : Int)
    (progress : Option (Progress α)) (s : Logged (ρ × Watched α)) :
    Ends (run size parts count (progress.map Watched.progress)) s
      (fun m t => m = parts.length ∧ ∃ rounds,
        Course size (tells progress count) (ordered parts) 0 s.state.1 rounds (.ok ()) ∧
        t.state.2.events = s.state.2.events ++ rounds.flatMap Round.events)
      (fun e t => (Size.megabytes 1 (parts.length * size.bytes) = .error e ∧ t.state = s.state) ∨
        ∃ rounds,
          Course size (tells progress count) (ordered parts) 0 s.state.1 rounds (.error e) ∧
          t.state.2.events = s.state.2.events ++ rounds.flatMap Round.events) := by
  have hlength := length_ordered parts
  unfold run
  dsimp only
  rw [ends_bind, ends_ofExcept, hlength]
  constructor
  · intro total _
    rw [ends_bind, ends_tell]
    refine (sendAll_ends size count progress _ 0 _).mono ?_ fun e t h => .inr h
    rintro m t ⟨rfl, h⟩
    exact ⟨by rw [Nat.zero_add, hlength], h⟩
  · intro e he
    exact .inl ⟨he, rfl⟩

end Transfer

end RapidUpload
