import RapidUpload.Proofs.Bytes
import RapidUpload.Transfer
import Mathlib.Data.List.Nodup
import Mathlib.Data.List.Perm.Subperm
import Mathlib.Data.List.Sort

/-!
# The slices of a content

A transfer cuts the content by position: the first entry of the ordered list gets the first slice,
and so on.  Whether each slice goes to the part of its number is up to the list.
-/

namespace RapidUpload

/-! ### Sorted numbers -/

/-- In a sorted list that starts no lower than `a` and holds each of the `k` numbers from `a` on
once, these stand at the front. -/
theorem getElem?_of_count {numbers : List Int} {a : Int} {k : Nat}
    (hs : numbers.Pairwise (· ≤ ·)) (ha : ∀ n ∈ numbers, a ≤ n)
    (hc : ∀ i < k, numbers.count (a + (i : Nat)) = 1) {j : Nat} (hj : j < k) (i : Nat) :
    numbers[i]? = some (a + j) ↔ i = j := by
  -- on how many numbers are left: the head is the lowest of them
  induction k generalizing numbers a i j with
  | zero => omega
  | succ k ih =>
    have hmem : a ∈ numbers := by
      have h := hc 0 (by omega)
      rw [Int.natCast_zero, Int.add_zero] at h
      exact List.count_pos_iff.mp (by omega)
    cases numbers with
    | nil => cases hmem
    | cons n rest =>
      obtain ⟨hn, hrest⟩ := List.pairwise_cons.mp hs
      have hna : n = a := by
        rcases List.mem_cons.mp hmem with h | h
        · exact h.symm
        · have := hn a h
          have := ha n List.mem_cons_self
          omega
      subst hna
      have hnot : n ∉ rest := by
        have h := hc 0 (by omega)
        rw [Int.natCast_zero, Int.add_zero, List.count_cons_self] at h
        exact List.count_eq_zero.mp (by omega)
      have hlow : ∀ m ∈ rest, n + 1 ≤ m := by
        intro m hm
        have := hn m hm
        have : m ≠ n := fun h => hnot (h ▸ hm)
        omega
      have honce : ∀ i < k, rest.count (n + 1 + (i : Nat)) = 1 := by
        intro i hi
        have h := hc (i + 1) (by omega)
        rw [List.count_cons_of_ne (by omega)] at h
        rw [← h]
        congr 1
        omega
      cases i with
      | zero =>
        rw [List.getElem?_cons_zero]
        constructor
        · intro h
          have := Option.some.inj h
          omega
        · rintro rfl
          rw [Int.natCast_zero, Int.add_zero]
      | succ i =>
        rw [List.getElem?_cons_succ]
        cases j with
        | zero =>
          constructor
          · intro h
            rw [Int.natCast_zero, Int.add_zero] at h
            exact absurd (List.mem_of_getElem? h) hnot
          · intro h
            omega
        | succ j =>
          rw [show n + ((j + 1 : Nat) : Int) = n + 1 + j by omega,
            ih hrest hlow honce (by omega)]
          omega

/-- In a sorted list what is lower than an item stands before it. -/
theorem mem_take_of_lt {numbers : List Int} (hs : numbers.Pairwise (· ≤ ·)) {i : Nat} {a b : Int}
    (ha : numbers[i]? = some a) (hb : b ∈ numbers) (hlt : b < a) : b ∈ numbers.take i := by
  obtain ⟨hi, rfl⟩ := List.getElem?_eq_some_iff.mp ha
  rw [← List.take_append_drop i numbers] at hs hb
  rcases List.mem_append.mp hb with h | h
  · exact h
  · have hdrop := (List.pairwise_append.mp hs).2.1
    rw [List.drop_eq_getElem_cons hi] at hdrop h
    rcases List.mem_cons.mp h with rfl | h
    · omega
    · have := (List.pairwise_cons.mp hdrop).1 b h
      omega

/-! ### Slices -/

namespace PartSize

variable (p : PartSize) (content : ByteArray)

/-- The slice of a content at a position, counted from zero. -/
def slice (i : Nat) : ByteArray := content.extract (i * p.bytes) ((i + 1) * p.bytes)

theorem slice_eq_window (i : Nat) : p.slice content i = content.window (i * p.bytes) p.bytes := by
  rw [slice, ByteArray.window_eq_extract, Nat.succ_mul]

theorem size_slice (i : Nat) :
    (p.slice content i).size = min p.bytes (content.size - i * p.bytes) := by
  rw [slice_eq_window, ByteArray.size_window]

/-- A slice is empty from the number of slices on that the content needs, and not before. -/
theorem slice_empty_iff (i : Nat) : (p.slice content i).size = 0 ↔ p.count content.size ≤ i := by
  have hpos := p.pos
  have hcount : p.count content.size ≤ i ↔ content.size ≤ i * p.bytes := by
    rw [count, Nat.div_le_iff_le_mul_add_pred hpos, Nat.mul_comm p.bytes i]
    omega
  rw [size_slice, hcount]
  omega

/-- The first slices together are a beginning of the content. -/
theorem join_slices (m : Nat) :
    ByteArray.join ((List.range m).map (p.slice content)) = content.window 0 (m * p.bytes) := by
  induction m with
  | zero =>
    rw [Nat.zero_mul, ByteArray.window_zero]
    rfl
  | succ m ih =>
    rw [List.range_succ, List.map_append, ByteArray.join_append, ih, Nat.succ_mul,
      ← ByteArray.window_append_window, Nat.zero_add]
    congr 1
    rw [← slice_eq_window]
    exact ByteArray.append_empty

/-- They are all of it where there are as many as it needs. -/
theorem join_slices_eq_iff (m : Nat) :
    ByteArray.join ((List.range m).map (p.slice content)) = content ↔
      p.count content.size ≤ m := by
  have hlast := p.slice_empty_iff content m
  rw [size_slice] at hlast
  have hpos := p.pos
  rw [join_slices, ← hlast]
  constructor
  · intro h
    have := congrArg ByteArray.size h
    rw [ByteArray.size_window] at this
    omega
  · intro h
    exact ByteArray.window_of_size_le (by omega)

end PartSize

/-! ### Slices and entries -/

namespace Part

/-- The numbers of the first `k` parts. -/
def numbers (k : Nat) : List Int := (List.range k).map fun i : Nat => (i : Int) + 1

theorem length_numbers (k : Nat) : (numbers k).length = k := by
  rw [numbers, List.length_map, List.length_range]

theorem mem_numbers {k : Nat} {m : Int} : m ∈ numbers k ↔ 1 ≤ m ∧ m ≤ k := by
  constructor
  · intro h
    obtain ⟨i, hi, rfl⟩ := List.mem_map.mp h
    have := List.mem_range.mp hi
    omega
  · intro h
    exact List.mem_map.mpr ⟨(m - 1).toNat, List.mem_range.mpr (by omega), by omega⟩

/-- These are the parts that are asked for. -/
theorem toJson_plan (p : PartSize) (size : Nat) :
    (p.plan size).map toJson =
      (numbers (p.count size)).map fun n => Json.obj [("part_number", .int n)] := by
  rw [PartSize.plan, numbers, List.map_map, List.map_map]
  rfl

end Part

/-- Each entry in its turn was sent the slice of its position. -/
def Sliced (p : PartSize) (content : ByteArray) (entries : List Part)
    (puts : List (Json × ByteArray)) : Prop :=
  ∀ i, puts[i]? = entries[i]?.map fun part => (part.url, p.slice content i)

/-- The list has each number that the content needs once, and none below the first. -/
def PartSize.Lists (p : PartSize) (content : ByteArray) (parts : List Part) : Prop :=
  (∀ n < p.count content.size, (parts.map Part.number).count (1 + (n : Int)) = 1) ∧
    (0 < p.count content.size → ∀ number ∈ parts.map Part.number, 1 ≤ number)

/-- Each slice of the content was sent once: one entry has its number, and was sent it. -/
def PartSize.Sends (p : PartSize) (content : ByteArray) (entries : List Part)
    (puts : List (Json × ByteArray)) : Prop :=
  ∀ n < p.count content.size, (entries.map Part.number).count (1 + (n : Int)) = 1 ∧
    ∀ (i : Nat) (part : Part), entries[i]? = some part → part.number = 1 + (n : Int) →
      puts[i]? = some (part.url, p.slice content n)

namespace Transfer

/-- The parts are sorted by insertion. -/
theorem ordered_eq (parts : List Part) :
    ordered parts = parts.insertionSort fun a b => a.number ≤ b.number := by
  have hplace : ∀ part parts,
      place part parts = parts.orderedInsert (fun a b => a.number ≤ b.number) part := by
    intro part parts
    induction parts with
    | nil => rfl
    | cons other rest ih => rw [place, List.orderedInsert, ih]
  rw [ordered, List.insertionSort, funext fun part => funext (hplace part)]

theorem ordered_perm (parts : List Part) : (ordered parts).Perm parts := by
  rw [ordered_eq]
  exact List.perm_insertionSort _ _

theorem length_ordered (parts : List Part) : (ordered parts).length = parts.length :=
  (ordered_perm parts).length_eq

instance : Std.Total fun a b : Part => a.number ≤ b.number := ⟨fun _ _ => Int.le_total _ _⟩

instance : IsTrans Part fun a b => a.number ≤ b.number := ⟨fun _ _ _ => Int.le_trans⟩

theorem ordered_sorted (parts : List Part) :
    ((ordered parts).map Part.number).Pairwise (· ≤ ·) := by
  rw [ordered_eq, List.pairwise_map]
  exact List.pairwise_insertionSort _ _

end Transfer

section Entries

variable {p : PartSize} {content : ByteArray} {parts : List Part}
  {puts : List (Json × ByteArray)}

theorem Sliced.length_eq (h : Sliced p content parts puts) : puts.length = parts.length := by
  have hl : ∀ i, puts.length ≤ i ↔ parts.length ≤ i := by
    intro i
    rw [← List.getElem?_eq_none_iff, ← List.getElem?_eq_none_iff, h i, Option.map_eq_none_iff]
  exact Nat.le_antisymm ((hl _).mpr (Nat.le_refl _)) ((hl _).mp (Nat.le_refl _))

/-- The bodies are the first slices, as many as there are entries. -/
theorem Sliced.bodies (h : Sliced p content parts puts) :
    puts.map Prod.snd = (List.range parts.length).map (p.slice content) := by
  refine List.ext_getElem? fun i => ?_
  rw [List.getElem?_map, List.getElem?_map, h i, Option.map_map]
  rcases Nat.lt_or_ge i parts.length with hi | hi
  · rw [List.getElem?_eq_getElem hi, List.getElem?_range hi]
    rfl
  · rw [List.getElem?_eq_none hi, List.getElem?_eq_none (by rwa [List.length_range])]
    rfl

/-- Together they are all of the content exactly where there are enough of them. -/
theorem Sliced.whole_iff (h : Sliced p content parts puts) :
    ByteArray.join (puts.map Prod.snd) = content ↔ p.count content.size ≤ parts.length := by
  rw [h.bodies, p.join_slices_eq_iff]

/-- Only the numbers matter, and not their order. -/
theorem PartSize.lists_of_perm {others : List Part}
    (h : (parts.map Part.number).Perm (others.map Part.number)) :
    p.Lists content parts ↔ p.Lists content others := by
  unfold Lists
  simp only [h.count_eq, h.mem_iff]

/-- The numbers from one on, as many as the content needs, are such a list in any order. -/
theorem PartSize.lists_of_numbers
    (h : (parts.map Part.number).Perm (Part.numbers (p.count content.size))) :
    p.Lists content parts := by
  unfold Lists
  simp only [h.count_eq, h.mem_iff]
  constructor
  · intro n hn
    refine List.count_eq_one_of_mem ?_ (List.mem_map.mpr ⟨n, List.mem_range.mpr hn, by omega⟩)
    exact List.Pairwise.map _ (fun a b hab hne => hab (by omega)) List.nodup_range
  · rintro _ m hm
    have := Part.mem_numbers.mp hm
    omega

/-- In an ordered list with each number once each entry of a slice stands in its place. -/
theorem PartSize.Lists.position (h : p.Lists content parts)
    (hs : (parts.map Part.number).Pairwise (· ≤ ·)) {n : Nat} (hn : n < p.count content.size)
    (i : Nat) : (parts.map Part.number)[i]? = some (1 + (n : Int)) ↔ i = n :=
  getElem?_of_count hs (h.2 (by omega)) h.1 hn i

/-- **Which slices go where.**  Each slice is sent once, for the entry of its number, exactly where
the list has each number once and none below the first. -/
theorem Sliced.sends_iff (h : Sliced p content parts puts)
    (hs : (parts.map Part.number).Pairwise (· ≤ ·)) :
    p.Sends content parts puts ↔ p.Lists content parts := by
  constructor
  · intro hsends
    refine ⟨fun n hn => (hsends n hn).1, fun hk number hnumber => ?_⟩
    by_contra hlow
    obtain ⟨n, hn⟩ : ∃ n, p.count content.size = n + 1 := ⟨_, (Nat.succ_pred_eq_of_pos hk).symm⟩
    have hmem : ∀ m < n + 1, 1 + (m : Int) ∈ parts.map Part.number := fun m hm =>
      List.count_pos_iff.mp (by rw [(hsends m (by omega)).1]; exact Nat.one_pos)
    obtain ⟨i, hi⟩ := List.getElem?_of_mem (hmem n (by omega))
    rw [List.getElem?_map] at hi
    obtain ⟨last, hlast, hnum⟩ := Option.map_eq_some_iff.mp hi
    -- the slice sent for the last number is not empty, so it is one of the first ones
    have hput := (hsends n (by omega)).2 i last hlast hnum
    rw [h i, hlast, Option.map_some] at hput
    have hslice : p.slice content i = p.slice content n := congrArg Prod.snd (Option.some.inj hput)
    have hle : ¬ n + 1 ≤ i := by
      rw [← hn, ← p.slice_empty_iff, hslice, p.slice_empty_iff]
      omega
    -- but all lower numbers stand before it, and one more below the first
    have hnodup : (number :: (List.range n).map fun m : Nat => 1 + (m : Int)).Nodup := by
      refine List.nodup_cons.mpr ⟨fun hm => ?_, ?_⟩
      · obtain ⟨m, -, hm⟩ := List.mem_map.mp hm
        omega
      · exact List.Pairwise.map _ (fun a b hab hne => hab (by omega)) List.nodup_range
    have hbefore : (number :: (List.range n).map fun m : Nat => 1 + (m : Int)) ⊆
        (parts.map Part.number).take i := by
      have hi' : (parts.map Part.number)[i]? = some (1 + (n : Int)) := by
        rw [List.getElem?_map, hlast, Option.map_some, hnum]
      refine List.cons_subset.mpr ⟨mem_take_of_lt hs hi' hnumber (by omega), ?_⟩
      intro a ha
      obtain ⟨m, hm, rfl⟩ := List.mem_map.mp ha
      have hm := List.mem_range.mp hm
      exact mem_take_of_lt hs hi' (hmem m (by omega)) (by omega)
    have hlen := (hnodup.subperm hbefore).length_le
    rw [List.length_cons, List.length_map, List.length_range, List.length_take] at hlen
    omega
  · intro hl n hn
    refine ⟨hl.1 n hn, fun i part hi hnum => ?_⟩
    have hpos := (hl.position hs hn i).mp (by rw [List.getElem?_map, hi, Option.map_some, hnum])
    rw [h i, hi, Option.map_some, hpos]

/-- Each part in a list of the needed numbers is sent the slice of its number. -/
theorem Sliced.part {entries : List Part} (h : Sliced p content entries puts)
    (hs : (entries.map Part.number).Pairwise (· ≤ ·)) (hl : p.Lists content entries) {part : Part}
    (hp : part ∈ entries) {n : Nat} (hn : part.number = 1 + (n : Int))
    (hlt : n < p.count content.size) : puts[n]? = some (part.url, p.slice content n) := by
  obtain ⟨i, hi⟩ := List.getElem?_of_mem hp
  have hpos := (hl.position hs hlt i).mp (by rw [List.getElem?_map, hi, Option.map_some, hn])
  rw [← hpos, h i, hi, Option.map_some]

end Entries

end RapidUpload
