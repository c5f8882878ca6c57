import RapidUpload.Bytes.Basic

/-!
# Windows of bytes

How windows and ends of byte arrays fit together.  Bytes are compared as lists: `toList_window`
and `toList_since` turn a window into what is taken after what is dropped.
-/

namespace ByteArray

theorem eq_of_toList {a b : ByteArray} (h : a.data.toList = b.data.toList) : a = b :=
  ByteArray.ext (Array.toList_inj.mp h)

theorem length_toList (b : ByteArray) : b.data.toList.length = b.size := rfl

theorem toList_append (a b : ByteArray) :
    (a ++ b).data.toList = a.data.toList ++ b.data.toList := by
  rw [data_append, Array.toList_append]

theorem toList_window (b : ByteArray) (i n : Nat) :
    (b.window i n).data.toList = (b.data.toList.drop i).take n := by
  rw [window, data_extract, Array.toList_extract, List.extract_eq_take_drop, List.take_eq_take_iff,
    List.length_drop, length_toList]
  omega

theorem toList_since (b : ByteArray) (i : Nat) :
    (b.since i).data.toList = b.data.toList.drop i := by
  rw [since, data_extract, Array.toList_extract, List.extract_eq_take_drop]
  refine List.take_of_length_le ?_
  simp only [List.length_drop, length_toList, Nat.le_refl]

theorem window_eq_extract (b : ByteArray) (i n : Nat) : b.window i n = b.extract i (i + n) := by
  refine eq_of_toList ?_
  rw [toList_window, data_extract, Array.toList_extract, List.extract_eq_take_drop,
    Nat.add_sub_cancel_left]

/-! ### Cutting and putting together -/

theorem window_append_since (b : ByteArray) (n : Nat) : b.window 0 n ++ b.since n = b := by
  refine eq_of_toList ?_
  rw [toList_append, toList_window, toList_since, List.drop_zero, List.take_append_drop]

theorem since_zero (b : ByteArray) : b.since 0 = b := by
  refine eq_of_toList ?_
  rw [toList_since, List.drop_zero]

theorem since_of_size_le {b : ByteArray} {n : Nat} (h : b.size ≤ n) : b.since n = empty := by
  rw [← size_eq_zero_iff, size_since]
  omega

theorem window_of_size_le {b : ByteArray} {n : Nat} (h : b.size ≤ n) : b.window 0 n = b := by
  refine eq_of_toList ?_
  rw [toList_window, List.drop_zero, List.take_of_length_le h]

theorem window_zero (b : ByteArray) (i : Nat) : b.window i 0 = empty := by
  rw [← size_eq_zero_iff, size_window, Nat.zero_min]

theorem since_since (b : ByteArray) (i j : Nat) : (b.since i).since j = b.since (i + j) := by
  refine eq_of_toList ?_
  rw [toList_since, toList_since, toList_since, List.drop_drop]

theorem window_since (b : ByteArray) (i j n : Nat) :
    (b.since i).window j n = b.window (i + j) n := by
  refine eq_of_toList ?_
  rw [toList_window, toList_since, toList_window, List.drop_drop]

theorem window_append_window (b : ByteArray) (i m n : Nat) :
    b.window i m ++ b.window (i + m) n = b.window i (m + n) := by
  refine eq_of_toList ?_
  rw [toList_append, toList_window, toList_window, toList_window, List.take_add, List.drop_drop]

theorem append_since (a b : ByteArray) : (a ++ b).since a.size = b := by
  refine eq_of_toList ?_
  rw [toList_since, toList_append, ← length_toList, List.drop_left]

theorem append_since_add (a b : ByteArray) (n : Nat) : (a ++ b).since (a.size + n) = b.since n := by
  rw [← since_since, append_since]

theorem append_window (a b : ByteArray) (n : Nat) :
    (a ++ b).window 0 (a.size + n) = a ++ b.window 0 n := by
  refine eq_of_toList ?_
  rw [toList_append, toList_window, toList_window, toList_append, List.drop_zero, List.drop_zero,
    ← length_toList, List.take_length_add_append]

/-! ### One after the other -/

/-- Byte arrays one after the other. -/
def join (parts : List ByteArray) : ByteArray := parts.foldr (· ++ ·) .empty

theorem join_cons (b : ByteArray) (parts : List ByteArray) : join (b :: parts) = b ++ join parts :=
  rfl

theorem join_append (parts others : List ByteArray) :
    join (parts ++ others) = join parts ++ join others := by
  induction parts with
  | nil => exact (empty_append).symm
  | cons b parts ih => rw [List.cons_append, join_cons, join_cons, ih, append_assoc]

end ByteArray
