/-!
# Storage

The memory behind a buffer: a fixed number of cells. A storage can be tens of millions of cells
large, while most of them are never written, so only the cells up to the last one that was ever
written are kept; the rest hold the default element. `contents` is the view without that economy.

Storage is passed from one user to the next without being wiped. That is why a cell beyond what the
present user wrote may hold anything.
-/

namespace Coffer

variable {α : Type} [Inhabited α]

/-- `size` cells, of which only the first `cells.size` have ever been written. -/
structure Storage (α : Type) where
  size : Nat
  cells : Array α
  fits : cells.size ≤ size := by simp

namespace Storage

/-- New storage: every cell holds the default element. -/
def blank (size : Nat) : Storage α := { size, cells := #[] }

instance : Inhabited (Storage α) := ⟨blank 0⟩

/-- What every cell holds. -/
def contents (s : Storage α) : List α :=
  s.cells.toList ++ List.replicate (s.size - s.cells.size) default

@[simp]
theorem length_contents (s : Storage α) : s.contents.length = s.size := by
  have h := s.fits
  simp [contents]
  omega

/-- The cells from `start` on, at most `count` of them. -/
def read (s : Storage α) (start count : Nat) : List α :=
  let written := (s.cells.extract start (start + count)).toList
  written ++ List.replicate (min count (s.size - start) - written.length) default

theorem read_eq (s : Storage α) (start count : Nat) :
    s.read start count = (s.contents.drop start).take count := by
  have h := s.fits
  have hlen : ((s.cells.toList.drop start).take count).length =
      min count (s.cells.size - start) := by
    simp
  simp only [read, contents, Array.toList_extract, List.extract_eq_take_drop, List.drop_append,
    List.take_append, List.drop_replicate, List.take_replicate, Nat.add_sub_cancel_left, hlen,
    List.length_drop, Array.length_toList]
  congr 2
  omega

/-! ## Writing -/

/-- Consecutive cells from `i` on, set to the elements of a list. A cell past the end is added, so
`i` must not lie beyond it. -/
def putCells (cells : Array α) : Nat → List α → Array α
  | _, [] => cells
  | i, x :: rest =>
    putCells (if i < cells.size then cells.setIfInBounds i x else cells.push x) (i + 1) rest

omit [Inhabited α] in
theorem size_putCells (cells : Array α) (i : Nat) (data : List α) (h : i ≤ cells.size) :
    (putCells cells i data).size = max cells.size (i + data.length) := by
  induction data generalizing cells i with
  | nil => simp [putCells]; omega
  | cons x rest ih =>
    unfold putCells
    split
    · rw [ih _ _ (by simp; omega)]
      simp
      omega
    · rw [ih _ _ (by simp; omega)]
      simp
      omega

omit [Inhabited α] in
/-- The cells before and after the list stay as they are. -/
theorem toList_putCells (cells : Array α) (i : Nat) (data : List α) (h : i ≤ cells.size) :
    (putCells cells i data).toList =
      cells.toList.take i ++ data ++ cells.toList.drop (i + data.length) := by
  induction data generalizing cells i with
  | nil => simp [putCells]
  | cons x rest ih =>
    have hlen : i + (x :: rest).length = i + 1 + rest.length := by
      simp only [List.length_cons]
      omega
    rw [hlen]
    unfold putCells
    split
    · rename_i hi
      have hmin : i < (cells.toList.take (i + 1)).length := by
        simp only [List.length_take, Array.length_toList]
        omega
      rw [ih _ _ (by simp; omega), Array.toList_setIfInBounds, List.take_set,
        List.drop_set_of_lt (by omega), List.set_eq_take_append_cons_drop, if_pos hmin]
      simp [List.take_take]
    · rename_i hi
      have hsize : i = cells.size := by omega
      subst hsize
      have htake : (cells.push x).toList.take (cells.size + 1) = cells.toList ++ [x] := by
        rw [Array.toList_push]
        exact List.take_of_length_le (by simp)
      have hdrop : (cells.push x).toList.drop (cells.size + 1 + rest.length) = [] := by
        apply List.drop_eq_nil_of_le
        simp
      have hall : cells.toList.take cells.size = cells.toList := List.take_of_length_le (by simp)
      have hnone : cells.toList.drop (cells.size + 1 + rest.length) = [] := by
        apply List.drop_eq_nil_of_le
        simp only [Array.length_toList]
        omega
      rw [ih _ _ (by simp), htake, hdrop, hall, hnone]
      simp

/-- At least `n` cells: the missing ones hold the default element. -/
def padTo (cells : Array α) (n : Nat) : Array α :=
  if cells.size < n then cells ++ Array.replicate (n - cells.size) default else cells

theorem size_padTo (cells : Array α) (n : Nat) : (padTo cells n).size = max cells.size n := by
  unfold padTo
  split
  · simp
    omega
  · omega

/-- Padding changes nothing that can be seen. -/
theorem toList_padTo (cells : Array α) (n : Nat) :
    (padTo cells n).toList = cells.toList ++ List.replicate (n - cells.size) default := by
  unfold padTo
  split
  · simp
  · have h : n - cells.size = 0 := by omega
    simp [h]

/-- The storage after writing a list from cell `start` on; what does not fit is left out. -/
def write (s : Storage α) (start : Nat) (data : List α) : Storage α :=
  if h : start < s.size then
    { size := s.size
      cells := putCells (padTo s.cells start) start (data.take (s.size - start))
      fits := by
        have hfits := s.fits
        rw [size_putCells _ _ _ (by rw [size_padTo]; omega), size_padTo, List.length_take]
        omega }
  else s

@[simp]
theorem size_write (s : Storage α) (start : Nat) (data : List α) :
    (s.write start data).size = s.size := by
  unfold write
  split <;> rfl

/-- Writing replaces as many cells as there are elements, as far as the storage goes. -/
theorem contents_write (s : Storage α) (start : Nat) (data : List α) :
    (s.write start data).contents =
      s.contents.take start ++ data.take (s.size - start) ++
        s.contents.drop (start + data.length) := by
  have hfits := s.fits
  unfold write
  split
  · rename_i hstart
    have hpad : s.contents = (padTo s.cells start).toList
        ++ List.replicate (s.size - (padTo s.cells start).size) default := by
      rw [toList_padTo, size_padTo, contents, List.append_assoc, List.replicate_append_replicate]
      congr 2
      omega
    have hsize : (padTo s.cells start).size = max s.cells.size start := size_padTo _ _
    have hle : start ≤ (padTo s.cells start).size := by omega
    rw [hpad, List.take_append_of_le_length (by simpa using hle), List.drop_append, contents,
      toList_putCells _ _ _ hle, size_putCells _ _ _ hle]
    simp only [List.append_assoc, List.length_take, List.drop_replicate, Array.length_toList]
    congr 2
    by_cases hd : data.length ≤ s.size - start
    · rw [Nat.min_eq_right hd]
      congr 2
      omega
    · have hmin : min (s.size - start) data.length = s.size - start := by omega
      rw [hmin, List.drop_eq_nil_of_le (by simp; omega), List.drop_eq_nil_of_le (by simp; omega)]
      congr 2
      omega
  · rename_i hstart
    have hzero : s.size - start = 0 := by omega
    rw [hzero, List.take_of_length_le (by simp; omega), List.drop_eq_nil_of_le (by simp; omega)]
    simp

end Storage

end Coffer
