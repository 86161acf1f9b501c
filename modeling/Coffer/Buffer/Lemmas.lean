import Coffer.Buffer.Basic

/-!
# What a buffer holds

What was written in a buffer is the only part of it that its user can rely on, so each operation is
described by what it does to `written`. Appending appends (`written_append`), whether the buffer
moved into a larger storage for it or not; filling the room and advancing over it does the same
(`written_fillAhead_advanced`); and what the storage held before never shows.

A buffer is *sound* if its cursor lies within its storage. Buffers are rented sound and stay so.
-/

namespace Coffer

variable {α : Type} [Inhabited α]

namespace Pool

/-- A class is large enough for the requests it serves. -/
theorem le_classSize_classFor (n : Nat) : n ≤ classSize (classFor n) := by
  unfold classFor classSize smallest
  split
  · omega
  · have hlt := Nat.lt_log2_self (n := (n - 1) / 256)
    have hmul : n - 1 < 256 * ((n - 1) / 256 + 1) := by omega
    have hle : 256 * ((n - 1) / 256 + 1) ≤ 256 * 2 ^ (Nat.log2 ((n - 1) / 256) + 1) :=
      Nat.mul_le_mul_left 256 hlt
    rw [Nat.shiftLeft_eq]
    omega

omit [Inhabited α] in
/-- What a pool hands out is large enough. -/
theorem le_size_take (p : Pool α) (n : Nat) : n ≤ (p.take n).1.size := by
  simp only [take]
  split
  · rename_i s hs
    have hserves := List.find?_some hs
    simp only [serves, Bool.and_eq_true, decide_eq_true_eq] at hserves
    exact Nat.le_trans (le_classSize_classFor n) hserves.1
  · exact Nat.le_max_right _ _

end Pool

namespace Buffer

/-- The cursor lies within the storage. -/
def Sound (b : Buffer α) : Prop := b.length ≤ b.capacity

/-- What a buffer holds, by the contents of its storage. -/
theorem written_eq (b : Buffer α) :
    b.written = ((b.storage.map Storage.contents).getD []).take b.length := by
  unfold written
  cases b.storage with
  | none => simp
  | some s => simp [Storage.read_eq]

theorem length_written {b : Buffer α} (h : b.Sound) : b.written.length = b.length := by
  rw [written_eq]
  unfold Sound capacity at h
  cases hs : b.storage with
  | none => simp_all
  | some s => simp_all

/-! ## Renting -/

omit [Inhabited α] in
theorem sound_empty (s : Option (Storage α)) : Sound { storage := s, length := 0 } := Nat.zero_le _

omit [Inhabited α] in
theorem sound_rent (p : Pool α) (n : Nat) : (rent p n).1.Sound := sound_empty _

theorem written_rent (p : Pool α) (n : Nat) : (rent p n).1.written = [] := by
  simp [written_eq, rent]

omit [Inhabited α] in
theorem le_capacity_rent (p : Pool α) (n : Nat) : n ≤ (rent p n).1.capacity :=
  p.le_size_take n

/-! ## Moving into larger storage -/

theorem length_grow (b : Buffer α) (p : Pool α) (least : Nat) :
    (b.grow p least).1.length = b.length := by
  unfold grow
  split
  split <;> rfl

theorem le_capacity_grow (b : Buffer α) (p : Pool α) (least : Nat) :
    max least (2 * b.capacity) ≤ (b.grow p least).1.capacity := by
  have h := p.le_size_take (max least (2 * b.capacity))
  have hcap : (b.grow p least).1.capacity = (p.take (max least (2 * b.capacity))).1.size := by
    cases hs : b.storage with
    | none => simp [grow, hs, capacity]
    | some old => simp [grow, hs, capacity]
  omega

/-- Moving keeps what was written. -/
theorem written_grow {b : Buffer α} (h : b.Sound) (p : Pool α) (least : Nat) :
    (b.grow p least).1.written = b.written := by
  have hsize := p.le_size_take (max least (2 * b.capacity))
  cases hs : b.storage with
  | none =>
    have hzero : b.length = 0 := by
      unfold Sound capacity at h
      simpa [hs] using h
    simp [written_eq, grow, hs, hzero]
  | some old =>
    have hcap : b.capacity = old.size := by simp [capacity, hs]
    have hlen : b.length ≤ old.size := hcap ▸ h
    have hread : (old.read 0 b.length).length = b.length := by
      simp [Storage.read_eq, hlen]
    simp only [written_eq, grow, hs, Option.map_some, Option.getD_some, Storage.contents_write,
      List.take_zero, List.nil_append, Nat.sub_zero]
    rw [List.take_of_length_le (l := old.read 0 b.length) (by omega),
      List.take_append_of_le_length (by omega),
      List.take_of_length_le (l := old.read 0 b.length) (by omega), Storage.read_eq,
      List.drop_zero]

theorem length_reserve (b : Buffer α) (p : Pool α) (n : Nat) :
    (b.reserve p n).1.length = b.length := by
  unfold reserve
  split
  · exact length_grow b p _
  · rfl

theorem written_reserve {b : Buffer α} (h : b.Sound) (p : Pool α) (n : Nat) :
    (b.reserve p n).1.written = b.written := by
  unfold reserve
  split
  · exact written_grow h p _
  · rfl

/-- After reserving there is room. -/
theorem le_room_reserve {b : Buffer α} (h : b.Sound) (p : Pool α) (n : Nat) :
    b.length + n ≤ (b.reserve p n).1.capacity := by
  unfold reserve
  split
  · have hcap := le_capacity_grow b p (b.length + n)
    omega
  · rename_i hroom
    unfold Sound at h
    unfold room at hroom
    change b.length + n ≤ b.capacity
    omega

/-! ## Filling and advancing -/

theorem capacity_fillAhead (b : Buffer α) (data : List α) :
    (b.fillAhead data).capacity = b.capacity := by
  unfold fillAhead capacity
  cases b.storage with
  | none => rfl
  | some s => simp

/-- Filling the room and moving the cursor over it appends. -/
theorem written_fillAhead_advanced {b : Buffer α} (data : List α)
    (h : b.length + data.length ≤ b.capacity) :
    written { b.fillAhead data with length := b.length + data.length } = b.written ++ data := by
  cases hs : b.storage with
  | none =>
    simp only [capacity, hs, Option.map_none, Option.getD_none] at h
    have hlen : b.length = 0 := by omega
    have hdata : data = [] := List.length_eq_zero_iff.mp (by omega)
    simp [written_eq, fillAhead, hs, hlen, hdata]
  | some s =>
    simp only [capacity, hs, Option.map_some, Option.getD_some] at h
    have htake : (s.contents.take b.length).length = b.length := by simp; omega
    simp only [written_eq, fillAhead, hs, Option.map_some, Option.getD_some,
      Storage.contents_write]
    have happ : (s.contents.take b.length ++ data).length = b.length + data.length := by
      rw [List.length_append, htake]
    rw [List.take_of_length_le (l := data) (by omega),
      List.take_append_of_le_length (by omega), List.take_of_length_le (by omega)]

theorem append_eq (b : Buffer α) (p : Pool α) (data : List α) :
    (b.append p data).1 =
      let r := (b.reserve p data.length).1
      { r.fillAhead data with length := r.length + data.length } := rfl

/-- **Appending appends**, whether the buffer moves or not. -/
theorem written_append {b : Buffer α} (h : b.Sound) (p : Pool α) (data : List α) :
    (b.append p data).1.written = b.written ++ data := by
  have hroom := le_room_reserve h p data.length
  have hlen := length_reserve b p data.length
  rw [append_eq, ← written_reserve h p data.length]
  exact written_fillAhead_advanced data (by omega)

theorem sound_append {b : Buffer α} (h : b.Sound) (p : Pool α) (data : List α) :
    (b.append p data).1.Sound := by
  have hroom := le_room_reserve h p data.length
  have hlen := length_reserve b p data.length
  rw [append_eq]
  change _ ≤ ((b.reserve p data.length).1.fillAhead data).capacity
  rw [capacity_fillAhead]
  change (b.reserve p data.length).1.length + data.length ≤ _
  omega

/-- Appending moves into another storage only for want of room. -/
theorem capacity_append (b : Buffer α) (p : Pool α) (data : List α) :
    (b.append p data).1.capacity = b.capacity ∨ b.capacity < (b.append p data).1.length := by
  rw [append_eq]
  show ((b.reserve p data.length).1.fillAhead data).capacity = b.capacity
    ∨ b.capacity < (b.reserve p data.length).1.length + data.length
  rw [capacity_fillAhead, length_reserve]
  unfold reserve
  split
  · next hroom =>
    rw [room] at hroom
    exact .inr (by omega)
  · exact .inl rfl

end Buffer

end Coffer
