import Mathlib.Algebra.Group.Nat.Defs
import Mathlib.Order.Bounds.Basic
import Coffer.Buffer.Lemmas

/-!
# The size classes of a pool

A request is rounded up to a class, and what is given back is put into a class by rounding down.
The two meet because a pool never sees a storage between two classes: what it makes has the size of
its class, and a buffer that grows asks the pool again (`Pool.Exact`, `Buffer.Exact`). So a request
gets what its size alone says, whoever used the pool before.

The pool and its buffers are put on a `Desk`. What holds of a desk is shown for one buffer and one
thing that is done with it first, then for a step, then for all steps by induction.
-/

namespace Coffer

variable {α : Type}

/-! ## Classes -/

namespace Pool

theorem classSize_eq (c : Nat) : classSize c = 256 * 2 ^ c := Nat.shiftLeft_eq _ _

/-- What a request for `n` cells gets. -/
def sizeFor (n : Nat) : Nat := classSize (classFor n)

/-- The idle storages of a class. -/
def bucket (p : Pool α) (c : Nat) : List (Storage α) :=
  p.idle.filter fun s => classOf s.size = c

/-- A storage of a class returns to its class. -/
theorem classOf_classSize (c : Nat) : classOf (classSize c) = c := by
  rw [classOf, classSize_eq, smallest, Nat.mul_div_cancel_left _ (by decide), Nat.log2_two_pow]

theorem classSize_le_classSize {c d : Nat} (h : c ≤ d) : classSize c ≤ classSize d := by
  rw [classSize_eq, classSize_eq]
  exact Nat.mul_le_mul_left 256 (Nat.pow_le_pow_right (by decide) h)

/-- A storage of a class serves the requests of this class only. -/
theorem eq_of_serves_classSize {c d : Nat} (h : serves c (classSize d) = true) : d = c := by
  simp only [serves, Bool.and_eq_true, decide_eq_true_eq, classSize_eq] at h
  obtain ⟨hle, hlt⟩ := h
  have hcd : c ≤ d := (Nat.pow_le_pow_iff_right (by decide)).mp (Nat.le_of_mul_le_mul_left hle
    (by decide))
  have hdc : d < c + 1 := (Nat.pow_lt_pow_iff_right (by decide)).mp (Nat.lt_of_mul_lt_mul_left hlt)
  omega

/-- **A request gets the size of the first class that is large enough.** -/
theorem isLeast_sizeFor (n : Nat) : IsLeast {m | n ≤ m ∧ ∃ c, m = 256 * 2 ^ c} (sizeFor n) := by
  refine ⟨⟨le_classSize_classFor n, classFor n, classSize_eq _⟩, ?_⟩
  rintro m ⟨hle, c, rfl⟩
  rw [← classSize_eq]
  apply classSize_le_classSize
  unfold classFor smallest
  split
  · exact Nat.zero_le c
  · have hne : (n - 1) / 256 ≠ 0 := by omega
    have hlt : (n - 1) / 256 < 2 ^ c := by omega
    exact (Nat.log2_lt hne).mpr hlt

example : sizeFor 1000 = 1024 := by decide

end Pool

/-! ## Storage that has the size of a class -/

/-- The storage has the size of a class. -/
def Storage.Exact (s : Storage α) : Prop := ∃ c, s.size = Pool.classSize c

theorem Storage.Exact.size_eq {s : Storage α} (h : s.Exact) :
    s.size = Pool.classSize (Pool.classOf s.size) := by
  obtain ⟨c, hc⟩ := h
  rw [hc, Pool.classOf_classSize]

namespace Pool

/-- The idle storages have the sizes of their classes, none is too large to be kept, and no class
keeps too many. -/
structure Exact (p : Pool α) : Prop where
  exact : ∀ s ∈ p.idle, s.Exact
  size_le : ∀ s ∈ p.idle, s.size ≤ largestKept
  length_bucket_le : ∀ c, (p.bucket c).length ≤ keptPerClass

variable {p : Pool α} {s : Storage α}

theorem exact_empty : ({} : Pool α).Exact :=
  ⟨nofun, nofun, fun _ => Nat.zero_le _⟩

/-- A pool that keeps less is as exact. -/
theorem Exact.of_sublist {idle : List (Storage α)} (h : p.Exact) (hidle : idle.Sublist p.idle) :
    Exact { idle } where
  exact s hs := h.exact s (hidle.subset hs)
  size_le s hs := h.size_le s (hidle.subset hs)
  length_bucket_le c := Nat.le_trans (hidle.filter _).length_le (h.length_bucket_le c)

theorem Exact.take (h : p.Exact) (n : Nat) :
    (p.take n).1.size = sizeFor n ∧ (p.take n).2.Exact := by
  unfold Pool.take
  dsimp only
  split
  · next s hs =>
    have hserves := List.find?_some hs
    rw [(h.exact s (List.mem_of_find?_eq_some hs)).size_eq] at hserves
    refine ⟨?_, h.of_sublist List.eraseP_sublist⟩
    rw [(h.exact s (List.mem_of_find?_eq_some hs)).size_eq, eq_of_serves_classSize hserves, sizeFor]
  · exact ⟨Nat.max_eq_left (le_classSize_classFor n), h⟩

theorem Exact.giveBack (h : p.Exact) (hs : s.Exact) : (p.giveBack s).Exact := by
  unfold Pool.giveBack
  split
  · exact h
  · next hsize =>
    simp only [Bool.or_eq_true, decide_eq_true_eq, not_or, Nat.not_lt] at hsize
    split
    · next hroom =>
      refine ⟨List.forall_mem_cons.mpr ⟨hs, h.exact⟩,
        List.forall_mem_cons.mpr ⟨hsize.2, h.size_le⟩, fun c => ?_⟩
      -- only the class that the storage returns to grows, and there was room in it
      rw [bucket, List.filter_cons]
      split
      · next hc =>
        rw [decide_eq_true_eq] at hc
        exact hc ▸ hroom
      · exact h.length_bucket_le c
    · exact h

end Pool

/-! ## Buffers -/

namespace Buffer

/-- What the buffer has rented has the size of a class. -/
def Exact (b : Buffer α) : Prop := ∀ s ∈ b.storage, s.Exact

/-- What can be done with a buffer. -/
inductive Act (α : Type) where
  /-- Appends elements. Bytes are appended in the same way to a buffer that is used as a stream. -/
  | write (data : List α)
  /-- Asks for room for more elements. -/
  | request (n : UInt64)
  /-- Fills the cells after the cursor, as far as they go. -/
  | fill (data : List α)
  | advance (n : Nat)
  | rewind (n : Nat)
  | reset
  | release
  deriving Repr, DecidableEq

variable [Inhabited α] {b : Buffer α} {p : Pool α}

/-- The answer, the buffer and the pool after something was done with the buffer. What fails leaves
the buffer as it was. -/
def Act.perform (b : Buffer α) (p : Pool α) : Act α → Except Error Unit × Buffer α × Pool α
  | .write data => (.ok (), b.append p data)
  | .request n => (.ok (), b.request p n)
  | .fill data => (.ok (), b.fillAhead data, p)
  | .advance n => moved (b.advance n)
  | .rewind n => moved (b.rewind n)
  | .reset => (.ok (), b.reset, p)
  | .release => (.ok (), b.release p)
where
  /-- The cursor was moved, or it stays where it is. -/
  moved : Except Error (Buffer α) → Except Error Unit × Buffer α × Pool α
    | .ok b => (.ok (), b, p)
    | .error e => (.error e, b, p)

/-- The buffer and the pool have only storage that has the size of a class. -/
def Tidy (b : Buffer α) (p : Pool α) : Prop := b.Exact ∧ p.Exact

omit [Inhabited α] in
theorem Exact.of_storage_eq {b b' : Buffer α} (h : b.Exact) (heq : b'.storage = b.storage) :
    b'.Exact := by
  rwa [Exact, heq]

theorem Exact.fillAhead (h : b.Exact) (data : List α) : (b.fillAhead data).Exact := by
  intro s hs
  obtain ⟨t, ht, rfl⟩ := Option.map_eq_some_iff.mp hs
  obtain ⟨c, hc⟩ := h t ht
  exact ⟨c, (Storage.size_write _ _ _).trans hc⟩

omit [Inhabited α] in
/-- Rented storage has the size that was asked for, rounded up to a class. -/
theorem rent_of_exact (h : p.Exact) (n : Nat) :
    (rent p n).1.capacity = Pool.sizeFor n ∧ (rent p n).1.Tidy (rent p n).2 := by
  obtain ⟨hsize, hpool⟩ := h.take n
  refine ⟨hsize, ?_, hpool⟩
  rintro s ⟨⟩
  exact ⟨_, hsize⟩

/-- A buffer that grows has what its new storage was asked for, rounded up to a class. -/
theorem Tidy.grow (h : b.Tidy p) (least : Nat) :
    (b.grow p least).1.capacity = Pool.sizeFor (max least (2 * b.capacity))
      ∧ (b.grow p least).1.Tidy (b.grow p least).2 := by
  obtain ⟨hsize, hpool⟩ := h.2.take (max least (2 * b.capacity))
  unfold Buffer.grow
  dsimp only
  split
  · next old hold =>
    refine ⟨(Storage.size_write _ _ _).trans hsize, ?_, hpool.giveBack (h.1 old hold)⟩
    rintro s ⟨⟩
    exact ⟨_, (Storage.size_write _ _ _).trans hsize⟩
  · refine ⟨hsize, ?_, hpool⟩
    rintro s ⟨⟩
    exact ⟨_, hsize⟩

theorem Tidy.reserve (h : b.Tidy p) (n : Nat) : (b.reserve p n).1.Tidy (b.reserve p n).2 := by
  unfold Buffer.reserve
  split
  · exact (h.grow _).2
  · exact h

theorem Tidy.request (h : b.Tidy p) (n : UInt64) : (b.request p n).1.Tidy (b.request p n).2 := by
  unfold Buffer.request
  split
  · exact (h.grow _).2
  · exact h

theorem Tidy.append (h : b.Tidy p) (data : List α) : (b.append p data).1.Tidy (b.append p data).2 :=
  ⟨(h.reserve data.length).1.fillAhead data, (h.reserve data.length).2⟩

omit [Inhabited α] in
theorem Tidy.release (h : b.Tidy p) : (b.release p).1.Tidy (b.release p).2 := by
  unfold Buffer.release
  split
  · next s hs => exact ⟨nofun, h.2.giveBack (h.1 s hs)⟩
  · exact ⟨nofun, h.2⟩

/-- Whatever is done with a buffer, all storage has the size of a class. -/
theorem Tidy.perform (h : b.Tidy p) (a : Act α) :
    (a.perform b p).2.1.Tidy (a.perform b p).2.2 := by
  cases a with
  | write data => exact h.append data
  | request n => exact h.request n
  | fill data => exact ⟨h.1.fillAhead data, h.2⟩
  | advance n =>
    rw [Act.perform, Buffer.advance]
    split <;> exact ⟨h.1.of_storage_eq rfl, h.2⟩
  | rewind n =>
    rw [Act.perform, Buffer.rewind]
    split <;> exact ⟨h.1.of_storage_eq rfl, h.2⟩
  | reset => exact ⟨h.1.of_storage_eq rfl, h.2⟩
  | release => exact h.release

end Buffer

/-! ## Desks -/

/-- A pool and the buffers that were rented from it, in their order; in the place of a buffer that
was dropped is none. -/
structure Desk (α : Type) where
  pool : Pool α := {}
  buffers : List (Option (Buffer α)) := []

namespace Desk

/-- What can be done at a desk. Buffers go by number, in the order in which they were rented. -/
inductive Step (α : Type) where
  | rent (n : Nat)
  | act (i : Nat) (a : Buffer.Act α)
  | drop (i : Nat)
  deriving Repr, DecidableEq

/-- The buffer of a number, unless it was dropped. -/
def buffer? (d : Desk α) (i : Nat) : Option (Buffer α) := d.buffers[i]?.join

/-- The desk with another buffer, or none, in the place of one. -/
def put (d : Desk α) (i : Nat) (pool : Pool α) (b : Option (Buffer α)) : Desk α :=
  { pool, buffers := d.buffers.set i b }

variable [Inhabited α]

/-- The answer and the desk after a step. With a buffer that is not there nothing is done. -/
def perform (d : Desk α) : Step α → Except Error Unit × Desk α
  | .rent n =>
    let (b, pool) := Buffer.rent d.pool n
    (.ok (), { pool, buffers := d.buffers ++ [some b] })
  | .act i a =>
    match d.buffer? i with
    | some b =>
      let (answer, b, pool) := a.perform b d.pool
      (answer, d.put i pool (some b))
    | none => (.ok (), d)
  | .drop i =>
    match d.buffer? i with
    | some b => (.ok (), d.put i (b.release d.pool).2 none)
    | none => (.ok (), d)

/-- The desk after some steps. -/
def run (d : Desk α) (steps : List (Step α)) : Desk α :=
  steps.foldl (fun d step => (d.perform step).2) d

theorem perform_act {d : Desk α} {i : Nat} {b : Buffer α} (hb : d.buffer? i = some b)
    (a : Buffer.Act α) :
    d.perform (.act i a)
      = ((a.perform b d.pool).1, d.put i (a.perform b d.pool).2.2 (a.perform b d.pool).2.1) := by
  rw [perform, hb]

theorem perform_act_of_none {d : Desk α} {i : Nat} (hb : d.buffer? i = none) (a : Buffer.Act α) :
    d.perform (.act i a) = (.ok (), d) := by
  rw [perform, hb]

theorem perform_drop {d : Desk α} {i : Nat} {b : Buffer α} (hb : d.buffer? i = some b) :
    d.perform (.drop i) = (.ok (), d.put i (b.release d.pool).2 none) := by
  rw [perform, hb]

theorem perform_drop_of_none {d : Desk α} {i : Nat} (hb : d.buffer? i = none) :
    d.perform (.drop i) = (.ok (), d) := by
  rw [perform, hb]

/-- All storage at the desk has the size of a class. -/
structure Exact (d : Desk α) : Prop where
  pool : d.pool.Exact
  buffers : ∀ b, some b ∈ d.buffers → b.Exact

variable {d : Desk α}

omit [Inhabited α] in
theorem mem_of_buffer? {i : Nat} {b : Buffer α} (h : d.buffer? i = some b) : some b ∈ d.buffers :=
  List.mem_of_getElem? (Option.join_eq_some_iff.mp h)

omit [Inhabited α] in
theorem Exact.tidy (h : d.Exact) {i : Nat} {b : Buffer α} (hb : d.buffer? i = some b) :
    b.Tidy d.pool :=
  ⟨h.buffers b (mem_of_buffer? hb), h.pool⟩

omit [Inhabited α] in
theorem Exact.put (h : d.Exact) (i : Nat) {pool : Pool α} (hpool : pool.Exact)
    {b : Option (Buffer α)} (hb : ∀ b' ∈ b, b'.Exact) : (d.put i pool b).Exact := by
  refine ⟨hpool, fun b' hb' => ?_⟩
  rcases List.mem_or_eq_of_mem_set hb' with hmem | heq
  · exact h.buffers b' hmem
  · exact hb b' heq.symm

/-- **A step keeps all storage in its class.** -/
theorem Exact.perform (h : d.Exact) (step : Step α) : (d.perform step).2.Exact := by
  cases step with
  | rent n =>
    obtain ⟨-, hbuffer, hpool⟩ := Buffer.rent_of_exact h.pool n
    refine ⟨hpool, fun b hb => ?_⟩
    rcases List.mem_append.mp hb with hmem | hlast
    · exact h.buffers b hmem
    · cases List.mem_singleton.mp hlast
      exact hbuffer
  | act i a =>
    cases hb : d.buffer? i with
    | none => rwa [perform_act_of_none hb]
    | some b =>
      obtain ⟨hbuffer, hpool⟩ := (h.tidy hb).perform a
      rw [perform_act hb]
      refine h.put i hpool fun b' hb' => ?_
      cases hb'
      exact hbuffer
  | drop i =>
    cases hb : d.buffer? i with
    | none => rwa [perform_drop_of_none hb]
    | some b =>
      rw [perform_drop hb]
      exact h.put i (h.tidy hb).release.2 fun _ hb' => nomatch hb'

theorem Exact.run (h : d.Exact) (steps : List (Step α)) : (d.run steps).Exact := by
  induction steps generalizing d with
  | nil => exact h
  | cons step steps ih => exact ih (h.perform step)

omit [Inhabited α] in
theorem exact_empty : ({} : Desk α).Exact := ⟨Pool.exact_empty, nofun⟩

/-- **Classes are exact.** Whatever was done with the buffers of a pool, each idle storage has
exactly the size of its class, no class holds more than eight and none is larger than 64 Mi. And
whatever was done before, a request gets the first size of a class that is large enough. -/
theorem classes_exact (steps : List (Step α)) :
    (∀ c, ∀ s ∈ (({} : Desk α).run steps).pool.bucket c, s.size = 256 * 2 ^ c)
      ∧ (∀ c, ((({} : Desk α).run steps).pool.bucket c).length ≤ 8)
      ∧ (∀ s ∈ (({} : Desk α).run steps).pool.idle, s.size ≤ 64 * 1024 * 1024)
      ∧ ∀ n, IsLeast {m | n ≤ m ∧ ∃ c, m = 256 * 2 ^ c}
        (Buffer.rent (({} : Desk α).run steps).pool n).1.capacity := by
  have hpool := (exact_empty.run steps).pool
  refine ⟨fun c s hs => ?_, hpool.length_bucket_le, hpool.size_le, fun n => ?_⟩
  · obtain ⟨hmem, hclass⟩ := List.mem_filter.mp hs
    rw [(hpool.exact s hmem).size_eq, of_decide_eq_true hclass, Pool.classSize_eq]
  · rw [(Buffer.rent_of_exact hpool n).1]
    exact Pool.isLeast_sizeFor n

/-- A storage that came back is in its class, and the next request gets it. -/
theorem classes_exact_returned :
    (∃ s ∈ (({} : Desk UInt8).run [.rent 300, .drop 0]).pool.bucket 1, s.size = 256 * 2 ^ 1)
      ∧ IsLeast {m | 257 ≤ m ∧ ∃ c, m = 256 * 2 ^ c}
        (Buffer.rent (({} : Desk UInt8).run [.rent 300, .drop 0]).pool 257).1.capacity := by
  obtain ⟨hsize, -, -, hleast⟩ := classes_exact (α := UInt8) [.rent 300, .drop 0]
  have hback : ∃ s, s ∈ (({} : Desk UInt8).run [.rent 300, .drop 0]).pool.bucket 1 :=
    ⟨_, List.mem_cons_self⟩
  obtain ⟨s, hs⟩ := hback
  exact ⟨⟨s, hs, hsize 1 s hs⟩, hleast 257⟩

end Desk

end Coffer
