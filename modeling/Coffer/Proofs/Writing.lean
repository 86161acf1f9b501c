import Coffer.Buffer.Lemmas
import Coffer.Proofs.Form

/-!
# What writing appends

Writing a list of entries into a buffer appends their byte form, whatever the buffer held and
however often it has to move on the way (`putEntries_writes`). It fails exactly if the entries do
not fit the form.

## One law for each part

`w.Writes fits b r` says what a part of the writer comes to: if the part succeeds then what it
writes fits, and the bytes `b` were appended; if it fails then what it writes does not fit. Parts
that follow each other are joined by `Writes.bind`, so no proof looks into two parts at once.
-/

namespace Coffer

/-! ## Rented buffers -/

namespace Buffer

variable {α : Type} [Inhabited α]

/-- The cursor can be moved over data that was filled in with room to spare. -/
theorem advance_fillAhead {b : Buffer α} {data : List α}
    (h : b.length + data.length ≤ b.capacity) :
    (b.fillAhead data).advance data.length
      = .ok { b.fillAhead data with length := b.length + data.length } := by
  have hroom : (b.fillAhead data).room = b.capacity - b.length := by
    rw [room, capacity_fillAhead]
    rfl
  rw [advance, if_pos (by omega)]
  rfl

/-- A rented buffer takes as much as it was rented for, and what is left of that is room. -/
theorem fill_rent (p : Pool α) {n : Nat} {data : List α} (h : data.length ≤ n) :
    ∃ b, ((rent p n).1.fillAhead data).advance data.length = .ok b ∧ b.written = data
      ∧ n ≤ data.length + b.room := by
  have hcap := le_capacity_rent p n
  have hfits : (rent p n).1.length + data.length ≤ (rent p n).1.capacity := by
    show 0 + data.length ≤ _
    omega
  refine ⟨_, advance_fillAhead hfits, ?_, ?_⟩
  · rw [written_fillAhead_advanced data hfits, written_rent, List.nil_append]
  · show n ≤ data.length + (((rent p n).1.fillAhead data).capacity - (0 + data.length))
    rw [capacity_fillAhead]
    omega

/-- Appending to a rented buffer leaves as much room as it was rented for besides. -/
theorem append_rent (p p' : Pool α) {n : Nat} {data : List α} (h : data.length ≤ n) :
    ((rent p n).1.append p' data).1.written = data
      ∧ n ≤ data.length + ((rent p n).1.append p' data).1.room := by
  have hcap := le_capacity_rent p n
  have hlength : ((rent p n).1.append p' data).1.length = data.length := by
    rw [append_eq]
    show ((rent p n).1.reserve p' data.length).1.length + data.length = data.length
    rw [length_reserve]
    exact Nat.zero_add _
  refine ⟨?_, ?_⟩
  · rw [written_append (sound_rent p n), written_rent, List.nil_append]
  · -- there was room, so the buffer did not move
    have hkept : ((rent p n).1.append p' data).1.capacity = (rent p n).1.capacity := by
      rcases capacity_append (rent p n).1 p' data with heq | hlt <;> omega
    rw [room, hkept, hlength]
    omega

omit [Inhabited α] in
theorem room_rent (p : Pool α) (n : Nat) : n ≤ (rent p n).1.room :=
  le_capacity_rent p n

end Buffer

namespace Dictionary.Format.Writer

/-- The bytes `b` were appended to `w`, which made it `w'`. -/
structure Appends (w : Writer) (b : Bytes) (w' : Writer) : Prop where
  sound : w'.out.Sound
  written : w'.out.written = w.out.written ++ b
  /-- The buffer moved only if there was not enough room. -/
  moved : w'.out.capacity = w.out.capacity ∨ w.out.capacity < w'.out.length

/-- What a part of the writer comes to that appends `b` if it fits. -/
def Writes (w : Writer) (fits : Prop) (b : Bytes) : Except Error Writer → Prop
  | .ok w' => fits ∧ w.Appends b w'
  | .error _ => ¬fits

variable {w : Writer} {a b : Bytes} {p q : Prop} {r : Except Error Writer}

theorem Appends.trans {w' w'' : Writer} (h : w.Appends a w') (h' : w'.Appends b w'') :
    w.Appends (a ++ b) w'' := by
  refine ⟨h'.sound, by rw [h'.written, h.written, List.append_assoc], ?_⟩
  have hlength := Buffer.length_written h'.sound
  rw [h'.written, List.length_append, Buffer.length_written h.sound] at hlength
  rcases h.moved with hstays | hfull
  · rw [← hstays]
    exact h'.moved
  · exact .inr (by omega)

/-- Two parts in a row. -/
theorem Writes.bind {f : Writer → Except Error Writer} (h : w.Writes p a r)
    (hf : ∀ w', w.Appends a w' → w'.Writes q b (f w')) : w.Writes (p ∧ q) (a ++ b) (r >>= f) := by
  cases r with
  -- if the first part does not fit, nor do both
  | error e => exact fun hpq => h hpq.1
  | ok w' =>
    obtain ⟨hp, ha⟩ := h
    have hnext := hf w' ha
    rw [ok_bind]
    cases hw : f w' with
    | error e =>
      rw [hw] at hnext
      exact fun hpq => hnext hpq.2
    | ok w'' =>
      rw [hw] at hnext
      exact ⟨⟨hp, hnext.1⟩, ha.trans hnext.2⟩

theorem Writes.congr (h : w.Writes p a r) (hp : p ↔ q) (hb : a = b) : w.Writes q b r := by
  subst hb
  cases r with
  | error e => exact fun hq => h (hp.mpr hq)
  | ok w' => exact ⟨hp.mp h.1, h.2⟩

/-- Only the buffer counts, not the pools. -/
theorem Writes.of_out {v : Writer} (h : v.Writes p b r) (hv : v.out = w.out) : w.Writes p b r := by
  cases r with
  | error e => exact h
  | ok w' => exact ⟨h.1, h.2.sound, hv ▸ h.2.written, hv ▸ h.2.moved⟩

/-- What fits is written. -/
theorem Writes.isOk (h : w.Writes p b r) (hp : p) : ∃ w', r = .ok w' ∧ w.Appends b w' := by
  cases r with
  | error e => exact absurd hp h
  | ok w' => exact ⟨w', rfl, h.2⟩

/-! ## The parts -/

theorem appends_put (hw : w.out.Sound) (b : Bytes) : w.Appends b (w.put b) :=
  ⟨Buffer.sound_append hw w.scratch.bytes b, Buffer.written_append hw w.scratch.bytes b,
    Buffer.capacity_append w.out w.scratch.bytes b⟩

theorem put_writes (hw : w.out.Sound) (b : Bytes) : w.Writes True b (.ok (w.put b)) :=
  ⟨trivial, appends_put hw b⟩

theorem putKeyLength_writes (hw : w.out.Sound) (n : Nat) :
    w.Writes (n < Bytes.bound 4) (Bytes.ofNat 4 n) (w.putKeyLength n) := by
  unfold putKeyLength
  split
  · next h => exact ⟨h, appends_put hw _⟩
  · next h => exact h

/-- The buffer for the units of a key holds all of them. -/
theorem unitsOfKey_eq_ok (w : Writer) (key : String) :
    ∃ w', w.unitsOfKey key = .ok (Text.Utf16.units key, w') ∧ w'.out = w.out := by
  have hunits := Text.Utf16.length_units_le key
  have hroom := Buffer.room_rent w.scratch.units key.utf8ByteSize
  obtain ⟨buffer, hbuffer, hwritten⟩ := Buffer.fill_rent w.scratch.units hunits
  have hmin : min (Text.Utf16.units key).length
      (Buffer.rent w.scratch.units key.utf8ByteSize).1.room = (Text.Utf16.units key).length :=
    Nat.min_eq_left (by omega)
  simp only [unitsOfKey, hmin, hbuffer, ok_bind, hwritten]
  exact ⟨_, rfl, rfl⟩

theorem putKey_writes (hw : w.out.Sound) (encoding : KeyEncoding) (key : String) :
    w.Writes ((encoding.encode key).length < Bytes.bound 4) (keyForm encoding key)
      (w.putKey encoding key) := by
  -- a key in UTF-16 takes the way over its units, but what is put is the same
  obtain ⟨v, hv, hput⟩ : ∃ v : Writer, v.out = w.out ∧ w.putKey encoding key
      = v.putKeyLength (encoding.encode key).length >>= fun w' =>
          .ok (w'.put (encoding.encode key)) := by
    cases encoding with
    | utf8 => exact ⟨w, rfl, rfl⟩
    | utf16 =>
      obtain ⟨v, hunits, hout⟩ := unitsOfKey_eq_ok w key
      refine ⟨v, hout, ?_⟩
      simp only [putKey, hunits, ok_bind, pure_eq_ok, KeyEncoding.encode, Text.Utf16.encode,
        Text.Utf16.length_toBytes]
  have hsound : v.out.Sound := hv ▸ hw
  have h := (putKeyLength_writes hsound (encoding.encode key).length).bind
    fun _ h => put_writes h.sound (encoding.encode key)
  rw [hput]
  exact (h.of_out hv).congr ⟨And.left, fun h => ⟨h, trivial⟩⟩ rfl

theorem putValue_writes (hw : w.out.Sound) (e : Entry) :
    w.Writes (2 * e.bytes.length < Bytes.bound 4) (valueForm e.value) (w.putValue e) := by
  unfold putValue
  cases hvalue : e.value with
  | none =>
    have hbytes : e.bytes = [] := by rw [Entry.bytes, hvalue, Option.getD_none]
    exact ⟨by rw [hbytes]; decide, appends_put hw _⟩
  | some value =>
    have hbytes : e.bytes = value := by rw [Entry.bytes, hvalue, Option.getD_some]
    rw [hbytes]
    simp only
    split
    · next h =>
      rw [valueForm_some h]
      exact ⟨h, (appends_put hw _).trans (appends_put (appends_put hw _).sound value)⟩
    · next h => exact h

theorem putEntry_writes (hw : w.out.Sound) (encoding : KeyEncoding) (e : Entry) :
    w.Writes (Fits encoding e) (entryForm encoding e) (putEntry encoding w e) :=
  ((putKey_writes hw encoding e.key).bind fun _ h => putValue_writes h.sound e).congr
    ⟨fun h => ⟨h.1, h.2⟩, fun h => ⟨h.key, h.value⟩⟩ rfl

/-- **The buffer stays where it is if and only if there is room for what is appended.** -/
theorem Appends.capacity_eq_iff {w' : Writer} (h : w.Appends b w') (hw : w.out.Sound) :
    w'.out.capacity = w.out.capacity ↔ w.out.length + b.length ≤ w.out.capacity := by
  have hlength := Buffer.length_written h.sound
  rw [h.written, List.length_append, Buffer.length_written hw] at hlength
  have hsound : w'.out.length ≤ w'.out.capacity := h.sound
  have hmoved := h.moved
  omega

/-! ## Lists of entries -/

/-- Entry after entry, from any state of the buffer. -/
theorem foldlM_putEntry_writes (encoding : KeyEncoding) (es : List Entry) (hw : w.out.Sound) :
    w.Writes (∀ e ∈ es, Fits encoding e) (es.flatMap (entryForm encoding))
      (es.foldlM (putEntry encoding) w) := by
  induction es generalizing w with
  | nil => exact ⟨by simp, hw, (List.append_nil _).symm, .inl rfl⟩
  | cons e es ih =>
    rw [List.foldlM_cons, List.flatMap_cons]
    exact ((putEntry_writes hw encoding e).bind fun _ h => ih h.sound).congr
      List.forall_mem_cons.symm rfl

/-- **Writing appends the byte form of the entries, or fails because they do not fit it.** -/
theorem putEntries_writes (hw : w.out.Sound) (encoding : KeyEncoding) (es : List Entry) :
    w.Writes (Encodable encoding es) (form encoding es) (w.putEntries encoding es) := by
  unfold putEntries
  split
  · next hcount =>
    have h := (put_writes hw (Bytes.ofNat 4 es.length)).bind
      fun _ h => foldlM_putEntry_writes encoding es h.sound
    exact h.congr ⟨fun h => ⟨hcount, h.2⟩, fun h => ⟨trivial, h.fits⟩⟩ rfl
  · next hcount => exact fun h => hcount h.count

end Dictionary.Format.Writer

end Coffer
