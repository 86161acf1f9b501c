import Coffer.Proofs.Form

/-!
# What further bytes make of a fault

A byte string that is no dictionary is refused with one fault, and the fault tells what becomes of
the byte string when more bytes follow (`stable_decode`). A key or a value length that is wrong stays
wrong. Bytes that are missing are missing at the same offset, fewer by those that came, until
enough have come. Bytes that are left over become more. So a byte string that a dictionary starts
with, and that is not all of it, is truncated.

## Parts of the reader

Each part of the reader is *steady*: what it has read does not change when more bytes follow, and
its fault lasts. Parts that are read one after the other are steady if each of them is
(`Steady.bind`), so the loop over the entries is, by induction on how many there are.
-/

namespace Coffer

/-! ## Faults -/

/-- The fault is met again when more bytes follow: `after more` is what is then read, and `finish`
is where the bytes ended before. Bytes that were missing are missing at the same offset, until as
many have come. -/
def FormatFault.Lasts {β : Type} (finish : Nat) (after : Bytes → Except FormatFault β) :
    FormatFault → Prop
  | .truncated offset needed =>
    offset ≤ finish ∧ 1 ≤ needed ∧ ∀ more : Bytes, more.length < needed →
      after more = .error (.truncated offset (needed - more.length))
  | .invalidLength offset length => ∀ more, after more = .error (.invalidLength offset length)
  | .invalidKey offset encoding => ∀ more, after more = .error (.invalidKey offset encoding)
  | .trailingBytes _ | .undecryptable => False

/-- What is done after a fault makes no difference to it. -/
theorem FormatFault.Lasts.bind {β γ : Type} {finish : Nat} {after : Bytes → Except FormatFault β}
    {fault : FormatFault} (h : fault.Lasts finish after) (g : Bytes → β → Except FormatFault γ) :
    fault.Lasts finish fun more => after more >>= g more := by
  cases fault with
  | truncated offset needed =>
    obtain ⟨hoffset, hneeded, hmore⟩ := h
    refine ⟨hoffset, hneeded, fun more hlt => ?_⟩
    simp only [hmore more hlt, error_bind]
  | invalidLength offset length => exact fun more => by simp only [h more, error_bind]
  | invalidKey offset encoding => exact fun more => by simp only [h more, error_bind]
  | trailingBytes count => exact h
  | undecryptable => exact h

namespace Dictionary.Format

/-! ## The parts of the reader -/

namespace Cursor

variable {α β : Type} {encoding : KeyEncoding}

/-- The same place when more bytes follow behind the others. -/
def extend (c : Cursor) (more : Bytes) : Cursor := { c with rest := c.rest ++ more }

/-- Where the bytes end. -/
def finish (c : Cursor) : Nat := c.offset + c.rest.length

/-- Further bytes change nothing about what a part of the reader gives, and its fault lasts. -/
structure Steady (f : Cursor → Except FormatFault (α × Cursor)) : Prop where
  ok : ∀ {c a d}, f c = .ok (a, d) →
    d.finish = c.finish ∧ ∀ more, f (c.extend more) = .ok (a, d.extend more)
  error : ∀ {c fault}, f c = .error fault → fault.Lasts c.finish fun more => f (c.extend more)

theorem steady_pure (a : α) : Steady fun c => .ok (a, c) where
  ok h := by
    cases h
    exact ⟨rfl, fun _ => rfl⟩
  error h := by cases h

/-- A part that is read behind another may also look at the offset where both began. -/
theorem Steady.bind {f : Cursor → Except FormatFault (α × Cursor)}
    {g : Nat → α → Cursor → Except FormatFault (β × Cursor)} (hf : Steady f)
    (hg : ∀ offset a, Steady (g offset a)) :
    Steady fun c => f c >>= fun p => g c.offset p.1 p.2 where
  ok {c b e} h := by
    obtain ⟨⟨a, d⟩, hfirst, hsecond⟩ := bind_eq_ok_iff.mp h
    obtain ⟨hfinish, hmore⟩ := hf.ok hfirst
    obtain ⟨hfinish', hmore'⟩ := (hg c.offset a).ok hsecond
    refine ⟨hfinish'.trans hfinish, fun more => ?_⟩
    rw [hmore more, ok_bind]
    exact hmore' more
  error {c fault} h := by
    cases hfirst : f c with
    | error fault' =>
      rw [hfirst, error_bind] at h
      cases h
      exact (hf.error hfirst).bind _
    | ok p =>
      obtain ⟨a, d⟩ := p
      rw [hfirst, ok_bind] at h
      obtain ⟨hfinish, hmore⟩ := hf.ok hfirst
      have hlasts := (hg c.offset a).error h
      rw [hfinish] at hlasts
      have hboth : (fun more => f (c.extend more) >>= fun p => g (c.extend more).offset p.1 p.2)
          = fun more => g c.offset a (d.extend more) := by
        funext more
        rw [hmore more]
        rfl
      rwa [hboth]

theorem take_eq_error_iff {c : Cursor} {n : Nat} {fault : FormatFault} :
    c.take n = .error fault
      ↔ c.rest.length < n ∧ fault = .truncated c.offset (n - c.rest.length) := by
  have hlength : (c.rest.take n).length = min n c.rest.length := List.length_take
  unfold take
  simp only
  split
  · next hall => simp only [reduceCtorEq, false_iff]; omega
  · next hshort =>
    have hmissing : n - (c.rest.take n).length = n - c.rest.length := by omega
    rw [hmissing, Except.error.injEq, eq_comm]
    exact ⟨fun h => ⟨by omega, h⟩, And.right⟩

/-- Bytes that are there stay where they are, and those that are missing are missing fewer by those
that come. -/
theorem steady_take (n : Nat) : Steady fun c => c.take n where
  ok {c part d} h := by
    obtain ⟨hlength, hpasses⟩ := take_eq_ok_iff.mp h
    refine ⟨?_, fun more => take_eq_ok_iff.mpr ⟨hlength, ?_, hpasses.offset⟩⟩
    · rw [finish, finish, hpasses.offset, hpasses.rest, List.length_append, Nat.add_assoc]
    · rw [extend, extend, hpasses.rest, List.append_assoc]
  error {c fault} h := by
    obtain ⟨hshort, rfl⟩ := take_eq_error_iff.mp h
    refine ⟨Nat.le_add_right _ _, by omega, fun more hmore => take_eq_error_iff.mpr ?_⟩
    rw [extend, List.length_append, Nat.sub_add_eq]
    exact ⟨by omega, rfl⟩

theorem steady_number : Steady number :=
  (steady_take 4).bind fun _ raw => steady_pure (Bytes.toNat raw)

/-- What the bytes of a key come to, whose length stands at `offset`. -/
def keyOf (encoding : KeyEncoding) (offset : Nat) (raw : Bytes) (c : Cursor) :
    Except FormatFault (String × Cursor) :=
  match encoding.decode? raw with
  | some key => .ok (key, c)
  | none => .error (.invalidKey offset encoding)

theorem steady_keyOf (offset : Nat) (raw : Bytes) : Steady (keyOf encoding offset raw) := by
  unfold keyOf
  cases encoding.decode? raw with
  | some key => exact steady_pure key
  | none =>
    refine ⟨nofun, fun h => ?_⟩
    cases h
    exact fun _ => rfl

theorem steady_key : Steady (key encoding) :=
  steady_number.bind fun offset length =>
    (steady_take length).bind fun _ raw => steady_keyOf offset raw

/-- What the length of a value comes to that stands at `offset`. -/
def valueOf (offset length : Nat) (c : Cursor) : Except FormatFault (Option Bytes × Cursor) :=
  if length = absentMark then .ok (none, c)
  else if 2 * length < Bytes.bound 4 then c.take length >>= fun p => .ok (some p.1, p.2)
  else .error (.invalidLength offset (Bytes.signed32 length))

theorem steady_valueOf (offset length : Nat) : Steady (valueOf offset length) := by
  unfold valueOf
  by_cases habsent : length = absentMark
  · simp only [if_pos habsent]
    exact steady_pure none
  · simp only [if_neg habsent]
    by_cases hlength : 2 * length < Bytes.bound 4
    · simp only [if_pos hlength]
      exact (steady_take length).bind fun _ raw => steady_pure (some raw)
    · simp only [if_neg hlength]
      refine ⟨nofun, fun h => ?_⟩
      cases h
      exact fun _ => rfl

theorem steady_value : Steady value :=
  steady_number.bind steady_valueOf

theorem steady_entry : Steady (entry encoding) :=
  steady_key.bind fun _ key =>
    steady_value.bind fun _ value => steady_pure ({ key, value } : Entry)

/-- Entry after entry, as many as there are to be. -/
theorem steady_entries (count : Nat) : Steady (entries encoding count) := by
  induction count with
  | zero => exact steady_pure []
  | succ count ih =>
    exact steady_entry.bind fun _ e => ih.bind fun _ es => steady_pure (e :: es)

/-- How many entries there are, and then the entries. What stands behind them is not looked at. -/
def counted (encoding : KeyEncoding) (c : Cursor) : Except FormatFault (List Entry × Cursor) :=
  c.number >>= fun p => p.2.entries encoding p.1

theorem steady_counted : Steady (counted encoding) :=
  steady_number.bind fun _ count => steady_entries count

theorem counted_eq_ok_iff {c d : Cursor} {es : List Entry} :
    counted encoding c = .ok (es, d) ↔ Encodable encoding es ∧ c.Passes (form encoding es) d := by
  simp only [counted, bind_eq_ok_iff, Prod.exists, number_eq_ok_iff, entries_eq_ok_iff, form,
    passes_append]
  constructor
  · rintro ⟨count, m, ⟨hcount, hm⟩, rfl, hfits, hd⟩
    exact ⟨⟨hcount, hfits⟩, m, hm, hd⟩
  · rintro ⟨⟨hcount, hfits⟩, m, hm, hd⟩
    exact ⟨es.length, m, ⟨hcount, hm⟩, rfl, hfits, hd⟩

/-- A byte string that starts with the form of a list of entries leads behind it. -/
theorem counted_form_append {es : List Entry} (h : Encodable encoding es) (more : Bytes) :
    counted encoding { offset := 0, rest := form encoding es ++ more }
      = .ok (es, { offset := (form encoding es).length, rest := more }) :=
  counted_eq_ok_iff.mpr ⟨h, rfl, (Nat.zero_add _).symm⟩

end Cursor

/-! ## The whole reader -/

variable {encoding : KeyEncoding}

/-- What is left over behind the entries is a fault. -/
theorem read_eq_counted (b : Bytes) :
    read encoding b = Cursor.counted encoding { offset := 0, rest := b } >>= fun p =>
      if p.2.rest.isEmpty then .ok p.1 else .error (.trailingBytes p.2.rest.length) := by
  rw [read, Cursor.counted]
  cases Cursor.number { offset := 0, rest := b } <;> rfl

/-- **Bytes are left over exactly behind the form of a list of entries.** -/
theorem read_eq_trailingBytes_iff {b : Bytes} {n : Nat} :
    read encoding b = .error (.trailingBytes n) ↔
      ∃ es extra, Encodable encoding es ∧ extra ≠ [] ∧ extra.length = n
        ∧ b = form encoding es ++ extra := by
  rw [read_eq_counted]
  constructor
  · intro h
    cases hcounted : Cursor.counted encoding { offset := 0, rest := b } with
    | error fault =>
      rw [hcounted, error_bind] at h
      cases h
      exact (Cursor.steady_counted.error hcounted).elim
    | ok p =>
      obtain ⟨es, d⟩ := p
      obtain ⟨hes, hpasses⟩ := Cursor.counted_eq_ok_iff.mp hcounted
      rw [hcounted, ok_bind] at h
      split at h
      · cases h
      · next hleft =>
        cases h
        exact ⟨es, d.rest, hes, fun hnil => hleft (List.isEmpty_iff.mpr hnil), rfl, hpasses.rest⟩
  · rintro ⟨es, extra, hes, hextra, rfl, rfl⟩
    rw [Cursor.counted_form_append hes, ok_bind,
      if_neg fun hnil => hextra (List.isEmpty_iff.mp hnil)]

/-- Bytes that follow a form are left over. -/
theorem read_form_append {es : List Entry} (h : Encodable encoding es) {extra : Bytes}
    (hextra : extra ≠ []) :
    read encoding (form encoding es ++ extra) = .error (.trailingBytes extra.length) :=
  read_eq_trailingBytes_iff.mpr ⟨es, extra, h, hextra, rfl, rfl⟩

/-- Every other fault lasts. -/
theorem lasts_of_read {b : Bytes} {fault : FormatFault} (h : read encoding b = .error fault)
    (hfault : ∀ n, fault ≠ .trailingBytes n) :
    fault.Lasts b.length fun more => read encoding (b ++ more) := by
  simp only [read_eq_counted] at h ⊢
  cases hcounted : Cursor.counted encoding { offset := 0, rest := b } with
  | error fault' =>
    rw [hcounted, error_bind] at h
    cases h
    have hlasts := (Cursor.steady_counted.error hcounted).bind fun _ p =>
      if p.2.rest.isEmpty then .ok p.1 else .error (.trailingBytes p.2.rest.length)
    rwa [Cursor.finish, Nat.zero_add] at hlasts
  | ok p =>
    rw [hcounted, ok_bind] at h
    split at h
    · cases h
    · cases h
      exact absurd rfl (hfault _)

/-! ## Dictionaries -/

/-- What becomes of a byte string when more bytes follow, whether it was read or refused. -/
structure Stable {α : Type} (decode : Bytes → Except FormatFault α) : Prop where
  /-- Behind what was read all further bytes are left over. -/
  accepted : ∀ {b a}, decode b = .ok a → ∀ more, more ≠ [] →
    decode (b ++ more) = .error (.trailingBytes more.length)
  /-- The bytes that are left over are the last ones, and without them the rest is read. -/
  leftOver : ∀ {b n}, decode b = .error (.trailingBytes n) →
    n ≤ b.length ∧ (∃ a, decode (b.take (b.length - n)) = .ok a)
      ∧ ∀ more, decode (b ++ more) = .error (.trailingBytes (n + more.length))
  /-- A wrong key stays where it is. -/
  invalidKey : ∀ {b offset encoding}, decode b = .error (.invalidKey offset encoding) →
    ∀ more, decode (b ++ more) = .error (.invalidKey offset encoding)
  /-- A wrong length stays where it is. -/
  invalidLength : ∀ {b offset length}, decode b = .error (.invalidLength offset length) →
    ∀ more, decode (b ++ more) = .error (.invalidLength offset length)
  /-- Missing bytes are missing at the same place, fewer by those that came. -/
  truncated : ∀ {b offset needed}, decode b = .error (.truncated offset needed) →
    offset ≤ b.length ∧ 1 ≤ needed ∧ ∀ more : Bytes, more.length < needed →
      decode (b ++ more) = .error (.truncated offset (needed - more.length))
  /-- Bytes that begin what is read, and are not all of it, are truncated. -/
  beginning : ∀ {b a}, decode b = .ok a → ∀ start, start <+: b → start ≠ b →
    ∃ offset needed, decode start = .error (.truncated offset needed)
  /-- There is no other fault. -/
  undecryptable : ∀ b, decode b ≠ .error .undecryptable

/-- The entries are filed when all of them have been read. -/
theorem decode_eq_read (c : Comparer) (b : Bytes) :
    decode encoding c b = read encoding b >>= fun es => .ok (ofEntries c es) := by
  rw [decode]
  cases read encoding b <;> rfl

theorem decode_eq_error_iff {c : Comparer} {b : Bytes} {fault : FormatFault} :
    decode encoding c b = .error fault ↔ read encoding b = .error fault := by
  rw [decode_eq_read]
  cases read encoding b with
  | ok es => simp only [ok_bind, reduceCtorEq]
  | error fault' => rw [error_bind, Except.error.injEq, Except.error.injEq]

/-- A fault that lasts in the reader lasts for the dictionary. -/
theorem lasts_of_decode {c : Comparer} {b : Bytes} {fault : FormatFault}
    (h : decode encoding c b = .error fault) (hfault : ∀ n, fault ≠ .trailingBytes n) :
    fault.Lasts b.length fun more => decode encoding c (b ++ more) := by
  simp only [decode_eq_read]
  exact (lasts_of_read (decode_eq_error_iff.mp h) hfault).bind _

/-- Of what is read, a beginning that is not all of it can only be truncated: the bytes that it
lacks would otherwise be left over, or would meet the same fault as the beginning did. -/
theorem truncated_of_append {c : Comparer} {start more : Bytes} {d : Dictionary}
    (h : decode encoding c (start ++ more) = .ok d) (hmore : more ≠ []) :
    ∃ offset needed, decode encoding c start = .error (.truncated offset needed) := by
  obtain ⟨es, hes, hform, -⟩ := (decode_accepts_forms encoding c _ d).mp h
  have hread : read encoding (start ++ more) = .ok es := read_eq_ok_iff.mpr ⟨hes, hform⟩
  cases hstart : decode encoding c start with
  | ok d' =>
    obtain ⟨es', hes', rfl, -⟩ := (decode_accepts_forms encoding c _ d').mp hstart
    rw [read_form_append hes' hmore] at hread
    cases hread
  | error fault =>
    cases fault with
    | truncated offset needed => exact ⟨offset, needed, rfl⟩
    | trailingBytes n =>
      obtain ⟨es', extra, hes', hextra, -, rfl⟩ :=
        read_eq_trailingBytes_iff.mp (decode_eq_error_iff.mp hstart)
      have hleft : extra ++ more ≠ [] := fun hnil => hextra (List.append_eq_nil_iff.mp hnil).1
      rw [List.append_assoc, read_form_append hes' hleft] at hread
      cases hread
    | invalidLength offset length =>
      have hsame := h.symm.trans (lasts_of_decode hstart nofun more)
      cases hsame
    | invalidKey offset encoding' =>
      have hsame := h.symm.trans (lasts_of_decode hstart nofun more)
      cases hsame
    | undecryptable => exact (lasts_of_decode hstart nofun).elim

/-- **The reader of dictionaries tells by its fault what further bytes make of it**, in either
encoding and with either comparer. -/
theorem stable_decode (encoding : KeyEncoding) (c : Comparer) : Stable (decode encoding c) where
  accepted h more hmore := by
    obtain ⟨es, hes, rfl, -⟩ := (decode_accepts_forms encoding c _ _).mp h
    exact decode_eq_error_iff.mpr (read_form_append hes hmore)
  leftOver {b n} h := by
    obtain ⟨es, extra, hes, hextra, rfl, rfl⟩ :=
      read_eq_trailingBytes_iff.mp (decode_eq_error_iff.mp h)
    have hstart : (form encoding es ++ extra).take ((form encoding es ++ extra).length
        - extra.length) = form encoding es := by
      rw [List.length_append, Nat.add_sub_cancel, List.take_left]
    refine ⟨by rw [List.length_append]; omega, ?_, fun more => ?_⟩
    · rw [hstart]
      exact ⟨_, decode_form hes c⟩
    · have hleft : extra ++ more ≠ [] := fun hnil => hextra (List.append_eq_nil_iff.mp hnil).1
      rw [List.append_assoc, ← List.length_append]
      exact decode_eq_error_iff.mpr (read_form_append hes hleft)
  invalidKey h := lasts_of_decode h nofun
  invalidLength h := lasts_of_decode h nofun
  truncated h := lasts_of_decode h nofun
  beginning h start hstart hne := by
    obtain ⟨more, rfl⟩ := hstart
    exact truncated_of_append h fun hnil => hne (by rw [hnil, List.append_nil])
  undecryptable _ h := lasts_of_decode h nofun

end Dictionary.Format

end Coffer
