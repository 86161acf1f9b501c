import Coffer.Proofs.Calls
import Coffer.Proofs.Opening

/-!
# What rendering and loading give

A snapshot holds the byte form of the dictionary, sealed if the file is encrypted; where there is no
snapshot, the error is that of the first entry that does not fit the form, or that of the cipher
(`Target.render_fst`). None of this mentions the buffer that the form was written into. So it makes
no difference which size was estimated, how often the buffer had to move on the way, even in the
middle of an entry, and what its storage had been used for before. Loading is alike
(`Archive.estimates_change_nothing`).

That goes for whole runs too: if two archives with the same file and the same settings are called in
the same way, up to estimates, then all answers are the same (`Target.State.Alike.run`).
-/

namespace Coffer

namespace Dictionary.Format

/-! ## The form, or why there is none -/

/-- What does not fit about an entry, its key first. -/
def fault? (encoding : KeyEncoding) (e : Entry) : Option Error :=
  if Bytes.bound 4 ≤ (encoding.encode e.key).length then some (.invalidArgument .keyTooLong)
  else if Bytes.bound 4 ≤ 2 * e.bytes.length then some (.invalidArgument (.valueTooLong e.key))
  else none

/-- The byte form of a list of entries, or the first thing about it that does not fit. -/
def rendition (encoding : KeyEncoding) (es : List Entry) : Except Error Bytes :=
  if es.length < Bytes.bound 4 then
    match es.findSome? (fault? encoding) with
    | some err => .error err
    | none => .ok (form encoding es)
  else .error (.invalidArgument .tooManyEntries)

variable {encoding : KeyEncoding} {e : Entry} {es : List Entry} {err : Error}

theorem fault?_eq_none_iff : fault? encoding e = none ↔ Fits encoding e := by
  unfold fault?
  constructor
  · intro h
    by_cases hkey : Bytes.bound 4 ≤ (encoding.encode e.key).length
    · rw [if_pos hkey] at h
      cases h
    · by_cases hvalue : Bytes.bound 4 ≤ 2 * e.bytes.length
      · rw [if_neg hkey, if_pos hvalue] at h
        cases h
      · exact ⟨Nat.lt_of_not_le hkey, Nat.lt_of_not_le hvalue⟩
  · rintro ⟨hkey, hvalue⟩
    rw [if_neg (Nat.not_le_of_lt hkey), if_neg (Nat.not_le_of_lt hvalue)]

/-- There is a form exactly for entries that can be counted and measured. -/
theorem rendition_eq_ok_iff {b : Bytes} :
    rendition encoding es = .ok b ↔ Encodable encoding es ∧ b = form encoding es := by
  unfold rendition
  by_cases hcount : es.length < Bytes.bound 4
  · rw [if_pos hcount]
    cases hfault : es.findSome? (fault? encoding) with
    | some err =>
      obtain ⟨e, hmem, he⟩ := List.exists_of_findSome?_eq_some hfault
      refine iff_of_false (by simp) fun h => ?_
      rw [fault?_eq_none_iff.mpr (h.1.fits e hmem)] at he
      cases he
    | none =>
      have hfits : Encodable encoding es :=
        ⟨hcount, fun e he => fault?_eq_none_iff.mp (List.findSome?_eq_none_iff.mp hfault e he)⟩
      rw [Except.ok.injEq, and_iff_right hfits, eq_comm]
  · rw [if_neg hcount]
    exact iff_of_false (by simp) fun h => hcount h.1.count

namespace Writer

variable {w : Writer}

theorem putKey_eq_error {key : String} (h : w.putKey encoding key = .error err) :
    err = .invalidArgument .keyTooLong := by
  have hlength {v : Writer} {n : Nat} {f : Writer → Writer}
      (h : (v.putKeyLength n >>= fun v => .ok (f v)) = .error err) :
      err = .invalidArgument .keyTooLong := by
    unfold putKeyLength at h
    by_cases hn : n < Bytes.bound 4
    · rw [if_pos hn, ok_bind] at h
      cases h
    · rw [if_neg hn, error_bind] at h
      exact (Except.error.inj h).symm
  cases encoding with
  | utf8 => exact hlength h
  | utf16 =>
    obtain ⟨v, hunits, -⟩ := unitsOfKey_eq_ok w key
    simp only [putKey, hunits, ok_bind] at h
    exact hlength h

theorem putValue_eq_error (h : w.putValue e = .error err) :
    Bytes.bound 4 ≤ 2 * e.bytes.length ∧ err = .invalidArgument (.valueTooLong e.key) := by
  unfold putValue at h
  cases hvalue : e.value with
  | none =>
    rw [hvalue] at h
    cases h
  | some value =>
    rw [hvalue] at h
    dsimp only at h
    rw [Entry.bytes, hvalue, Option.getD_some]
    by_cases hlt : 2 * value.length < Bytes.bound 4
    · rw [if_pos hlt] at h
      cases h
    · rw [if_neg hlt] at h
      exact ⟨Nat.le_of_not_lt hlt, (Except.error.inj h).symm⟩

/-- An entry that is not written is refused for its fault. -/
theorem putEntry_eq_error (hw : w.out.Sound) (h : putEntry encoding w e = .error err) :
    fault? encoding e = some err := by
  have hkey := putKey_writes hw encoding e.key
  unfold putEntry at h
  cases hput : w.putKey encoding e.key with
  | error err' =>
    rw [hput, error_bind] at h
    rw [hput] at hkey
    rw [fault?, if_pos (Nat.le_of_not_lt hkey), ← Except.error.inj h, putKey_eq_error hput]
  | ok w' =>
    rw [hput, ok_bind] at h
    rw [hput] at hkey
    obtain ⟨hvalue, rfl⟩ := putValue_eq_error h
    rw [fault?, if_neg (Nat.not_le_of_lt hkey.1), if_pos hvalue]

/-- Of several entries the first that does not fit is refused. -/
theorem foldlM_putEntry_eq_error (hw : w.out.Sound)
    (h : es.foldlM (putEntry encoding) w = .error err) :
    es.findSome? (fault? encoding) = some err := by
  induction es generalizing w with
  | nil => cases h
  | cons e es ih =>
    have hentry := putEntry_writes hw encoding e
    rw [List.foldlM_cons] at h
    cases hput : putEntry encoding w e with
    | error err' =>
      rw [hput, error_bind] at h
      rw [List.findSome?_cons, putEntry_eq_error hw hput, Except.error.inj h]
    | ok w' =>
      rw [hput, ok_bind] at h
      rw [hput] at hentry
      obtain ⟨hfits, happends⟩ := hentry
      rw [List.findSome?_cons, fault?_eq_none_iff.mpr hfits]
      exact ih happends.sound h

/-- **Writing appends the rendition of the entries**, whatever the buffer is and whatever it held. -/
theorem putEntries_written (hw : w.out.Sound) (encoding : KeyEncoding) (es : List Entry) :
    (w.putEntries encoding es).map (·.out.written)
      = (rendition encoding es).map (w.out.written ++ ·) := by
  have hwrites := putEntries_writes hw encoding es
  cases hput : w.putEntries encoding es with
  | ok w' =>
    rw [hput] at hwrites
    obtain ⟨hfits, happends⟩ := hwrites
    rw [rendition_eq_ok_iff.mpr ⟨hfits, rfl⟩]
    exact congrArg Except.ok happends.written
  | error err =>
    unfold putEntries at hput
    unfold rendition
    by_cases hcount : es.length < Bytes.bound 4
    · rw [if_pos hcount] at hput ⊢
      rw [foldlM_putEntry_eq_error (appends_put hw _).sound hput]
      rfl
    · rw [if_neg hcount] at hput ⊢
      rw [← Except.error.inj hput]
      rfl

end Writer

end Dictionary.Format

namespace Target

open Dictionary.Format (rendition form Encodable)

variable {t : Target} {plain b : Bytes}

/-! ## Snapshots -/

/-- What stands in the file for `plain`, or why nothing can. -/
def enciphered (t : Target) (plain : Bytes) : Except Error Bytes :=
  match t.cipher with
  | none => .ok plain
  | some cipher => cipher.encrypt plain

theorem enciphered_eq_ok_iff : t.enciphered plain = .ok b ↔ t.Seals plain b := by
  unfold enciphered Seals
  cases t.cipher with
  | none => rw [Except.ok.injEq, eq_comm]
  | some cipher => rfl

theorem sealed_fst (t : Target) (plain : Bytes) (scratch : Scratch) :
    (t.sealed plain scratch).map (·.1) = t.enciphered plain := by
  cases hsealed : t.sealed plain scratch with
  | ok r => exact (enciphered_eq_ok_iff.mpr (sealed_eq_ok hsealed)).symm
  | error err =>
    unfold sealed at hsealed
    unfold enciphered
    cases hcipher : t.cipher with
    | none =>
      rw [hcipher] at hsealed
      cases hsealed
    | some cipher =>
      -- the buffer has room for the ciphertext, so only the cipher can fail
      have hroom := Buffer.room_rent scratch.bytes (Cipher.encryptedLength plain.length)
      simp only [hcipher, Cipher.encryptInto_eq hroom] at hsealed
      cases hencrypt : cipher.encrypt plain with
      | error err' =>
        rw [hencrypt, error_bind] at hsealed
        show Except.error err = cipher.encrypt plain
        rw [hencrypt, Except.error.inj hsealed]
      | ok message =>
        have hlength := Cipher.length_of_encrypt hencrypt
        obtain ⟨filled, hfilled, -⟩ := Buffer.fill_rent scratch.bytes (Nat.le_of_eq hlength)
        rw [hencrypt, ok_bind, hfilled] at hsealed
        cases hsealed

/-- **A content is the rendition of the entries, sealed.** -/
theorem content_fst (t : Target) (order : Arrangement) (d : Dictionary) (estimate : Nat)
    (scratch : Scratch) :
    (t.content order d estimate scratch).map (·.1)
      = rendition t.encoding (order.arrange d.entries) >>= t.enciphered := by
  have hwritten := Dictionary.Format.Writer.putEntries_written (sound_rented d estimate scratch)
    t.encoding (order.arrange d.entries)
  rw [written_rented] at hwritten
  unfold content filled
  generalize Dictionary.Format.Writer.putEntries _ _ _ = r at hwritten ⊢
  cases r with
  | error err =>
    cases hform : rendition t.encoding (order.arrange d.entries) with
    | ok b =>
      rw [hform] at hwritten
      cases hwritten
    | error err' =>
      rw [hform] at hwritten
      exact hwritten
  | ok w =>
    cases hform : rendition t.encoding (order.arrange d.entries) with
    | error err' =>
      rw [hform] at hwritten
      cases hwritten
    | ok b =>
      rw [hform] at hwritten
      have hb : w.out.written = b := Except.ok.inj hwritten
      rw [ok_bind, ok_bind, ← hb, ← sealed_fst t w.out.written w.scratch]
      cases t.sealed w.out.written w.scratch with
      | error err => rfl
      | ok r => rfl

/-- **What rendering gives**: the content under its number, or the error that there is none. -/
theorem render_fst (t : Target) (order : Arrangement) (d : Dictionary) (estimate : Nat)
    (scratch : Scratch) :
    (t.render order d estimate scratch).1
      = (rendition t.encoding (order.arrange d.entries) >>= t.enciphered).map
        fun bytes => { number := t.rendered + 1, bytes } := by
  have hcontent := content_fst { t with rendered := t.rendered + 1 } order d estimate scratch
  have hencode : rendition t.encoding (order.arrange d.entries) >>= t.enciphered
      = rendition t.encoding (order.arrange d.entries)
        >>= enciphered { t with rendered := t.rendered + 1 } := rfl
  rw [hencode, ← hcontent]
  unfold render
  dsimp only
  cases content { t with rendered := t.rendered + 1 } order d estimate scratch <;> rfl

/-- A snapshot holds the form of the entries, sealed, and bears the next number. -/
theorem render_eq_ok_iff {order : Arrangement} {d : Dictionary} {estimate : Nat}
    {scratch : Scratch} {s : Snapshot} :
    (t.render order d estimate scratch).1 = .ok s ↔ s.number = t.rendered + 1
      ∧ Encodable t.encoding (order.arrange d.entries)
      ∧ t.Seals (form t.encoding (order.arrange d.entries)) s.bytes := by
  rw [render_fst]
  simp only [map_eq_ok_iff, bind_eq_ok_iff, Dictionary.Format.rendition_eq_ok_iff,
    enciphered_eq_ok_iff]
  constructor
  · rintro ⟨bytes, ⟨plain, ⟨hfits, rfl⟩, hseals⟩, rfl⟩
    exact ⟨rfl, hfits, hseals⟩
  · rintro ⟨hnumber, hfits, hseals⟩
    exact ⟨s.bytes, ⟨_, ⟨hfits, rfl⟩, hseals⟩, by rw [← hnumber]⟩

/-! ## Loads -/

/-- What a load gives and what it makes of the archive. A cancel is told once the file is open. -/
def loaded (t : Target) (cancelled : Bool) (disk : Disk) : Except Error Dictionary × Target :=
  if cancelled ∧ (disk.stat t.path).isOk then (.error .cancelled, { t with degraded := false })
  else ((t.reads disk).map (·.1), { t with degraded := degrades (t.reads disk) })

/-- **What loading gives does not depend on the estimate**, nor on the buffers. -/
theorem load_eq_loaded (t : Target) (cancelled : Bool) (estimate : Nat) (disk : Disk)
    (scratch : Scratch) :
    (t.load cancelled estimate disk scratch).1 = (t.loaded cancelled disk).1
      ∧ (t.load cancelled estimate disk scratch).2.1 = (t.loaded cancelled disk).2 := by
  by_cases hcancelled : cancelled = true
  · subst hcancelled
    unfold loaded load reads
    cases hstat : disk.stat t.path with
    | ok node => simp only [hstat]; exact ⟨rfl, rfl⟩
    | error f => cases f <;> simp only [hstat] <;> exact ⟨rfl, rfl⟩
  · rw [Bool.not_eq_true] at hcancelled
    subst hcancelled
    obtain ⟨degraded, htarget⟩ := target_load t false estimate disk scratch
    have hdegraded := degraded_load t estimate disk scratch
    rw [htarget] at hdegraded
    have hdegraded : degraded = degrades (t.reads disk) := hdegraded
    rw [htarget, load_fst, loaded, if_neg (by simp), hdegraded]
    exact ⟨rfl, rfl⟩

/-! ## Runs of calls -/

/-- The same call, but for the estimate. -/
inductive Call.Alike : Call → Call → Prop where
  | render (order : Arrangement) (d : Dictionary) (estimate estimate' : Nat) :
    Alike (.render order d estimate) (.render order d estimate')
  | write (s : Snapshot) (cancelled : Bool) : Alike (.write s cancelled) (.write s cancelled)
  | load (cancelled : Bool) (estimate estimate' : Nat) :
    Alike (.load cancelled estimate) (.load cancelled estimate')
  | elsewhere (disk : Disk) : Alike (.elsewhere disk) (.elsewhere disk)

/-- The same archive on the same disk, but for the buffers. -/
structure State.Alike (st st' : State) : Prop where
  target : st'.target = st.target
  disk : st'.disk = st.disk

variable {st st' : State} {call call' : Call}

/-- One call is answered alike, and leaves things alike. -/
theorem State.Alike.step (h : st.Alike st') (hcall : call.Alike call') :
    (st'.step call').1 = (st.step call).1 ∧ (st.step call).2.Alike (st'.step call').2 := by
  obtain ⟨target, disk, scratch⟩ := st
  obtain ⟨target', disk', scratch'⟩ := st'
  obtain ⟨htarget, hdisk⟩ := h
  dsimp only at htarget hdisk
  subst htarget hdisk
  cases hcall with
  | render order d estimate estimate' =>
    have hresult := (render_fst target' order d estimate' scratch').trans
      (render_fst target' order d estimate scratch).symm
    have htarget := (target_render target' order d estimate' scratch').trans
      (target_render target' order d estimate scratch).symm
    simp only [State.step]
    generalize target'.render order d estimate scratch = r at hresult htarget ⊢
    generalize target'.render order d estimate' scratch' = r' at hresult htarget ⊢
    exact ⟨congrArg Answer.rendered hresult, htarget, rfl⟩
  | write s cancelled =>
    simp only [State.step]
    generalize target'.write s cancelled disk' = r
    exact ⟨trivial, rfl, rfl⟩
  | load cancelled estimate estimate' =>
    obtain ⟨hresult, htarget⟩ := load_eq_loaded target' cancelled estimate disk' scratch
    obtain ⟨hresult', htarget'⟩ := load_eq_loaded target' cancelled estimate' disk' scratch'
    simp only [State.step]
    generalize target'.load cancelled estimate disk' scratch = r at hresult htarget ⊢
    generalize target'.load cancelled estimate' disk' scratch' = r' at hresult' htarget' ⊢
    exact ⟨congrArg Answer.loaded (hresult'.trans hresult.symm), htarget'.trans htarget.symm, rfl⟩
  | elsewhere disk => exact ⟨rfl, rfl, rfl⟩

/-- **Runs that differ in their estimates only have the same answers**, and end alike. -/
theorem State.Alike.run {calls calls' : List Call} (h : st.Alike st')
    (hcalls : List.Forall₂ Call.Alike calls calls') :
    (st'.history calls').map (·.answer) = (st.history calls).map (·.answer)
      ∧ (st.run calls).Alike (st'.run calls') := by
  induction hcalls generalizing st st' with
  | nil => exact ⟨rfl, h⟩
  | cons hcall _ ih =>
    obtain ⟨hanswer, hafter⟩ := h.step hcall
    obtain ⟨hanswers, hend⟩ := ih hafter
    exact ⟨congrArg₂ List.cons hanswer hanswers, hend⟩

end Target

/-! ## Archives -/

namespace Archive

/-- **Estimates and recycled buffers change nothing.** A dictionary is rendered to the same snapshot
or the same error whatever size was estimated and whatever buffers were at hand; the snapshot holds
the byte form of the dictionary, sealed if the file has a key. And a file is loaded to the same
dictionary or the same error. -/
theorem estimates_change_nothing :
    (∀ (a : Archive) order d estimate estimate' scratch scratch',
      (a.render order d estimate scratch).1 = (a.render order d estimate' scratch').1
        ∧ (a.render order d estimate scratch).2.1 = (a.render order d estimate' scratch').2.1)
      ∧ (∀ (t : Target) order d estimate scratch (s : Snapshot),
        ((Archive.file t).render order d estimate scratch).1 = .ok (some s)
          ↔ s.number = t.rendered + 1
            ∧ Dictionary.Format.Encodable t.encoding (order.arrange d.entries)
            ∧ t.Seals (Dictionary.Format.form t.encoding (order.arrange d.entries)) s.bytes)
      ∧ ∀ (a : Archive) cancelled estimate estimate' ignoreCase disk scratch scratch',
        (a.load cancelled estimate ignoreCase disk scratch).1
            = (a.load cancelled estimate' ignoreCase disk scratch').1
          ∧ (a.load cancelled estimate ignoreCase disk scratch).2.1
            = (a.load cancelled estimate' ignoreCase disk scratch').2.1 := by
  refine ⟨?_, ?_, ?_⟩
  · intro a order d estimate estimate' scratch scratch'
    cases a with
    | disabled => exact ⟨rfl, rfl⟩
    | file t =>
      refine ⟨?_, ?_⟩
      · show (t.render order d estimate scratch).1.map some
          = (t.render order d estimate' scratch').1.map some
        rw [Target.render_fst, Target.render_fst]
      · show Archive.file (t.render order d estimate scratch).2.1
          = .file (t.render order d estimate' scratch').2.1
        rw [Target.target_render, Target.target_render]
  · intro t order d estimate scratch s
    show (t.render order d estimate scratch).1.map some = .ok (some s) ↔ _
    have hok : (t.render order d estimate scratch).1 = .ok s ↔ _ := Target.render_eq_ok_iff
    rw [map_eq_ok_iff, ← hok]
    simp only [Option.some.injEq, exists_eq_right]
  · intro a cancelled estimate estimate' ignoreCase disk scratch scratch'
    cases a with
    | disabled => exact ⟨rfl, rfl⟩
    | file t =>
      obtain ⟨hresult, htarget⟩ := t.load_eq_loaded cancelled estimate disk scratch
      obtain ⟨hresult', htarget'⟩ := t.load_eq_loaded cancelled estimate' disk scratch'
      exact ⟨hresult.trans hresult'.symm,
        congrArg Archive.file (htarget.trans htarget'.symm)⟩

end Archive

end Coffer
