import Coffer.Archive.Basic
import Coffer.Disk.Lemmas
import Coffer.Proofs.Ciphertexts
import Coffer.Proofs.Filing
import Coffer.Proofs.Writing

/-!
# What is saved is loaded

The content that an archive renders for a dictionary is the byte form of its entries in some order,
sealed if the archive has a cipher (`content_eq_ok`). From that content the archive restores the
dictionary: the same entries, though they may stand in another order (`restores_content`).

Neither the buffers nor the estimates matter to that. Rendering rents room for a ciphertext of the
right length, and reading goes on until the file is at its end (`written_readThrough`).
-/

namespace Coffer

/-! ## Dictionaries with the same entries -/

/-- `d'` has the entries of `d`, in whatever order. -/
structure Dictionary.Copies (d' d : Dictionary) : Prop where
  orderly : d'.Orderly
  comparer : d'.comparer = d.comparer
  entries : d'.entries.Perm d.entries

theorem Dictionary.Copies.get?_eq {d' d : Dictionary} (h : d'.Copies d) (hd : d.Orderly)
    (key : String) : d'.get? key = d.get? key :=
  hd.get?_eq_of_perm h.orderly h.comparer h.entries key

namespace Target

variable {t : Target} {plain b : Bytes} {d : Dictionary}

/-! ## Rendering -/

/-- `b` is what stands in the file for `plain`. -/
def Seals (t : Target) (plain b : Bytes) : Prop :=
  match t.cipher with
  | none => b = plain
  | some cipher => cipher.encrypt plain = .ok b

theorem sealed_eq_ok {scratch scratch' : Scratch}
    (h : t.sealed plain scratch = .ok (b, scratch')) : t.Seals plain b := by
  unfold Seals
  cases hcipher : t.cipher with
  | none =>
    simp only [sealed, hcipher] at h
    cases h
    rfl
  | some cipher =>
    simp only [sealed, hcipher, bind_eq_ok_iff] at h
    obtain ⟨message, hmessage, buffer, hbuffer, h⟩ := h
    cases h
    -- the rented buffer has room for the whole ciphertext, so nothing is cut off
    unfold Cipher.encryptInto at hmessage
    split at hmessage
    · cases hmessage
    · obtain ⟨key, -, hbytes⟩ := Cipher.encrypt_eq_ok_iff.mp hmessage
      have hlength : message.length = Cipher.encryptedLength plain.length := by
        rw [hbytes, Cipher.length_encryptBytes]
      obtain ⟨filled, hfilled, hwritten, -⟩ :=
        Buffer.fill_rent scratch.bytes (Nat.le_of_eq hlength)
      rw [hfilled] at hbuffer
      cases hbuffer
      show cipher.encrypt plain = .ok buffer.written
      rw [hwritten, hmessage]

theorem sound_rented (d : Dictionary) (estimate : Nat) (scratch : Scratch) :
    (rented d estimate scratch).out.Sound :=
  Buffer.sound_rent _ _

theorem written_rented (d : Dictionary) (estimate : Nat) (scratch : Scratch) :
    (rented d estimate scratch).out.written = [] :=
  Buffer.written_rent _ _

/-- A content is the byte form of the entries in the order they were gone through, sealed. -/
theorem content_eq_ok {order : Arrangement} {estimate : Nat} {scratch scratch' : Scratch}
    (h : t.content order d estimate scratch = .ok (b, scratch')) :
    Dictionary.Format.Encodable t.encoding (order.arrange d.entries)
      ∧ t.Seals (Dictionary.Format.form t.encoding (order.arrange d.entries)) b := by
  simp only [content, bind_eq_ok_iff, Prod.exists] at h
  obtain ⟨w, hw, sealed, scratch'', hsealed, h⟩ := h
  cases h
  have hwrites := Dictionary.Format.Writer.putEntries_writes (sound_rented d estimate scratch)
    t.encoding (order.arrange d.entries)
  rw [filled] at hw
  rw [hw] at hwrites
  obtain ⟨hes, happends⟩ := hwrites
  have hwritten := happends.written
  rw [written_rented, List.nil_append] at hwritten
  rw [← hwritten]
  exact ⟨hes, sealed_eq_ok hsealed⟩

/-! ## Loading -/

/-- The content is that of a sound file with the entries of `d`. -/
def Restores (t : Target) (b : Bytes) (d : Dictionary) : Prop :=
  ∃ d', t.decodeContent b = .ok (d', false) ∧ d'.Copies d

theorem decodeContent_of_seals (hseals : t.Seals plain b) (hne : plain ≠ [])
    (hdecode : Dictionary.Format.decode t.encoding t.comparer plain = .ok d) :
    t.decodeContent b = .ok (d, false) := by
  unfold Seals at hseals
  cases hcipher : t.cipher with
  | none =>
    rw [hcipher] at hseals
    subst hseals
    have hempty : ¬b.isEmpty = true := by rwa [List.isEmpty_iff]
    simp only [decodeContent, if_neg hempty, hcipher, hdecode]
  | some cipher =>
    rw [hcipher] at hseals
    have hopen : cipher.decryptInto b b.length = .ok plain := by
      rw [Cipher.decryptInto_eq (Nat.le_refl _), Cipher.tryDecrypt_eq_ok_iff, hseals]
    have hlength : b.length = 16 * (plain.length / 16 + 1) := by
      rw [Cipher.length_of_encrypt hseals, Cipher.encryptedLength_eq]
    -- a ciphertext is never empty and consists of whole blocks, so it comes to be decrypted
    have hempty : ¬b.isEmpty = true := by
      rw [List.isEmpty_iff, ← List.length_eq_zero_iff]
      omega
    have hwhole : ¬b.length % Cipher.blockSize ≠ 0 := by
      rw [Cipher.blockSize]
      omega
    simp only [decodeContent, if_neg hempty, hcipher, if_neg hwhole, hopen, hdecode]

/-- **From the content rendered for a dictionary the dictionary is restored.** -/
theorem restores_content {order : Arrangement} {estimate : Nat} {scratch scratch' : Scratch}
    (hd : d.Orderly) (hcomparer : d.comparer = t.comparer)
    (h : t.content order d estimate scratch = .ok (b, scratch')) : t.Restores b d := by
  obtain ⟨hes, hseals⟩ := content_eq_ok h
  have hperm := order.perm d.entries
  have hdecode := Dictionary.Format.decode_form hes t.comparer
  refine ⟨_, decodeContent_of_seals hseals ?_ hdecode, .ofEntries _ _, ?_, ?_⟩
  · rw [← List.length_pos_iff, Dictionary.Format.form, List.length_append, Bytes.length_ofNat]
    omega
  · rw [Dictionary.comparer_ofEntries, hcomparer]
  · -- an orderly dictionary has no equal keys, so none are merged when they are filed anew
    rw [← hcomparer, hd.entries_ofEntries_perm hperm]
    exact hperm

/-- Reading through a buffer gives the whole content, however little room there is at a time. -/
theorem written_readThrough {buffer : Buffer UInt8} (h : buffer.Sound) (pool : Pool UInt8)
    (content : Bytes) :
    (readThrough buffer pool content).1.written = buffer.written ++ content := by
  induction buffer, pool, content using readThrough.induct with
  | case1 buffer pool =>
    rw [readThrough, dif_pos rfl, List.append_nil]
    exact Buffer.written_reserve h pool readChunk
  | case2 buffer pool content reserved n hne filled _ ih =>
    have hcapacity : buffer.length + readChunk ≤ reserved.1.capacity :=
      Buffer.le_room_reserve h pool readChunk
    have hlength : reserved.1.length = buffer.length := Buffer.length_reserve buffer pool readChunk
    have hroom : reserved.1.room = reserved.1.capacity - reserved.1.length := rfl
    have hn : n = min content.length (max reserved.1.room 1) := rfl
    -- after reserving there is room for at least one byte, and what is taken fits into it
    have htake : (content.take n).length = n := by
      rw [List.length_take]
      omega
    have hfits : reserved.1.length + (content.take n).length ≤ reserved.1.capacity := by
      have hchunk : readChunk = 8192 := rfl
      omega
    have hwritten := Buffer.written_fillAhead_advanced (content.take n) hfits
    rw [htake, Buffer.written_reserve h pool readChunk] at hwritten
    rw [readThrough, dif_neg hne]
    show (readThrough { filled with length := filled.length + n } reserved.2
      (content.drop n)).1.written = buffer.written ++ content
    rw [ih ?_]
    · show Buffer.written { reserved.1.fillAhead (content.take n) with
        length := reserved.1.length + n } ++ content.drop n = _
      rw [hwritten, List.append_assoc, List.take_append_drop]
    · show reserved.1.length + n ≤ (reserved.1.fillAhead (content.take n)).capacity
      rw [Buffer.capacity_fillAhead]
      omega

/-- Loading a file that can be read decodes its content, whatever the estimate was. -/
theorem load_of_read {disk : Disk} (h : disk.read t.path = .ok b) (estimate : Nat)
    (scratch : Scratch) :
    ∃ scratch', t.load false estimate disk scratch =
      match t.decodeContent b with
      | .ok (entries, degraded) => (.ok entries, { t with degraded }, scratch')
      | .error e => (.error e, { t with degraded := false }, scratch') := by
  obtain ⟨node, hnode, hfile⟩ := bind_eq_ok_iff.mp h
  cases node with
  | folder => cases hfile
  | file content =>
    cases hfile
    have hwritten := written_readThrough (Buffer.sound_rent scratch.bytes (max estimate readChunk))
      (Buffer.rent scratch.bytes (max estimate readChunk)).2 b
    rw [Buffer.written_rent, List.nil_append] at hwritten
    simp only [load, hnode, Bool.false_eq_true, if_false, hwritten]
    exact ⟨_, rfl⟩

/-! ## Writing -/

/-- **A snapshot that is written is refused, comes too late, or is in the file then.** -/
theorem write_cases (t : Target) (s : Snapshot) (cancelled : Bool) (disk : Disk) :
    (∃ e, t.write s cancelled disk = (.error e, t, disk))
      ∨ s.number < t.committed ∧ t.write s cancelled disk = (.ok (), t, disk)
      ∨ t.committed ≤ s.number ∧ ∃ disk', disk.replace t.path s.bytes = .ok disk'
        ∧ t.write s cancelled disk = (.ok (), { t with committed := s.number }, disk') := by
  unfold write
  split
  · exact .inl ⟨_, rfl⟩
  · split
    · exact .inl ⟨_, rfl⟩
    · split
      · exact .inl ⟨_, rfl⟩
      · unfold commit
        split
        · next hlate => exact .inr (.inl ⟨hlate, rfl⟩)
        · next hnew =>
          split
          · next disk' hreplace =>
            exact .inr (.inr ⟨Nat.le_of_not_lt hnew, disk', hreplace, rfl⟩)
          · exact .inl ⟨_, rfl⟩

/-- Once it is cancelled a write has no way left to succeed. -/
theorem write_of_cancelled (t : Target) (s : Snapshot) (disk : Disk) :
    ∃ e, t.write s true disk = (.error e, t, disk) := by
  unfold write
  split
  · exact ⟨_, rfl⟩
  · split
    · exact ⟨_, rfl⟩
    · exact ⟨_, rfl⟩

/-- A snapshot is written into the file unless a later one is there. -/
theorem write_eq_ok {s : Snapshot} {cancelled : Bool} {disk disk' : Disk} {t' : Target}
    (h : t.write s cancelled disk = (.ok (), t', disk')) :
    s.number < t.committed ∧ t' = t ∧ disk' = disk
      ∨ t.committed ≤ s.number ∧ t' = { t with committed := s.number }
        ∧ disk.replace t.path s.bytes = .ok disk' := by
  rcases t.write_cases s cancelled disk with ⟨e, heq⟩ | ⟨hlate, heq⟩ | ⟨hnew, disk'', hreplace, heq⟩
  · cases h.symm.trans heq
  · cases h.symm.trans heq
    exact .inl ⟨hlate, rfl, rfl⟩
  · cases h.symm.trans heq
    exact .inr ⟨hnew, rfl, hreplace⟩

end Target

end Coffer
