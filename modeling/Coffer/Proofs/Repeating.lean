import Coffer.Proofs.Agreement
import Coffer.Proofs.Effects

/-!
# When a save succeeds

A save succeeds if and only if the entries can be written, the archive is not degraded and the disk
takes the file (`Session.save_eq_ok_iff`). Whether the disk takes a file does not depend on the
content, and once it has taken it, it takes it again. So a save that succeeded can be repeated as
long as the entries stay the same (`Session.Savable.save`).
-/

namespace Coffer

/-! ## Disks -/

namespace Disk

variable {d d' : Disk} {path : String} {b : Bytes}

/-- A new file can be put in the place of the one at the path. -/
structure Takes (d : Disk) (path : String) : Prop where
  beside : d.checkBeside path = .ok ()
  locate : ∃ p, d.locate path = .ok p ∧ d.node? p ≠ some .folder
  written : ∃ p, d.walk [] (Path.writtenNames path) = .ok p
  dots : ¬Path.endsInDots path
  slash : ¬Path.endsInSlash path

theorem Takes.parts (h : d.Takes path) : ∃ names, Path.parts path = .ok names := by
  obtain ⟨p, hlocate, -⟩ := h.locate
  obtain ⟨names, hparts, -⟩ := bind_eq_ok_iff.mp hlocate
  exact ⟨names, hparts⟩

/-- **A file is replaced wherever the disk takes it**, whatever its content is to be. -/
theorem Takes.replace (h : d.Takes path) (b : Bytes) : ∃ d', d.replace path b = .ok d' := by
  obtain ⟨p, hlocate, hp⟩ := h.locate
  obtain ⟨q, hwritten⟩ := h.written
  obtain ⟨names, hparts⟩ := h.parts
  refine ⟨d.put p (.file b), ?_⟩
  simp only [Disk.replace, h.beside, hparts, hwritten, ok_bind, if_neg h.dots, if_neg h.slash,
    putFile, hlocate, if_neg hp]
  rfl

theorem takes_of_replace (h : d.replace path b = .ok d') : d.Takes path := by
  obtain ⟨p, hlocate, hp, -⟩ := replace_eq_ok h
  obtain ⟨hdots, hslash⟩ := ends_of_replace h
  simp only [Disk.replace, bind_eq_ok_iff] at h
  obtain ⟨_, hbeside, _, -, q, hwritten, -⟩ := h
  exact ⟨hbeside, ⟨p, hlocate, hp⟩, ⟨q, hwritten⟩, hdots, hslash⟩

/-- A folder stays where a file is put in no folder's place. -/
theorem node?_put_folder {p q : Place} (hp : d.node? p ≠ some .folder)
    (hq : d.node? q = some .folder) : (d.put p (.file b)).node? q = some .folder := by
  have houter : ¬p.isOuter := fun h0 => hp (by simp [node?, h0])
  have hne : q ≠ p := fun heq => hp (heq ▸ hq)
  rw [node?_put d houter, if_neg hne, hq]

theorem checkFolder_put {p : Place} (hp : d.node? p ≠ some .folder)
    (h : d.checkFolder path = .ok ()) : (d.put p (.file b)).checkFolder path = .ok () := by
  obtain ⟨q, hwalk, hq⟩ := bind_eq_ok_iff.mp h
  cases hnode : d.node? q with
  | none =>
    rw [hnode] at hq
    cases hq
  | some node =>
    rw [hnode] at hq
    cases node with
    | file content => cases hq
    | folder =>
      rw [checkFolder, walk_put hp hwalk, ok_bind, node?_put_folder hp hnode]

/-- **A disk that took a file takes it again.** -/
theorem takes_replaced (h : d.replace path b = .ok d') : d'.Takes path := by
  have htakes := takes_of_replace h
  obtain ⟨p, hlocate, hp, rfl⟩ := replace_eq_ok h
  have houter : ¬p.isOuter := fun h0 => hp (by simp [node?, h0])
  obtain ⟨q, hwritten⟩ := htakes.written
  refine ⟨?_, ⟨p, locate_put hp hlocate, ?_⟩, ⟨q, walk_put hp hwritten⟩, htakes.dots, htakes.slash⟩
  · have hbeside := htakes.beside
    unfold checkBeside at hbeside ⊢
    simp only at hbeside ⊢
    split at hbeside
    · cases hbeside
    · next hlength =>
      have hsame : ¬Path.lengthLimit < (d.put p (.file b)).root + 1
          + (Path.folder path).utf8ByteSize + 1 + Path.freshNameLength := hlength
      rw [if_neg hsame]
      exact checkFolder_put hp hbeside
  · rw [node?_put d houter, if_pos rfl]
    simp

end Disk

/-! ## Archives -/

namespace Target

variable {t : Target} {c : Config} {d : Dictionary}

/-- The cipher of an archive was made of a passphrase and has its key. -/
theorem Serves.key (h : t.Serves c) {cipher : Cipher} (hcipher : t.cipher = some cipher) :
    ∃ key, cipher.key = some key := by
  have hfile := h.cipher
  rw [hcipher, Config.fileCipher] at hfile
  cases hpassphrase : c.activePassphrase with
  | none =>
    rw [hpassphrase] at hfile
    cases hfile
  | some passphrase =>
    obtain ⟨made, hmade⟩ := Cipher.exists_ofPassphrase hpassphrase
    rw [hpassphrase] at hfile
    simp only [hmade] at hfile
    cases hfile
    exact ⟨made, rfl⟩

/-- An archive that has its key seals every content. -/
theorem Serves.sealed_isOk (h : t.Serves c) (plain : Bytes) (scratch : Scratch) :
    ∃ r, t.sealed plain scratch = .ok r := by
  unfold sealed
  cases hcipher : t.cipher with
  | none => exact ⟨_, rfl⟩
  | some cipher =>
    obtain ⟨key, hkey⟩ := h.key hcipher
    have hencrypt : cipher.encrypt plain = .ok (Cipher.encryptBytes key plain) :=
      Cipher.encrypt_eq_ok_iff.mpr ⟨key, hkey, rfl⟩
    have hlength := Cipher.length_of_encrypt hencrypt
    obtain ⟨buffer, hbuffer, -, -⟩ := Buffer.fill_rent scratch.bytes (Nat.le_of_eq hlength)
    simp only [Cipher.encryptInto_eq (Buffer.room_rent _ _), hencrypt, ok_bind, hbuffer]
    exact ⟨_, rfl⟩

/-- **Entries that can be written are rendered**, whatever the buffers and the estimate. -/
theorem Serves.content_isOk_iff (h : t.Serves c) (order : Arrangement) (estimate : Nat)
    (scratch : Scratch) :
    (∃ r, t.content order d estimate scratch = .ok r)
      ↔ Dictionary.Format.Encodable c.encoding d.entries := by
  constructor
  · rintro ⟨⟨b, scratch'⟩, hcontent⟩
    rw [← h.encoding]
    exact (content_eq_ok hcontent).1.perm (order.perm d.entries).symm
  · intro hes
    rw [← h.encoding] at hes
    obtain ⟨w, hw, -⟩ := (Dictionary.Format.Writer.putEntries_writes
      (sound_rented d estimate scratch) t.encoding (order.arrange d.entries)).isOk
      (hes.perm (order.perm d.entries))
    obtain ⟨r, hsealed⟩ := h.sealed_isOk w.out.written w.scratch
    simp only [content, filled, hw, ok_bind, hsealed]
    exact ⟨_, rfl⟩

/-- A snapshot that is not late is written if and only if the archive is not degraded and the disk
takes the file. -/
theorem write_eq_ok_iff {s : Snapshot} {disk disk' : Disk} {t' : Target}
    (hnumber : t.committed ≤ s.number) :
    t.write s false disk = (.ok (), t', disk') ↔
      t.degraded = false ∧ disk.Takes t.path ∧ t' = { t with committed := s.number }
        ∧ disk.replace t.path s.bytes = .ok disk' := by
  constructor
  · intro h
    have hsound : t.degraded = false := by
      by_contra hdegraded
      rw [write, if_pos (by simpa using hdegraded)] at h
      cases h
    rcases write_eq_ok h with ⟨hlate, -⟩ | ⟨-, ht', hreplace⟩
    · omega
    · exact ⟨hsound, Disk.takes_of_replace hreplace, ht', hreplace⟩
  · rintro ⟨hsound, htakes, rfl, hreplace⟩
    have hnot : ¬t.degraded = true := by simp [hsound]
    rw [write, if_neg hnot, htakes.beside]
    simp only [Bool.false_eq_true, if_false, commit, if_neg (Nat.not_lt.mpr hnumber), hreplace]

end Target

/-! ## Sessions -/

namespace Session

variable {c : Config} {path : String} {s : Session}

/-- What a save needs: entries that can be written, an archive that is not degraded, and a disk that
takes the file. -/
structure Savable (s : Session) (c : Config) (path : String) : Prop where
  encodable : Dictionary.Format.Encodable c.encoding s.store.entries.entries
  sound : s.store.archive.isDegraded = false
  takes : s.host.disk.Takes path

/-- What a save that succeeds needed, and what it did to the archive and the disk. -/
theorem save_cases (hs : s.store.Serves c) (hpath : c.filePath = some path) :
    (s.Savable c path ∧ (s.save false).1 = .ok ()
        ∧ (s.save false).2.store.archive.isDegraded = false
        ∧ (s.save false).2.host.disk.Takes path)
      ∨ ¬s.Savable c path ∧ ∃ e, (s.save false).1 = .error e := by
  obtain ⟨t, harchive, ht⟩ := hs.archive.eq_file hpath
  obtain rfl : path = t.path := Option.some.inj (hpath.symm.trans ht.path)
  have hrendering := Target.Serves.content_isOk_iff (d := s.store.entries) ht.counted
    s.host.order s.store.estimate s.host.scratch
  obtain ⟨scratch, ⟨e, hcontent, hrender⟩ | ⟨snapshot, hnumber, hcontent, hrender⟩⟩ :=
    exists_render harchive
  · refine .inr ⟨fun hsavable => ?_, e, by rw [save, hrender]⟩
    obtain ⟨r, hrendered⟩ := hrendering.mpr hsavable.encodable
    cases hcontent.symm.trans hrendered
  · have hencodable := hrendering.mp ⟨_, hcontent⟩
    have hlate : Target.committed { t with rendered := t.rendered + 1 } ≤ snapshot.number :=
      Nat.le_trans (Nat.le_succ_of_le ht.committed_le) (Nat.le_of_eq hnumber.symm)
    have hsave : s.save false = (s.counted t scratch).write snapshot false := by
      rw [save, hrender]
    rw [hsave]
    simp only [write, counted, Archive.write]
    cases hwrite : Target.write { t with rendered := t.rendered + 1 } snapshot false
      s.host.disk with
    | mk written rest =>
      obtain ⟨t', disk⟩ := rest
      cases written with
      | ok u =>
        obtain ⟨hsound, htakes, rfl, hreplace⟩ := (Target.write_eq_ok_iff hlate).mp hwrite
        exact .inl ⟨⟨hencodable, harchive ▸ hsound, htakes⟩, rfl, hsound,
          Disk.takes_replaced hreplace⟩
      | error e =>
        refine .inr ⟨fun hsavable => ?_, ⟨e, rfl⟩⟩
        obtain ⟨disk', hreplace⟩ := hsavable.takes.replace snapshot.bytes
        have hsound : t.degraded = false := by
          have hdegraded := hsavable.sound
          rwa [harchive] at hdegraded
        have hok := (Target.write_eq_ok_iff hlate).mpr ⟨hsound, hsavable.takes, rfl, hreplace⟩
        rw [hwrite] at hok
        cases hok

/-- **A save succeeds if and only if it has what it needs.** -/
theorem save_eq_ok_iff (hs : s.store.Serves c) (hpath : c.filePath = some path) :
    (s.save false).1 = .ok () ↔ s.Savable c path := by
  rcases save_cases hs hpath with ⟨hsavable, hok, -⟩ | ⟨hnot, e, herror⟩
  · exact iff_of_true hok hsavable
  · exact iff_of_false (by rw [herror]; nofun) hnot

/-- **A save that succeeded can be repeated.** -/
theorem Savable.save (h : s.Savable c path) (hs : s.store.Serves c)
    (hpath : c.filePath = some path) : (s.save false).2.Savable c path := by
  rcases save_cases hs hpath with ⟨-, -, hsound, htakes⟩ | ⟨hnot, -⟩
  · have hentries : (s.save false).2.store.entries = s.store.entries :=
      (congrArg Store.entries (unsaved_save s false) :)
    exact ⟨hentries ▸ h.encodable, hsound, htakes⟩
  · exact absurd h hnot

/-! ### Changes that are saved -/

section Telling

variable {α : Type} {a : α} {tell : Store → Store}

/-- Who is told of a change makes no difference to a save. -/
theorem savable_tell (htell : ∀ store : Store, ∃ feed, tell store = { store with feed }) :
    (s.withStore (tell s.store)).Savable c path ↔ s.Savable c path := by
  obtain ⟨feed, hfeed⟩ := htell s.store
  rw [hfeed]
  exact ⟨fun h => ⟨h.encodable, h.sound, h.takes⟩, fun h => ⟨h.encodable, h.sound, h.takes⟩⟩

/-- The store that a change was saved of, if it was to be, serves the same configuration and has the
same entries. -/
theorem serves_saveThen (hs : s.store.Serves c)
    (htell : ∀ store : Store, ∃ feed, tell store = { store with feed }) :
    (s.saveThen a tell).2.store.Serves c
      ∧ (s.saveThen a tell).2.store.entries = s.store.entries := by
  have hserves := serves_saveChange hs
  have hentries : s.saveChange.2.store.entries = s.store.entries :=
    (congrArg Store.entries (unsaved_saveChange s) :)
  unfold Session.saveThen
  generalize s.saveChange = x at hserves hentries
  obtain ⟨e | u, s'⟩ := x
  · exact ⟨hserves, hentries⟩
  · obtain ⟨feed, hfeed⟩ := htell s'.store
    simp only [hfeed]
    exact ⟨{ hserves with }, hentries⟩

/-- A change that can be saved is made, and can be saved then, too. -/
theorem Savable.saveThen (h : s.Savable c path) (hs : s.store.Serves c)
    (hpath : c.filePath = some path)
    (htell : ∀ store : Store, ∃ feed, tell store = { store with feed }) :
    (s.saveThen a tell).1 = .ok a ∧ (s.saveThen a tell).2.Savable c path := by
  have hsaved : s.saveChange.1 = .ok () ∧ s.saveChange.2.Savable c path := by
    unfold saveChange
    split
    · exact ⟨(save_eq_ok_iff hs hpath).mpr h, h.save hs hpath⟩
    · exact ⟨rfl, h⟩
  unfold Session.saveThen
  generalize s.saveChange = x at hsaved
  obtain ⟨e | u, s'⟩ := x
  · cases hsaved.1
  · exact ⟨rfl, (savable_tell htell).mpr hsaved.2⟩

/-- A change that cannot be saved leaves the disk as it was. If it is not saved at once, it cannot
be saved afterwards either. -/
theorem saveThen_of_not_savable (h : ¬s.Savable c path) (hs : s.store.Serves c)
    (hpath : c.filePath = some path)
    (htell : ∀ store : Store, ∃ feed, tell store = { store with feed }) :
    (s.saveThen a tell).2.host.disk = s.host.disk
      ∧ ((∃ e, (s.saveThen a tell).1 = .error e) ∨ ¬(s.saveThen a tell).2.Savable c path) := by
  have hsaved : s.saveChange.2.host.disk = s.host.disk
      ∧ ((∃ e, s.saveChange.1 = .error e) ∨ ¬s.saveChange.2.Savable c path) := by
    unfold saveChange
    split
    · cases hsave : (s.save false).1 with
      | error e => exact ⟨disk_of_save_error hsave, .inl ⟨e, rfl⟩⟩
      | ok u => exact absurd ((save_eq_ok_iff hs hpath).mp hsave) h
    · exact ⟨rfl, .inr h⟩
  unfold Session.saveThen
  generalize s.saveChange = x at hsaved
  obtain ⟨e | u, s'⟩ := x
  · exact ⟨hsaved.1, .inl ⟨e, rfl⟩⟩
  · refine ⟨hsaved.1, .inr fun htold => ?_⟩
    rcases hsaved.2 with ⟨e, he⟩ | hnot
    · cases he
    · exact hnot ((savable_tell htell).mp htold)

end Telling

end Session

end Coffer
