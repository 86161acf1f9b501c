import Coffer.Proofs.Requests

/-!
# The number of saves is the number of times that the file was replaced

A store replaces its file only by a save that succeeds, and a save that succeeds replaces it once:
the snapshot that it has just rendered bears the highest number, so it is not dropped as a late one
(`counts_save`). So each request accounts for what it did (`accounts_handle`). If a save was due it
has replaced the file once and counted it, or its answer is the error of that save, and the file is
as it was; if none was due it has done neither.

What the functions of a request do, the transform of an update or the factory of a missing value,
comes before the request itself, and what they save is counted with them: such a request can replace
the file more often than once (`not_accounts_storeAndAppend`).

Saves may overlap. A snapshot that is outstanding is written later, after whatever came in between,
and then it replaces the file once and is counted, or it is refused, or a later snapshot is in the
file already and it is dropped (`writes_or_drops`).

Counting along a run gives the tally (`Tallied`): how often the file was replaced, and how many
snapshots were dropped. Every run has one (`Reaches.tallied`), and as long as nothing was dropped
there is no other than the number of saves that the store counts (`saves_eq_tally`). Between two
requests the writes of others may wait, which the next request merges with its own and saves with
them.
-/

namespace Coffer

variable {path : String} {c : Config}

namespace Session

variable {s t u : Session} {m n : Nat}

/-! ## Replacing the file -/

/-- The session has a file at the path, and no snapshot was written that was not rendered. -/
def Files (path : String) (s : Session) : Prop :=
  ∃ a : Target, s.store.archive = .file a ∧ a.path = path ∧ a.committed ≤ a.rendered

/-- From `s` to `t` the store has replaced its file once, by the one snapshot that was rendered
meanwhile, or never. -/
inductive Replaces (path : String) (s t : Session) : Nat → Prop
  | never {a b : Target} (hs : s.store.archive = .file a) (ht : t.store.archive = .file b)
    (hcommitted : b.committed = a.committed) (hdisk : t.host.disk = s.host.disk) :
    Replaces path s t 0
  | once {a b : Target} {content : Bytes} (hs : s.store.archive = .file a)
    (ht : t.store.archive = .file b) (hrendered : b.rendered = a.rendered + 1)
    (hcommitted : b.committed = b.rendered)
    (hdisk : s.host.disk.replace path content = .ok t.host.disk) : Replaces path s t 1

/-- Whether the file was replaced can be told from the numbers of its snapshots. -/
theorem Replaces.committed {a b : Target} (h : Replaces path s t n)
    (hs : s.store.archive = .file a) (ht : t.store.archive = .file b) :
    n = 0 ∧ b.committed = a.committed ∨ n = 1 ∧ b.committed = a.rendered + 1 := by
  cases h with
  | never hs' ht' hcommitted _ =>
    obtain rfl := Archive.file.inj (hs.symm.trans hs')
    obtain rfl := Archive.file.inj (ht.symm.trans ht')
    exact .inl ⟨rfl, hcommitted⟩
  | once hs' ht' hrendered hcommitted _ =>
    obtain rfl := Archive.file.inj (hs.symm.trans hs')
    obtain rfl := Archive.file.inj (ht.symm.trans ht')
    exact .inr ⟨rfl, hcommitted.trans hrendered⟩

theorem Replaces.exists_file (h : Replaces path s t n) : ∃ b, t.store.archive = .file b := by
  cases h with
  | never _ ht | once _ ht => exact ⟨_, ht⟩

/-- **The file was not replaced both never and once.** -/
theorem Replaces.unique (h : Replaces path s t m) (h' : Replaces path s t n)
    (hfiles : s.Files path) : m = n := by
  obtain ⟨a, hs, -, hle⟩ := hfiles
  obtain ⟨b, ht⟩ := h.exists_file
  rcases h.committed hs ht with ⟨rfl, hb⟩ | ⟨rfl, hb⟩ <;>
    rcases h'.committed hs ht with ⟨rfl, hb'⟩ | ⟨rfl, hb'⟩ <;> omega

/-- A store whose configuration names a file has it. -/
theorem files_of_serves (hs : s.store.Serves c) (hpath : c.filePath = some path) :
    s.Files path := by
  obtain ⟨a, harchive, ha⟩ := hs.archive.eq_file hpath
  exact ⟨a, harchive, Option.some.inj (ha.path.symm.trans hpath), ha.committed_le⟩

theorem Files.of_archive_eq (h : s.Files path) (harchive : t.store.archive = s.store.archive) :
    t.Files path := by
  obtain ⟨a, hs, ha⟩ := h
  exact ⟨a, harchive.trans hs, ha⟩

/-- What is done in memory before and after does not count. -/
theorem Replaces.of_works {s' t' : Session} (h : Replaces path s t n) (hbefore : s'.Works s)
    (hafter : t.Works t') : Replaces path s' t' n := by
  cases h with
  | never hs ht hcommitted hdisk =>
    exact .never (hbefore.edits.archive.symm.trans hs) (hafter.edits.archive.trans ht) hcommitted
      (hafter.disk.trans (hdisk.trans hbefore.disk))
  | once hs ht hrendered hcommitted hdisk =>
    rw [hbefore.disk, ← hafter.disk] at hdisk
    exact .once (hbefore.edits.archive.symm.trans hs) (hafter.edits.archive.trans ht) hrendered
      hcommitted hdisk

/-! ## Saves -/

/-- What the store has counted as saved is what was replaced. -/
structure Counts (path : String) (n : Nat) (s t : Session) : Prop where
  replaces : Replaces path s t n
  saves : t.store.saves = s.store.saves + n
  files : t.Files path

theorem Counts.of_works {s' t' : Session} (h : Counts path n s t) (hbefore : s'.Works s)
    (hafter : t.Works t') : Counts path n s' t' where
  replaces := h.replaces.of_works hbefore hafter
  saves := by rw [hafter.edits.saves, h.saves, hbefore.edits.saves]
  files := h.files.of_archive_eq hafter.edits.archive

theorem Files.counts_of_works (h : s.Files path) (hworks : s.Works t) : Counts path 0 s t := by
  obtain ⟨a, hs, ha⟩ := h
  have ht := hworks.edits.archive.trans hs
  exact ⟨.never hs ht rfl hworks.disk, hworks.edits.saves, a, ht, ha⟩

/-- **A save that succeeds replaces the file once and is counted, and one that fails does neither.**
-/
theorem counts_save (h : s.Files path) (cancelled : Bool) :
    (∃ v, s.save cancelled = (.ok (), v) ∧ Counts path 1 s v)
      ∨ ∃ e v, s.save cancelled = (.error e, v) ∧ Counts path 0 s v := by
  obtain ⟨a, hs, rfl, hle⟩ := h
  obtain ⟨scratch, ⟨e, hsave⟩ | ⟨snapshot, disk, hnumber, -, hreplace, hsave⟩⟩ :=
    exists_save hs hle cancelled
  · exact .inr ⟨e, _, hsave, .never hs rfl rfl rfl, rfl, _, rfl, rfl, Nat.le_succ_of_le hle⟩
  · exact .inl ⟨_, hsave, .once hs rfl rfl hnumber hreplace, rfl, _, rfl, rfl,
      Nat.le_of_eq hnumber⟩

/-! ## Saves in two steps -/

/-- Rendering a snapshot leaves the file alone. -/
theorem counts_render (h : s.Files path) : Counts path 0 s s.render.2 := by
  obtain ⟨a, hs, hpath, hle⟩ := h
  have hcounted (scratch : Scratch) : Counts path 0 s (s.counted a scratch) :=
    ⟨.never hs rfl rfl rfl, rfl, _, rfl, hpath, Nat.le_succ_of_le hle⟩
  obtain ⟨scratch, ⟨e, -, hrender⟩ | ⟨snapshot, -, -, hrender⟩⟩ := exists_render hs
  · rw [hrender]
    exact hcounted scratch
  · rw [hrender]
    exact hcounted scratch

/-- From `s` to `t` the snapshot was put into the file, where an earlier one was, or the file was
left alone. No snapshot was rendered. -/
inductive Puts (path : String) (snapshot : Snapshot) (s t : Session) : Nat → Prop
  | never {a b : Target} (hs : s.store.archive = .file a) (ht : t.store.archive = .file b)
    (hrendered : b.rendered = a.rendered) (hcommitted : b.committed = a.committed)
    (hdisk : t.host.disk = s.host.disk) : Puts path snapshot s t 0
  | once {a b : Target} (hs : s.store.archive = .file a) (ht : t.store.archive = .file b)
    (hrendered : b.rendered = a.rendered) (hlater : a.committed < snapshot.number)
    (hcommitted : b.committed = snapshot.number)
    (hdisk : s.host.disk.replace path snapshot.bytes = .ok t.host.disk) : Puts path snapshot s t 1

variable {snapshot : Snapshot}

/-- Whether the snapshot was put there can be told from its number. -/
theorem Puts.committed {a b : Target} (h : Puts path snapshot s t n)
    (hs : s.store.archive = .file a) (ht : t.store.archive = .file b) :
    n = 0 ∧ b.committed = a.committed ∨ n = 1 ∧ a.committed < b.committed := by
  cases h with
  | never hs' ht' _ hcommitted _ =>
    obtain rfl := Archive.file.inj (hs.symm.trans hs')
    obtain rfl := Archive.file.inj (ht.symm.trans ht')
    exact .inl ⟨rfl, hcommitted⟩
  | once hs' ht' _ hlater hcommitted _ =>
    obtain rfl := Archive.file.inj (hs.symm.trans hs')
    obtain rfl := Archive.file.inj (ht.symm.trans ht')
    exact .inr ⟨rfl, hcommitted ▸ hlater⟩

theorem Puts.exists_files (h : Puts path snapshot s t n) :
    ∃ a b, s.store.archive = .file a ∧ t.store.archive = .file b := by
  cases h with
  | never hs ht | once hs ht => exact ⟨_, _, hs, ht⟩

/-- **It was not put there both never and once.** -/
theorem Puts.unique (h : Puts path snapshot s t m) (h' : Puts path snapshot s t n) : m = n := by
  obtain ⟨a, b, hs, ht⟩ := h.exists_files
  rcases h.committed hs ht with ⟨rfl, hb⟩ | ⟨rfl, hb⟩ <;>
    rcases h'.committed hs ht with ⟨rfl, hb'⟩ | ⟨rfl, hb'⟩ <;> omega

/-- How many snapshots the write drops because a later one is in the file: the one it is given, or
none. -/
def dropped (s : Session) (snapshot : Snapshot) (cancelled : Bool) : Nat :=
  ((s.write snapshot cancelled).1.isOk
    && s.store.archive.target?.any fun a => snapshot.number < a.committed).toNat

/-- What a write has done with the file: it has put the snapshot there and counted that, or it was
refused and has done nothing. -/
inductive Writes (path : String) (snapshot : Snapshot) (s : Session)
    (x : Except Error Unit × Session) : Prop
  | replaced (hok : x.1 = .ok ()) (hputs : Puts path snapshot s x.2 1)
    (hsaves : x.2.store.saves = s.store.saves + 1) (hfiles : x.2.Files path)
  | refused {e : Error} (herror : x.1 = .error e) (hsame : x.2 = s)

/-- **A snapshot that is outstanding replaces the file once, unless it is refused or dropped.** -/
theorem writes_or_drops (h : s.Files path) (hout : s.Outstanding snapshot) (cancelled : Bool) :
    s.dropped snapshot cancelled = 0 ∧ Writes path snapshot s (s.write snapshot cancelled)
      ∨ s.dropped snapshot cancelled = 1
        ∧ s.write snapshot cancelled
          = (.ok (), s.withStore { s.store with saves := s.store.saves + 1 }) := by
  obtain ⟨a, hs, rfl, -⟩ := h
  obtain ⟨a', hs', hnumber, hne⟩ := hout
  obtain rfl := Archive.file.inj (hs.symm.trans hs')
  have hdropped : s.dropped snapshot cancelled
      = ((s.write snapshot cancelled).1.isOk && decide (snapshot.number < a.committed)).toNat := by
    rw [dropped, hs]
    rfl
  rcases write_cases hs snapshot cancelled with
    ⟨e, hwrite⟩ | ⟨hlate, hwrite⟩ | ⟨hle, disk, hreplace, hwrite⟩
  · rw [hdropped, hwrite]
    exact .inl ⟨rfl, .refused rfl rfl⟩
  · rw [hdropped, hwrite, decide_eq_true hlate]
    exact .inr ⟨rfl, rfl⟩
  · -- the snapshot that is in the file is not outstanding
    have hlater : a.committed < snapshot.number := Nat.lt_of_le_of_ne hle (Ne.symm hne)
    rw [hdropped, hwrite, decide_eq_false (Nat.not_lt.mpr hle)]
    exact .inl ⟨rfl, .replaced rfl (.once hs rfl rfl hlater rfl hreplace) rfl
      ⟨_, rfl, rfl, hnumber⟩⟩

/-- So what the store has counted as saved is what was replaced and what was dropped. -/
theorem exists_puts (h : s.Files path) (hout : s.Outstanding snapshot) (cancelled : Bool) :
    ∃ k, Puts path snapshot s (s.write snapshot cancelled).2 k
      ∧ (s.write snapshot cancelled).2.store.saves
        = s.store.saves + k + s.dropped snapshot cancelled
      ∧ (s.write snapshot cancelled).2.Files path := by
  have hfiles : s.Files path := h
  obtain ⟨a, hs, -⟩ := h
  have hnever {t : Session} (ht : t.store.archive = .file a) (hdisk : t.host.disk = s.host.disk) :
      Puts path snapshot s t 0 := .never hs ht rfl rfl hdisk
  rcases writes_or_drops hfiles hout cancelled with
    ⟨hkept, ⟨-, hputs, hsaves, hfiles'⟩ | ⟨-, hsame⟩⟩ | ⟨hdropped, hwrite⟩
  · exact ⟨1, hputs, by rw [hsaves, hkept], hfiles'⟩
  · rw [hsame, hkept]
    exact ⟨0, hnever hs rfl, rfl, hfiles⟩
  · rw [hwrite, hdropped]
    exact ⟨0, hnever hs rfl, rfl, hfiles.of_archive_eq rfl⟩

/-! ## Operations -/

/-- What an operation has done with the file that began at `s`: it has replaced it once, it could
not save, or no save was due. -/
inductive Accounts (path : String) (due : Prop) (s : Session) (x : Answer × Session) : Prop
  | replaced (hdue : due) (hok : ∃ r, x.1 = .ok r) (hcounts : Counts path 1 s x.2)
  | failed (hdue : due) (hfailed : SaveFailed .failed x) (hcounts : Counts path 0 s x.2)
  | quiet (hdue : ¬due) (hcounts : Counts path 0 s x.2)

theorem Persists.accounts {due : Prop} {x : Answer × Session} (h : Persists .failed due s x)
    (hfiles : s.Files path) : Accounts path due s x := by
  cases h with
  | quiet hnot hworks => exact .quiet hnot (hfiles.counts_of_works hworks)
  | saved hdue hworks hsave htold hok =>
    rcases counts_save (hfiles.of_archive_eq hworks.edits.archive) _ with
      ⟨v, hsave', hcounts⟩ | ⟨e, v, hsave', -⟩
    · obtain ⟨-, rfl⟩ := Prod.mk.inj (hsave.symm.trans hsave')
      exact .replaced hdue hok (hcounts.of_works hworks (works_of_told htold))
    · cases hsave.symm.trans hsave'
  | failed hdue hworks hsave herror =>
    rcases counts_save (hfiles.of_archive_eq hworks.edits.archive) _ with
      ⟨v, hsave', -⟩ | ⟨e, v, hsave', hcounts⟩
    · cases hsave.symm.trans hsave'
    · obtain ⟨-, rfl⟩ := Prod.mk.inj (hsave.symm.trans hsave')
      exact .failed hdue ⟨_, _, _, hsave, herror⟩ (hcounts.of_works hworks (.refl _))

/-- Loading the file again reads it. -/
theorem counts_rollback (h : s.Files path) : Counts path 0 s s.rollback.2 := by
  obtain ⟨a, hs, hpath, hle⟩ := h
  obtain ⟨degraded, hload⟩ := Target.target_load a false
    ((s.store.path.map s.host.disk.fileLength).getD 0) s.host.disk s.host.scratch
  unfold rollback
  simp only [hs, Archive.load]
  split <;> exact ⟨.never hs (congrArg Archive.file hload) rfl rfl, rfl, _,
    congrArg Archive.file hload, hpath, hle⟩

/-- **A request accounts for what it did with the file.** -/
theorem accounts_handle {r : Request} (h : (r.start s).Files path) :
    Accounts path (r.IsDue (r.start s) (s.handle r).2) (r.start s) (s.handle r) := by
  by_cases hload : r = .operation .rollback
  · subst hload
    exact .quiet id (counts_rollback h)
  · exact (persists_handle s hload).accounts h

theorem Accounts.counts {due : Prop} {x : Answer × Session} (h : Accounts path due s x) :
    ∃ k, Counts path k s x.2 := by
  cases h with
  | replaced _ _ hcounts => exact ⟨1, hcounts⟩
  | failed _ _ hcounts => exact ⟨0, hcounts⟩
  | quiet _ hcounts => exact ⟨0, hcounts⟩

/-! ## Runs -/

/-- In the run from `s` to `t` the store has replaced its file `n` times and dropped `late` snapshots
because they came too late. Between two requests others may use the host, subscribe and leave, and
let writes wait. A save that is interrupted between its two steps is a step where it renders and
another where it writes. -/
inductive Tallied (path : String) : Session → (n late : Nat) → Session → Prop
  | refl (s : Session) : Tallied path s 0 0 s
  | trans {s t u : Session} {m n early late : Nat} : Tallied path s m early t →
    Tallied path t n late u → Tallied path s (m + n) (early + late) u
  | aside (s : Session) (host : Host) (feed : Feed) (pending : List Pending) :
    Tallied path s 0 0 { store := { s.store with feed, pending }, host }
  | handle (s : Session) (r : Request) {n late k : Nat}
    (hstart : Tallied path s n late (r.start s))
    (hreplaces : Replaces path (r.start s) (s.handle r).2 k) :
    Tallied path s (n + k) late (s.handle r).2
  | render (s : Session) {k : Nat} (hreplaces : Replaces path s s.render.2 k) :
    Tallied path s k 0 s.render.2
  | write (s : Session) {snapshot : Snapshot} (hout : s.Outstanding snapshot) (cancelled : Bool)
    {k : Nat} (hputs : Puts path snapshot s (s.write snapshot cancelled).2 k) :
    Tallied path s k (s.dropped snapshot cancelled) (s.write snapshot cancelled).2

variable {early late : Nat}

/-- **What is tallied in a run is what the store counts.** -/
theorem Tallied.counts (hrun : Tallied path s n late t) (h : s.Files path) :
    t.store.saves = s.store.saves + n + late ∧ t.Files path := by
  induction hrun with
  | refl => exact ⟨rfl, h⟩
  | trans _ _ ih ih' =>
    obtain ⟨hsaves, hfiles⟩ := ih h
    obtain ⟨hsaves', hfiles'⟩ := ih' hfiles
    exact ⟨by omega, hfiles'⟩
  | aside s host feed pending => exact ⟨rfl, h.of_archive_eq rfl⟩
  | handle s r _ hreplaces ih =>
    obtain ⟨hsaves, hfiles⟩ := ih h
    obtain ⟨k, hcounts⟩ := (accounts_handle hfiles).counts
    obtain rfl := hreplaces.unique hcounts.replaces hfiles
    have hsaves' := hcounts.saves
    exact ⟨by omega, hcounts.files⟩
  | render s hreplaces =>
    have hcounts := counts_render h
    obtain rfl := hreplaces.unique hcounts.replaces h
    exact ⟨hcounts.saves, hcounts.files⟩
  | write s hout cancelled hputs =>
    obtain ⟨k, hputs', hsaves, hfiles⟩ := exists_puts h hout cancelled
    obtain rfl := hputs.unique hputs'
    exact ⟨hsaves, hfiles⟩

/-- A request goes on with the tally. -/
theorem Tallied.exists_handle {r : Request} (hstart : Tallied path s n late (r.start s))
    (h : s.Files path) : ∃ m, Tallied path s m late (s.handle r).2 := by
  obtain ⟨k, hcounts⟩ := (accounts_handle (hstart.counts h).2).counts
  exact ⟨_, .handle s r hstart hcounts.replaces⟩

/-- So does rendering, -/
theorem Tallied.exists_render (hrun : Tallied path s n late t) (h : s.Files path) :
    ∃ m, Tallied path s m late t.render.2 :=
  ⟨_, hrun.trans (.render t (counts_render (hrun.counts h).2).replaces)⟩

/-- and so does writing what is outstanding. -/
theorem Tallied.exists_write (hrun : Tallied path s n late t) (h : s.Files path)
    (hout : t.Outstanding snapshot) (cancelled : Bool) :
    ∃ m, Tallied path s m (late + t.dropped snapshot cancelled) (t.write snapshot cancelled).2 := by
  obtain ⟨k, hputs, -⟩ := exists_puts (hrun.counts h).2 hout cancelled
  exact ⟨n + k, hrun.trans (.write t hout cancelled hputs)⟩

/-- **Every run has a tally.** -/
theorem Reaches.tallied (hreach : s.Reaches t) (h : s.Files path) :
    ∃ n late, Tallied path s n late t := by
  have hplain {s : Session} (o : Operation) (hstart : o.start s = s) (h : s.Files path) :
      ∃ n late, Tallied path s n late (s.perform o).2 := by
    have hbegin : Tallied path s 0 0 ((Request.operation o).start s) := by
      rw [Request.start, hstart]
      exact .refl s
    obtain ⟨n, hn⟩ := hbegin.exists_handle h
    exact ⟨n, 0, hn⟩
  -- what a function of a request does comes after the key was read
  have hafter {s u : Session} {key : String} {valueKey : Option String} (h : s.Files path)
      (hrun : (s.get key valueKey).2.Files path →
        ∃ n late, Tallied path (s.get key valueKey).2 n late u) :
      ∃ n late, Tallied path s n late u := by
    obtain ⟨m, early, hm⟩ := hplain (.get key valueKey) rfl h
    obtain ⟨n, late, hn⟩ := hrun (hm.counts h).2
    exact ⟨m + n, early + late, hm.trans hn⟩
  induction hreach with
  | refl s => exact ⟨0, 0, .refl s⟩
  | trans _ _ ih ih' =>
    obtain ⟨m, early, hm⟩ := ih h
    obtain ⟨n, late, hn⟩ := ih' (hm.counts h).2
    exact ⟨m + n, early + late, hm.trans hn⟩
  | elsewhere s host => exact ⟨0, 0, .aside s host s.store.feed s.store.pending⟩
  | subscribers s feed => exact ⟨0, 0, .aside s s.host feed s.store.pending⟩
  | subscribe s => exact ⟨0, 0, .aside s s.host s.store.feed.subscribe.2 s.store.pending⟩
  | get s key valueKey => exact hplain (.get key valueKey) rfl h
  | getBuffered s key valueKey extra => exact hplain (.getBuffered key valueKey extra) rfl h
  | render s =>
    obtain ⟨m, hm⟩ := (Tallied.refl s).exists_render h
    exact ⟨m, 0, hm⟩
  | write s hout cancelled =>
    obtain ⟨m, hm⟩ := (Tallied.refl s).exists_write h hout cancelled
    exact ⟨m, _, hm⟩
  | save s cancelled => exact hplain (.save cancelled) rfl h
  | drain s => exact hplain .drain rfl h
  | rollback s => exact hplain .rollback rfl h
  | close s => exact hplain .close rfl h
  | upsert s key value valueKey => exact hplain (.upsert key value valueKey) rfl h
  | update s key valueKey f _ ih =>
    obtain ⟨n, late, hstart⟩ :
        ∃ n late, Tallied path s n late (s.transformedBy key valueKey f) := by
      unfold transformedBy
      split
      · exact ⟨0, 0, .refl s⟩
      · exact hafter h fun hread => ih _ _ hread
    obtain ⟨m, hm⟩ := Tallied.exists_handle (r := .operation (.update key valueKey f)) hstart h
    exact ⟨m, late, hm⟩
  | getOrAdd s key valueKey make _ ih =>
    obtain ⟨n, late, hstart⟩ : ∃ n late, Tallied path s n late (s.madeBy key valueKey make) := by
      unfold madeBy
      split
      · exact hplain (.get key valueKey) rfl h
      · exact hafter h fun hread => ih _ key hread
    obtain ⟨m, hm⟩ := Tallied.exists_handle (r := .getOrAdd key valueKey make) hstart h
    exact ⟨m, late, hm⟩
  | remove s key => exact hplain (.remove key) rfl h
  | removeWhere s start test => exact hplain (.removeWhere start test) rfl h
  | clear s => exact hplain .clear rfl h

end Session

/-- A store that was opened for a file has it, and has not saved yet. -/
theorem files_of_openStore {opened host : Host} {store : Store} (hpath : c.filePath = some path)
    (hopen : opened.openStore c = (.ok store, host)) :
    Session.Files path ⟨store, host⟩ ∧ store.saves = 0 := by
  refine ⟨Session.files_of_serves (serves_of_openStore hopen) hpath, ?_⟩
  unfold Host.openStore at hopen
  split at hopen
  · cases hopen
  · simp only at hopen
    split at hopen <;> cases hopen
    rfl

namespace Session

variable {s : Session}

/-- Whatever a program does next, the store accounts for what it does with the file: every request
from where it begins, and every save that takes its two steps apart, unless its snapshot is
dropped. -/
structure Accountable (path : String) (s : Session) : Prop where
  handle : ∀ (r : Request) (k late : Nat), Tallied path s k late (r.start s) →
    Accounts path (r.IsDue (r.start s) (s.handle r).2) (r.start s) (s.handle r)
  render : Counts path 0 s s.render.2
  write : ∀ {snapshot : Snapshot} (cancelled : Bool), s.Outstanding snapshot →
    s.dropped snapshot cancelled = 0 → Writes path snapshot s (s.write snapshot cancelled)

theorem accountable_of_files (h : s.Files path) : s.Accountable path where
  handle _ _ _ hstart := accounts_handle (hstart.counts h).2
  render := counts_render h
  write cancelled hout hkept := by
    rcases writes_or_drops h hout cancelled with ⟨-, hwrites⟩ | ⟨hdropped, -⟩
    · exact hwrites
    · omega

/-- **The number of saves is the number of times that the file was replaced.** Every run from opening
a store on has a tally, and unless a snapshot was dropped in it, it is the number of saves that the
store counts then, whatever failed. From there on the store accounts for what it does: a request
replaces the file once and counts that if a save is due, unless the save fails, and does neither if
none is due; and a save in two steps does so when it writes. -/
theorem saves_eq_tally {opened host : Host} {store : Store} (hpath : c.filePath = some path)
    (hopen : opened.openStore c = (.ok store, host)) :
    (∀ s, Reaches ⟨store, host⟩ s → ∃ n late, Tallied path ⟨store, host⟩ n late s)
      ∧ ∀ n late s, Tallied path ⟨store, host⟩ n late s →
        (late = 0 → s.store.saves = n) ∧ s.Accountable path := by
  obtain ⟨hfiles, hsaves⟩ := files_of_openStore hpath hopen
  refine ⟨fun s hreach => hreach.tallied hfiles, fun n late s hrun => ?_⟩
  obtain ⟨hcount, hfiles'⟩ := hrun.counts hfiles
  refine ⟨?_, accountable_of_files hfiles'⟩
  rintro rfl
  rw [hcount, hsaves, Nat.zero_add, Nat.add_zero]

/-- A factory that stores another entry on its way. -/
def storeAndMake : Factory := fun s _ => ([1], (s.upsert "b" [2] none).2)

/-- A store that saves on every change has added a key with it, -/
def gazetteAdded : Session := ((Host.session {} gazette).getOrAdd "a" none storeAndMake).2

/-- and begun two saves, -/
def gazetteBegun : Session := gazetteAdded.render.2.render.2

/-- whose snapshots are these two. -/
def gazetteSnapshots : Snapshot × Snapshot :=
  let snapshot (x : Except Error (Option Snapshot) × Session) : Snapshot :=
    (x.1.toOption.bind id).getD ⟨0, []⟩
  (snapshot gazetteAdded.render, snapshot gazetteAdded.render.2.render)

/-- They are written in turn, -/
def gazetteWritten : Session :=
  ((gazetteBegun.write gazetteSnapshots.1 false).2.write gazetteSnapshots.2 false).2

/-- and then the folder of the file is removed. -/
def gazetteLost : Session := { gazetteWritten with host := {} }

/-- Two changes and two saves that overlap have been saved, and a third change cannot be: the file
was replaced four times. -/
theorem saves_eq_tally_gazetteLost :
    gazette.filePath = some "d/f"
      ∧ Host.openStore {} gazette
        = (.ok (Host.session {} gazette).store, (Host.session {} gazette).host)
      ∧ Tallied "d/f" (Host.session {} gazette) 4 0 (gazetteLost.handle (.operation (.remove "a"))).2
      ∧ (gazetteLost.perform (.remove "a")).2.store.saves = 4
      ∧ (gazetteLost.perform (.remove "a")).1 = .error (.failed (.io .notFound))
      ∧ Accounts "d/f" (gazetteLost.Due (gazetteLost.perform (.remove "a")).2) gazetteLost
        (gazetteLost.perform (.remove "a"))
      ∧ gazetteBegun.Outstanding gazetteSnapshots.1
      ∧ Writes "d/f" gazetteSnapshots.1 gazetteBegun
        (gazetteBegun.write gazetteSnapshots.1 false) := by
  have hopen := Host.openStore_eq_session (h := {}) (c := gazette) (by decide)
  have hpath : gazette.filePath = some "d/f" := rfl
  obtain ⟨-, htally⟩ := saves_eq_tally hpath hopen
  obtain ⟨hfiles, -⟩ := files_of_openStore hpath hopen
  -- the factory comes first
  obtain ⟨_, hread⟩ := Tallied.exists_handle (r := .operation (.get "a" none)) (.refl _) hfiles
  obtain ⟨_, hmake⟩ :=
    Tallied.exists_handle (r := .operation (.upsert "b" [2] none)) (.refl _) (hread.counts hfiles).2
  obtain ⟨_, hadded⟩ :=
    Tallied.exists_handle (r := .getOrAdd "a" none storeAndMake) (hread.trans hmake) hfiles
  obtain ⟨_, hfirst⟩ := hadded.exists_render hfiles
  obtain ⟨_, hbegun⟩ : ∃ k, Tallied "d/f" (Host.session {} gazette) k 0 gazetteBegun :=
    hfirst.exists_render hfiles
  have hout : gazetteBegun.Outstanding gazetteSnapshots.1 := by decide
  have hkept : gazetteBegun.dropped gazetteSnapshots.1 false = 0 := by decide
  obtain ⟨_, hone⟩ := hbegun.exists_write hfiles hout false
  have hout' : (gazetteBegun.write gazetteSnapshots.1 false).2.Outstanding gazetteSnapshots.2 := by
    decide
  have hkept' : (gazetteBegun.write gazetteSnapshots.1 false).2.dropped gazetteSnapshots.2 false
      = 0 := by decide
  obtain ⟨m, htwo⟩ := hone.exists_write hfiles hout' false
  rw [hkept, hkept'] at htwo
  have hlost : Tallied "d/f" (Host.session {} gazette) m 0 gazetteLost :=
    htwo.trans (.aside gazetteWritten {} gazetteWritten.store.feed gazetteWritten.store.pending)
  obtain ⟨n, hn⟩ := Tallied.exists_handle (r := .operation (.remove "a")) (.refl gazetteLost)
    (hlost.counts hfiles).2
  have hrun := hlost.trans hn
  have hsaves : (gazetteLost.perform (.remove "a")).2.store.saves = 4 := by decide
  have hfour : m + n = 4 := ((htally _ _ _ hrun).1 rfl).symm.trans hsaves
  rw [hfour] at hrun
  exact ⟨hpath, hopen, hrun, hsaves, by decide,
    (htally _ _ _ hlost).2.handle (.operation (.remove "a")) 0 0 (.refl _), hout,
    (htally _ _ _ hbegun).2.write false hout hkept⟩

/-- A store that saves on every change has been updated, and the update has stored another entry on
its way. -/
def gazetteTwice : Session :=
  ((Host.session {} gazette).perform (.update "a" none storeAndAppend)).2

/-- Counted from its beginning an update need not account for what it does: this one raises the
number of updates and replaces the file twice, for the entry that its transform stores and for its
own. -/
theorem not_accounts_storeAndAppend :
    (Host.session {} gazette).Opened gazette
      ∧ (Host.session {} gazette).store.archive.isDegraded = false
      ∧ ((Host.session {} gazette).perform (.update "a" none storeAndAppend)).1 = .ok (.value [1])
      ∧ (Host.session {} gazette).Due gazetteTwice
      ∧ gazetteTwice.store.saves = 2
      ∧ ¬Accounts "d/f"
        ((Operation.update "a" none storeAndAppend).IsDue (Host.session {} gazette) gazetteTwice)
        (Host.session {} gazette)
        ((Host.session {} gazette).perform (.update "a" none storeAndAppend)) := by
  have hsaves : gazetteTwice.store.saves = 2 := by decide
  have hstart : (Host.session {} gazette).store.saves = 0 := by decide
  have hcount {k : Nat} (h : Counts "d/f" k (Host.session {} gazette) gazetteTwice) : k = 2 := by
    have hk := h.saves
    omega
  refine ⟨Host.opened_session (by decide), by decide, by decide,
    ⟨by decide, by decide⟩, hsaves, ?_⟩
  rintro (⟨-, -, hcounts⟩ | ⟨-, -, hcounts⟩ | ⟨-, hcounts⟩)
  · cases hcount hcounts
  · cases hcount hcounts
  · cases hcount hcounts

end Session

end Coffer
