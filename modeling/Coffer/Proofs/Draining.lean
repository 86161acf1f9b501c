import Coffer.Proofs.Tallies

/-!
# One drain of many writes

Writes that wait are merged in one go and saved once. What the store holds and counts afterwards is
what it would hold and count if each write had waited alone and been drained at once, in the same
order (`drain_eq_drainEach`), however often a key comes up and in whatever spelling. For merging a
write does not look at what else is waiting, and saving does not change what is in memory.

The difference is on the disk. Draining one by one may replace the file each time. One drain
replaces it once at most, and then by a snapshot of what is in memory at the end.
-/

namespace Coffer

/-! ## Merging -/

namespace Store

theorem memory_merge (s : Store) (p : Pending) : (s.merge p).memory = s.memory.merge p := rfl

/-- Merging lets nothing wait. -/
theorem pending_foldl_merge (ps : List Pending) (s : Store) :
    (ps.foldl merge s).pending = s.pending := by
  induction ps generalizing s with
  | nil => rfl
  | cons p ps ih => exact ih (s.merge p)

end Store

namespace Session

variable {s t : Session} {c : Config} {path : String}

/-- The session with these writes waiting. -/
def waiting (s : Session) (ps : List Pending) : Session :=
  s.withStore { s.store with pending := ps }

/-- The session after each write has waited alone and was drained. -/
def drainEach (s : Session) : Session :=
  s.store.pending.foldl (fun s p => (s.waiting [p]).drain.2) (s.waiting [])

/-- What the store holds in memory, apart from what is waiting. -/
def held (s : Session) : Store := (s.waiting []).store.memory

theorem waiting_of_idle (h : s.store.pending = []) : s.waiting [] = s := by
  obtain ⟨store, host⟩ := s
  cases store
  cases h
  rfl

/-- **A drain merges what is waiting**, whether that can be saved or not. -/
theorem memory_drain (s : Session) :
    s.drain.2.store.memory = s.store.pending.foldl Store.merge s.held := by
  rw [drain_eq]
  split
  · next hidle => rw [hidle, List.foldl_nil, held, waiting_of_idle hidle]
  · have htell : ∀ store : Store, (id store).memory = store.memory := fun _ => rfl
    have hsaved := memory_saveThen htell (s.withStore s.store.mergeAll) s.store.pending.length
    -- merging goes on in memory
    exact hsaved.trans
      (List.foldl_hom Store.memory fun a p => (Store.memory_merge a p).symm).symm

theorem pending_drain (s : Session) : s.drain.2.store.pending = [] :=
  (congrArg Store.pending (memory_drain s)).trans (Store.pending_foldl_merge _ _)

theorem held_drain (s : Session) : s.drain.2.held = s.store.pending.foldl Store.merge s.held := by
  rw [held, waiting_of_idle (pending_drain s), memory_drain]

/-- **Draining one by one merges the same writes in the same order.** -/
theorem held_drainEach (s : Session) :
    s.drainEach.held = s.store.pending.foldl Store.merge s.held :=
  (List.foldl_hom held fun t p => (held_drain (t.waiting [p])).symm).symm

/-! ## Saving what was merged -/

/-- A save after a change leaves the file alone, or it replaces it once by what the store holds. -/
theorem counts_saveChange (hs : s.store.Serves c) (hpath : c.filePath = some path) :
    Counts path 0 s s.saveChange.2
      ∨ Counts path 1 s s.saveChange.2 ∧ s.saveChange.2.Recorded c := by
  have hfiles := files_of_serves hs hpath
  unfold saveChange
  split
  · rcases counts_save hfiles false with ⟨v, hsave, hcounts⟩ | ⟨e, v, hsave, hcounts⟩
    · rw [hsave]
      exact .inr ⟨hcounts, recorded_of_save hs hpath hsave⟩
    · rw [hsave]
      exact .inl hcounts
  · exact .inl (hfiles.counts_of_works (.refl s))

/-- Where there is no file, saving does nothing. -/
theorem saveChange_of_disabled (h : s.store.archive = .disabled) : s.saveChange = (.ok (), s) := by
  obtain ⟨store, host⟩ := s
  cases store
  cases h
  unfold saveChange
  split <;> rfl

/-- Telling nobody, the session after a change was saved is the one that was saved. -/
theorem saveThen_snd {α : Type} (s : Session) (a : α) : (s.saveThen a id).2 = s.saveChange.2 := by
  unfold saveThen
  split
  · next heq => rw [heq]
  · next heq => rw [heq]; rfl

/-- **One drain of many writes is many drains of one**, as to what the store holds and counts, and
nothing is left waiting. If saving does not fail the answer is how many there were. The file is left
alone, or replaced once by what the store then holds. If nothing was waiting, nothing is done. -/
theorem drain_eq_drainEach (s : Session) :
    s.drain.2.store.entries = s.drainEach.store.entries
      ∧ s.drain.2.store.estimate = s.drainEach.store.estimate
      ∧ s.drain.2.store.updates = s.drainEach.store.updates
      ∧ s.drain.2.store.pending = []
      ∧ (s.drain.1 = .ok s.store.pending.length ∨ SaveFailed id s.drain)
      ∧ (s.store.pending = [] → s.drain = (.ok 0, s))
      ∧ (∀ c path, s.store.Serves c → c.filePath = some path →
        Counts path 0 s s.drain.2 ∨ Counts path 1 s s.drain.2 ∧ s.drain.2.Recorded c)
      ∧ (s.store.archive = .disabled →
        s.drain.2.host = s.host ∧ s.drain.2.store.saves = s.store.saves) := by
  have hheld : s.drain.2.held = s.drainEach.held := (held_drain s).trans (held_drainEach s).symm
  refine ⟨(congrArg Store.entries hheld :), (congrArg Store.estimate hheld :),
    (congrArg Store.updates hheld :), pending_drain s, ?_, drain_of_idle, ?_, ?_⟩
  · rw [drain_eq]
    split
    · next hidle => rw [hidle]; exact .inl rfl
    · exact saveThen_answer _ _ id
  · intro c path hs hpath
    rw [drain_eq]
    split
    · exact .inl ((files_of_serves hs hpath).counts_of_works (.refl s))
    · have hmerged : s.Works (s.withStore s.store.mergeAll) := .of_edits s.store.edits_mergeAll.1
      rw [saveThen_snd]
      rcases counts_saveChange (s := s.withStore s.store.mergeAll) hs.mergeAll hpath with
        hcounts | ⟨hcounts, hrecorded⟩
      · exact .inl (hcounts.of_works hmerged (.refl _))
      · exact .inr ⟨hcounts.of_works hmerged (.refl _), hrecorded⟩
  · intro hdisabled
    rw [drain_eq]
    split
    · exact ⟨rfl, rfl⟩
    · obtain ⟨hedits, -⟩ := s.store.edits_mergeAll
      have hsame := saveChange_of_disabled (s := s.withStore s.store.mergeAll)
        (hedits.archive.trans hdisabled)
      rw [saveThen_snd, hsame]
      exact ⟨rfl, hedits.saves⟩

/-- The store that ignores case and saves on every change, with three writes waiting, two of them
under one key. -/
def ledgerWaiting : Session :=
  ledgerOpened.waiting [⟨"Ab", [1]⟩, ⟨"c", [2]⟩, ⟨"aB", [3, 4]⟩]

/-- They are saved once, and would be saved three times one by one. -/
theorem drain_eq_drainEach_ledger :
    ledgerWaiting.drain.1 = .ok 3
      ∧ ledgerWaiting.drain.2.store.entries.entries
        = [{ key := "Ab", value := some [3, 4] }, { key := "c", value := some [2] }]
      ∧ ledgerWaiting.drainEach.store.entries = ledgerWaiting.drain.2.store.entries
      ∧ ledgerWaiting.drainEach.store.saves = 3
      ∧ Counts "d/f" 1 ledgerWaiting ledgerWaiting.drain.2
      ∧ ledgerWaiting.drain.2.Recorded ledger := by
  have hopened : ledgerOpened.Opened ledger := Host.opened_session (by decide +kernel)
  have hserves : ledgerWaiting.store.Serves ledger := { hopened.serves with }
  have hsaves : ledgerWaiting.drain.2.store.saves = 1 := by decide +kernel
  obtain ⟨hentries, -, -, -, -, -, hfile, -⟩ := drain_eq_drainEach ledgerWaiting
  have hcounts := hfile ledger "d/f" hserves rfl
  have hfirst : ledgerWaiting.store.saves = 0 := by decide +kernel
  obtain hnever | ⟨honce, hrecorded⟩ := hcounts
  · have hzero := hnever.saves
    omega
  · exact ⟨by decide +kernel, by decide +kernel, hentries.symm, by decide +kernel, honce, hrecorded⟩

end Session

end Coffer
