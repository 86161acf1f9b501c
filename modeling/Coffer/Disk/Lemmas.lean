import Coffer.Disk.Basic

/-!
# What is in a file after it was replaced

A file that was replaced holds the new content (`read_replace`), and under every path that leads
elsewhere stands what stood there before (`stat_replace_of_ne`).

The point is that a path still leads to the same place afterwards. On its way it passes folders
only, and what is replaced is no folder.
-/

namespace Coffer.Disk

theorem node?_put (d : Disk) {p : Place} (hp : ¬p.isOuter) (q : Place) (n : Node) :
    (d.put p n).node? q = if q = p then some n else d.node? q := by
  unfold node? put
  by_cases hq : q.isOuter
  · have hqp : q ≠ p := fun h => hp (h ▸ hq)
    rw [if_pos hq, if_neg hqp, if_pos hq]
  · rw [if_neg hq, if_neg hq]
    by_cases hqp : q = p
    · simp [hqp]
    · have hbeq : (q == p) = false := by simpa using hqp
      rw [if_neg hqp, List.lookup_cons, hbeq]
      simp only
      induction d.nodes with
      | nil => rfl
      | cons entry rest ih =>
        obtain ⟨r, m⟩ := entry
        by_cases hr : r = p
        · have hqr : (q == r) = false := by
            simp only [beq_eq_false_iff_ne, ne_eq]
            exact fun h => hqp (h.trans hr)
          rw [List.filter_cons_of_neg (by simpa using hr), List.lookup_cons, hqr]
          exact ih
        · rw [List.filter_cons_of_pos (by simpa using hr), List.lookup_cons, List.lookup_cons, ih]

/-- A walk does not notice a change of what is no folder before and after. -/
theorem walk_put {d : Disk} {p : Place} {n : Node} (hp : d.node? p ≠ some .folder)
    {here : Place} {names : List String} {q : Place} (h : d.walk here names = .ok q) :
    (d.put p n).walk here names = .ok q := by
  have houter : ¬p.isOuter := by
    intro h0
    exact hp (by simp [node?, h0])
  induction names generalizing here with
  | nil => exact h
  | cons name rest ih =>
    unfold walk at h ⊢
    rw [node?_put d houter]
    cases hnode : d.node? here with
    | none => simp [hnode] at h
    | some m =>
      cases m with
      | file content => simp [hnode] at h
      | folder =>
        have hne : here ≠ p := fun h0 => hp (h0 ▸ hnode)
        rw [if_neg hne]
        simp only [hnode] at h ⊢
        split
        · rename_i hname
          rw [if_pos hname] at h
          exact ih h
        · rename_i hname
          rw [if_neg hname] at h
          split
          · rename_i hup
            rw [if_pos hup] at h
            exact ih h
          · rename_i hup
            rw [if_neg hup] at h
            split
            · rename_i hlong
              rw [if_pos hlong] at h
              cases h
            · rename_i hlong
              rw [if_neg hlong] at h
              exact ih h

theorem locate_put {d : Disk} {p : Place} {n : Node} (hp : d.node? p ≠ some .folder)
    {path : String} {q : Place} (h : d.locate path = .ok q) :
    (d.put p n).locate path = .ok q := by
  unfold locate at h ⊢
  cases hparts : Path.parts path with
  | error f => simp [hparts, bind, Except.bind] at h
  | ok parts =>
    simp only [hparts, bind, Except.bind] at h ⊢
    exact walk_put hp h

/-- Putting a file changes what stands at one place, where no folder stood. -/
theorem putFile_eq_ok {d d' : Disk} {path : String} {b : Bytes} (h : d.putFile path b = .ok d') :
    ∃ p, d.locate path = .ok p ∧ d.node? p ≠ some .folder ∧ d' = d.put p (.file b) := by
  cases hlocate : d.locate path with
  | error f => simp [putFile, hlocate, bind, Except.bind] at h
  | ok p =>
    simp only [putFile, hlocate, bind, Except.bind] at h
    split at h
    · cases h
    · rename_i hp
      cases h
      exact ⟨p, rfl, hp, rfl⟩

/-- Replacing a file changes what stands at one place, where no folder stood. -/
theorem replace_eq_ok {d d' : Disk} {path : String} {b : Bytes} (h : d.replace path b = .ok d') :
    ∃ p, d.locate path = .ok p ∧ d.node? p ≠ some .folder ∧ d' = d.put p (.file b) := by
  unfold replace at h
  cases hcheck : d.checkBeside path with
  | error f => simp [hcheck, bind, Except.bind] at h
  | ok u =>
    cases hparts : Path.parts path with
    | error f => simp [hcheck, hparts, bind, Except.bind] at h
    | ok parts =>
      cases hwalk : d.walk [] (Path.writtenNames path) with
      | error f => simp [hcheck, hparts, hwalk, bind, Except.bind] at h
      | ok q =>
        simp only [hcheck, hparts, hwalk, bind, Except.bind] at h
        split at h
        · cases h
        · split at h
          · cases h
          · exact putFile_eq_ok h

/-- **A file that was replaced holds the new content.** -/
theorem read_replace {d d' : Disk} {path : String} {b : Bytes} (h : d.replace path b = .ok d') :
    d'.read path = .ok b := by
  obtain ⟨p, hlocate, hp, rfl⟩ := replace_eq_ok h
  have houter : ¬p.isOuter := by
    intro h0
    exact hp (by simp [node?, h0])
  simp [read, stat, locate_put hp hlocate, node?_put d houter, bind, Except.bind]

/-- **What stands elsewhere stays.** -/
theorem stat_replace_of_ne {d d' : Disk} {path other : String} {b : Bytes} {p q : Place}
    (h : d.replace path b = .ok d') (hp : d.locate path = .ok p) (hq : d.locate other = .ok q)
    (hne : q ≠ p) : d'.stat other = d.stat other := by
  obtain ⟨p', hlocate, hfolder, rfl⟩ := replace_eq_ok h
  rw [hp] at hlocate
  cases hlocate
  have houter : ¬p.isOuter := by
    intro h0
    exact hfolder (by simp [node?, h0])
  simp only [stat, locate_put hfolder hq, hq, bind, Except.bind, node?_put d houter, if_neg hne]

end Coffer.Disk
