import Coffer.Disk.Lemmas
import Coffer.Proofs.Steps

/-!
# The folder of a file

Who can read a file finds its folder (`isThere_folder`). The folder's path is the file's path
without the own name and what stays in place before it, so a walk to the file comes by the folder.
That the system takes the shorter path as well, and cuts it into the same names, is a matter of
text: names hold no slash.
-/

namespace Coffer

/-! ## Names joined by slashes -/

namespace Text

variable {c : Char} {p : List Char}

theorem joinParts_eq_intercalate (c : Char) (ps : List (List Char)) :
    joinParts c ps = [c].intercalate ps := by
  induction ps with
  | nil => rfl
  | cons p ps ih =>
    cases ps with
    | nil => simp [joinParts]
    | cons q qs => simp [joinParts, ih]

theorem not_mem_of_mem_split {cs : List Char} (h : p ∈ split c cs) : c ∉ p := by
  induction cs generalizing p with
  | nil =>
    rw [split, List.mem_singleton] at h
    simp [h]
  | cons x rest ih =>
    unfold split at h
    split at h
    · rcases List.mem_cons.mp h with rfl | h
      · exact List.not_mem_nil
      · exact ih h
    · next hx =>
      split at h
      · next part more hs =>
        rcases List.mem_cons.mp h with rfl | h
        · have hpart := ih (hs ▸ List.mem_cons_self)
          simp [hpart, Ne.symm hx]
        · exact ih (hs ▸ List.mem_cons_of_mem _ h)
      · next hs => exact absurd hs (split_ne_nil c rest)

theorem split_of_not_mem (h : c ∉ p) : split c p = [p] := by
  induction p with
  | nil => rfl
  | cons x rest ih =>
    have hx : x ≠ c := fun hx => h (by simp [hx])
    rw [split, if_neg hx, ih fun hmem => h (List.mem_cons_of_mem _ hmem)]

theorem split_append_cons (h : c ∉ p) (rest : List Char) :
    split c (p ++ c :: rest) = p :: split c rest := by
  induction p with
  | nil => rw [List.nil_append, split, if_pos rfl]
  | cons x p ih =>
    have hx : x ≠ c := fun hx => h (by simp [hx])
    rw [List.cons_append, split, if_neg hx, ih fun hmem => h (List.mem_cons_of_mem _ hmem)]

theorem intercalate_splitOn (s : String) : "/".intercalate (splitOn '/' s) = s := by
  rw [← String.toList_inj, String.toList_intercalate, splitOn, List.map_map]
  simp only [Function.comp_def, String.toList_ofList, List.map_id']
  exact (joinParts_eq_intercalate '/' _).symm.trans (join_split '/' s.toList)

theorem not_mem_of_mem_splitOn {s name : String} (h : name ∈ splitOn '/' s) :
    '/' ∉ name.toList := by
  obtain ⟨p, hp, rfl⟩ := List.mem_map.mp h
  rw [String.toList_ofList]
  exact not_mem_of_mem_split hp

/-- Names without slashes that are joined are cut apart again. -/
theorem splitOn_intercalate {names : List String} (hne : names ≠ [])
    (h : ∀ name ∈ names, '/' ∉ name.toList) : splitOn '/' ("/".intercalate names) = names := by
  induction names with
  | nil => exact absurd rfl hne
  | cons name names ih =>
    rw [List.forall_mem_cons] at h
    cases names with
    | nil =>
      rw [String.intercalate_singleton, splitOn, split_of_not_mem h.1]
      simp
    | cons next more =>
      have hcut := split_append_cons h.1 ("/".intercalate (next :: more)).toList
      have htail := ih (by simp) h.2
      rw [splitOn] at htail ⊢
      rw [String.intercalate_cons_cons, String.toList_append, String.toList_append]
      show (split '/' (name.toList ++ ['/'] ++ _)).map String.ofList = _
      rw [List.append_assoc, List.singleton_append, hcut, List.map_cons, htail,
        String.ofList_toList]

end Text

/-! ## The text of a path -/

namespace Path

theorem parts_eq_ok_iff {path : String} {names : List String} :
    parts path = .ok names ↔ path ≠ "" ∧ '\x00' ∉ path.toList
      ∧ path.utf8ByteSize ≤ lengthLimit ∧ names = Text.splitOn '/' path := by
  unfold parts
  split
  · next h => simp [String.isEmpty_iff.mp h]
  · next hne =>
    rw [String.isEmpty_iff] at hne
    split
    · next h => simp [List.contains_iff_mem.mp h]
    · next hnull =>
      rw [List.contains_iff_mem] at hnull
      split
      · next h =>
        simp only [reduceCtorEq, false_iff]
        exact fun hall => absurd hall.2.2.1 (Nat.not_le_of_lt h)
      · next h =>
        simp only [Except.ok.injEq]
        exact ⟨fun heq => ⟨hne, hnull, Nat.le_of_not_lt h, heq.symm⟩, fun hall => hall.2.2.2.symm⟩

/-- What is dropped from the end of a path stays in place. -/
theorem exists_append_trimEnd (reversed : List String) :
    ∃ dropped, reversed = dropped ++ trimEnd reversed
      ∧ ∀ name ∈ dropped, name = "" ∨ name = "." := by
  induction reversed using trimEnd.induct with
  | case1 => exact ⟨[], rfl, by simp⟩
  | case2 first => exact ⟨[], rfl, by simp⟩
  | case3 name above hne hidle ih =>
    obtain ⟨dropped, heq, hdropped⟩ := ih
    refine ⟨name :: dropped, ?_, List.forall_mem_cons.mpr ⟨hidle, hdropped⟩⟩
    rw [trimEnd, if_pos hidle, List.cons_append, ← heq]
    exact hne
  | case4 name above hne hidle =>
    refine ⟨[], ?_, by simp⟩
    rw [trimEnd, if_neg hidle, List.nil_append]
    exact hne

/-- The last name of a path that ends neither in a slash nor in dots is its own. -/
theorem own_name {path own : String} {above : List String} (hne : path ≠ "")
    (hdots : ¬endsInDots path) (hslash : ¬endsInSlash path)
    (hnames : Text.splitOn '/' path = above ++ [own]) : ¬(own = "" ∨ own = ".") := by
  have hpath := Text.intercalate_splitOn path
  rw [hnames] at hpath
  rintro (rfl | rfl)
  · -- an empty last name comes after a slash
    by_cases habove : above = []
    · subst habove
      rw [List.nil_append, String.intercalate_singleton] at hpath
      exact hne hpath.symm
    · rw [String.intercalate_append_of_ne_nil habove (by simp),
        String.intercalate_singleton, String.append_empty] at hpath
      apply hslash
      rw [endsInSlash, ← hpath, String.toList_append]
      simp
  · apply hdots
    simp [endsInDots, writtenNames, hnames]

/-- The names of a path are those of its folder, some that stay in place, and its own. -/
theorem folder_eq {path : String} {names : List String} (hnames : parts path = .ok names)
    (hdots : ¬endsInDots path) (hslash : ¬endsInSlash path) :
    ∃ kept dropped own, names = kept ++ (dropped ++ [own])
      ∧ (∀ name ∈ dropped, name = "" ∨ name = ".") ∧ folder path = "/".intercalate kept := by
  obtain ⟨hne, -, -, rfl⟩ := parts_eq_ok_iff.mp hnames
  have hnil : Text.splitOn '/' path ≠ [] := by simp [Text.splitOn, Text.split_ne_nil]
  obtain ⟨above, own, habove⟩ := (List.eq_nil_or_concat (Text.splitOn '/' path)).resolve_left hnil
  rw [List.concat_eq_append] at habove
  have hown := own_name hne hdots hslash habove
  obtain ⟨dropped, hdrop, hidle⟩ := exists_append_trimEnd above.reverse
  have hsplit : above = (trimEnd above.reverse).reverse ++ dropped.reverse := by
    rw [← List.reverse_append, ← hdrop, List.reverse_reverse]
  refine ⟨(trimEnd above.reverse).reverse, dropped.reverse, own, ?_, ?_, ?_⟩
  · rw [← List.append_assoc, ← hsplit, habove]
  · exact fun name hname => hidle name (List.mem_reverse.mp hname)
  · have htail : (trimEnd (own :: above.reverse)).tail = above.reverse := by
      cases above.reverse with
      | nil => rfl
      | cons next more => simp [trimEnd, hown]
    rw [folder, habove, List.reverse_append, List.reverse_singleton, List.singleton_append, htail]

end Path

/-! ## Walks -/

namespace Disk

variable {d : Disk} {here p : Place}

theorem walk_append (d : Disk) (here : Place) (xs ys : List String) :
    d.walk here (xs ++ ys) = d.walk here xs >>= fun p => d.walk p ys := by
  induction xs generalizing here with
  | nil => rfl
  | cons x xs ih =>
    rw [List.cons_append, walk, walk]
    split
    · rfl
    · rfl
    · split
      · exact ih here
      · split
        · exact ih here.up
        · split
          · rfl
          · exact ih (here ++ [x])

/-- Only in a folder there is a next step. -/
theorem node?_of_walk_cons {name : String} {rest : List String}
    (h : d.walk here (name :: rest) = .ok p) : d.node? here = some .folder := by
  unfold walk at h
  split at h
  · cases h
  · cases h
  · next hnode => exact hnode

/-- Names that stay in place lead nowhere else. -/
theorem eq_of_walk_idle {names : List String} (hidle : ∀ name ∈ names, name = "" ∨ name = ".")
    (h : d.walk here names = .ok p) : p = here := by
  induction names with
  | nil =>
    cases h
    rfl
  | cons name rest ih =>
    rw [List.forall_mem_cons] at hidle
    rw [walk, node?_of_walk_cons h] at h
    simp only [if_pos hidle.1] at h
    exact ih hidle.2 h

/-- **The folder of a file that can be read is there**, unless it is the working directory. -/
theorem isThere_folder {path : String} {b : Bytes} (h : d.read path = .ok b)
    (hdots : ¬Path.endsInDots path) (hslash : ¬Path.endsInSlash path)
    (hne : Path.folder path ≠ "") : d.isThere (Path.folder path) := by
  have hlocate : ∃ q, d.locate path = .ok q := by
    cases hq : d.locate path with
    | ok q => exact ⟨q, rfl⟩
    | error f => simp [read, stat, hq] at h
  obtain ⟨q, hq⟩ := hlocate
  obtain ⟨names, hnames, hwalk⟩ := bind_eq_ok_iff.mp hq
  obtain ⟨kept, dropped, own, rfl, hidle, hfolder⟩ := Path.folder_eq hnames hdots hslash
  obtain ⟨-, hnull, hlength, hsplit⟩ := Path.parts_eq_ok_iff.mp hnames
  rw [walk_append] at hwalk
  obtain ⟨here, hkept, hrest⟩ := bind_eq_ok_iff.mp hwalk
  rw [walk_append] at hrest
  obtain ⟨there, hdropped, hown⟩ := bind_eq_ok_iff.mp hrest
  have hthere := eq_of_walk_idle hidle hdropped
  subst hthere
  -- the walk comes by the folder; now the folder's own path has to be cut into the same names
  have hkept_ne : kept ≠ [] := by
    rintro rfl
    exact hne (hfolder.trans String.intercalate_nil)
  have hpath : path = Path.folder path ++ "/" ++ "/".intercalate (dropped ++ [own]) := by
    rw [hfolder, ← String.intercalate_append_of_ne_nil hkept_ne (by simp), hsplit,
      Text.intercalate_splitOn]
  have hparts : Path.parts (Path.folder path) = .ok kept := by
    refine Path.parts_eq_ok_iff.mpr ⟨hne, ?_, ?_, ?_⟩
    · intro hmem
      apply hnull
      rw [hpath, String.toList_append, String.toList_append]
      simp [hmem]
    · have hsize := congrArg String.utf8ByteSize hpath
      rw [String.utf8ByteSize_append, String.utf8ByteSize_append] at hsize
      omega
    · rw [hfolder, Text.splitOn_intercalate hkept_ne]
      intro name hname
      apply Text.not_mem_of_mem_splitOn (s := path)
      rw [← hsplit]
      exact List.mem_append_left _ hname
  have hnode := node?_of_walk_cons hown
  rw [isThere, stat, locate, hparts, ok_bind, hkept, ok_bind, hnode]

end Disk

end Coffer
