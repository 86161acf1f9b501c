import Coffer.CommandLine.Run
import Coffer.Proofs.Keeping

/-!
# The command line keeps a shelf in a file

Whoever runs commands one after the other on a file that is not there yet has a shelf before them
(`Setup.Reaches`): a command that changes something and succeeds changes the shelf, and nothing else
does. Each run answers as the shelf says, and it changes the file only if it is to change something
and does (`Setup.meets_of_reaches`).

Each run opens a store, does one thing, saves if need be, and forgets the store. So the shelf has to
come through the file from one run to the next: the file keeps it (`Shelf.KeptIn`), an opened store
presents it (`Session.Presents`), and after a change that was saved the file keeps the changed one
(`commits_saveAfter`).
-/

namespace Coffer

namespace CommandLine

/-! ## What commands say of a shelf -/

/-- The outcome of a run that prints an answer. -/
def Outcome.tells (line : String) : Outcome := { code := 0, out := line ++ "\n" }

/-- The run failed and printed no answer. -/
structure Outcome.Fails (r : Outcome) : Prop where
  code : r.code = 1
  out : r.out = ""

/-- The run did what it was to do and says so, if that can be done, and failed otherwise. -/
def Outcome.Does (r : Outcome) (can : Prop) : Prop := can ∧ r = .tells "OK" ∨ ¬can ∧ r.Fails

/-- A value as it is printed: as the text that it encodes, or in hexadecimal digits if it encodes
none or digits are asked for. -/
inductive Shown (hex : Bool) (value : Bytes) : String → Prop
  | text {s : String} (hhex : hex = false) (hs : Text.Utf8.encode s = value) : Shown hex value s
  | digits (h : hex = true ∨ ∀ s, Text.Utf8.encode s ≠ value) :
    Shown hex value (Bytes.Hex.encode value)

/-- A list of keys as it is printed, with a key in each line. -/
def listing (keys : List String) : String :=
  if keys.isEmpty then "[]"
  else "[\n" ++ String.intercalate ",\n" (keys.map fun k => "  " ++ Json.quote k) ++ "\n]"

/-- Does the command change what is kept? -/
def Command.Writes : Command → Prop
  | .set .. | .delete _ | .clear => True
  | _ => False

/-- Does the command need a store? -/
def Command.Opens : Command → Prop
  | .hashPassword .. | .verifyPassword .. => False
  | _ => True

end CommandLine

namespace Shelf

open CommandLine

/-- The shelf after a command that succeeded. -/
def after (m : Shelf) (c : Comparer) : Command → Shelf
  | .set key value valueKey hex =>
    match givenValue hex value with
    | .ok b => m.set c key b valueKey
    | .error _ => m
  | .delete key => m.delete c key
  | .clear => .empty
  | _ => m

/-- The shelf after a run, which changes it only if it succeeded. -/
def next (m : Shelf) (c : Comparer) (command : Command) (r : Outcome) : Shelf :=
  if r.code = 0 then m.after c command else m

/-- The outcome is what a command says of the shelf. `takes` tells whether a file can be put in the
place of the one that keeps the shelf. -/
def Answers (m : Shelf) (c : Config) (takes : Prop) : Command → Outcome → Prop
  | .get key valueKey hex, r =>
    match m (c.comparer.normalize key) with
    | none => r = { code := 1, err := "Error: key '" ++ key ++ "' not found\n" }
    | some x => ∃ line, Shown hex (x.seen valueKey) line ∧ r = .tells line
  | .keys, r => ∃ keys : List String, keys.Pairwise (· < ·)
      ∧ (∀ key, key ∈ keys ↔ ∃ i x, m i = some x ∧ x.key = key) ∧ r = .tells (listing keys)
  | .count, r => r = .tells (toString m.occupied.ncard)
  | .delete key, r =>
    r = .tells (if (m (c.comparer.normalize key)).isSome then "OK" else "Not found")
  | .set key value valueKey hex, r => r.Does ((∃ b, givenValue hex value = .ok b
      ∧ (m.set c.comparer key b valueKey).Encodable c.encoding) ∧ takes)
  | .clear, r => r.Does takes
  | .hashPassword .., _ | .verifyPassword .., _ => True

end Shelf

namespace CommandLine

variable {c : Config} {path : String} {m : Shelf} {s : Session}

/-! ## What is printed -/

theorem fails_ofAnswer (report : Report) : (Outcome.ofAnswer (.error report)).Fails := ⟨rfl, rfl⟩

/-- What is reported of a key that is missing. -/
theorem text_missing (key : String) : Report.text { message := "key '" ++ key ++ "' not found" }
    = "Error: key '" ++ key ++ "' not found\n" := by
  simp only [Report.text, List.isEmpty_nil, if_true, String.append_empty]
  rw [← String.toList_inj]
  simp only [String.toList_append]
  simp

theorem shown_shownValue (hex : Bool) (value : Bytes) : Shown hex value (shownValue hex value) := by
  unfold shownValue
  split
  · next hhex => exact .digits (.inl hhex)
  · next hhex =>
    cases hdecode : Text.Utf8.decode? value with
    | some s => exact .text (by simpa using hhex) (Text.Utf8.decode?_eq_some_iff.mp hdecode).symm
    | none =>
      refine .digits (.inr fun s hs => ?_)
      rw [Text.Utf8.decode?_eq_some_iff.mpr hs.symm] at hdecode
      cases hdecode

/-- **Different keys are listed in ascending order.** -/
theorem shownKeys_eq {keys : List String} (h : keys.Nodup) :
    ∃ sorted : List String, sorted.Pairwise (· < ·) ∧ sorted.Perm keys
      ∧ shownKeys keys = listing sorted := by
  have hperm := List.mergeSort_perm keys fun a b => decide (a ≤ b)
  refine ⟨keys.mergeSort fun a b => decide (a ≤ b), ?_, hperm, ?_⟩
  · have hsorted := @List.pairwise_mergeSort String (fun a b => decide (a ≤ b))
      (by simpa using fun a b c => String.le_trans) (by simpa using String.le_total) keys
    have hnodup := hperm.nodup_iff.mpr h
    refine (hsorted.and hnodup).imp fun hab => ?_
    exact lt_of_le_of_ne (by simpa using hab.1) hab.2
  · unfold shownKeys listing
    have hempty : (keys.mergeSort fun a b => decide (a ≤ b)).isEmpty = keys.isEmpty := by
      rw [Bool.eq_iff_iff, List.isEmpty_iff, List.isEmpty_iff, ← List.length_eq_zero_iff,
        hperm.length_eq, List.length_eq_zero_iff]
    rw [hempty]

/-! ## Changes that are saved -/

/-- Saves after a change, or reports why there is none. -/
def saveAfter {α : Type} (x : Except Error α × Session) : Answer × Session :=
  match x with
  | (.error e, s) => (.error (.ofError e), s)
  | (.ok _, s) => saveAndAnswer s

theorem saveAndAnswer_eq (s : Session) :
    saveAndAnswer s
      = (((s.save false).1.map fun _ => "OK").mapError .ofError, (s.save false).2) := by
  unfold saveAndAnswer
  generalize s.save false = x
  obtain ⟨e | u, s'⟩ := x <;> rfl

theorem runSet_eq (key : String) (value : Bytes) (valueKey : Option String) (s : Session) :
    runSet key value valueKey s = saveAfter (s.upsert key value valueKey) := by
  unfold runSet saveAfter
  generalize s.upsert key value valueKey = x
  obtain ⟨e | u, s'⟩ := x <;> rfl

theorem runClear_eq (s : Session) : runClear s = saveAfter s.clear := by
  unfold runClear saveAfter
  generalize s.clear = x
  obtain ⟨e | u, s'⟩ := x <;> rfl

theorem runDelete_of_some {key : String} {e : Entry} (hopen : s.store.closed = false)
    (h : s.store.entries.get? key = some e) :
    runDelete key s = saveAfter ((s.withStore (s.store.discard key).2).saveThen true
      (Session.announceRemoval · e)) := by
  unfold runDelete saveAfter
  rw [Session.remove_of_some hopen h]
  unfold Session.saveThen
  generalize (s.withStore (s.store.discard key).2).saveChange = x
  obtain ⟨e | u, s'⟩ := x <;> rfl

/-- A change of the store has been made and saved, or else an error is reported and the disk is as
it was. Which of both it is depends on whether the changed shelf can be written and the disk takes
the file. -/
structure Commits (c : Config) (path : String) (m : Shelf) (disk : Disk) (x : Answer × Session) :
    Prop where
  done : m.Encodable c.encoding ∧ disk.Takes path → x.1 = .ok "OK" ∧ m.KeptIn c path x.2.host.disk
  failed : ¬(m.Encodable c.encoding ∧ disk.Takes path) →
    (∃ report, x.1 = .error report) ∧ x.2.host.disk = disk

/-- **A change is saved or leaves the disk as it was**, also if the store saves on every change:
what could be saved once can be saved again. -/
theorem commits_saveAfter {α : Type} {a : α} {tell : Store → Store} {store : Store}
    (hs : store.Serves c) (hpath : c.filePath = some path)
    (hsound : store.archive.isDegraded = false) (hdescribes : m.Describes store.entries)
    (htell : ∀ store : Store, ∃ feed, tell store = { store with feed }) :
    Commits c path m s.host.disk (saveAfter ((s.withStore store).saveThen a tell)) := by
  have hsavable : (s.withStore store).Savable c path
      ↔ m.Encodable c.encoding ∧ s.host.disk.Takes path :=
    Session.savable_iff hdescribes hsound
  obtain ⟨hserves, hentries⟩ :=
    Session.serves_saveThen (a := a) (s := s.withStore store) hs htell
  refine ⟨fun hcan => ?_, fun hcannot => ?_⟩
  · obtain ⟨hok, hagain⟩ := (hsavable.mpr hcan).saveThen (a := a) hs hpath htell
    generalize (s.withStore store).saveThen a tell = x at hserves hentries hok hagain
    obtain ⟨r, s'⟩ := x
    obtain rfl : r = .ok a := hok
    have hdescribes' : m.Describes s'.store.entries := by
      rw [show s'.store.entries = store.entries from hentries]
      exact hdescribes
    obtain ⟨hsave, hkept⟩ := hagain.keptIn hserves hpath hdescribes'
    rw [saveAfter, saveAndAnswer_eq, hsave]
    exact ⟨rfl, hkept⟩
  · have hnot := mt hsavable.mp hcannot
    obtain ⟨hdisk, hfailed⟩ := Session.saveThen_of_not_savable (a := a) hnot hs hpath htell
    generalize (s.withStore store).saveThen a tell = x at hserves hdisk hfailed
    obtain ⟨e | r, s'⟩ := x
    · exact ⟨⟨_, rfl⟩, hdisk⟩
    · have hnot' : ¬s'.Savable c path := hfailed.resolve_left nofun
      rw [saveAfter, saveAndAnswer_eq]
      cases hsave : (s'.save false).1 with
      | ok u => exact absurd ((Session.save_eq_ok_iff hserves hpath).mp hsave) hnot'
      | error e => exact ⟨⟨_, rfl⟩, (Session.disk_of_save_error hsave).trans hdisk⟩

/-! ## The commands on a store -/

/-- A command has answered as the shelf says, the changed shelf is kept, and the disk is as it was
unless something was changed. -/
structure Follows (c : Config) (path : String) (m : Shelf) (command : Command) (disk : Disk)
    (x : Answer × Session) : Prop where
  answers : m.Answers c (disk.Takes path) command (.ofAnswer x.1)
  kept : (m.next c.comparer command (.ofAnswer x.1)).KeptIn c path x.2.host.disk
  same : (command.Writes → x.1 ≠ .ok "OK") → x.2.host.disk = disk

theorem next_ofAnswer_ok (m : Shelf) (c : Comparer) (command : Command) (line : String) :
    m.next c command (.ofAnswer (.ok line)) = m.after c command := if_pos rfl

theorem next_ofAnswer_error (m : Shelf) (c : Comparer) (command : Command) (report : Report) :
    m.next c command (.ofAnswer (.error report)) = m := if_neg Nat.one_ne_zero

/-- What a change answers, and what it leaves. -/
theorem Commits.outcome {m' : Shelf} {disk : Disk} {x : Answer × Session}
    (h : Commits c path m' disk x) (hm : m.KeptIn c path disk)
    (command : Command) (hafter : m.after c.comparer command = m') :
    (Outcome.ofAnswer x.1).Does (m'.Encodable c.encoding ∧ disk.Takes path)
      ∧ (m.next c.comparer command (.ofAnswer x.1)).KeptIn c path x.2.host.disk
      ∧ (x.1 ≠ .ok "OK" → x.2.host.disk = disk) := by
  by_cases hcan : m'.Encodable c.encoding ∧ disk.Takes path
  · obtain ⟨hok, hkept⟩ := h.done hcan
    rw [hok, next_ofAnswer_ok, hafter]
    exact ⟨.inl ⟨hcan, rfl⟩, hkept, fun hne => absurd rfl hne⟩
  · obtain ⟨⟨report, herror⟩, hdisk⟩ := h.failed hcan
    rw [herror, next_ofAnswer_error, hdisk]
    exact ⟨.inr ⟨hcan, fails_ofAnswer report⟩, hm, fun _ => rfl⟩

section Changing

variable (h : s.Presents c m) (hpath : c.filePath = some path)

include h hpath

theorem commits_runSet (key : String) (value : Bytes) (valueKey : Option String) :
    Commits c path (m.set c.comparer key value valueKey) s.host.disk
      (runSet key value valueKey s) := by
  have hstored := Deposit.sealedUnder_eq_stored { key, value, lock := valueKey }
  generalize Deposit.stored { key, value, lock := valueKey } = stored at hstored
  have hsealed := (Session.sealValue_of_sound h.faithful value valueKey).1.trans hstored
  have hstore := Session.store_sealValue s value valueKey
  have hdisk := Session.disk_sealValue s value valueKey
  rw [runSet_eq, Session.upsert_of_idle h.idle, if_neg (by simp [h.writable])]
  generalize s.sealValue value valueKey = x at hsealed hstore hdisk
  obtain ⟨r, s'⟩ := x
  obtain rfl : r = .ok stored := hsealed
  rw [← hdisk]
  have hserves : s'.store.Serves c := hstore ▸ h.serves
  have hsound : s'.store.archive.isDegraded = false := hstore ▸ h.sound
  have hdescribes : m.Describes s'.store.entries := hstore ▸ h.describes
  have hset := hdescribes.set key hstored
  rw [hserves.comparer] at hset
  simp only [Session.andThen, Store.announce_eq]
  exact commits_saveAfter { hserves.merge { key, value := stored } with } hpath
    hsound hset fun store => ⟨store.feed, rfl⟩

theorem commits_runClear : Commits c path .empty s.host.disk (runClear s) := by
  rw [runClear_eq, Session.clear_eq, if_neg (by simp [h.writable])]
  exact commits_saveAfter h.serves.discardEverything hpath h.sound
    (Shelf.describes_clear s.store.entries) fun store => ⟨_, Store.announce_eq store .cleared⟩

/-- A key that is there is removed. -/
theorem commits_runDelete {key : String} {x : Deposit}
    (hslot : m (c.comparer.normalize key) = some x) :
    Commits c path (m.delete c.comparer key) s.host.disk (runDelete key s) := by
  have hget : s.store.entries.get? key = some x.entry := by
    rw [h.describes.get?_eq, h.serves.comparer, hslot]
    rfl
  have hdelete := h.describes.delete key
  rw [h.serves.comparer] at hdelete
  have hserves := h.serves.discard key
  rw [Store.discard_of_some hget] at hserves
  rw [runDelete_of_some h.writable hget, Store.discard_of_some hget]
  exact commits_saveAfter hserves hpath h.sound hdelete fun store =>
    ⟨_, Store.announce_eq store _⟩

end Changing

section OnStore

variable (h : s.Presents c m) (hm : m.KeptIn c path s.host.disk)

include h hm

theorem follows_runGet (key : String) (valueKey : Option String) (hex : Bool) :
    Follows c path m (.get key valueKey hex) s.host.disk (runGet key valueKey hex s) := by
  have hget := (Session.get_of_sound h.faithful key valueKey).1
  have hdisk := Session.disk_get s key valueKey
  rw [h.describes.get?_eq, h.serves.comparer, Option.map_map] at hget
  unfold runGet
  generalize s.get key valueKey = x at hget hdisk
  obtain ⟨value, s'⟩ := x
  obtain rfl : value = _ := hget
  cases hslot : m (c.comparer.normalize key) with
  | none =>
    refine ⟨?_, hdisk ▸ hm, fun _ => hdisk⟩
    simp only [Shelf.Answers, hslot]
    exact congrArg (Outcome.mk 1 "") (text_missing key)
  | some x =>
    refine ⟨?_, hdisk ▸ hm, fun _ => hdisk⟩
    simp only [Shelf.Answers, hslot]
    refine ⟨_, shown_shownValue hex _, ?_⟩
    rw [← x.reveal_entry]
    rfl

theorem follows_keys :
    Follows c path m .keys s.host.disk (.ok (shownKeys s.store.entries.keys), s) := by
  refine ⟨?_, hm, fun _ => rfl⟩
  have hnodup : s.store.entries.keys.Nodup := by
    have hnormal := h.serves.orderly.nodup_keys
    rw [← Function.comp_def s.store.entries.comparer.normalize, ← List.map_map] at hnormal
    exact hnormal.of_map
  obtain ⟨sorted, hsorted, hperm, hshown⟩ := shownKeys_eq hnodup
  refine ⟨sorted, hsorted, fun key => ?_, by rw [hshown]; rfl⟩
  rw [hperm.mem_iff, h.describes.mem_keys]

theorem follows_count :
    Follows c path m .count s.host.disk (.ok (toString s.store.entries.size), s) := by
  refine ⟨?_, hm, fun _ => rfl⟩
  rw [h.describes.size_eq]
  rfl

variable (hpath : c.filePath = some path)

include hpath

theorem follows_runSet {key value : String} {valueKey : Option String} {hex : Bool} {b : Bytes}
    (hgiven : givenValue hex value = .ok b) :
    Follows c path m (.set key value valueKey hex) s.host.disk (runSet key b valueKey s) := by
  obtain ⟨hdoes, hkept, hsame⟩ := (commits_runSet h hpath key b valueKey).outcome hm
    (.set key value valueKey hex) (by rw [Shelf.after, hgiven])
  refine ⟨?_, hkept, fun hne => hsame (hne trivial)⟩
  have hgives : (∃ b', givenValue hex value = .ok b'
      ∧ (m.set c.comparer key b' valueKey).Encodable c.encoding)
      ↔ (m.set c.comparer key b valueKey).Encodable c.encoding := by
    simp only [hgiven, Except.ok.injEq, exists_eq_left']
  simp only [Shelf.Answers, hgives]
  exact hdoes

theorem follows_runClear : Follows c path m .clear s.host.disk (runClear s) := by
  obtain ⟨hdoes, hkept, hsame⟩ := (commits_runClear h hpath).outcome hm .clear rfl
  refine ⟨?_, hkept, fun hne => hsame (hne trivial)⟩
  rwa [and_iff_right (Shelf.encodable_empty c.encoding)] at hdoes

theorem follows_runDelete (key : String) :
    Follows c path m (.delete key) s.host.disk (runDelete key s) := by
  cases hslot : m (c.comparer.normalize key) with
  | none =>
    have hget : s.store.entries.get? key = none := by
      rw [h.describes.get?_eq, h.serves.comparer, hslot]
      rfl
    rw [runDelete, Session.remove_of_none h.writable hget]
    refine ⟨?_, ?_, fun _ => rfl⟩
    · simp only [Shelf.Answers, hslot]
      rfl
    · rw [next_ofAnswer_ok, Shelf.after, Shelf.delete_of_none hslot]
      exact hm
  | some x =>
    have hcommits := commits_runDelete h hpath hslot
    obtain ⟨-, hkept, hsame⟩ := hcommits.outcome hm (.delete key) rfl
    refine ⟨?_, hkept, fun hne => hsame (hne trivial)⟩
    -- the file has taken what is on the shelf, so it takes what remains of it
    obtain ⟨hok, -⟩ := hcommits.done
      ⟨h.serves.comparer ▸ h.describes.encodable_delete hm.encodable key, hm.takes hslot⟩
    simp only [Shelf.Answers, hslot, hok]
    rfl

end OnStore

/-! ## Runs -/

/-- What all the runs have in common: the options and variables that choose the file, and so the
store. -/
structure Setup where
  options : Options
  env : Config.Environment
  config : Config
  path : String
  chosen : configOf options env = .ok config
  file : config.filePath = some path

namespace Setup

variable {u : Setup} {d : Disk} {command : Command} {around : Surroundings}

/-- What runs make of a disk, and of the shelf that they show. Others may change the disk between
two runs, but not the file, nor so that it could not be replaced any more. -/
inductive Reaches (u : Setup) (d₀ : Disk) : Disk → Shelf → Prop
  | start : Reaches u d₀ d₀ .empty
  | run {d : Disk} {m : Shelf} {args : List String} {around : Surroundings} {command : Command}
    (h : Reaches u d₀ d m) (hparse : parse args = .ok { options := u.options, command })
    (henv : around.env = u.env) :
    Reaches u d₀ (run args around d).2 (m.next u.config.comparer command (run args around d).1)
  | elsewhere {d d' : Disk} {m : Shelf} (h : Reaches u d₀ d m)
    (hfile : ∀ content, d.Bears u.path content → d'.Bears u.path content)
    (htakes : d.Takes u.path → d'.Takes u.path) : Reaches u d₀ d' m

/-- A run does as the shelf says. -/
structure Meets (u : Setup) (d : Disk) (m : Shelf) (command : Command) (r : Outcome × Disk) :
    Prop where
  /-- Where something is on the shelf or the file is there, a store can be opened. -/
  opens : m ≠ .empty ∨ (∃ b, d.read u.path = .ok b) → d.Opens u.path
  /-- Where a store can be opened, the run answers as the shelf says. -/
  answers : d.Opens u.path →
    m.Answers u.config ((d.prepared u.path).Takes u.path) command r.1
  /-- Where none can be opened, every command fails that needs one. -/
  refused : ¬d.Opens u.path → command.Opens → r.1.Fails
  /-- The file is as it was, unless the run was to change it and says that it did. -/
  unchanged : (command.Writes → r.1.code ≠ 0 ∨ r.1.out ≠ "OK\n") →
    (r.2.read u.path).toOption = (d.read u.path).toOption

/-- A store that is opened for a command presents the shelf. -/
theorem withStore_of_opens (hm : m.KeptIn u.config u.path d) (hopens : d.Opens u.path)
    (henv : around.env = u.env) (use : Session → Answer × Session) :
    ∃ s : Session, s.Presents u.config m ∧ s.host.disk = d.prepared u.path
      ∧ withStore u.options around d use = ((use s).1, (use s).2.host.disk) := by
  obtain ⟨store, host, hopen, hpresents, hdisk⟩ :=
    Host.openStore_of_keptIn (h := { disk := d, order := around.order }) u.file hm hopens
      Keyring.sound_empty
  refine ⟨⟨store, host⟩, hpresents, hdisk, ?_⟩
  simp only [withStore, henv, u.chosen, hopen]

theorem withStore_of_not_opens (hnot : ¬d.Opens u.path) (henv : around.env = u.env)
    (use : Session → Answer × Session) :
    ∃ report, withStore u.options around d use = (.error report, d.prepared u.path) := by
  obtain ⟨e, host, hopen, hdisk⟩ :=
    Host.openStore_of_not_opens (h := { disk := d, order := around.order }) u.file hnot
  refine ⟨.within ("failed to open " ++ Text.quotedOption u.config.path) e, ?_⟩
  simp only [withStore, henv, u.chosen, hopen]
  exact congrArg (Prod.mk _) hdisk

/-- A run has done as the shelf says, and the file keeps the shelf after it. -/
structure Turn (u : Setup) (d : Disk) (m : Shelf) (command : Command) (x : Answer × Disk) :
    Prop where
  meets : u.Meets d m command (.ofAnswer x.1, x.2)
  kept : (m.next u.config.comparer command (.ofAnswer x.1)).KeptIn u.config u.path x.2

/-- What a command does with a store that presents the shelf, it does in a run. -/
theorem turn_withStore (hm : m.KeptIn u.config u.path d) (henv : around.env = u.env)
    {use : Session → Answer × Session}
    (huse : ∀ s : Session, s.Presents u.config m → m.KeptIn u.config u.path s.host.disk →
      Follows u.config u.path m command s.host.disk (use s)) :
    u.Turn d m command (withStore u.options around d use) := by
  -- making the folder of the file does not change the file
  obtain ⟨content, hbears⟩ := hm.bears
  have hsame : ((d.prepared u.path).read u.path).toOption = (d.read u.path).toOption :=
    hbears.prepared.read.trans hbears.read.symm
  by_cases hopens : d.Opens u.path
  · obtain ⟨s, hs, hdisk, heq⟩ := withStore_of_opens hm hopens henv use
    have hfollows := huse s hs (hdisk ▸ hm.prepared)
    rw [heq]
    refine ⟨⟨hm.opens, fun _ => hdisk ▸ hfollows.answers, absurd hopens, fun hwrites => ?_⟩,
      hfollows.kept⟩
    have hdisk' : (use s).2.host.disk = s.host.disk := by
      refine hfollows.same fun hcommand hok => ?_
      have houtcome := hwrites hcommand
      simp only [hok, Outcome.ofAnswer] at houtcome
      exact houtcome.elim (absurd rfl) (absurd rfl)
    rw [hdisk', hdisk, hsame]
  · obtain ⟨report, heq⟩ := withStore_of_not_opens hopens henv use
    have hkept := hm.prepared
    generalize d.prepared u.path = made at heq hsame hkept
    rw [heq]
    refine ⟨⟨hm.opens, fun h => absurd h hopens, fun _ _ => fails_ofAnswer report,
      fun _ => hsame⟩, ?_⟩
    rw [next_ofAnswer_error]
    exact hkept

/-- A value that is not given properly is refused before a store is opened. -/
theorem turn_of_not_given (hm : m.KeptIn u.config u.path d) {key value : String}
    {valueKey : Option String} {hex : Bool} {report : Report}
    (hgiven : givenValue hex value = .error report) :
    u.Turn d m (.set key value valueKey hex) (.error report, d) := by
  have hfails := fails_ofAnswer report
  refine ⟨⟨hm.opens, fun _ => .inr ⟨?_, hfails⟩, fun _ _ => hfails, fun _ => rfl⟩, ?_⟩
  · rintro ⟨⟨b, hb, -⟩, -⟩
    rw [hgiven] at hb
    cases hb
  · rw [next_ofAnswer_error]
    exact hm

/-- A command that needs no store leaves everything as it is. -/
theorem turn_of_not_opens (hm : m.KeptIn u.config u.path d) (hcommand : ¬command.Opens)
    (answer : Answer) : u.Turn d m command (answer, d) := by
  have hafter : m.after u.config.comparer command = m := by
    cases command <;> first | rfl | exact absurd trivial hcommand
  have hanswers (takes : Prop) (r : Outcome) : m.Answers u.config takes command r := by
    cases command <;> first | exact trivial | exact absurd trivial hcommand
  refine ⟨⟨hm.opens, fun _ => hanswers _ _, fun _ h => absurd h hcommand, fun _ => rfl⟩, ?_⟩
  rw [Shelf.next, hafter, ite_self]
  exact hm

/-- **A run does as the shelf says, and the file keeps the shelf after it.** -/
theorem turn_perform (hm : m.KeptIn u.config u.path d) (henv : around.env = u.env)
    (command : Command) :
    u.Turn d m command (perform { options := u.options, command } around d) := by
  cases command with
  | get key valueKey hex =>
    exact turn_withStore hm henv fun s hs hkept => follows_runGet hs hkept key valueKey hex
  | set key value valueKey hex =>
    cases hgiven : givenValue hex value with
    | error report =>
      simp only [perform, hgiven]
      exact turn_of_not_given hm hgiven
    | ok b =>
      simp only [perform, hgiven]
      exact turn_withStore hm henv fun s hs hkept => follows_runSet hs hkept u.file hgiven
  | delete key =>
    exact turn_withStore hm henv fun s hs hkept => follows_runDelete hs hkept u.file key
  | keys => exact turn_withStore hm henv fun s hs hkept => follows_keys hs hkept
  | count => exact turn_withStore hm henv fun s hs hkept => follows_count hs hkept
  | clear => exact turn_withStore hm henv fun s hs hkept => follows_runClear hs hkept u.file
  | hashPassword password iterations =>
    unfold perform
    simp only
    split <;> exact turn_of_not_opens hm id _
  | verifyPassword password hash =>
    unfold perform
    simp only
    split <;> exact turn_of_not_opens hm id _

theorem turn_run (hm : m.KeptIn u.config u.path d) (henv : around.env = u.env) {args : List String}
    (hparse : parse args = .ok { options := u.options, command }) :
    u.Meets d m command (run args around d)
      ∧ (m.next u.config.comparer command (run args around d).1).KeptIn u.config u.path
        (run args around d).2 := by
  have hturn := turn_perform hm henv command
  have hrun : run args around d
      = (.ofAnswer (perform { options := u.options, command } around d).1,
        (perform { options := u.options, command } around d).2) := by
    rw [run, hparse]
  rw [hrun]
  exact ⟨hturn.meets, hturn.kept⟩

/-- **Whatever was run, the file keeps the shelf.** -/
theorem Reaches.keptIn {d₀ : Disk} (h : u.Reaches d₀ d m) (hnone : d₀.Bears u.path none) :
    m.KeptIn u.config u.path d := by
  induction h with
  | start => exact .nowhere hnone
  | run _ hparse henv ih => exact (turn_run ih henv hparse).2
  | elsewhere _ hfile htakes ih => exact ih.elsewhere hfile htakes

/-- **Every run answers as the shelf says that the runs before it have made**, and changes the file
only if it says so. -/
theorem meets_of_reaches {d₀ : Disk} (hnone : d₀.Bears u.path none) (hreach : u.Reaches d₀ d m)
    {args : List String} (hparse : parse args = .ok { options := u.options, command })
    (henv : around.env = u.env) : u.Meets d m command (run args around d) :=
  (turn_run (hreach.keptIn hnone) henv hparse).1

/-- A file with keys that are compared without regard to case. -/
def satchel : Setup where
  options := { path := some "f", ignoreCase := true }
  env := []
  config := { path := some "f", ignoreCase := true }
  path := "f"
  chosen := rfl
  file := rfl

/-- A byte that is no text is put in under a value key, on a disk with nothing on it. -/
def satchelFilled : Outcome × Disk :=
  run ["-p", "f", "--ignore-case", "set", "Ab", "ff", "--hex", "--value-key", "q"] {} {}

/-- With the value key it is got under another spelling of the key, and printed in digits. -/
theorem meets_of_reaches_satchel :
    ({} : Disk).Bears "f" none
      ∧ (run ["-p", "f", "--ignore-case", "get", "aB", "--value-key", "q"] {} satchelFilled.2).1
        = { code := 0, out := "ff\n" } := by
  have hnone : ({} : Disk).Bears satchel.path none := Disk.bears_of_isThere (by decide)
  refine ⟨hnone, ?_⟩
  have hcomputed : satchelFilled.1.code = 0
      ∧ parse ["-p", "f", "--ignore-case", "set", "Ab", "ff", "--hex", "--value-key", "q"]
        = .ok { options := satchel.options, command := .set "Ab" "ff" (some "q") true }
      ∧ parse ["-p", "f", "--ignore-case", "get", "aB", "--value-key", "q"]
        = .ok { options := satchel.options, command := .get "aB" (some "q") false }
      ∧ satchel.config.comparer.normalize "aB" = satchel.config.comparer.normalize "Ab"
      ∧ Text.Utf8.decode? [0xff] = none := by decide +kernel
  obtain ⟨hcode, hset, hget, hequal, hnotext⟩ := hcomputed
  have hreach : satchel.Reaches {} satchelFilled.2 (Shelf.next .empty satchel.config.comparer
      (.set "Ab" "ff" (some "q") true) satchelFilled.1) := .run .start hset rfl
  have hshelf : Shelf.next .empty satchel.config.comparer (.set "Ab" "ff" (some "q") true)
      satchelFilled.1 = Shelf.set .empty satchel.config.comparer "Ab" [0xff] (some "q") :=
    if_pos hcode
  have hslot : Shelf.set .empty satchel.config.comparer "Ab" [0xff] (some "q")
      (satchel.config.comparer.normalize "aB")
      = some { key := "Ab", value := [0xff], lock := some "q" } := by
    rw [Shelf.set_apply, if_pos hequal]
    rfl
  rw [hshelf] at hreach
  generalize Shelf.set .empty satchel.config.comparer "Ab" [0xff] (some "q") = m at hreach hslot
  generalize satchelFilled.2 = d at hreach ⊢
  generalize hrun : run ["-p", "f", "--ignore-case", "get", "aB", "--value-key", "q"] {} d = r
  have henv : Surroundings.env {} = satchel.env := rfl
  have hmeets := meets_of_reaches hnone hreach hget henv
  rw [hrun] at hmeets
  have hopens := hmeets.opens (.inl fun hempty => by rw [hempty] at hslot; cases hslot)
  have hanswers := hmeets.answers hopens
  simp only [Shelf.Answers, hslot] at hanswers
  obtain ⟨line, hshown, hprinted⟩ := hanswers
  rw [Deposit.seen_of_lock rfl] at hshown
  rw [hprinted]
  cases hshown with
  | text _ hs =>
    rw [Text.Utf8.decode?_eq_some_iff.mpr (Eq.symm hs)] at hnotext
    cases hnotext
  | digits => decide

end Setup

end CommandLine

end Coffer
