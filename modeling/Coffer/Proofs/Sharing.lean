import Mathlib.Data.Set.Card
import Coffer.Proofs.Ciphertexts
import Coffer.Proofs.Values

/-!
# Who shares a cipher, and until when

A keyring hands out one cipher for a passphrase until it is cleared, and clearing releases all that
it handed out. Both are told by the history of calls alone, for every cipher that was ever handed
out and not only for those that are still remembered (`shares_and_releases`).

What is remembered is sound, no two passphrases share a cipher, and every cipher that is not
remembered is released (`Keyring.Orderly`). Each call keeps it so. Over a run that does not clear, a
passphrase keeps its cipher; over one that does, a cipher is released and stays so, because a number
is given to one cipher only.
-/

namespace Coffer.Keyring

/-! ## Histories -/

/-- What is done with a keyring and with the ciphers that it handed out. -/
inductive Call where
  | get (passphrase : String)
  | clear
  /-- The keyring is given up, which clears it. -/
  | drop
  | encrypt (n : Nat) (message : Bytes)
  | decrypt (n : Nat) (sealed : Bytes)
  deriving Repr, DecidableEq

/-- The keyring after a call. A cipher is not changed by what is encrypted or decrypted with it. -/
def Call.apply (r : Keyring) : Call → Keyring
  | .get passphrase => (r.get passphrase).2
  | .clear | .drop => r.clear
  | .encrypt _ _ | .decrypt _ _ => r

/-- The call clears the keyring. -/
def Call.Clears : Call → Prop
  | .clear | .drop => True
  | .get _ | .encrypt _ _ | .decrypt _ _ => False

/-- The keyring after some calls. -/
def run (r : Keyring) (calls : List Call) : Keyring := calls.foldl Call.apply r

/-- After these calls a request for the passphrase is handed the cipher of this number. -/
def Hands (calls : List Call) (passphrase : String) (n : Nat) : Prop :=
  ((({} : Keyring).run calls).get passphrase).1 = .ok n

/-- A passphrase that is not empty was asked for, and nothing was cleared since. -/
def Asked (calls : List Call) (passphrase : String) : Prop :=
  passphrase ≠ "" ∧ ∃ before after, calls = before ++ .get passphrase :: after
    ∧ ∀ a ∈ after, ¬a.Clears

/-! ## Orderly keyrings -/

/-- What is remembered are the ciphers of their passphrases, each of its own, and all other ciphers
are released. -/
structure Orderly (r : Keyring) : Prop where
  sound : r.Sound
  injective : ∀ p q n, r.number? p = some n → r.number? q = some n → p = q
  released : ∀ n, (∀ p, r.number? p ≠ some n) → (r.cipher n).isReleased = true
  nodup : (r.remembered.map (·.1)).Nodup

variable {r : Keyring} {p q passphrase : String} {m n : Nat} {c : Cipher} {a : Call}
  {calls : List Call}

theorem orderly_empty : ({} : Keyring).Orderly :=
  ⟨sound_empty, nofun, fun _ _ => rfl, List.nodup_nil⟩

/-- A cipher that was just made has its key. -/
theorem isReleased_of_ofPassphrase (h : Cipher.ofPassphrase passphrase = .ok c) :
    c.isReleased = false := by
  rw [Cipher.ofPassphrase] at h
  split at h
  · cases h
  · cases h
    rfl

theorem Orderly.isReleased_eq_false (h : r.Orderly) (hn : r.number? p = some n) :
    (r.cipher n).isReleased = false :=
  isReleased_of_ofPassphrase (h.sound p n hn)

theorem number?_eq_none_iff : r.number? p = none ↔ p ∉ r.remembered.map (·.1) := by
  rw [number?, List.lookup_eq_none_iff, List.mem_map, not_exists]
  constructor
  · rintro h entry ⟨hmem, rfl⟩
    simpa using h entry hmem
  · intro h entry hmem
    simpa using fun heq => h entry ⟨hmem, heq.symm⟩

/-! ## One call -/

/-- A request is handed what is remembered; it is refused for want of a passphrase; or a cipher is
made, handed out and remembered. -/
theorem get_cases (r : Keyring) (passphrase : String) :
    (∃ n, r.number? passphrase = some n ∧ r.get passphrase = (.ok n, r))
      ∨ r.number? passphrase = none ∧ passphrase = ""
        ∧ r.get passphrase = (.error (.invalidArgument .emptyPassphrase), r)
      ∨ r.number? passphrase = none ∧ passphrase ≠ ""
        ∧ ∃ c, Cipher.ofPassphrase passphrase = .ok c
          ∧ r.get passphrase = (.ok r.ciphers.length, r.remember passphrase c) := by
  unfold get
  cases hn : r.number? passphrase with
  | some n => exact .inl ⟨n, rfl, rfl⟩
  | none =>
    rw [Cipher.ofPassphrase]
    by_cases hempty : passphrase = ""
    · rw [if_pos (String.isEmpty_iff.mpr hempty)]
      exact .inr (.inl ⟨rfl, hempty, rfl⟩)
    · rw [if_neg fun h => hempty (String.isEmpty_iff.mp h)]
      exact .inr (.inr ⟨rfl, hempty, _, rfl, rfl⟩)

theorem Orderly.remember (h : r.Orderly) (hnone : r.number? passphrase = none)
    (hc : Cipher.ofPassphrase passphrase = .ok c) : (r.remember passphrase c).Orderly := by
  have hold : ∀ other n, (r.remember passphrase c).number? other = some n →
      r.number? other = some n ∧ n < r.ciphers.length
        ∨ other = passphrase ∧ n = r.ciphers.length := by
    intro other n hn
    rw [number?_remember, Option.or_eq_some_iff] at hn
    rcases hn with hn | ⟨-, hn⟩
    · exact .inl ⟨hn, h.sound.linked other n hn⟩
    · split at hn
      · next heq => exact .inr ⟨heq, (Option.some.inj hn).symm⟩
      · cases hn
  refine ⟨h.sound.remember hc, fun p q n hp hq => ?_, fun n hn => ?_, ?_⟩
  · rcases hold p n hp with ⟨hp, hp'⟩ | ⟨rfl, hp'⟩
    · rcases hold q n hq with ⟨hq, -⟩ | ⟨-, hq'⟩
      · exact h.injective p q n hp hq
      · omega
    · rcases hold q n hq with ⟨-, hq'⟩ | ⟨heq, -⟩
      · omega
      · exact heq.symm
  · have hself : (r.remember passphrase c).number? passphrase = some r.ciphers.length := by
      rw [number?_remember, hnone, if_pos rfl, Option.none_or]
    rcases Nat.lt_trichotomy n r.ciphers.length with hlt | rfl | hgt
    · rw [cipher_remember_of_lt hlt]
      refine h.released n fun p hp => hn p ?_
      rw [number?_remember, hp, Option.some_or]
    · exact absurd hself (hn passphrase)
    · -- there is no such cipher
      rw [cipher, List.getD_eq_default _ _ (by simp [Keyring.remember]; omega)]
      rfl
  · rw [Keyring.remember, List.map_append, List.nodup_append]
    refine ⟨h.nodup, List.nodup_singleton _, ?_⟩
    rintro p hp q hq rfl
    obtain rfl : p = passphrase := List.mem_singleton.mp hq
    exact number?_eq_none_iff.mp hnone hp

theorem cipher_release (r : Keyring) (m n : Nat) :
    (r.release m).cipher n = if m = n then { key := none } else r.cipher n := by
  rw [cipher, release, List.getD_eq_getElem?_getD, cipher, List.getD_eq_getElem?_getD]
  by_cases hmn : m = n
  · rw [if_pos hmn, hmn, List.getElem?_modify_eq]
    cases r.ciphers[n]? <;> rfl
  · rw [if_neg hmn, List.getElem?_modify_ne _ _ hmn]

/-- Releasing one cipher after the other releases all of them and no other. -/
theorem cipher_foldl_release (entries : List (String × Nat)) (r : Keyring) (n : Nat) :
    (entries.foldl (fun r entry => r.release entry.2) r).cipher n
      = if n ∈ entries.map (·.2) then { key := none } else r.cipher n := by
  induction entries generalizing r with
  | nil => rfl
  | cons entry entries ih =>
    rw [List.foldl_cons, ih, cipher_release]
    simp only [List.map_cons, List.mem_cons]
    by_cases hlater : n ∈ entries.map (·.2)
    · rw [if_pos hlater, if_pos (.inr hlater)]
    · by_cases hfirst : entry.2 = n
      · rw [if_neg hlater, if_pos hfirst, if_pos (.inl hfirst.symm)]
      · rw [if_neg hlater, if_neg hfirst,
          if_neg (not_or.mpr ⟨fun heq => hfirst heq.symm, hlater⟩)]

theorem length_clear (r : Keyring) : r.clear.ciphers.length = r.ciphers.length := by
  have hfold : ∀ (entries : List (String × Nat)) (r : Keyring),
      (entries.foldl (fun r entry => r.release entry.2) r).ciphers.length = r.ciphers.length := by
    intro entries
    induction entries with
    | nil => exact fun _ => rfl
    | cons entry entries ih => exact fun r => (ih _).trans (List.length_modify ..)
  exact hfold r.remembered r

/-- **After clearing, all ciphers are released.** -/
theorem Orderly.isReleased_clear (h : r.Orderly) (n : Nat) :
    (r.clear.cipher n).isReleased = true := by
  have hclear : r.clear.cipher n
      = (r.remembered.foldl (fun r entry => r.release entry.2) r).cipher n := rfl
  rw [hclear, cipher_foldl_release]
  split
  · rfl
  · next hn =>
    refine h.released n fun p hp => hn ?_
    obtain ⟨before, after, hremembered, -⟩ := List.lookup_eq_some_iff.mp hp
    rw [hremembered, List.map_append, List.map_cons]
    exact List.mem_append_right _ List.mem_cons_self

theorem Orderly.clear (h : r.Orderly) : r.clear.Orderly :=
  ⟨nofun, nofun, fun n _ => h.isReleased_clear n, List.nodup_nil⟩

/-- A call changes nothing, or remembers the cipher that it made, or clears. -/
theorem Call.apply_cases (a : Call) (r : Keyring) :
    a.apply r = r
      ∨ (∃ passphrase c, r.number? passphrase = none ∧ Cipher.ofPassphrase passphrase = .ok c
        ∧ a.apply r = r.remember passphrase c)
      ∨ a.Clears ∧ a.apply r = r.clear := by
  cases a with
  | get passphrase =>
    rw [Call.apply]
    rcases get_cases r passphrase with ⟨n, -, heq⟩ | ⟨-, -, heq⟩ | ⟨hnone, -, c, hc, heq⟩
    · exact .inl (congrArg Prod.snd heq)
    · exact .inl (congrArg Prod.snd heq)
    · exact .inr (.inl ⟨passphrase, c, hnone, hc, congrArg Prod.snd heq⟩)
  | clear | drop => exact .inr (.inr ⟨trivial, rfl⟩)
  | encrypt | decrypt => exact .inl rfl

theorem Orderly.apply (h : r.Orderly) (a : Call) : (a.apply r).Orderly := by
  rcases a.apply_cases r with heq | ⟨passphrase, c, hnone, hc, heq⟩ | ⟨-, heq⟩
  · rwa [heq]
  · rw [heq]
    exact h.remember hnone hc
  · rw [heq]
    exact h.clear

theorem Orderly.run (h : r.Orderly) (calls : List Call) : (r.run calls).Orderly := by
  induction calls generalizing r with
  | nil => exact h
  | cons a calls ih => exact ih (h.apply a)

theorem run_append (r : Keyring) (calls more : List Call) :
    r.run (calls ++ more) = (r.run calls).run more :=
  List.foldl_append

/-! ## What a passphrase is remembered with -/

/-- A call that does not clear leaves what is remembered. -/
theorem number?_apply (hn : r.number? p = some n) (ha : ¬a.Clears) :
    (a.apply r).number? p = some n := by
  rcases a.apply_cases r with heq | ⟨passphrase, c, -, -, heq⟩ | ⟨hclears, -⟩
  · rwa [heq]
  · rw [heq, number?_remember, hn, Option.some_or]
  · exact absurd hclears ha

/-- **As long as nothing is cleared, a passphrase keeps its cipher.** -/
theorem number?_run (hn : r.number? p = some n) (hcalls : ∀ a ∈ calls, ¬a.Clears) :
    (r.run calls).number? p = some n := by
  induction calls generalizing r with
  | nil => exact hn
  | cons a calls ih =>
    rw [List.forall_mem_cons] at hcalls
    exact ih (number?_apply hn hcalls.1) hcalls.2

/-- What is handed out is remembered. -/
theorem number?_of_get (h : (r.get p).1 = .ok n) : ((Call.get p).apply r).number? p = some n := by
  rw [Call.apply]
  rcases get_cases r p with ⟨m, hm, heq⟩ | ⟨-, -, heq⟩ | ⟨hnone, -, c, -, heq⟩
  · rw [heq] at h ⊢
    cases h
    exact hm
  · rw [heq] at h
    cases h
  · rw [heq] at h ⊢
    cases h
    rw [number?_remember, hnone, if_pos rfl, Option.none_or]

/-! ## What is released -/

theorem length_le_apply (r : Keyring) (a : Call) :
    r.ciphers.length ≤ (a.apply r).ciphers.length := by
  rcases a.apply_cases r with heq | ⟨passphrase, c, -, -, heq⟩ | ⟨-, heq⟩
  · rw [heq]
  · rw [heq, remember, List.length_append]
    exact Nat.le_add_right _ _
  · rw [heq, length_clear]

/-- A number is given to one cipher only, so a cipher that is released stays so. -/
theorem Orderly.isReleased_apply (h : r.Orderly) (hn : n < r.ciphers.length)
    (hreleased : (r.cipher n).isReleased = true) (a : Call) :
    ((a.apply r).cipher n).isReleased = true := by
  rcases a.apply_cases r with heq | ⟨passphrase, c, -, -, heq⟩ | ⟨-, heq⟩
  · rwa [heq]
  · rwa [heq, cipher_remember_of_lt hn]
  · rw [heq]
    exact h.isReleased_clear n

theorem Orderly.isReleased_run (h : r.Orderly) (hn : n < r.ciphers.length)
    (hreleased : (r.cipher n).isReleased = true) (calls : List Call) :
    ((r.run calls).cipher n).isReleased = true := by
  induction calls generalizing r with
  | nil => exact hreleased
  | cons a calls ih =>
    exact ih (h.apply a) (Nat.lt_of_lt_of_le hn (length_le_apply r a))
      (h.isReleased_apply hn hreleased a)

/-- **Once something clears, every cipher that was made before is released.** -/
theorem Orderly.isReleased_run_of_clears (h : r.Orderly) (hn : n < r.ciphers.length)
    (hcalls : ∃ a ∈ calls, a.Clears) : ((r.run calls).cipher n).isReleased = true := by
  induction calls generalizing r with
  | nil => simp at hcalls
  | cons a calls ih =>
    have hn' := Nat.lt_of_lt_of_le hn (length_le_apply r a)
    obtain ⟨b, hb, hclears⟩ := hcalls
    rcases List.mem_cons.mp hb with rfl | hb
    · refine (h.apply b).isReleased_run hn' ?_ calls
      cases b with
      | clear | drop => exact h.isReleased_clear n
      | get | encrypt | decrypt => cases hclears
    · exact ih (h.apply a) hn' ⟨b, hb, hclears⟩

/-! ## What was asked for -/

/-- A passphrase counts as asked for if the last call asks for it, or does not clear and it counted
before. -/
theorem asked_concat :
    Asked (calls ++ [a]) p ↔ p ≠ "" ∧ a = .get p ∨ Asked calls p ∧ ¬a.Clears := by
  constructor
  · rintro ⟨hne, before, after, hcalls, hafter⟩
    rcases List.eq_nil_or_concat after with rfl | ⟨after, b, rfl⟩
    · obtain ⟨-, hlast⟩ := List.append_inj' hcalls rfl
      exact .inl ⟨hne, List.singleton_inj.mp hlast⟩
    · rw [List.concat_eq_append, ← List.cons_append, ← List.append_assoc] at hcalls
      obtain ⟨rfl, hab⟩ := List.append_inj' hcalls rfl
      obtain rfl : a = b := List.singleton_inj.mp hab
      simp only [List.concat_eq_append, List.forall_mem_append, List.forall_mem_singleton] at hafter
      exact .inr ⟨⟨hne, before, after, rfl, hafter.1⟩, hafter.2⟩
  · rintro (⟨hne, rfl⟩ | ⟨⟨hne, before, after, rfl, hafter⟩, hclears⟩)
    · exact ⟨hne, calls, [], rfl, nofun⟩
    · refine ⟨hne, before, after ++ [a], by simp, ?_⟩
      simpa only [List.forall_mem_append, List.forall_mem_singleton] using ⟨hafter, hclears⟩

/-- **What is remembered is what was asked for since the last clearing.** -/
theorem number?_run_ne_none_iff (calls : List Call) (p : String) :
    (({} : Keyring).run calls).number? p ≠ none ↔ Asked calls p := by
  induction calls using List.reverseRecOn with
  | nil => exact iff_of_false (fun h => h rfl) fun h => by simpa using h.2
  | append_singleton calls a ih =>
    rw [asked_concat, ← ih, run_append]
    show (a.apply _).number? p ≠ none ↔ _
    generalize ({} : Keyring).run calls = r
    cases a with
    | get passphrase =>
      rw [Call.apply]
      simp only [Call.get.injEq, Call.Clears, not_false_eq_true, and_true]
      rcases get_cases r passphrase with ⟨m, hm, heq⟩ | ⟨-, hempty, heq⟩ | ⟨hnone, hne, c, -, heq⟩
      · rw [heq]
        refine ⟨.inr, ?_⟩
        rintro (⟨-, rfl⟩ | hp)
        · rw [hm]
          simp
        · exact hp
      · rw [heq]
        refine ⟨.inr, ?_⟩
        rintro (⟨hne, rfl⟩ | hp)
        · exact absurd hempty hne
        · exact hp
      · rw [heq, number?_remember]
        by_cases hp : p = passphrase
        · rw [if_pos hp, hp, hnone]
          exact iff_of_true (by simp) (.inl ⟨hne, rfl⟩)
        · rw [if_neg hp, Option.or_none]
          exact ⟨.inr, fun h => h.resolve_left fun h => hp h.2.symm⟩
    | clear | drop => exact iff_of_false (fun h => h rfl) (by simp [Call.Clears])
    | encrypt | decrypt => simp [Call.apply, Call.Clears]

/-- An orderly keyring remembers each passphrase once. -/
theorem Orderly.size_eq_ncard (h : r.Orderly) : r.size = {p | r.number? p ≠ none}.ncard := by
  have hset : {p | r.number? p ≠ none} = ((r.remembered.map (·.1)).toFinset : Set String) := by
    ext p
    simp only [Set.mem_ofPred_eq, List.coe_toFinset, ne_eq, number?_eq_none_iff, not_not]
  rw [hset, Set.ncard_coe_finset, List.toFinset_card_of_nodup h.nodup, List.length_map, size]

/-! ## Who was handed what -/

section Handed

variable {between after : List Call}

/-- **A cipher is released if and only if something cleared since it was handed out.** -/
theorem Orderly.isReleased_iff (h : r.Orderly) (hn : (r.get p).1 = .ok n) :
    ((((Call.get p).apply r).run after).cipher n).isReleased = true ↔ ∃ a ∈ after, a.Clears := by
  have hget := h.apply (.get p)
  have hnumber := number?_of_get hn
  constructor
  · intro hreleased
    by_contra hnone
    have hcalls : ∀ a ∈ after, ¬a.Clears := fun a ha hclears => hnone ⟨a, ha, hclears⟩
    have hkept := number?_run hnumber hcalls
    rw [(hget.run after).isReleased_eq_false hkept] at hreleased
    cases hreleased
  · exact hget.isReleased_run_of_clears (hget.sound.linked p n hnumber)

/-- **Two requests are handed the same cipher if and only if they name the same passphrase and
nothing cleared between them.** -/
theorem Orderly.eq_iff (h : r.Orderly) (hm : (r.get p).1 = .ok m)
    (hn : ((((Call.get p).apply r).run between).get q).1 = .ok n) :
    m = n ↔ p = q ∧ ∀ a ∈ between, ¬a.Clears := by
  have hlast := ((h.apply (.get p)).run between).apply (.get q)
  have hnumber := number?_of_get hn
  -- the second request clears nothing either
  have hrun : (Call.get q).apply (((Call.get p).apply r).run between)
      = ((Call.get p).apply r).run (between ++ [.get q]) := (run_append _ between [.get q]).symm
  rw [hrun] at hlast hnumber
  have hkept (hcalls : ∀ a ∈ between, ¬a.Clears) :
      (((Call.get p).apply r).run (between ++ [.get q])).number? p = some m := by
    refine number?_run (number?_of_get hm) ?_
    simp only [List.forall_mem_append, List.forall_mem_singleton]
    exact ⟨hcalls, id⟩
  constructor
  · rintro rfl
    -- the cipher that was handed out last has its key
    have hkey := hlast.isReleased_eq_false hnumber
    have hcalls : ∀ a ∈ between, ¬a.Clears := by
      intro a ha hclears
      rw [(h.isReleased_iff hm).mpr ⟨a, List.mem_append_left _ ha, hclears⟩] at hkey
      cases hkey
    exact ⟨hlast.injective p q m (hkept hcalls) hnumber, hcalls⟩
  · rintro ⟨rfl, hcalls⟩
    have hsame := hkept hcalls
    rw [hnumber] at hsame
    exact (Option.some.inj hsame).symm

/-- As long as a cipher is not released it is that of the passphrase it was handed out for. -/
theorem Orderly.ofPassphrase_of_not_released (h : r.Orderly) (hn : (r.get p).1 = .ok n)
    (hkey : ((((Call.get p).apply r).run after).cipher n).isReleased = false) :
    Cipher.ofPassphrase p = .ok ((((Call.get p).apply r).run after).cipher n) := by
  refine ((h.apply (.get p)).run after).sound p n (number?_run (number?_of_get hn) ?_)
  intro a ha hclears
  rw [(h.isReleased_iff hn).mpr ⟨a, ha, hclears⟩] at hkey
  cases hkey

end Handed

/-- What encrypts has its key. -/
theorem isReleased_of_encrypt {message sealed : Bytes} (h : c.encrypt message = .ok sealed) :
    c.isReleased = false := by
  obtain ⟨key, hkey, -⟩ := Cipher.encrypt_eq_ok_iff.mp h
  rw [Cipher.isReleased, hkey]
  rfl

/-- **A keyring shares its ciphers until it is cleared, and then releases them.** Two requests are
handed the same cipher exactly if they name the same passphrase with no clearing between them; a
cipher is released exactly if something cleared since it was handed out; and as many passphrases are
remembered as were asked for since the last clearing. The empty passphrase is refused, any other is
handed a cipher. What a cipher encrypted is decrypted by every later one for its passphrase. -/
theorem shares_and_releases :
    (∀ before p m between q n, Hands before p m → Hands (before ++ .get p :: between) q n →
        (m = n ↔ p = q ∧ ∀ a ∈ between, ¬a.Clears))
      ∧ (∀ before p n after, Hands before p n →
        (((({} : Keyring).run (before ++ .get p :: after)).cipher n).isReleased = true
          ↔ ∃ a ∈ after, a.Clears))
      ∧ (∀ calls, (({} : Keyring).run calls).size = {p | Asked calls p}.ncard)
      ∧ (∀ calls, (({} : Keyring).run calls).get ""
        = (.error (.invalidArgument .emptyPassphrase), ({} : Keyring).run calls))
      ∧ (∀ calls p, p ≠ "" → ∃ n, Hands calls p n)
      ∧ ∀ before p m early late n after message sealed, Hands before p m →
        ((({} : Keyring).run (before ++ .get p :: early)).cipher m).encrypt message = .ok sealed →
        Hands (before ++ .get p :: (early ++ late)) p n → (∀ a ∈ after, ¬a.Clears) →
        ((({} : Keyring).run (before ++ .get p :: (early ++ late) ++ .get p :: after)).cipher
            n).tryDecrypt sealed = .ok message
          ∧ ((({} : Keyring).run (before ++ .get p :: (early ++ late) ++ .get p :: after)).cipher
            n).decrypt sealed = message := by
  have horderly (calls : List Call) : (({} : Keyring).run calls).Orderly := orderly_empty.run calls
  have hget (r : Keyring) (before : List Call) (p : String) (after : List Call) :
      r.run (before ++ .get p :: after) = ((Call.get p).apply (r.run before)).run after :=
    run_append r before (.get p :: after)
  refine ⟨?_, ?_, ?_, ?_, ?_, ?_⟩
  · intro before p m between q n hm hn
    rw [Hands, hget] at hn
    exact (horderly before).eq_iff hm hn
  · intro before p n after hn
    rw [hget]
    exact (horderly before).isReleased_iff hn
  · intro calls
    simp only [(horderly calls).size_eq_ncard, number?_run_ne_none_iff]
  · intro calls
    rcases get_cases (({} : Keyring).run calls) "" with ⟨n, hn, -⟩ | ⟨-, -, heq⟩ | ⟨-, hne, -⟩
    · have hasked := (number?_run_ne_none_iff calls "").mp (by rw [hn]; simp)
      exact absurd rfl hasked.1
    · exact heq
    · exact absurd rfl hne
  · intro calls p hp
    rcases get_cases (({} : Keyring).run calls) p with
      ⟨n, -, heq⟩ | ⟨-, hempty, -⟩ | ⟨-, -, c, -, heq⟩
    · exact ⟨n, congrArg Prod.fst heq⟩
    · exact absurd hempty hp
    · exact ⟨_, congrArg Prod.fst heq⟩
  · intro before p m early late n after message sealed hm hencrypt hn hafter
    rw [hget] at hencrypt
    -- both ciphers are that of the passphrase
    have hkey := isReleased_of_encrypt hencrypt
    have hfirst := (horderly before).ofPassphrase_of_not_released hm hkey
    have hlater : Cipher.ofPassphrase p = .ok ((({} : Keyring).run
        (before ++ .get p :: (early ++ late) ++ .get p :: after)).cipher n) := by
      rw [hget _ (before ++ .get p :: (early ++ late))]
      refine (horderly _).ofPassphrase_of_not_released hn ?_
      rw [← Bool.not_eq_true, (horderly _).isReleased_iff hn]
      rintro ⟨a, ha, hclears⟩
      exact hafter a ha hclears
    rw [hlater] at hfirst
    rw [← Except.ok.inj hfirst] at hencrypt
    have hopen := Cipher.tryDecrypt_eq_ok_iff.mpr hencrypt
    refine ⟨hopen, ?_⟩
    rw [Cipher.decrypt, hopen]

/-- Two passphrases, one of them asked for again after clearing. -/
theorem shares_and_releases_asked_again :
    Hands [] "alpha" 0 ∧ Hands [.get "alpha", .get "beta", .clear] "alpha" 2
      ∧ ((({} : Keyring).run [.get "alpha", .get "beta", .clear, .get "alpha"]).cipher
        1).isReleased = true
      ∧ ∃ sealed, ((({} : Keyring).run [.get "alpha"]).cipher 0).encrypt [1, 2, 3] = .ok sealed
        ∧ ((({} : Keyring).run [.get "alpha", .get "beta", .clear, .get "alpha"]).cipher
          2).tryDecrypt sealed = .ok [1, 2, 3] := by
  obtain ⟨-, hreleased, -, -, -, hdecrypts⟩ := shares_and_releases
  have hfirst : Hands [] "alpha" 0 := rfl
  have hsecond : Hands [.get "alpha"] "beta" 1 := rfl
  have hagain : Hands [.get "alpha", .get "beta", .clear] "alpha" 2 := rfl
  have hsealed : ∃ sealed,
      ((({} : Keyring).run [.get "alpha"]).cipher 0).encrypt [1, 2, 3] = .ok sealed := ⟨_, rfl⟩
  obtain ⟨sealed, hsealed⟩ := hsealed
  refine ⟨hfirst, hagain, ?_, sealed, hsealed, ?_⟩
  · exact (hreleased [.get "alpha"] "beta" 1 [.clear, .get "alpha"] hsecond).mpr
      ⟨.clear, List.mem_cons_self, trivial⟩
  · exact (hdecrypts [] "alpha" 0 [] [.get "beta", .clear] 2 [] [1, 2, 3] sealed hfirst hsealed
      hagain nofun).1

end Coffer.Keyring
