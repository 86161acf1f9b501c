import Coffer.Json.Basic
import Coffer.Proofs.Escapes

/-!
# Texts of JSON, by the grammar

Which texts RFC 8259 allows for a value, without any of the functions that read it. The words of a
value are written out by recursion over it (`words`), each word may be spelled in some ways
(`Token.IsSpelled`), and a text has blanks before, between and after them (`Spaced`). A value keeps
nothing of a number and the bytes of a string as they stand, so a number may be spelled by any
number.

**Every text of a value is read as that value** (`parse?_of_isText`). The text is cut at its words
(`tokens?_of_spaced`), for which the one doubtful place is the end of a number: it is where the
number cannot go on, and no two numbers of a value touch. Then the reader takes the words of one
value, wherever it starts, to the state after that value (`run_words`), by recursion over the value.
-/

namespace Coffer.Json

/-! ## Numbers -/

/-- The whole part of a number, without zeros in front. -/
inductive IsWhole : Bytes → Prop
  | zero : IsWhole [0x30]
  | digits {d : UInt8} {ds : Bytes} (hfirst : 0x31 ≤ d) (hd : isDigit d) (h : ∀ x ∈ ds, isDigit x) :
      IsWhole (d :: ds)

/-- The fraction of a number, which may be missing. -/
inductive IsFraction : Bytes → Prop
  | missing : IsFraction []
  | digits {d : UInt8} {ds : Bytes} (hd : isDigit d) (h : ∀ x ∈ ds, isDigit x) :
      IsFraction (0x2E :: d :: ds)

/-- The exponent of a number, which may be missing and may have a sign. -/
inductive IsExponent : Bytes → Prop
  | missing : IsExponent []
  | unsigned {e d : UInt8} {ds : Bytes} (he : e = 0x65 ∨ e = 0x45) (hd : isDigit d)
      (h : ∀ x ∈ ds, isDigit x) : IsExponent (e :: d :: ds)
  | signed {e sign d : UInt8} {ds : Bytes} (he : e = 0x65 ∨ e = 0x45)
      (hsign : sign = 0x2B ∨ sign = 0x2D) (hd : isDigit d) (h : ∀ x ∈ ds, isDigit x) :
      IsExponent (e :: sign :: d :: ds)

/-- A number. -/
inductive IsNumber : Bytes → Prop
  | unsigned {w f e : Bytes} (hw : IsWhole w) (hf : IsFraction f) (he : IsExponent e) :
      IsNumber (w ++ (f ++ e))
  | negative {w f e : Bytes} (hw : IsWhole w) (hf : IsFraction f) (he : IsExponent e) :
      IsNumber (0x2D :: (w ++ (f ++ e)))

/-! ## Words -/

/-- The ways to spell a word. -/
def Token.IsSpelled : Token → Bytes → Prop
  | .openBrace, b => b = [0x7B]
  | .closeBrace, b => b = [0x7D]
  | .openBracket, b => b = [0x5B]
  | .closeBracket, b => b = [0x5D]
  | .colon, b => b = [0x3A]
  | .comma, b => b = [0x2C]
  | .null, b => b = Text.Utf8.encode "null"
  | .bool value, b => b = Text.Utf8.encode (toString value)
  | .number, b => IsNumber b
  | .string raw, b => IsBody raw ∧ b = 0x22 :: (raw ++ [0x22])

/-- Words with blanks before, between and after them. -/
inductive Spaced : List Token → Bytes → Prop
  | nil : Spaced [] []
  | blank {ts : List Token} {x : UInt8} {b : Bytes} (hx : isBlank x) (h : Spaced ts b) :
      Spaced ts (x :: b)
  | word {t : Token} {ts : List Token} {w b : Bytes} (ht : t.IsSpelled w) (h : Spaced ts b) :
      Spaced (t :: ts) (w ++ b)

mutual

/-- The words of a value. -/
def words : Json → List Token
  | .null => [.null]
  | .bool value => [.bool value]
  | .number => [.number]
  | .string raw => [.string raw]
  | .array [] => [.openBracket, .closeBracket]
  | .array (v :: items) => .openBracket :: (words v ++ (itemWords items ++ [.closeBracket]))
  | .object [] => [.openBrace, .closeBrace]
  | .object ((key, v) :: members) =>
    .openBrace :: .string key :: .colon :: (words v ++ (memberWords members ++ [.closeBrace]))

/-- The words of the items of an array behind its first one. -/
def itemWords : List Json → List Token
  | [] => []
  | v :: items => .comma :: (words v ++ itemWords items)

/-- The words of the members of an object behind its first one. -/
def memberWords : List (Bytes × Json) → List Token
  | [] => []
  | (key, v) :: members => .comma :: .string key :: .colon :: (words v ++ memberWords members)

end

/-- **The texts of a value.** -/
def IsText (v : Json) (b : Bytes) : Prop := Spaced v.words b

theorem Spaced.single {t : Token} {w : Bytes} (h : t.IsSpelled w) : Spaced [t] w := by
  have hword : Spaced [t] (w ++ []) := .word h .nil
  rwa [List.append_nil] at hword

theorem Spaced.append {ts us : List Token} {b b' : Bytes} (h : Spaced ts b) (h' : Spaced us b') :
    Spaced (ts ++ us) (b ++ b') := by
  induction h with
  | nil => exact h'
  | blank hx _ ih => exact .blank hx ih
  | word ht _ ih =>
    rw [List.append_assoc]
    exact .word ht ih

/-- A text is written as a spelling of its string. -/
theorem isSpelled_written (s : String) :
    (Token.string (written s)).IsSpelled (Text.Utf8.encode (quote s)) :=
  ⟨(denotes_written s).isBody, encode_quote s⟩

/-! ## Where a number ends -/

/-- Does a text start with no digit? -/
def EndsDigits (b : Bytes) : Prop := ∀ x ∈ b.head?, isDigit x = false

/-- Does a text start with nothing that a number may go on with? -/
structure EndsNumber (b : Bytes) : Prop where
  digit : EndsDigits b
  point : ∀ x ∈ b.head?, x ≠ 0x2E
  exponent : ∀ x ∈ b.head?, x ≠ 0x65 ∧ x ≠ 0x45

theorem EndsNumber.nil : EndsNumber [] := ⟨nofun, nofun, nofun⟩

theorem EndsNumber.cons {x : UInt8} (b : Bytes)
    (h : isDigit x = false ∧ x ≠ 0x2E ∧ x ≠ 0x65 ∧ x ≠ 0x45) : EndsNumber (x :: b) where
  digit _ hy := Option.some.inj hy ▸ h.1
  point _ hy := Option.some.inj hy ▸ h.2.1
  exponent _ hy := Option.some.inj hy ▸ h.2.2

/-- Digits end where something else follows. -/
theorem skipDigits_append {ds rest : Bytes} (hds : ∀ x ∈ ds, isDigit x)
    (hrest : EndsDigits rest) : skipDigits (ds ++ rest) = rest := by
  rw [skipDigits, List.dropWhile_append_of_pos hds]
  cases rest with
  | nil => rfl
  | cons x rest => rw [List.dropWhile_cons_of_neg (by simp [hrest x rfl])]

theorem scanDigits_append {d : UInt8} {ds rest : Bytes} (hd : isDigit d)
    (hds : ∀ x ∈ ds, isDigit x) (hrest : EndsDigits rest) :
    scanDigits (d :: (ds ++ rest)) = some rest := by
  rw [scanDigits, if_pos hd, skipDigits_append hds hrest]

theorem scanExponent_append {e rest : Bytes} (he : IsExponent e) (hrest : EndsNumber rest) :
    scanExponent (e ++ rest) = some rest := by
  cases he with
  | missing =>
    rw [List.nil_append]
    cases rest with
    | nil => rfl
    | cons x rest => simp [scanExponent, hrest.exponent x rfl]
  | @unsigned e d ds he hd h =>
    have hsign : ¬(d = 0x2B ∨ d = 0x2D) := by
      rintro (rfl | rfl) <;> revert hd <;> decide
    rw [List.cons_append, List.cons_append, ← scanDigits_append hd h hrest.digit]
    simp [scanExponent, he, hsign]
  | signed he hsign hd h =>
    rw [List.cons_append, List.cons_append, List.cons_append,
      ← scanDigits_append hd h hrest.digit]
    simp [scanExponent, he, hsign]

theorem scanFraction_append {f rest : Bytes} (hf : IsFraction f) (hrest : EndsDigits rest)
    (hpoint : ∀ x ∈ rest.head?, x ≠ 0x2E) : scanFraction (f ++ rest) = some rest := by
  cases hf with
  | missing =>
    rw [List.nil_append]
    cases rest with
    | nil => rfl
    | cons x rest => simp [scanFraction, hpoint x rfl]
  | digits hd h => exact scanDigits_append hd h hrest

theorem scanWhole_append {w rest : Bytes} (hw : IsWhole w) (hrest : EndsDigits rest) :
    scanWhole (w ++ rest) = some rest := by
  cases hw with
  | zero => rfl
  | @digits d ds hfirst hd h =>
    have hzero : d ≠ 0x30 := by
      rintro rfl
      revert hfirst
      decide
    rw [List.cons_append, scanWhole, if_neg hzero, if_pos hd, skipDigits_append h hrest]

/-- Neither an exponent nor what follows the number goes on with digits or a fraction. -/
theorem IsExponent.ends {e rest : Bytes} (he : IsExponent e) (hrest : EndsNumber rest) :
    EndsDigits (e ++ rest) ∧ ∀ x ∈ (e ++ rest).head?, x ≠ 0x2E := by
  cases he with
  | missing => exact ⟨hrest.digit, hrest.point⟩
  | unsigned he | signed he =>
    rw [EndsDigits, List.cons_append, List.head?_cons]
    rcases he with rfl | rfl <;> simp <;> decide

theorem IsFraction.ends {f rest : Bytes} (hf : IsFraction f) (hrest : EndsDigits rest) :
    EndsDigits (f ++ rest) := by
  cases hf with
  | missing => exact hrest
  | digits => simp [EndsDigits]; decide

theorem scanUnsigned_append {w f e rest : Bytes} (hw : IsWhole w) (hf : IsFraction f)
    (he : IsExponent e) (hrest : EndsNumber rest) :
    scanUnsigned (w ++ (f ++ e) ++ rest) = some rest := by
  obtain ⟨hdigit, hpoint⟩ := he.ends hrest
  rw [List.append_assoc, List.append_assoc, scanUnsigned, scanWhole_append hw (hf.ends hdigit),
    Option.bind_some, scanFraction_append hf hdigit hpoint, Option.bind_some,
    scanExponent_append he hrest]

/-- A number starts with a digit or its sign. -/
theorem IsNumber.head {b : Bytes} (h : IsNumber b) :
    ∃ x tail, b = x :: tail ∧ (x = 0x2D ∨ isDigit x) := by
  cases h with
  | unsigned hw =>
    cases hw with
    | zero => exact ⟨_, _, rfl, .inr rfl⟩
    | digits _ hd => exact ⟨_, _, rfl, .inr hd⟩
  | negative => exact ⟨_, _, rfl, .inl rfl⟩

theorem scanNumber_append {b rest : Bytes} (h : IsNumber b) (hrest : EndsNumber rest) :
    scanNumber (b ++ rest) = some rest := by
  cases h with
  | negative hw hf he => exact scanUnsigned_append hw hf he hrest
  | unsigned hw hf he =>
    rw [← scanUnsigned_append hw hf he hrest]
    cases hw with
    | zero => rfl
    | digits hfirst hd =>
      unfold scanNumber
      split
      · simp_all
      · rfl

/-! ## Cutting a text at its words -/

theorem exists_digit {x : UInt8} (h : isDigit x) : ∃ n < 10, UInt8.ofNat (0x30 + n) = x := by
  simp only [isDigit, Bool.and_eq_true, decide_eq_true_eq, UInt8.le_iff_toNat_le] at h
  obtain ⟨hlow, hhigh⟩ : 0x30 ≤ x.toNat ∧ x.toNat ≤ 0x39 := h
  refine ⟨x.toNat - 0x30, by omega, ?_⟩
  rw [Nat.add_sub_cancel' hlow, UInt8.ofNat_toNat]

/-- What a number starts with starts no other word and is no blank. -/
theorem number_first {x : UInt8} (h : x = 0x2D ∨ isDigit x) :
    mark? x = none ∧ x ≠ 0x22 ∧ (x ≠ 0x6E ∧ x ≠ 0x74 ∧ x ≠ 0x66) ∧ isBlank x = false := by
  rcases h with rfl | h
  · decide
  · obtain ⟨n, hn, rfl⟩ := exists_digit h
    clear h
    revert n
    decide

theorem literal?_eq_none {x : UInt8} (h : x ≠ 0x6E ∧ x ≠ 0x74 ∧ x ≠ 0x66) (b : Bytes) :
    literal? (x :: b) = none := by
  unfold literal?
  split <;> simp_all

/-- **A word is cut off as it is spelled**, a number if what follows ends it. -/
theorem Token.IsSpelled.token? {t : Token} {w rest : Bytes} (h : t.IsSpelled w)
    (hrest : t = .number → EndsNumber rest) : token? (w ++ rest) = some (t, rest) := by
  cases t with
  | openBrace | closeBrace | openBracket | closeBracket | colon | comma | null =>
    obtain rfl := h
    rfl
  | bool value =>
    obtain rfl := h
    cases value <;> rfl
  | number =>
    obtain ⟨x, tail, rfl, hx⟩ := IsNumber.head h
    obtain ⟨hmark, hquote, hletter, -⟩ := number_first hx
    have hscan := scanNumber_append h (hrest rfl)
    rw [List.cons_append] at hscan ⊢
    simp only [Json.token?, hmark, if_neg hquote, literal?_eq_none hletter, hscan, Option.map_some]
  | string raw =>
    obtain ⟨hraw, rfl⟩ := h
    rw [List.cons_append, List.append_assoc, List.cons_append, List.nil_append]
    simp only [Json.token?, show mark? 0x22 = none from rfl, if_true, scanString_append hraw,
      Option.map_some]

/-- A word starts with no blank, and if it is no number with nothing that one goes on with. -/
theorem Token.IsSpelled.head {t : Token} {w : Bytes} (h : t.IsSpelled w) :
    ∃ x tail, w = x :: tail ∧ isBlank x = false
      ∧ (t ≠ .number → isDigit x = false ∧ x ≠ 0x2E ∧ x ≠ 0x65 ∧ x ≠ 0x45) := by
  cases t with
  | openBrace | closeBrace | openBracket | closeBracket | colon | comma | null =>
    exact ⟨_, _, h, by decide, fun _ => by decide⟩
  | bool value => cases value <;> exact ⟨_, _, h, by decide, fun _ => by decide⟩
  | number =>
    obtain ⟨x, tail, hw, hx⟩ := IsNumber.head h
    exact ⟨x, tail, hw, (number_first hx).2.2.2, fun hne => absurd rfl hne⟩
  | string raw => exact ⟨_, _, h.2, by decide, fun _ => by decide⟩

/-- Does a text of these words end a number before it? -/
def Ending (ts : List Token) : Prop := ∀ t ∈ ts.head?, t ≠ .number

theorem Spaced.endsNumber {ts : List Token} {b : Bytes} (h : Spaced ts b) (hts : Ending ts) :
    EndsNumber b := by
  cases h with
  | nil => exact .nil
  | @blank _ x _ hx =>
    refine .cons _ ?_
    simp only [isBlank, Bool.or_eq_true, decide_eq_true_eq] at hx
    rcases hx with ((rfl | rfl) | rfl) | rfl <;> decide
  | word ht =>
    obtain ⟨x, tail, rfl, -, hx⟩ := ht.head
    exact .cons _ (hx (hts _ rfl))

/-- Does no number directly follow another? -/
def Apart : List Token → Prop
  | [] => True
  | t :: ts => (t = .number → Ending ts) ∧ Apart ts

/-- **A text is cut at its words.** -/
theorem tokens?_of_spaced {ts : List Token} {b : Bytes} (h : Spaced ts b) (hts : Apart ts) :
    tokens? b = some ts := by
  induction h with
  | nil => rw [tokens?]
  | blank hx _ ih => rw [tokens?, if_pos hx, ih hts]
  | @word t ts w b ht h ih =>
    obtain ⟨x, tail, rfl, hblank, -⟩ := ht.head
    have hcut : Json.token? (x :: (tail ++ b)) = some (t, b) :=
      ht.token? fun hnum => h.endsNumber (hts.1 hnum)
    rw [List.cons_append, tokens?, if_neg (by simp [hblank])]
    split
    · next hnone => simp [hcut] at hnone
    · next hsome =>
      obtain ⟨rfl, rfl⟩ := Prod.mk.inj (Option.some.inj (hcut.symm.trans hsome))
      rw [ih hts.2, Option.map_some]

/-! ## No two numbers of a value touch -/

theorem Ending.cons (t : Token) (ts : List Token) (ht : t ≠ .number) : Ending (t :: ts) :=
  fun _ h => Option.some.inj h ▸ ht

theorem Apart.cons {t : Token} {ts : List Token} (ht : t ≠ .number) (h : Apart ts) :
    Apart (t :: ts) :=
  ⟨fun hnum => absurd hnum ht, h⟩

theorem ending_itemWords (items : List Json) {ts : List Token} (h : Ending ts) :
    Ending (itemWords items ++ ts) := by
  cases items with
  | nil => exact h
  | cons => exact .cons .comma _ nofun

theorem ending_memberWords (members : List (Bytes × Json)) {ts : List Token} (h : Ending ts) :
    Ending (memberWords members ++ ts) := by
  cases members with
  | nil => exact h
  | cons => exact .cons .comma _ nofun

mutual

theorem apart_words : ∀ (v : Json) {ts : List Token}, Ending ts → Apart ts → Apart (words v ++ ts)
  | .null, _, _, h | .bool _, _, _, h | .string _, _, _, h => .cons nofun h
  | .number, _, hend, h => ⟨fun _ => hend, h⟩
  | .array [], _, _, h | .object [], _, _, h => .cons nofun (.cons nofun h)
  | .array (v :: items), ts, _, h => by
    have hclose : Ending (.closeBracket :: ts) := .cons _ _ nofun
    simp only [words, List.cons_append, List.append_assoc, List.nil_append]
    exact .cons nofun (apart_words v (ending_itemWords items hclose)
      (apart_itemWords items hclose (.cons nofun h)))
  | .object ((key, v) :: members), ts, _, h => by
    have hclose : Ending (.closeBrace :: ts) := .cons _ _ nofun
    simp only [words, List.cons_append, List.append_assoc, List.nil_append]
    exact .cons nofun (.cons nofun (.cons nofun (apart_words v (ending_memberWords members hclose)
      (apart_memberWords members hclose (.cons nofun h)))))

theorem apart_itemWords : ∀ (items : List Json) {ts : List Token}, Ending ts → Apart ts →
    Apart (itemWords items ++ ts)
  | [], _, _, h => h
  | v :: items, _, hend, h => by
    simp only [itemWords, List.cons_append, List.append_assoc]
    exact .cons nofun (apart_words v (ending_itemWords items hend) (apart_itemWords items hend h))

theorem apart_memberWords : ∀ (members : List (Bytes × Json)) {ts : List Token}, Ending ts →
    Apart ts → Apart (memberWords members ++ ts)
  | [], _, _, h => h
  | (key, v) :: members, _, hend, h => by
    simp only [memberWords, List.cons_append, List.append_assoc]
    exact .cons nofun (.cons nofun (.cons nofun (apart_words v (ending_memberWords members hend)
      (apart_memberWords members hend h))))

end

/-! ## Reading the words of a value -/

namespace Reader

theorem run_of_step {r r' : Reader} {t : Token} (h : r.step t = some r') (ts : List Token) :
    r.run (t :: ts) = r'.run ts := by
  rw [run, List.foldlM_cons, h]
  rfl

/-- May a value start here? -/
def Expects (r : Reader) : Prop := r.expected = .value ∨ r.expected = .firstItem

/-- Where a value may start, its first word starts it. -/
theorem Expects.run_start {r r' : Reader} (h : r.Expects) (t : Token) (ht : t ≠ .closeBracket)
    (hstart : startValue r.open_ t = some r') (ts : List Token) : r.run (t :: ts) = r'.run ts := by
  refine run_of_step (hstart ▸ ?_) ts
  obtain ⟨frames, expected⟩ := r
  rcases h with rfl | rfl
  · rfl
  · cases t with
    | closeBracket => exact absurd rfl ht
    | _ => rfl

mutual

/-- **The words of a value lead to the state after that value**, whatever brackets are open. -/
theorem run_words : ∀ (v : Json) {r : Reader} (ts : List Token), r.Expects →
    r.run (words v ++ ts) = (place r.open_ v).run ts
  | .null, _, ts, h => h.run_start .null nofun rfl ts
  | .bool value, _, ts, h => h.run_start (.bool value) nofun rfl ts
  | .number, _, ts, h => h.run_start .number nofun rfl ts
  | .string raw, _, ts, h => h.run_start (.string raw) nofun rfl ts
  | .array [], r, ts, h => calc
      r.run (.openBracket :: .closeBracket :: ts)
      _ = run ⟨.array [] :: r.open_, .firstItem⟩ (.closeBracket :: ts) :=
        h.run_start .openBracket nofun rfl _
      _ = (place r.open_ (.array [])).run ts := run_of_step rfl _
  | .array (v :: items), r, ts, h => by
    simp only [words, List.cons_append, List.append_assoc, List.nil_append]
    calc
      r.run (.openBracket :: (words v ++ (itemWords items ++ .closeBracket :: ts)))
      _ = run ⟨.array [] :: r.open_, .firstItem⟩
            (words v ++ (itemWords items ++ .closeBracket :: ts)) :=
        h.run_start .openBracket nofun rfl _
      _ = run ⟨.array [v] :: r.open_, .next⟩ (itemWords items ++ .closeBracket :: ts) :=
        run_words v _ (.inr rfl)
      _ = (place r.open_ (.array (v :: items))).run ts := run_itemWords items [v] ts
  | .object [], r, ts, h => calc
      r.run (.openBrace :: .closeBrace :: ts)
      _ = run ⟨r.open_, .firstName⟩ (.closeBrace :: ts) := h.run_start .openBrace nofun rfl _
      _ = (place r.open_ (.object [])).run ts := run_of_step rfl _
  | .object ((key, v) :: members), r, ts, h => by
    simp only [words, List.cons_append, List.append_assoc, List.nil_append]
    calc
      r.run (.openBrace :: .string key :: .colon ::
          (words v ++ (memberWords members ++ .closeBrace :: ts)))
      _ = run ⟨r.open_, .firstName⟩ (.string key :: .colon ::
            (words v ++ (memberWords members ++ .closeBrace :: ts))) :=
        h.run_start .openBrace nofun rfl _
      _ = run ⟨.object [] key :: r.open_, .value⟩
            (words v ++ (memberWords members ++ .closeBrace :: ts)) :=
        (run_of_step rfl _).trans (run_of_step rfl _)
      _ = run ⟨.object [(key, v)] key :: r.open_, .next⟩
            (memberWords members ++ .closeBrace :: ts) := run_words v _ (.inl rfl)
      _ = (place r.open_ (.object ((key, v) :: members))).run ts :=
        run_memberWords members [(key, v)] ts

/-- The further items of an array lead to the state after the array. -/
theorem run_itemWords : ∀ (items done : List Json) {frames : List Frame} (ts : List Token),
    run ⟨.array done :: frames, .next⟩ (itemWords items ++ .closeBracket :: ts)
      = (place frames (.array (done.reverse ++ items))).run ts
  | [], done, frames, ts => by
    rw [List.append_nil]
    exact run_of_step rfl ts
  | v :: items, done, frames, ts => by
    simp only [itemWords, List.cons_append, List.append_assoc]
    calc
      run ⟨.array done :: frames, .next⟩
          (.comma :: (words v ++ (itemWords items ++ .closeBracket :: ts)))
      _ = run ⟨.array done :: frames, .value⟩
            (words v ++ (itemWords items ++ .closeBracket :: ts)) := run_of_step rfl _
      _ = run ⟨.array (v :: done) :: frames, .next⟩ (itemWords items ++ .closeBracket :: ts) :=
        run_words v _ (.inl rfl)
      _ = (place frames (.array ((v :: done).reverse ++ items))).run ts :=
        run_itemWords items (v :: done) ts
      _ = (place frames (.array (done.reverse ++ v :: items))).run ts := by
        rw [List.reverse_cons, List.append_assoc, List.singleton_append]

/-- The further members of an object lead to the state after the object. -/
theorem run_memberWords : ∀ (members done : List (Bytes × Json)) {key : Bytes}
    {frames : List Frame} (ts : List Token),
    run ⟨.object done key :: frames, .next⟩ (memberWords members ++ .closeBrace :: ts)
      = (place frames (.object (done.reverse ++ members))).run ts
  | [], done, _, frames, ts => by
    rw [List.append_nil]
    exact run_of_step rfl ts
  | (key, v) :: members, done, last, frames, ts => by
    simp only [memberWords, List.cons_append, List.append_assoc]
    calc
      run ⟨.object done last :: frames, .next⟩ (.comma :: .string key :: .colon ::
          (words v ++ (memberWords members ++ .closeBrace :: ts)))
      _ = run ⟨frames, .name done⟩ (.string key :: .colon ::
            (words v ++ (memberWords members ++ .closeBrace :: ts))) := run_of_step rfl _
      _ = run ⟨.object done key :: frames, .value⟩
            (words v ++ (memberWords members ++ .closeBrace :: ts)) :=
        (run_of_step rfl _).trans (run_of_step rfl _)
      _ = run ⟨.object ((key, v) :: done) key :: frames, .next⟩
            (memberWords members ++ .closeBrace :: ts) := run_words v _ (.inl rfl)
      _ = (place frames (.object (((key, v) :: done).reverse ++ members))).run ts :=
        run_memberWords members ((key, v) :: done) ts
      _ = (place frames (.object (done.reverse ++ (key, v) :: members))).run ts := by
        rw [List.reverse_cons, List.append_assoc, List.singleton_append]

end

end Reader

/-- **Every text of a value is read as that value.** -/
theorem parse?_of_isText {v : Json} {b : Bytes} (h : v.IsText b) : parse? b = some v := by
  have hapart : Apart (words v) := by
    have hend : Apart (words v ++ []) := apart_words v nofun trivial
    rwa [List.append_nil] at hend
  have hrun : Reader.start.run (words v) = some ⟨[], .nothing v⟩ := by
    have hwords : Reader.start.run (words v ++ []) = some ⟨[], .nothing v⟩ :=
      Reader.run_words v [] (.inl rfl)
    rwa [List.append_nil] at hwords
  simp only [parse?, tokens?_of_spaced h hapart, hrun, Option.bind_eq_bind, Option.bind_some,
    Reader.result?]

end Coffer.Json
