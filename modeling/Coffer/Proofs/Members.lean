import Coffer.Config.File
import Coffer.Proofs.Grammar

/-!
# Configurations survive their JSON form

A configuration is read from every text that holds it (`HeldIn`): an object with its fields in any
order, where a field with its default may be left out and members of other names may stand
anywhere. Values and names may be spelled in any way that the grammar allows, and the members of
other names may have any values.

The members are set one after the other. So the statement is made for any configuration to start
from: what is set agrees with the configuration that is held in the fields that are listed and with
the start in all others (`setMembers?_of_lists`).
-/

namespace Coffer.Config

open Json (Denotes Spaced words memberWords written)

/-! ## Fields -/

/-- Do two configurations have the same value in a field? -/
def Field.Agrees (f : Field) (c d : Config) : Prop :=
  match f with
  | .path => c.path = d.path
  | .ignoreCase => c.ignoreCase = d.ignoreCase
  | .encoding => c.encoding = d.encoding
  | .saveOnUpdate => c.saveOnUpdate = d.saveOnUpdate
  | .announce => c.announce = d.announce
  | .passphrase => c.passphrase = d.passphrase
  | .strict => c.strict = d.strict

/-- The values that a text that may be missing is written as. -/
def IsOptionalText : Option String → Json → Prop
  | none, v => v = .null
  | some s, v => ∃ raw, v = .string raw ∧ Denotes raw s

/-- The values that a field of a configuration is written as. -/
def Field.Says (f : Field) (c : Config) (v : Json) : Prop :=
  match f with
  | .path => IsOptionalText c.path v
  | .ignoreCase => v = .bool c.ignoreCase
  | .encoding => ∃ raw, v = .string raw ∧ Denotes raw c.encoding.name
  | .saveOnUpdate => v = .bool c.saveOnUpdate
  | .announce => v = .bool c.announce
  | .passphrase => IsOptionalText c.passphrase v
  | .strict => v = .bool c.strict

/-- Members of an object that list some fields of a configuration, in this order. A member of
another name may stand anywhere and have any value. All names are texts, so in none of them a
surrogate stands alone. -/
inductive Lists (c : Config) : List Field → List (Bytes × Json) → Prop
  | nil : Lists c [] []
  | field {f : Field} {fields : List Field} {raw : Bytes} {v : Json} {members : List (Bytes × Json)}
      (hname : Denotes raw f.name) (hv : f.Says c v) (h : Lists c fields members) :
      Lists c (f :: fields) ((raw, v) :: members)
  | other {fields : List Field} {name : String} {raw : Bytes} {v : Json}
      {members : List (Bytes × Json)} (hname : Denotes raw name)
      (hother : ∀ f : Field, f.name ≠ name) (h : Lists c fields members) : Lists c fields ((raw, v) :: members)

/-- **The texts that hold a configuration**: an object that lists some of its fields, each once,
where those that are missing have their defaults. -/
inductive HeldIn (c : Config) (b : Bytes) : Prop
  | intro {fields : List Field} {members : List (Bytes × Json)} (hnodup : fields.Nodup)
      (hmissing : ∀ f ∉ fields, f.Agrees c {}) (hlists : Lists c fields members)
      (htext : Json.IsText (.object members) b)

theorem Field.Agrees.trans {f : Field} {c d e : Config} (h : f.Agrees c d) (h' : f.Agrees d e) :
    f.Agrees c e := by
  cases f <;> exact Eq.trans h h'

theorem Field.Agrees.symm {f : Field} {c d : Config} (h : f.Agrees c d) : f.Agrees d c := by
  cases f <;> exact Eq.symm h

theorem eq_of_agrees {c d : Config} (h : ∀ f : Field, f.Agrees c d) : c = d := by
  obtain ⟨path, ignoreCase, encoding, saveOnUpdate, announce, passphrase, strict⟩ := c
  obtain rfl : path = _ := h .path
  obtain rfl : ignoreCase = _ := h .ignoreCase
  obtain rfl : encoding = _ := h .encoding
  obtain rfl : saveOnUpdate = _ := h .saveOnUpdate
  obtain rfl : announce = _ := h .announce
  obtain rfl : passphrase = _ := h .passphrase
  obtain rfl : strict = _ := h .strict
  rfl

/-! ## Setting a field -/

/-- The second configuration with a field of the first. -/
def Field.put (f : Field) (c d : Config) : Config :=
  match f with
  | .path => { d with path := c.path }
  | .ignoreCase => { d with ignoreCase := c.ignoreCase }
  | .encoding => { d with encoding := c.encoding }
  | .saveOnUpdate => { d with saveOnUpdate := c.saveOnUpdate }
  | .announce => { d with announce := c.announce }
  | .passphrase => { d with passphrase := c.passphrase }
  | .strict => { d with strict := c.strict }

theorem Field.agrees_put (f : Field) (c d : Config) : f.Agrees (f.put c d) c := by
  cases f <;> rfl

/-- All other fields are as before. -/
theorem Field.agrees_put_of_ne {f g : Field} (h : g ≠ f) (c d : Config) :
    g.Agrees (f.put c d) d := by
  cases f <;> cases g <;> first | rfl | exact absurd rfl h

theorem readText?_of_isOptionalText {o : Option String} {v : Json} (h : IsOptionalText o v) :
    readText? v = some o := by
  cases o with
  | none =>
    obtain rfl := h
    rfl
  | some s =>
    obtain ⟨raw, rfl, hraw⟩ := h
    rw [readText?, hraw.unquote?, Option.map_some]

theorem readEncoding?_of_denotes {raw : Bytes} {e : KeyEncoding} (h : Denotes raw e.name) :
    readEncoding? (.string raw) = some e := by
  rw [readEncoding?, readEncodingName?, h.unquote?]
  cases e <;> rfl

/-- **A value that says a field sets that field.** -/
theorem Field.Says.setField? {f : Field} {c : Config} {v : Json} (h : f.Says c v) (d : Config) :
    setField? d f v = some (f.put c d) := by
  cases f with
  | path | passphrase =>
    rw [Config.setField?, readText?_of_isOptionalText h, Option.map_some]
    rfl
  | encoding =>
    obtain ⟨raw, rfl, hraw⟩ := h
    rw [Config.setField?, readEncoding?_of_denotes hraw, Option.map_some]
    rfl
  | ignoreCase | saveOnUpdate | announce | strict =>
    obtain rfl := h
    rfl

/-! ## Setting the members of an object -/

theorem Field.ofName?_name (f : Field) : Field.ofName? f.name = some f := by
  cases f <;> decide

theorem Field.ofName?_eq_none {name : String} (h : ∀ f : Field, f.name ≠ name) :
    Field.ofName? name = none :=
  List.find?_eq_none.mpr fun f _ => by simpa using h f

/-- **Members set the fields that they list and no others.** -/
theorem setMembers?_of_lists {c : Config} {fields : List Field} {members : List (Bytes × Json)}
    (h : Lists c fields members) (hnodup : fields.Nodup) (seen : List Field)
    (hseen : ∀ f ∈ fields, f ∉ seen) (d : Config) :
    ∃ e, setMembers? d seen members = some e ∧ (∀ f ∈ fields, f.Agrees e c)
      ∧ ∀ f ∉ fields, f.Agrees e d := by
  induction h generalizing seen d with
  | nil => exact ⟨d, rfl, nofun, fun f _ => by cases f <;> rfl⟩
  | @field f fields raw v members hname hv _ ih =>
    obtain ⟨hfresh, hnodup⟩ := List.nodup_cons.mp hnodup
    obtain ⟨hf, hseen⟩ := List.forall_mem_cons.mp hseen
    have hseen' : ∀ g ∈ fields, g ∉ f :: seen := by
      intro g hg hmem
      rcases List.mem_cons.mp hmem with rfl | hmem
      · exact hfresh hg
      · exact hseen g hg hmem
    obtain ⟨e, he, hlisted, hkept⟩ := ih hnodup (f :: seen) hseen' (f.put c d)
    refine ⟨e, ?_, ?_, ?_⟩
    · simp only [setMembers?, hname.unquote?, f.ofName?_name, if_neg hf, hv.setField?,
        Option.bind_some, he]
    · exact List.forall_mem_cons.mpr ⟨(hkept f hfresh).trans (f.agrees_put c d), hlisted⟩
    · intro g hg
      obtain ⟨hne, hg⟩ := not_or.mp (List.mem_cons.not.mp hg)
      exact (hkept g hg).trans (Field.agrees_put_of_ne hne c d)
  | other hname hother _ ih =>
    obtain ⟨e, he, hagrees⟩ := ih hnodup seen hseen d
    refine ⟨e, ?_, hagrees⟩
    simp only [setMembers?, hname.unquote?, Field.ofName?_eq_none hother, he]

/-- **A text that holds a configuration is read as that configuration.** -/
theorem HeldIn.parse? {c : Config} {b : Bytes} (h : c.HeldIn b) : parse? b = some c := by
  obtain @⟨fields, _, hnodup, hmissing, hlists, htext⟩ := h
  obtain ⟨e, he, hlisted, hkept⟩ := setMembers?_of_lists hlists hnodup [] nofun {}
  obtain rfl : c = e := by
    refine eq_of_agrees fun f => ?_
    by_cases hf : f ∈ fields
    · exact (hlisted f hf).symm
    · exact (hmissing f hf).trans (hkept f hf).symm
  rw [Config.parse?, Json.parse?_of_isText htext, Option.bind_some, ofJson?, he]

/-! ## What is written -/

/-- The JSON value that a text that may be missing is written as. -/
def textForm : Option String → Json
  | none => .null
  | some s => .string (written s)

/-- The JSON value that a field is written as. -/
def Field.form (c : Config) : Field → Json
  | .path => textForm c.path
  | .ignoreCase => .bool c.ignoreCase
  | .encoding => .string (written c.encoding.name)
  | .saveOnUpdate => .bool c.saveOnUpdate
  | .announce => .bool c.announce
  | .passphrase => textForm c.passphrase
  | .strict => .bool c.strict

/-- The member that a field is written as. -/
def Field.member (c : Config) (f : Field) : Bytes × Json := (written f.name, f.form c)

theorem isOptionalText_textForm (o : Option String) : IsOptionalText o (textForm o) := by
  cases o with
  | none => rfl
  | some s => exact ⟨_, rfl, Json.denotes_written s⟩

theorem Field.says_form (c : Config) (f : Field) : f.Says c (f.form c) := by
  cases f with
  | path | passphrase => exact isOptionalText_textForm _
  | encoding => exact ⟨_, rfl, Json.denotes_written _⟩
  | ignoreCase | saveOnUpdate | announce | strict => rfl

theorem lists_members (c : Config) : ∀ fields : List Field, Lists c fields (fields.map (·.member c))
  | [] => .nil
  | f :: fields => .field (Json.denotes_written f.name) (f.says_form c) (lists_members c fields)

theorem spaced_textForm (o : Option String) :
    Spaced (textForm o).words (Text.Utf8.encode (jsonOption o)) := by
  cases o with
  | none => exact .single rfl
  | some s => exact .single (Json.isSpelled_written s)

theorem spaced_form (c : Config) (f : Field) :
    Spaced (f.form c).words (Text.Utf8.encode (f.json c)) := by
  cases f with
  | path | passphrase => exact spaced_textForm _
  | encoding => exact .single (Json.isSpelled_written _)
  | ignoreCase | saveOnUpdate | announce | strict => exact .single rfl

/-- The words of a member, its name first. -/
theorem spaced_member (c : Config) (f : Field) :
    Spaced (.string (written f.name) :: .colon :: (f.form c).words)
      (Text.Utf8.encode (Json.quote f.name ++ ":" ++ f.json c)) := by
  rw [Text.Utf8.encode_append, Text.Utf8.encode_append, List.append_assoc]
  exact .word (Json.isSpelled_written f.name) (.word rfl (spaced_form c f))

/-- The words of members with a comma between each two. -/
theorem spaced_members (c : Config) (f : Field) (fields : List Field) :
    Spaced (.string (written f.name) :: .colon
        :: ((f.form c).words ++ memberWords (fields.map (·.member c))))
      (Text.Utf8.encode (String.intercalate ","
        ((f :: fields).map fun f => Json.quote f.name ++ ":" ++ f.json c))) := by
  induction fields generalizing f with
  | nil =>
    rw [List.map_nil, memberWords, List.append_nil, List.map_singleton,
      String.intercalate_singleton]
    exact spaced_member c f
  | cons g fields ih =>
    rw [List.map_cons, List.map_cons, List.map_cons, String.intercalate_cons_cons,
      Text.Utf8.encode_append, Text.Utf8.encode_append, List.append_assoc]
    exact (spaced_member c f).append (.word rfl (ih g))

/-- **What is written for a configuration holds it.** -/
theorem heldIn_toJson (c : Config) : c.HeldIn (Text.Utf8.encode c.toJson) := by
  refine .intro (by decide) (fun f hf => absurd (by cases f <;> decide) hf)
    (lists_members c Field.all) ?_
  have hclose : Spaced [.closeBrace] (Text.Utf8.encode "\x7d") := .single rfl
  have hmembers := (spaced_members c .path Field.all.tail).append hclose
  simp only [List.cons_append, List.append_assoc] at hmembers
  rw [toJson, Text.Utf8.encode_append, Text.Utf8.encode_append, List.append_assoc]
  exact .word rfl hmembers

/-! ## Files -/

/-- **A configuration is read from the file of its JSON form**, and from every file that holds its
fields in any order, without some that have their defaults and with members of other names
anywhere. -/
theorem survives_json (complaint : Bytes → String) (d : Disk) (path : String) (c : Config) :
    (d.read path = .ok (Text.Utf8.encode c.toJson) → ofFile complaint d path = .ok c)
      ∧ ∀ b, c.HeldIn b → d.read path = .ok b → ofFile complaint d path = .ok c := by
  have hheld : ∀ b, c.HeldIn b → d.read path = .ok b → ofFile complaint d path = .ok c := by
    intro b hb hread
    simp only [ofFile, hread, hb.parse?]
  exact ⟨hheld _ c.heldIn_toJson, hheld⟩

/-- A configuration whose path is a quotation mark, -/
def quoted : Config := { path := some "\"", ignoreCase := true }

/-- and a text that holds it after a member of another name, its fields not in their order. -/
def quotedText : String :=
  " \x7b\"notes\":[1e3,\x7b\x7d],\"ignore_case\":true,\"path\":\"\\u0022\"\x7d"

/-- The members of that text. -/
def quotedMembers : List (Bytes × Json) :=
  [(written "notes", .array [.number, .object []]), (written "ignore_case", .bool true),
    (written "path", .string (Text.Utf8.encode "\\u0022"))]

theorem denotes_quotation : Denotes (Text.Utf8.encode "\\u0022") "\"" := by
  have hzero : Json.IsHexDigit 0 0x30 := .inl rfl
  have htwo : Json.IsHexDigit 2 0x32 := .inl rfl
  exact .cons (.unit (u := 0x22) rfl (.intro hzero hzero htwo htwo)) .nil

theorem isText_quotedText :
    Json.IsText (.object quotedMembers) (Text.Utf8.encode quotedText) := by
  have hnumber : Json.IsNumber ([0x31] ++ ([] ++ [0x65, 0x33])) :=
    .unsigned (.digits (by decide) rfl (by simp)) .missing (.unsigned (.inl rfl) rfl (by simp))
  have hspaced : Spaced (words (.object quotedMembers)) _ :=
    .blank (x := 0x20) rfl <| .word rfl <| .word (Json.isSpelled_written "notes") <| .word rfl <|
    .word rfl <| .word hnumber <| .word rfl <| .word rfl <| .word rfl <| .word rfl <| .word rfl <|
    .word (Json.isSpelled_written "ignore_case") <| .word rfl <| .word rfl <| .word rfl <|
    .word (Json.isSpelled_written "path") <| .word rfl <|
    .word ⟨denotes_quotation.isBody, rfl⟩ <| .word rfl .nil
  exact hspaced

theorem heldIn_quotedText : quoted.HeldIn (Text.Utf8.encode quotedText) := by
  have hlists : Lists quoted [.ignoreCase, .path] quotedMembers :=
    .other (Json.denotes_written "notes") (fun f => by cases f <;> decide) <|
    .field (Json.denotes_written _) rfl <|
    .field (Json.denotes_written _) ⟨_, rfl, denotes_quotation⟩ .nil
  have hmissing : ∀ f ∉ [Field.ignoreCase, .path], f.Agrees quoted {} := by
    intro f hf
    cases f with
    | ignoreCase | path => simp at hf
    | _ => rfl
  exact .intro (by decide) hmissing hlists isText_quotedText

/-- A disk with nothing but one file. -/
def quotedDisk (b : Bytes) : Disk := { nodes := [(["config.json"], .file b)] }

theorem survives_json_quoted :
    (quotedDisk (Text.Utf8.encode quoted.toJson)).read "config.json"
        = .ok (Text.Utf8.encode quoted.toJson)
      ∧ ofFile (fun _ => "") (quotedDisk (Text.Utf8.encode quoted.toJson)) "config.json"
        = .ok quoted
      ∧ quoted.HeldIn (Text.Utf8.encode quotedText)
      ∧ (quotedDisk (Text.Utf8.encode quotedText)).read "config.json"
        = .ok (Text.Utf8.encode quotedText)
      ∧ ofFile (fun _ => "") (quotedDisk (Text.Utf8.encode quotedText)) "config.json"
        = .ok quoted :=
  ⟨rfl, (survives_json _ _ _ _).1 rfl, heldIn_quotedText, rfl,
    (survives_json _ _ _ _).2 _ heldIn_quotedText rfl⟩

end Coffer.Config
