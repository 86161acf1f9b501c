import Coffer.Config.Basic

/-!
# Configuration by environment variables

Variables override single fields. A variable whose value is no text, no truth value or no encoding
where one is needed is passed over.
-/

namespace Coffer.Config

/-- The variables that are set, with the bytes of their values. -/
abbrev Environment := List (String × Bytes)

/-- The value of a variable as a text. -/
def Environment.text? (env : Environment) (name : String) : Option String :=
  (env.lookup name).bind Text.Utf8.decode?

/-- The truth value that a text means: without blanks around it, in any ASCII case. -/
def flagOfText? (text : String) : Option Bool :=
  let word := Text.lowercaseAscii (Text.trim text)
  if word ∈ ["1", "true", "yes", "on"] then some true
  else if word ∈ ["0", "false", "no", "off"] then some false
  else none

/-- The value of a variable as a truth value. -/
def Environment.flag? (env : Environment) (name : String) : Option Bool :=
  (env.text? name).bind flagOfText?

/-- **The configuration with the fields overridden that variables are set for.** -/
def override (c : Config) (env : Environment) : Config :=
  { path := (env.text? "QUIVER_PATH").or c.path
    ignoreCase := (env.flag? "QUIVER_IGNORE_CASE").getD c.ignoreCase
    encoding := ((env.text? "QUIVER_ENCODING").bind KeyEncoding.ofName?).getD c.encoding
    saveOnUpdate := (env.flag? "QUIVER_SERIALIZE_ON_UPDATE").getD c.saveOnUpdate
    announce := (env.flag? "QUIVER_UPDATE_EVENTS").getD c.announce
    passphrase := (env.text? "QUIVER_ENCRYPTION_KEY").or c.passphrase
    strict := (env.flag? "QUIVER_STRICT_DECRYPTION").getD c.strict }

end Coffer.Config
