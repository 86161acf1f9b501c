/-!
# Texts in parts

Cutting a text at every occurrence of a separator. There is always at least one part, and joining
the parts with the separator gives the text back (`join_split`).
-/

namespace Coffer.Text

/-- The parts of a text between the occurrences of a separator. -/
def split (separator : Char) : List Char → List (List Char)
  | [] => [[]]
  | c :: rest =>
    if c = separator then [] :: split separator rest
    else
      match split separator rest with
      | part :: more => (c :: part) :: more
      | [] => [[c]]

/-- The parts with the separator between each two of them. -/
def joinParts (separator : Char) : List (List Char) → List Char
  | [] => []
  | [part] => part
  | part :: more => part ++ separator :: joinParts separator more

theorem split_ne_nil (separator : Char) (cs : List Char) : split separator cs ≠ [] := by
  cases cs with
  | nil => simp [split]
  | cons c rest =>
    unfold split
    split
    · simp
    · split <;> simp

/-- Joining the parts gives the text back. -/
theorem join_split (separator : Char) (cs : List Char) :
    joinParts separator (split separator cs) = cs := by
  induction cs with
  | nil => rfl
  | cons c rest ih =>
    unfold split
    have hne := split_ne_nil separator rest
    cases hs : split separator rest with
    | nil => exact absurd hs hne
    | cons part more =>
      rw [hs] at ih
      split
      · rename_i hc
        subst hc
        simp [joinParts, ih]
      · cases more with
        | nil => simpa [joinParts] using ih
        | cons next more => simpa [joinParts] using ih

/-- The parts of a text as texts. -/
def splitOn (separator : Char) (s : String) : List String :=
  (split separator s.toList).map String.ofList

end Coffer.Text
