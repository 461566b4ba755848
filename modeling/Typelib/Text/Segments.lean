/-!
# Cutting a text at a separator

`fields` cuts at every occurrence of a separator, `cut` at the first one only, and
`afterLastPair` keeps what follows the last occurrence of a doubled separator.  Joining the
pieces again gives the text back (`intercalate_fields`, `eq_of_cut`).
-/

namespace Typelib.Text

/-- Puts a character in front of the first field, or starts a new field at a separator. -/
def fieldStep (separator c : Char) : List (List Char) → List (List Char)
  | [] => [[c]]
  | field :: rest => if c = separator then [] :: field :: rest else (c :: field) :: rest

/-- The pieces between the occurrences of a separator; there is at least one piece. -/
def fields (separator : Char) (cs : List Char) : List (List Char) :=
  cs.foldr (fieldStep separator) [[]]

/-- What stands before and after the first occurrence of a separator. -/
def cut (separator : Char) (cs : List Char) : Option (List Char × List Char) :=
  match cs.dropWhile (· != separator) with
  | [] => none
  | _ :: after => some (cs.takeWhile (· != separator), after)

/-- What follows a given start of a text. -/
def afterStart : List Char → List Char → Option (List Char)
  | [], cs => some cs
  | _ :: _, [] => none
  | p :: ps, c :: cs => if p = c then afterStart ps cs else none

/-- What follows the last two neighbouring occurrences of a separator. -/
def afterLastPair (separator : Char) : List Char → Option (List Char)
  | [] => none
  | c :: rest =>
    match afterLastPair separator rest, rest with
    | some found, _ => some found
    | none, d :: after => if c = separator ∧ d = separator then some after else none
    | none, [] => none

example : fields ',' ['a', ',', ',', 'b'] = [['a'], [], ['b']] := by decide

example : cut '.' ['1', '.', '2', '.', '3'] = some (['1'], ['2', '.', '3']) := by decide

example : afterLastPair ':' ['a', ':', ':', ':', 'b'] = some ['b'] := by decide

theorem fields_ne_nil {separator : Char} {cs : List Char} : fields separator cs ≠ [] := by
  cases cs with
  | nil => simp [fields]
  | cons c rest =>
    simp only [fields, List.foldr_cons]
    cases List.foldr (fieldStep separator) [[]] rest with
    | nil => simp [fieldStep]
    | cons field more => simp only [fieldStep]; split <;> simp

theorem fields_cons {separator c : Char} {cs : List Char} :
    fields separator (c :: cs) = fieldStep separator c (fields separator cs) := rfl

/-- Joining the pieces gives the text back. -/
theorem intercalate_fields {separator : Char} {cs : List Char} :
    [separator].intercalate (fields separator cs) = cs := by
  induction cs with
  | nil => rfl
  | cons c rest ih =>
    rw [fields_cons]
    match h : fields separator rest with
    | [] => exact absurd h fields_ne_nil
    | field :: more =>
      rw [h] at ih
      by_cases hc : c = separator
      · simp [fieldStep, hc, List.intercalate] at ih ⊢
        exact ih
      · cases more <;> simp_all [fieldStep, List.intercalate, List.intersperse]

/-- A cut text is its first part, the separator and the rest. -/
theorem eq_of_cut {separator : Char} {cs before after : List Char}
    (h : cut separator cs = some (before, after)) : cs = before ++ separator :: after := by
  unfold cut at h
  split at h
  · cases h
  · rename_i c rest hdrop
    obtain ⟨rfl, rfl⟩ := by simpa using h
    have hc : c = separator := by
      simpa [hdrop] using List.head?_dropWhile_not (· != separator) cs
    subst hc
    rw [← hdrop, List.takeWhile_append_dropWhile]

end Typelib.Text
