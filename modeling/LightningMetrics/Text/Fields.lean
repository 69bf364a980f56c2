set_option autoImplicit false

namespace LightningMetrics.Text

/-- The parts of a text between the separators: one more than there are separators. -/
def fields (separator : Char) : List Char → List (List Char)
  | [] => [[]]
  | char :: rest =>
      if char = separator then [] :: fields separator rest
      else
        match fields separator rest with
        | [] => [[char]]
        | first :: others => (char :: first) :: others

/-- What stands before and after the first place where `mark` stands. -/
def cut? (mark : List Char) : List Char → Option (List Char × List Char)
  | [] => if mark.isEmpty then some ([], []) else none
  | char :: rest =>
      if mark.isPrefixOf (char :: rest) then some ([], (char :: rest).drop mark.length)
      else (cut? mark rest).map fun sides => (char :: sides.1, sides.2)

theorem fields_ne_nil (separator : Char) (text : List Char) : fields separator text ≠ [] := by
  cases text with
  | nil => simp [fields]
  | cons char rest =>
      unfold fields
      split
      · simp
      · split <;> simp

/-- Splitting loses nothing. -/
theorem intercalate_fields (separator : Char) (text : List Char) :
    [separator].intercalate (fields separator text) = text := by
  induction text with
  | nil => rfl
  | cons char rest ih =>
      unfold fields
      cases parts : fields separator rest with
      | nil => exact absurd parts (fields_ne_nil separator rest)
      | cons first others =>
          rw [parts] at ih
          by_cases same : char = separator
          · simp [same, List.intercalate] at ih ⊢
            exact ih
          · cases others <;>
              simp [same, List.intercalate, List.intersperse] at ih ⊢ <;> exact ih

/-- A cut loses nothing but the mark. -/
theorem append_of_cut? {mark text before after : List Char}
    (found : cut? mark text = some (before, after)) : before ++ mark ++ after = text := by
  induction text generalizing before with
  | nil =>
      unfold cut? at found
      split at found
      · simp_all
      · cases found
  | cons char rest ih =>
      unfold cut? at found
      split at found
      · rename_i starts
        obtain ⟨others, whole⟩ := List.isPrefixOf_iff_prefix.mp starts
        cases found
        simp [← whole]
      · obtain ⟨sides, inner, same⟩ := Option.map_eq_some_iff.mp found
        cases same
        simpa using ih inner

end LightningMetrics.Text
