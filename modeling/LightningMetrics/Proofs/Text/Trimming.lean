import Mathlib.Data.List.TakeWhile
import LightningMetrics.Text.Blank

set_option autoImplicit false

namespace LightningMetrics.Text

/-- A text that neither starts nor ends with a blank. -/
structure SolidEnds (text : List Char) : Prop where
  first : ∀ char ∈ text.head?, isBlank char = false
  last : ∀ char ∈ text.getLast?, isBlank char = false

theorem dropWhile_isBlank_of_head? {text : List Char}
    (first : ∀ char ∈ text.head?, isBlank char = false) : text.dropWhile isBlank = text := by
  cases text with
  | nil => rfl
  | cons char rest => exact List.dropWhile_cons_of_neg (by simp [first char rfl])

theorem trimEnd_of_getLast? {text : List Char}
    (last : ∀ char ∈ text.getLast?, isBlank char = false) : trimEnd text = text := by
  rw [List.getLast?_eq_head?_reverse] at last
  rw [trimEnd, dropWhile_isBlank_of_head? last, List.reverse_reverse]

theorem SolidEnds.trim_eq {text : List Char} (solid : SolidEnds text) : trim text = text := by
  rw [trim, dropWhile_isBlank_of_head? solid.first, trimEnd_of_getLast? solid.last]

theorem dropWhile_isBlank_append_of_solid {earlier : List Char}
    (solid : ∃ char ∈ earlier, isBlank char = false) (text : List Char) :
    (earlier ++ text).dropWhile isBlank = earlier.dropWhile isBlank ++ text := by
  have kept : (earlier.dropWhile isBlank).isEmpty = false := by
    obtain ⟨char, member, here⟩ := solid
    rw [Bool.eq_false_iff, ne_eq, List.isEmpty_iff, dropWhile_isBlank_eq_nil_iff]
    intro blank
    rw [blank char member] at here
    cases here
  rw [List.dropWhile_append, kept, if_neg Bool.false_ne_true]

theorem trimEnd_append_of_solid {later : List Char} (solid : ∃ char ∈ later, isBlank char = false)
    (text : List Char) : trimEnd (text ++ later) = text ++ trimEnd later := by
  have backwards : ∃ char ∈ later.reverse, isBlank char = false := by simpa using solid
  unfold trimEnd
  rw [List.reverse_append, dropWhile_isBlank_append_of_solid backwards, List.reverse_append,
    List.reverse_reverse]

theorem trimEnd_append_of_blank {later : List Char} (blank : ∀ char ∈ later, isBlank char = true)
    (text : List Char) : trimEnd (text ++ later) = trimEnd text := by
  have backwards : ∀ char ∈ later.reverse, isBlank char = true := by simpa using blank
  unfold trimEnd
  rw [List.reverse_append, List.dropWhile_append_of_pos backwards]

theorem trimEnd_cons_of_solid {char : Char} (solid : isBlank char = false) (rest : List Char) :
    trimEnd (char :: rest) = char :: trimEnd rest := by
  by_cases blank : ∀ other ∈ rest, isBlank other = true
  · have alone : trimEnd [char] = [char] :=
      trimEnd_of_getLast? fun last only => Option.some.inj only ▸ solid
    rw [(trimEnd_eq_nil_iff rest).mpr blank, ← List.singleton_append,
      trimEnd_append_of_blank blank, alone]
  · exact trimEnd_append_of_solid (by simpa using blank) [char]

theorem isBlank_of_head?_dropWhile {text : List Char} {char : Char}
    (first : char ∈ (text.dropWhile isBlank).head?) : isBlank char = false := by
  have dropped := List.head?_dropWhile_not isBlank text
  rw [Option.mem_def.mp first] at dropped
  exact dropped

theorem solidEnds_trim (text : List Char) : SolidEnds (trim text) where
  first := by
    intro char started
    rw [trim] at started
    cases rest : text.dropWhile isBlank with
    | nil =>
        rw [rest] at started
        cases started
    | cons head others =>
        have solid : isBlank head = false := isBlank_of_head?_dropWhile (by rw [rest]; rfl)
        rw [rest, trimEnd_cons_of_solid solid] at started
        cases started
        exact solid
  last := by
    intro char ended
    rw [trim, trimEnd, List.getLast?_reverse] at ended
    exact isBlank_of_head?_dropWhile ended

theorem SolidEnds.map {change : Char → Char} {text : List Char} (solid : SolidEnds text)
    (keeps : ∀ char, isBlank char = false → isBlank (change char) = false) :
    SolidEnds (text.map change) where
  first := by
    intro changed started
    rw [List.head?_map] at started
    obtain ⟨char, there, rfl⟩ := Option.map_eq_some_iff.mp started
    exact keeps char (solid.first char there)
  last := by
    intro changed ended
    rw [List.getLast?_map] at ended
    obtain ⟨char, there, rfl⟩ := Option.map_eq_some_iff.mp ended
    exact keeps char (solid.last char there)

theorem trim_surrounded {before after : List Char}
    (blankBefore : ∀ char ∈ before, isBlank char = true)
    (blankAfter : ∀ char ∈ after, isBlank char = true) (text : List Char) :
    trim (before ++ text ++ after) = trim text := by
  by_cases blank : ∀ char ∈ text, isBlank char = true
  · rw [(trim_eq_nil_iff text).mpr blank, trim_eq_nil_iff]
    exact List.forall_mem_append.mpr ⟨List.forall_mem_append.mpr ⟨blankBefore, blank⟩, blankAfter⟩
  · have solid : ∃ char ∈ text, isBlank char = false := by simpa using blank
    rw [trim, List.append_assoc, List.dropWhile_append_of_pos blankBefore,
      dropWhile_isBlank_append_of_solid solid, trimEnd_append_of_blank blankAfter, trim]

theorem trim_inside {earlier later : List Char} (before : ∃ char ∈ earlier, isBlank char = false)
    (after : ∃ char ∈ later, isBlank char = false) (char : Char) :
    trim (earlier ++ char :: later) = earlier.dropWhile isBlank ++ char :: trimEnd later := by
  rw [trim, dropWhile_isBlank_append_of_solid before, List.append_cons,
    trimEnd_append_of_solid after, ← List.append_cons]

theorem trim_map {change : Char → Char} (same : ∀ char, isBlank (change char) = isBlank char)
    (text : List Char) : trim (text.map change) = (trim text).map change := by
  have drop (text : List Char) :
      (text.map change).dropWhile isBlank = (text.dropWhile isBlank).map change := by
    rw [List.dropWhile_map, show isBlank ∘ change = isBlank from funext same]
  rw [trim, trim, trimEnd, trimEnd, drop, ← List.map_reverse, drop, List.map_reverse]

end LightningMetrics.Text
