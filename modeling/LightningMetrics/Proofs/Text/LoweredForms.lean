import Mathlib.Data.List.Basic
import Mathlib.Data.Nat.Bitwise
import Mathlib.Tactic.IntervalCases
import LightningMetrics.Proofs.Text.Trimming
import LightningMetrics.Text.Lowercase

/-!
What the lower-case mapping leaves. Each character is either kept or written as characters that the
mapping keeps and that are not blank; so the mapping does nothing a second time, and blanks neither
come nor go. The table is looked through once, by the kernel: no code point that is mapped is one
that others are mapped to.
-/

set_option autoImplicit false

namespace LightningMetrics.Text

namespace CaseRun

/-- The code points of a run. -/
def codes (run : CaseRun) : List Nat :=
  (List.range ((run.last - run.first) / run.step + 1)).map fun place =>
    run.first + run.step * place

/-- What the run maps a code point to. -/
def image (run : CaseRun) (code : Nat) : Char :=
  Char.ofNat (Int.toNat (code + run.offset))

theorem mem_codes {run : CaseRun} {code : Nat} (held : run.holds code = true) :
    code ∈ run.codes := by
  simp only [holds, Bool.and_eq_true, decide_eq_true_eq, beq_iff_eq] at held
  obtain ⟨⟨above, below⟩, regular⟩ := held
  have places : (code - run.first) / run.step ≤ (run.last - run.first) / run.step :=
    Nat.div_le_div_right (Nat.sub_le_sub_right below _)
  refine List.mem_map.mpr ⟨(code - run.first) / run.step, ?_, ?_⟩
  · exact List.mem_range.mpr (Nat.lt_succ_of_le places)
  · have whole := Nat.div_add_mod (code - run.first) run.step
    omega

end CaseRun

/-- The code points that are written otherwise in lower case. -/
def changedCodes : List Nat :=
  'İ'.toNat :: lowercaseRuns.flatMap CaseRun.codes

/-- The code points that others are written as. -/
def loweredCodes : List Nat :=
  ['ς', 'σ', 'i', '\u0307'].map Char.toNat ++
    lowercaseRuns.flatMap fun run => run.codes.map fun code => (run.image code).toNat

/-- Code points as the bits of one number. The kernel intersects two such sets in one step, where a
search would take one for each pair of code points. -/
def codeSet (codes : List Nat) : Nat :=
  codes.foldr (fun code others => 1 <<< code ||| others) 0

theorem testBit_codeSet (codes : List Nat) (code : Nat) :
    (codeSet codes).testBit code = decide (code ∈ codes) := by
  induction codes with
  | nil => exact Nat.zero_testBit code
  | cons first rest ih =>
      rw [codeSet, List.foldr_cons, Nat.testBit_or, ← codeSet, ih, Nat.one_shiftLeft,
        Nat.testBit_two_pow, ← Bool.decide_or]
      exact decide_eq_decide.mpr (by rw [List.mem_cons, eq_comm])

theorem codeSet_changedCodes_and_loweredCodes :
    codeSet changedCodes &&& codeSet loweredCodes = 0 := by
  decide +kernel

theorem isBlank_image :
    ∀ run ∈ lowercaseRuns, ∀ code ∈ run.codes, isBlank (run.image code) = false := by
  decide +kernel

theorem not_mem_changedCodes {code : Nat} (lowered : code ∈ loweredCodes) :
    code ∉ changedCodes := by
  intro changed
  have both : (codeSet changedCodes &&& codeSet loweredCodes).testBit code = true := by
    rw [Nat.testBit_and, testBit_codeSet, testBit_codeSet, decide_eq_true changed,
      decide_eq_true lowered]
    rfl
  rw [codeSet_changedCodes_and_loweredCodes, Nat.zero_testBit] at both
  cases both

theorem mem_of_find? {run : CaseRun} {code : Nat}
    (found : lowercaseRuns.find? (fun run => run.holds code) = some run) :
    run ∈ lowercaseRuns ∧ code ∈ run.codes := by
  have held := List.find?_eq_some_iff_append.mp found
  exact ⟨List.mem_of_find?_eq_some found, CaseRun.mem_codes held.1⟩

theorem lowercaseChar_of_not_mem {char : Char} (kept : char.toNat ∉ changedCodes) :
    lowercaseChar char = char := by
  unfold lowercaseChar
  cases found : lowercaseRuns.find? (fun run => run.holds char.toNat) with
  | none => rfl
  | some run =>
      obtain ⟨member, code⟩ := mem_of_find? found
      exact absurd (List.mem_cons_of_mem _ (List.mem_flatMap.mpr ⟨run, member, code⟩)) kept

/-- A lower-case form is the character itself, or one that others are written as, and then it is
not blank. -/
theorem lowercaseChar_cases (char : Char) :
    lowercaseChar char = char ∨
      (lowercaseChar char).toNat ∈ loweredCodes ∧ isBlank (lowercaseChar char) = false := by
  unfold lowercaseChar
  cases found : lowercaseRuns.find? (fun run => run.holds char.toNat) with
  | none => exact .inl rfl
  | some run =>
      obtain ⟨member, code⟩ := mem_of_find? found
      refine .inr ⟨List.mem_append_right _ ?_, isBlank_image run member _ code⟩
      exact List.mem_flatMap.mpr ⟨run, member, List.mem_map.mpr ⟨char.toNat, code, rfl⟩⟩

/-- A character that the mapping keeps, whatever stands around it. -/
def IsLowered (char : Char) : Prop :=
  ∀ before after, lowercaseBetween before char after = [char]

theorem isLowered_of_lowercaseChar_eq {char : Char} (sigma : char ≠ 'Σ') (dotted : char ≠ 'İ')
    (kept : lowercaseChar char = char) : IsLowered char := by
  intro before after
  rw [lowercaseBetween, if_neg sigma, if_neg dotted, kept]

theorem isLowered_of_mem_loweredCodes {char : Char} (lowered : char.toNat ∈ loweredCodes) :
    IsLowered char := by
  have kept := not_mem_changedCodes lowered
  have sigma : 'Σ'.toNat ∈ changedCodes := by decide +kernel
  refine isLowered_of_lowercaseChar_eq ?_ ?_ (lowercaseChar_of_not_mem kept)
  · rintro rfl
    exact kept sigma
  · rintro rfl
    exact kept List.mem_cons_self

/-- A character is kept, or it is written as characters that are kept and are not blank. -/
theorem lowercaseBetween_cases (char : Char) :
    IsLowered char ∨ ∀ before after, ∀ low ∈ lowercaseBetween before char after,
      IsLowered low ∧ isBlank low = false := by
  have special : ∀ low ∈ ['ς', 'σ', 'i', '\u0307'], IsLowered low ∧ isBlank low = false := by
    have solid : (['ς', 'σ', 'i', '\u0307'].all fun low => !isBlank low) = true := by decide
    intro low member
    refine ⟨isLowered_of_mem_loweredCodes (List.mem_append_left _ (List.mem_map_of_mem member)), ?_⟩
    simpa using List.all_eq_true.mp solid low member
  by_cases sigma : char = 'Σ'
  · refine .inr fun before after low member => special low ?_
    rw [lowercaseBetween, if_pos sigma] at member
    split at member <;> cases List.mem_singleton.mp member <;> simp
  by_cases dotted : char = 'İ'
  · refine .inr fun before after low member => special low ?_
    rw [lowercaseBetween, if_neg sigma, if_pos dotted] at member
    exact List.mem_cons_of_mem _ (List.mem_cons_of_mem _ member)
  · rcases lowercaseChar_cases char with kept | ⟨lowered, solid⟩
    · exact .inl (isLowered_of_lowercaseChar_eq sigma dotted kept)
    · refine .inr fun before after low member => ?_
      rw [lowercaseBetween, if_neg sigma, if_neg dotted, List.mem_singleton] at member
      rw [member]
      exact ⟨isLowered_of_mem_loweredCodes lowered, solid⟩

theorem isLowered_of_mem_lowercaseBetween {before after : List Char} {char low : Char}
    (member : low ∈ lowercaseBetween before char after) : IsLowered low := by
  rcases lowercaseBetween_cases char with kept | written
  · rw [kept before after, List.mem_singleton] at member
    rwa [member]
  · exact (written before after low member).1

theorem solid_of_mem_lowercaseBetween {before after : List Char} {char low : Char}
    (solid : isBlank char = false) (member : low ∈ lowercaseBetween before char after) :
    isBlank low = false := by
  rcases lowercaseBetween_cases char with kept | written
  · rw [kept before after, List.mem_singleton] at member
    rwa [member]
  · exact (written before after low member).2

theorem mem_lowercaseAfter {before text : List Char} {low : Char}
    (member : low ∈ lowercaseAfter before text) :
    ∃ earlier char later, char ∈ text ∧ low ∈ lowercaseBetween earlier char later := by
  induction text generalizing before with
  | nil => cases member
  | cons char rest ih =>
      rcases List.mem_append.mp member with here | later
      · exact ⟨before, char, rest, List.mem_cons_self, here⟩
      · obtain ⟨earlier, other, after, there, written⟩ := ih later
        exact ⟨earlier, other, after, List.mem_cons_of_mem _ there, written⟩

theorem lowercaseAfter_of_isLowered {text : List Char} (kept : ∀ char ∈ text, IsLowered char)
    (before : List Char) : lowercaseAfter before text = text := by
  induction text generalizing before with
  | nil => rfl
  | cons char rest ih =>
      obtain ⟨first, others⟩ := List.forall_mem_cons.mp kept
      rw [lowercaseAfter, first before rest, ih others, List.singleton_append]

theorem lowercase_lowercase (text : List Char) : lowercase (lowercase text) = lowercase text := by
  refine lowercaseAfter_of_isLowered (fun low member => ?_) []
  obtain ⟨_, _, _, _, written⟩ := mem_lowercaseAfter member
  exact isLowered_of_mem_lowercaseBetween written

theorem mem_of_mem_lowercase {text : List Char} {low : Char} (blank : isBlank low = true)
    (member : low ∈ lowercase text) : low ∈ text := by
  obtain ⟨earlier, char, later, there, written⟩ := mem_lowercaseAfter member
  rcases lowercaseBetween_cases char with kept | others
  · rw [kept earlier later, List.mem_singleton] at written
    rwa [written]
  · rw [(others earlier later low written).2] at blank
    cases blank

theorem solid_getLast?_lowercaseAfter {text : List Char}
    (solid : ∀ char ∈ text.getLast?, isBlank char = false) (before : List Char) :
    ∀ low ∈ (lowercaseAfter before text).getLast?, isBlank low = false := by
  induction text generalizing before with
  | nil =>
      intro low member
      cases member
  | cons char rest ih =>
      intro low member
      cases rest with
      | nil =>
          rw [lowercaseAfter, lowercaseAfter, List.append_nil] at member
          exact solid_of_mem_lowercaseBetween (solid char rfl) (List.mem_of_getLast? member)
      | cons next others =>
          rw [lowercaseAfter, List.getLast?_append_of_ne_nil] at member
          · exact ih (by simpa using solid) (char :: before) low member
          · simp [lowercaseAfter, lowercaseBetween_ne_nil]

theorem SolidEnds.lowercase {text : List Char} (solid : SolidEnds text) :
    SolidEnds (lowercase text) where
  first := by
    intro low member
    cases text with
    | nil => cases member
    | cons char rest =>
        have written : low ∈ lowercaseBetween [] char rest := by
          rw [Text.lowercase, lowercaseAfter,
            List.head?_append_of_ne_nil _ (lowercaseBetween_ne_nil _ _ _)] at member
          exact List.mem_of_head? member
        exact solid_of_mem_lowercaseBetween (solid.first char rfl) written
  last := solid_getLast?_lowercaseAfter solid.last []

/-- The capitals that have their small letters 32 code points above. -/
def asciiCapitals : List Char :=
  ['A', 'B', 'C', 'D', 'E', 'F', 'G', 'H', 'I', 'J', 'K', 'L', 'M', 'N', 'O', 'P', 'Q', 'R', 'S',
    'T', 'U', 'V', 'W', 'X', 'Y', 'Z']

theorem toLower_of_not_mem {char : Char} (other : char ∉ asciiCapitals) : char.toLower = char := by
  unfold Char.toLower
  split
  · rename_i capital
    refine absurd ?_ other
    have above : 65 ≤ char.toNat := capital.1
    have below : char.toNat ≤ 90 := capital.2
    rw [← Char.ofNat_toNat char]
    interval_cases char.toNat <;> decide
  · rfl

/-- What each small letter has exactly if its capital has it does not depend on the letter case. -/
theorem apply_toLower {property : Char → Bool}
    (same : (asciiCapitals.all fun char => property char.toLower == property char) = true)
    (char : Char) : property char.toLower = property char := by
  by_cases capital : char ∈ asciiCapitals
  · exact beq_iff_eq.mp (List.all_eq_true.mp same char capital)
  · rw [toLower_of_not_mem capital]

theorem isBlank_toLower (char : Char) : isBlank char.toLower = isBlank char :=
  apply_toLower (by decide +kernel) char

theorem isCased_toLower (char : Char) : isCased char.toLower = isCased char :=
  apply_toLower (by decide +kernel) char

theorem isCaseIgnorable_toLower (char : Char) :
    isCaseIgnorable char.toLower = isCaseIgnorable char :=
  apply_toLower (by decide +kernel) char

theorem lowercaseBetween_of_asciiCapital {char : Char} (capital : char ∈ asciiCapitals)
    (before after : List Char) : lowercaseBetween before char after = [char.toLower] := by
  have table : (asciiCapitals.all fun char =>
      char != 'Σ' && char != 'İ' && lowercaseChar char == char.toLower) = true := by
    decide +kernel
  have plain := List.all_eq_true.mp table char capital
  simp only [Bool.and_eq_true, bne_iff_ne, ne_eq, beq_iff_eq] at plain
  obtain ⟨⟨sigma, dotted⟩, small⟩ := plain
  rw [lowercaseBetween, if_neg sigma, if_neg dotted, small]

theorem meetsCased_map_toLower (text : List Char) :
    meetsCased (text.map Char.toLower) = meetsCased text := by
  unfold meetsCased
  rw [List.dropWhile_map, show isCaseIgnorable ∘ Char.toLower = isCaseIgnorable from
    funext isCaseIgnorable_toLower]
  cases text.dropWhile isCaseIgnorable with
  | nil => rfl
  | cons char rest => exact isCased_toLower char

theorem lowercaseBetween_map_toLower (before after : List Char) (char : Char) :
    lowercaseBetween (before.map Char.toLower) char.toLower (after.map Char.toLower) =
      lowercaseBetween before char after := by
  by_cases capital : char ∈ asciiCapitals
  · -- The small letter is kept, since it is what the capital is written as.
    have written := lowercaseBetween_of_asciiCapital capital before after
    have kept : IsLowered char.toLower :=
      isLowered_of_mem_lowercaseBetween (written ▸ List.mem_singleton_self _)
    rw [kept, written]
  · rw [toLower_of_not_mem capital]
    unfold lowercaseBetween
    rw [meetsCased_map_toLower, meetsCased_map_toLower]

theorem lowercase_map_toLower (text : List Char) :
    lowercase (text.map Char.toLower) = lowercase text := by
  have after (before : List Char) : lowercaseAfter (before.map Char.toLower)
      (text.map Char.toLower) = lowercaseAfter before text := by
    induction text generalizing before with
    | nil => rfl
    | cons char rest ih =>
        rw [List.map_cons, lowercaseAfter, lowercaseAfter, lowercaseBetween_map_toLower,
          ← List.map_cons, ih]
  exact after []

end LightningMetrics.Text
