import Mathlib.Data.List.GetD
import LightningMetrics.Lnd.Conversion
import LightningMetrics.Proofs.Htlc.FailureReasons

/-!
What trackers make of the messages of an LND node. Where the names of its failures are identifiers
in upper case, normalizing such a name does no more than lower its letters. So a failure always has
a reason, and the one thing that a message can be refused for is a direction that the node does not
have.
-/

set_option autoImplicit false

namespace LightningMetrics

namespace Text

/-- The characters of identifiers in upper case. -/
def isUpperIdentifier (char : Char) : Bool :=
  ('A' ≤ char && char ≤ 'Z') || ('0' ≤ char && char ≤ '9') || char == '_'

/-- The characters of identifiers in lower case. -/
def isLowerIdentifier (char : Char) : Bool :=
  ('a' ≤ char && char ≤ 'z') || ('0' ≤ char && char ≤ '9') || char == '_'

/-- These characters are in the ASCII range, which is small enough to be searched. -/
theorem forall_isUpperIdentifier (holds : Char → Bool)
    (ascii : ∀ code : Fin 128, isUpperIdentifier (Char.ofNat code) = true →
      holds (Char.ofNat code) = true)
    {char : Char} (upper : isUpperIdentifier char = true) : holds char = true := by
  have small : char.toNat < 128 := by
    simp only [isUpperIdentifier, Bool.or_eq_true, Bool.and_eq_true, decide_eq_true_eq,
      beq_iff_eq] at upper
    rcases upper with (⟨_, last⟩ | ⟨_, last⟩) | rfl
    · exact Nat.lt_of_le_of_lt last (by decide)
    · exact Nat.lt_of_le_of_lt last (by decide)
    · decide
  have found := ascii ⟨char.toNat, small⟩
  rw [Char.ofNat_toNat] at found
  exact found upper

theorem isBlank_of_isUpperIdentifier {char : Char} (upper : isUpperIdentifier char = true) :
    isBlank char = false := by
  simpa using forall_isUpperIdentifier (fun char => !isBlank char) (by decide +kernel) upper

theorem isLowerIdentifier_toLower {char : Char} (upper : isUpperIdentifier char = true) :
    isLowerIdentifier char.toLower = true :=
  forall_isUpperIdentifier (fun char => isLowerIdentifier char.toLower) (by decide +kernel) upper

theorem lowercaseBetween_of_isUpperIdentifier {char : Char}
    (upper : isUpperIdentifier char = true) (before after : List Char) :
    lowercaseBetween before char after = [char.toLower] := by
  have plain := forall_isUpperIdentifier
    (fun char => char != 'Σ' && char != 'İ' && lowercaseChar char == char.toLower)
    (by decide +kernel) upper
  simp only [Bool.and_eq_true, bne_iff_ne, ne_eq, beq_iff_eq] at plain
  obtain ⟨⟨notSigma, notDotted⟩, lowered⟩ := plain
  rw [lowercaseBetween, if_neg notSigma, if_neg notDotted, lowered]

theorem lowercase_identifier {name : List Char}
    (upper : ∀ char ∈ name, isUpperIdentifier char = true) :
    lowercase name = name.map Char.toLower := by
  suffices ∀ before, lowercaseAfter before name = name.map Char.toLower from this []
  induction name with
  | nil =>
      intro _
      rfl
  | cons char rest ih =>
      intro before
      obtain ⟨first, later⟩ := List.forall_mem_cons.mp upper
      rw [lowercaseAfter, lowercaseBetween_of_isUpperIdentifier first, ih later]
      rfl

end Text

/-- A reason as it should stand in a label: something, in lower-case letters, digits and
underscores. -/
structure IsPlainReason (reason : String) : Prop where
  something : reason ≠ ""
  lowerCase : ∀ char ∈ reason.toList, Text.isLowerIdentifier char = true

theorem normalizeReason_identifier {name : List Char}
    (upper : ∀ char ∈ name, Text.isUpperIdentifier char = true) :
    normalizeReason name = name.map Char.toLower := by
  have solid (char : Char) (inside : char ∈ name) : Text.isBlank char = false :=
    Text.isBlank_of_isUpperIdentifier (upper char inside)
  have ends : Text.SolidEnds name :=
    ⟨fun char first => solid char (List.mem_of_head? first),
      fun char last => solid char (List.mem_of_getLast? last)⟩
  have unspaced : ' ' ∉ name := fun space => by cases solid ' ' space
  rw [normalizeReason_eq, ends.trim_eq, map_unspaced_of_not_mem unspaced,
    Text.lowercase_identifier upper]

theorem isPlainReason_normalizeReason {name : String} (something : name ≠ "")
    (upper : ∀ char ∈ name.toList, Text.isUpperIdentifier char = true) :
    IsPlainReason (String.ofList (normalizeReason name.toList)) := by
  rw [normalizeReason_identifier upper]
  constructor
  · intro nothing
    have nothing := congrArg String.toList nothing
    rw [String.toList_ofList] at nothing
    exact something (by simpa using List.map_eq_nil_iff.mp nothing)
  · intro char inside
    rw [String.toList_ofList] at inside
    obtain ⟨letter, named, rfl⟩ := List.mem_map.mp inside
    exact Text.isLowerIdentifier_toLower (upper letter named)

namespace Lnd

/-- The numbers with a meaning: one for each direction, and those of the failures at our own
node. -/
structure Numbering where
  direction : HtlcDirection → Int32
  failures : List Int32

/-- What is relied on of the enumerations: a number without a meaning is read as unknown, and
failures are named by identifiers in upper case. -/
structure Enumerations.Reads (enums : Enumerations) (numbering : Numbering) : Prop where
  direction_number : ∀ direction, enums.direction (numbering.direction direction) = direction
  direction_stray : ∀ number, (∀ direction, number ≠ numbering.direction direction) →
    enums.direction number = .unknown
  failureName_number : ∀ number ∈ numbering.failures, enums.failureName number ≠ "" ∧
    ∀ char ∈ (enums.failureName number).toList, Text.isUpperIdentifier char = true
  failureName_stray : ∀ number ∉ numbering.failures, enums.failureName number = "UNKNOWN"

namespace Enumerations.Reads

variable {enums : Enumerations} {numbering : Numbering}

theorem direction_eq_unknown_iff (reads : enums.Reads numbering) (number : Int32) :
    enums.direction number = .unknown ↔
      ¬ ∃ direction ≠ .unknown, number = numbering.direction direction := by
  constructor
  · rintro unknown ⟨direction, known, rfl⟩
    exact known ((reads.direction_number direction).symm.trans unknown)
  · intro unnamed
    by_cases named : ∃ direction, number = numbering.direction direction
    · obtain ⟨direction, rfl⟩ := named
      rw [reads.direction_number]
      by_contra known
      exact unnamed ⟨direction, known, rfl⟩
    · exact reads.direction_stray number (not_exists.mp named)

theorem failureName_identifier (reads : enums.Reads numbering) (number : Int32) :
    enums.failureName number ≠ "" ∧
      ∀ char ∈ (enums.failureName number).toList, Text.isUpperIdentifier char = true := by
  by_cases named : number ∈ numbering.failures
  · exact reads.failureName_number number named
  · rw [reads.failureName_stray number named]
    exact ⟨by decide, List.all_eq_true.mp (by decide +kernel)⟩

end Enumerations.Reads

/-- The numbers that the node gives them today. -/
def Numbering.current : Numbering where
  direction
    | .unknown => 0
    | .send => 1
    | .receive => 2
    | .forward => 3
  failures := (List.range failureDetails.length).map Int32.ofNat

theorem member_of_stray {α : Type} {members : List α} (unknown : α) {number : Int32}
    (stray : ∀ place < members.length, number ≠ .ofNat place) :
    member members unknown number = unknown := by
  unfold member
  by_cases negative : number < 0
  · rw [if_pos negative]
  · rw [if_neg negative]
    refine List.getD_eq_default _ _ (Nat.le_of_not_lt fun named => stray _ named ?_)
    rw [Int32.lt_iff_toInt_lt, Int32.toInt_zero, Int.not_lt] at negative
    rw [← Int32.toInt_inj, Int32.toInt_ofNat_of_lt]
    · omega
    · have := number.toInt_lt
      omega

theorem Enumerations.reads_current : Enumerations.current.Reads .current where
  direction_number direction := by cases direction <;> rfl
  direction_stray number unnamed := by
    refine member_of_stray _ fun place inside => ?_
    match place, inside with
    | 0, _ => exact unnamed .unknown
    | 1, _ => exact unnamed .send
    | 2, _ => exact unnamed .receive
    | 3, _ => exact unnamed .forward
  failureName_number number named := by
    have fits : Numbering.current.failures.all (fun number =>
        Enumerations.current.failureName number != "" &&
          (Enumerations.current.failureName number).toList.all Text.isUpperIdentifier) = true := by
      decide +kernel
    have fits := List.all_eq_true.mp fits number named
    rw [Bool.and_eq_true, bne_iff_ne, List.all_eq_true] at fits
    exact fits
  failureName_stray number unnamed := by
    refine member_of_stray _ fun place inside same => unnamed ?_
    rw [same]
    exact List.mem_map_of_mem (List.mem_range.mpr inside)

namespace HtlcMessage

/-- Does the message tell of a failure, at another node or at our own? -/
def Fails (message : HtlcMessage) : Prop :=
  message.payload = some .forwardFail ∨ ∃ detail, message.payload = some (.linkFail detail)

/-- Does the message tell of a settlement or a failure? -/
def Resolves (message : HtlcMessage) : Prop :=
  message.payload = some .settle ∨ message.Fails

/-- Is the message's direction the number of sent, received or forwarded HTLCs? -/
def HasDirection (numbering : Numbering) (message : HtlcMessage) : Prop :=
  ∃ direction ≠ .unknown, message.direction = numbering.direction direction

variable {enums : Enumerations} {numbering : Numbering}

theorem resolution?_event_eq_some_iff (enums : Enumerations) (message : HtlcMessage)
    (detail : Option String) :
    (message.event enums).stage.resolution? = some detail ↔
      message.payload = some .settle ∧ detail = none ∨
      message.payload = some .forwardFail ∧ detail = some externalReason ∨
      ∃ number, message.payload = some (.linkFail number) ∧
        detail = some (enums.failureName number) := by
  unfold event
  cases payload : message.payload with
  | none => simp [HtlcStage.resolution?]
  | some told =>
      cases told <;> simp [HtlcPayload.stage, HtlcStage.resolution?, eq_comm]

theorem isPlainReason_of_resolution? (reads : enums.Reads numbering) {message : HtlcMessage}
    {description : String}
    (stage : (message.event enums).stage.resolution? = some (some description)) :
    message.Fails ∧ IsPlainReason (String.ofList (normalizeReason description.toList)) := by
  rcases (message.resolution?_event_eq_some_iff enums _).mp stage with
    ⟨_, settled⟩ | ⟨failedBack, named⟩ | ⟨number, failedHere, named⟩
  · cases settled
  · cases named
    rw [HtlcEvent.normalizeReason_externalReason]
    exact ⟨.inl failedBack, by decide, List.all_eq_true.mp (by decide +kernel)⟩
  · cases named
    obtain ⟨something, upper⟩ := reads.failureName_identifier number
    exact ⟨.inr ⟨number, failedHere⟩, isPlainReason_normalizeReason something upper⟩

theorem ne_none_of_fails {message : HtlcMessage} {detail : Option String} (fails : message.Fails)
    (stage : (message.event enums).stage.resolution? = some detail) : detail ≠ none := by
  rcases (message.resolution?_event_eq_some_iff enums _).mp stage with
    ⟨settled, _⟩ | ⟨_, rfl⟩ | ⟨number, _, rfl⟩
  · rcases fails with failed | ⟨number, failed⟩ <;> cases settled.symm.trans failed
  · exact Option.some_ne_none _
  · exact Option.some_ne_none _

theorem outcome_eq_failed (reads : enums.Reads numbering) {message : HtlcMessage}
    {detail : Option String} {resolution : Resolution}
    (stage : (message.event enums).stage.resolution? = some detail)
    (resolved : (message.event enums).resolution detail = .ok resolution) {reason : String}
    (failed : resolution.outcome = .failed reason) : message.Fails ∧ IsPlainReason reason := by
  rcases HtlcEvent.outcome_resolution resolved with
    ⟨_, settled⟩ | ⟨description, rfl, _, labelled⟩
  · cases settled.symm.trans failed
  · cases labelled.symm.trans failed
    exact isPlainReason_of_resolution? reads stage

theorem resolves_iff (enums : Enumerations) (message : HtlcMessage) :
    message.Resolves ↔ ∃ detail, (message.event enums).stage.resolution? = some detail := by
  simp only [resolution?_event_eq_some_iff, Resolves, Fails]
  constructor
  · rintro (settled | failedBack | ⟨number, failedHere⟩)
    · exact ⟨_, .inl ⟨settled, rfl⟩⟩
    · exact ⟨_, .inr (.inl ⟨failedBack, rfl⟩)⟩
    · exact ⟨_, .inr (.inr ⟨number, failedHere, rfl⟩)⟩
  · rintro ⟨detail, ⟨settled, _⟩ | ⟨failedBack, _⟩ | ⟨number, failedHere, _⟩⟩
    · exact .inl settled
    · exact .inr (.inl failedBack)
    · exact .inr (.inr ⟨number, failedHere⟩)

theorem resolution_event_eq_error_iff (reads : enums.Reads numbering) {message : HtlcMessage}
    {detail : Option String} (stage : (message.event enums).stage.resolution? = some detail)
    (error : MonitorError) :
    (message.event enums).resolution detail = .error error ↔
      ¬ message.HasDirection numbering ∧ error = .unknownEventType message.key := by
  have unknown : (message.event enums).direction = .unknown ↔ ¬ message.HasDirection numbering :=
    reads.direction_eq_unknown_iff message.direction
  rw [HtlcEvent.resolution_eq_error_iff, unknown]
  refine or_iff_left ?_
  rintro ⟨_, _, description, rfl, blank⟩
  have named := (isPlainReason_of_resolution? reads stage).2.something
  rw [(normalizeReason_eq_nil_iff _).mpr blank] at named
  exact named rfl

theorem process_event_eq_error_iff (reads : enums.Reads numbering) (message : HtlcMessage)
    (tracker : HtlcTracker) (error : MonitorError) :
    tracker.process (message.event enums) = .error error ↔
      message.Resolves ∧ ¬ message.HasDirection numbering ∧
        error = .unknownEventType message.key := by
  rw [HtlcTracker.process_eq_error_iff_resolution, message.resolves_iff enums]
  constructor
  · rintro ⟨detail, stage, failed⟩
    exact ⟨⟨detail, stage⟩, (resolution_event_eq_error_iff reads stage error).mp failed⟩
  · rintro ⟨⟨detail, stage⟩, why⟩
    exact ⟨detail, stage, (resolution_event_eq_error_iff reads stage error).mpr why⟩

theorem exists_step_of_fails (reads : enums.Reads numbering) {message : HtlcMessage}
    (fails : message.Fails) (directed : message.HasDirection numbering) (active : ActiveTable) :
    ∃ rest htlc reason, active.step (message.event enums) = .ok (rest, some htlc) ∧
      htlc.resolution.outcome = .failed reason ∧ IsPlainReason reason := by
  obtain ⟨detail, stage⟩ := (message.resolves_iff enums).mp (.inr fails)
  obtain ⟨idle, _⟩ | ⟨_, error, stage, failed, _⟩ |
    ⟨_, resolution, stage, resolved, taken⟩ := active.step_cases (message.event enums)
  · rw [HtlcEvent.isResolution, stage] at idle
    cases idle
  · exact absurd directed ((resolution_event_eq_error_iff reads stage error).mp failed).1
  · rcases HtlcEvent.outcome_resolution resolved with ⟨settled, _⟩ | ⟨_, _, _, labelled⟩
    · exact absurd settled (ne_none_of_fails fails stage)
    · refine ⟨_, _, _, taken, ?_, (outcome_eq_failed reads stage resolved labelled).2⟩
      rw [ActiveTable.resolution_resolve, labelled]

theorem fails_of_step (reads : enums.Reads numbering) {message : HtlcMessage}
    {active rest : ActiveTable} {htlc : ResolvedHtlc} {reason : String}
    (taken : active.step (message.event enums) = .ok (rest, some htlc))
    (failed : htlc.resolution.outcome = .failed reason) :
    message.Fails ∧ message.HasDirection numbering ∧ IsPlainReason reason := by
  obtain ⟨_, idle⟩ | ⟨_, error, _, _, refused⟩ |
    ⟨detail, resolution, stage, resolved, closed⟩ := active.step_cases (message.event enums)
  · cases idle.symm.trans taken
  · cases refused.symm.trans taken
  · cases closed.symm.trans taken
    rw [ActiveTable.resolution_resolve] at failed
    obtain ⟨fails, plain⟩ := outcome_eq_failed reads stage resolved failed
    refine ⟨fails, ?_, plain⟩
    by_contra undirected
    have denied := (resolution_event_eq_error_iff reads stage _).mpr ⟨undirected, rfl⟩
    cases resolved.symm.trans denied

end HtlcMessage

end Lnd

end LightningMetrics
