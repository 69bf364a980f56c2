import Mathlib.Data.List.Forall2
import LightningMetrics.Proofs.Stats.OrderStatistics
import LightningMetrics.Stats.PolicyStats

set_option autoImplicit false

namespace LightningMetrics

open Stats (Report Sample)

/-- The fields of a policy that there are statistics of. -/
inductive PolicyField where
  | timeLockDelta
  | minHtlc
  | maxHtlc
  | feeBase
  | feeRate
deriving DecidableEq, Repr

namespace PolicyField

/-- What there is for this field. -/
def of {α : Type} (fields : PolicyFields α) : PolicyField → α
  | timeLockDelta => fields.timeLockDelta
  | minHtlc => fields.minHtlc
  | maxHtlc => fields.maxHtlc
  | feeBase => fields.feeBase
  | feeRate => fields.feeRate

/-- The number that a policy has in this field. -/
def number (policy : RoutingPolicy) : PolicyField → Nat
  | timeLockDelta => policy.timeLockDelta.toNat
  | minHtlc => policy.minHtlcMsat.toNat
  | maxHtlc => policy.maxHtlcMsat.toNat
  | feeBase => policy.feeBaseMsat.toNat
  | feeRate => policy.feeRate.toNat

/-- The numbers of this field in a list of policies, as doubles. -/
def values (field : PolicyField) (policies : List RoutingPolicy) : List Binary64 :=
  policies.map fun policy => .ofNat (field.number policy)

theorem of_injective {α : Type} {one other : PolicyFields α}
    (same : ∀ field, of one field = of other field) : one = other := by
  have timeLockDeltas := same timeLockDelta
  have minHtlcs := same minHtlc
  have maxHtlcs := same maxHtlc
  have feeBases := same feeBase
  have feeRates := same feeRate
  cases one
  cases other
  simp_all [of]

theorem of_observe (field : PolicyField) (samples : PolicyFields Sample) (policy : RoutingPolicy) :
    of (samples.observe policy) field =
      (of samples field).observe (.ofNat (field.number policy)) := by
  cases field <;> rfl

theorem of_foldl_observe (field : PolicyField) (policies : List RoutingPolicy)
    (samples : PolicyFields Sample) :
    of (policies.foldl PolicyFields.observe samples) field =
      (field.values policies).foldl Sample.observe (of samples field) := by
  induction policies generalizing samples with
  | nil => rfl
  | cons policy rest ih =>
      rw [List.foldl_cons, ih, of_observe]
      rfl

end PolicyField

/-- The policies of both sides of all edges. -/
def presentPolicies (edges : List ChannelEdge) : List RoutingPolicy :=
  edges.flatMap fun edge => edge.first.policy.toList ++ edge.second.policy.toList

theorem presentPolicies_cons (edge : ChannelEdge) (edges : List ChannelEdge) :
    presentPolicies (edge :: edges) =
      edge.first.policy.toList ++ edge.second.policy.toList ++ presentPolicies edges :=
  List.flatMap_cons

theorem flatMap_policies (edges : List ChannelEdge) :
    edges.flatMap ChannelEdge.policies = presentPolicies edges := by
  unfold presentPolicies
  congr 1
  funext edge
  unfold ChannelEdge.policies
  cases edge.first.policy <;> cases edge.second.policy <;> rfl

theorem count_presentPolicies (edges : List ChannelEdge) (policy : RoutingPolicy) :
    (presentPolicies edges).count policy =
      edges.countP (fun edge => edge.first.policy = some policy) +
        edges.countP (fun edge => edge.second.policy = some policy) := by
  have side (own : Option RoutingPolicy) :
      own.toList.count policy = if own = some policy then 1 else 0 := by
    cases own with
    | none => rfl
    | some held => simp [List.count_singleton]
  induction edges with
  | nil => rfl
  | cons edge edges ih =>
      rw [presentPolicies_cons, List.count_append, List.count_append, ih, side, side]
      simp only [List.countP_cons, decide_eq_true_eq]
      omega

theorem of_ofEdges (field : PolicyField) (edges : List ChannelEdge) (capacity : Nat) :
    field.of (PolicyStats.ofEdges edges) =
      (Sample.ofList capacity (field.values (presentPolicies edges))).report := by
  rw [Stats.report_ofList_capacity capacity (2 * edges.length)]
  unfold Sample.ofList
  have own := field.of_foldl_observe (presentPolicies edges)
    ⟨.withCapacity (2 * edges.length), .withCapacity (2 * edges.length),
      .withCapacity (2 * edges.length), .withCapacity (2 * edges.length),
      .withCapacity (2 * edges.length)⟩
  unfold PolicyStats.ofEdges
  rw [flatMap_policies]
  cases field <;> exact congrArg Sample.report own

namespace ChannelEdge

/-- Each side has the same number in this field, or neither has a policy there. -/
def AgreesIn (field : PolicyField) (edge other : ChannelEdge) : Prop :=
  edge.first.policy.map field.number = other.first.policy.map field.number ∧
    edge.second.policy.map field.number = other.second.policy.map field.number

/-- The edge with its sides exchanged. -/
def swapped (edge : ChannelEdge) : ChannelEdge :=
  { edge with first := edge.second, second := edge.first }

/-- Does a side have a policy? -/
def hasPolicy (edge : ChannelEdge) : Bool :=
  edge.first.policy.isSome || edge.second.policy.isSome

end ChannelEdge

/-- The same edges in any order, with the sides of some of them exchanged. -/
def IsRearranged (edges others : List ChannelEdge) : Prop :=
  ∃ turned, List.Forall₂ (fun edge other => other = edge ∨ other = edge.swapped) edges turned ∧
    turned.Perm others

section TwoGraphs

variable {edges others : List ChannelEdge}

theorem values_of_agreesIn {field : PolicyField}
    (agree : List.Forall₂ (ChannelEdge.AgreesIn field) edges others) :
    field.values (presentPolicies edges) = field.values (presentPolicies others) := by
  have side {own other : Option RoutingPolicy}
      (same : own.map field.number = other.map field.number) :
      field.values own.toList = field.values other.toList := by
    cases own <;> cases other <;> simp_all [PolicyField.values]
  induction agree with
  | nil => rfl
  | cons here _ ih =>
      unfold PolicyField.values at *
      rw [presentPolicies_cons, presentPolicies_cons, List.map_append, List.map_append,
        List.map_append, List.map_append, ih, side here.1, side here.2]

theorem presentPolicies_of_isRearranged (rearranged : IsRearranged edges others) :
    (presentPolicies edges).Perm (presentPolicies others) := by
  obtain ⟨turned, sides, order⟩ := rearranged
  refine List.Perm.trans ?_ (order.flatMap_right _)
  change (presentPolicies edges).Perm (presentPolicies turned)
  induction sides generalizing others with
  | nil => exact .refl _
  | cons here _ ih =>
      rw [presentPolicies_cons, presentPolicies_cons]
      refine List.Perm.append ?_ (ih (.refl _))
      rcases here with rfl | rfl
      · exact .refl _
      · exact List.perm_append_comm

theorem presentPolicies_filter_hasPolicy (edges : List ChannelEdge) :
    presentPolicies (edges.filter ChannelEdge.hasPolicy) = presentPolicies edges := by
  induction edges with
  | nil => rfl
  | cons edge edges ih =>
      rw [List.filter_cons, presentPolicies_cons edge edges]
      by_cases present : edge.hasPolicy = true
      · rw [if_pos present, presentPolicies_cons, ih]
      · rw [if_neg present, ih]
        unfold ChannelEdge.hasPolicy at present
        rw [Bool.or_eq_true, not_or, Option.not_isSome_iff_eq_none,
          Option.not_isSome_iff_eq_none] at present
        rw [present.1, present.2]
        rfl

/-- Numbers without a sign have one minimum and one maximum bit for bit. -/
theorem extremes_report_eq_of_perm {values others : List Binary64} (same : values.Perm others)
    (capacity otherCapacity : Nat)
    (natural : ∀ value ∈ values, value.isNaN = false ∧ value.isNegative = false) :
    (Sample.ofList otherCapacity others).report.min = (Sample.ofList capacity values).report.min ∧
      (Sample.ofList otherCapacity others).report.max =
        (Sample.ofList capacity values).report.max := by
  by_cases empty : values = []
  · subst empty
    have absent := same.nil_eq
    subst absent
    rw [Stats.report_of_nil, Stats.report_of_nil]
    exact ⟨rfl, rfl⟩
  · have someOthers : others ≠ [] := fun absent => empty (absent ▸ same).eq_nil
    have naturalOthers : ∀ value ∈ others, value.isNaN = false ∧ value.isNegative = false :=
      fun value member => natural value (same.mem_iff.mpr member)
    have numbers := fun value member => (natural value member).1
    obtain ⟨least, greatest, -⟩ := Stats.extremes_report capacity empty numbers
    obtain ⟨least', greatest', -⟩ := Stats.extremes_report otherCapacity someOthers
      fun value member => (naturalOthers value member).1
    obtain ⟨sameLeast, sameGreatest⟩ :=
      Stats.extremes_report_perm same capacity otherCapacity numbers
    exact ⟨Binary64.eq_of_numericKey_eq (naturalOthers _ least').2 (natural _ least).2 sameLeast,
      Binary64.eq_of_numericKey_eq (naturalOthers _ greatest').2 (natural _ greatest).2
        sameGreatest⟩

theorem natural_of_mem_values {field : PolicyField} {policies : List RoutingPolicy}
    {value : Binary64} (member : value ∈ field.values policies) :
    value.isNaN = false ∧ value.isNegative = false := by
  obtain ⟨policy, -, rfl⟩ := List.mem_map.mp member
  exact ⟨Binary64.isNaN_ofNat _, Binary64.isNegative_ofNat _⟩

end TwoGraphs

/-- The report of each field is that on the field's numbers in all policies that are present, each
of them as often as a side of an edge has it and whether switched on or off. So it stays as it is
where the edges change in anything but this field and which policies there are; its minimum, maximum
and median stay where edges change their order or their sides; and nothing changes where edges
without a policy come or go. -/
theorem policyStats_by_field (edges : List ChannelEdge) :
    (∀ policy, (presentPolicies edges).count policy =
      edges.countP (fun edge => edge.first.policy = some policy) +
        edges.countP (fun edge => edge.second.policy = some policy)) ∧
    (∀ (field : PolicyField) (capacity : Nat), field.of (PolicyStats.ofEdges edges) =
      (Sample.ofList capacity (field.values (presentPolicies edges))).report) ∧
    (∀ (field : PolicyField) others,
      List.Forall₂ (ChannelEdge.AgreesIn field) edges others →
        field.of (PolicyStats.ofEdges others) = field.of (PolicyStats.ofEdges edges)) ∧
    (∀ others, IsRearranged edges others → ∀ field : PolicyField,
      let report := field.of (PolicyStats.ofEdges edges)
      let other := field.of (PolicyStats.ofEdges others)
      other.min = report.min ∧ other.max = report.max ∧ other.median = report.median) ∧
    ∀ others, others.filter ChannelEdge.hasPolicy = edges.filter ChannelEdge.hasPolicy →
      PolicyStats.ofEdges others = PolicyStats.ofEdges edges := by
  refine ⟨count_presentPolicies edges, fun field capacity => of_ofEdges field edges capacity,
    fun field others agree => ?_, fun others rearranged field => ?_, fun others same => ?_⟩
  · rw [of_ofEdges field others 0, of_ofEdges field edges 0, values_of_agreesIn agree]
  · intro report other
    have policies := presentPolicies_of_isRearranged rearranged
    have numbers : (field.values (presentPolicies edges)).Perm
        (field.values (presentPolicies others)) := policies.map _
    obtain ⟨least, greatest⟩ := extremes_report_eq_of_perm numbers 0 0
      fun value member => natural_of_mem_values member
    have median := Stats.median_report_perm numbers 0 0
    rw [← of_ofEdges, ← of_ofEdges] at least greatest median
    exact ⟨least, greatest, median⟩
  · apply PolicyField.of_injective
    intro field
    rw [of_ofEdges field others 0, of_ofEdges field edges 0,
      ← presentPolicies_filter_hasPolicy others, same, presentPolicies_filter_hasPolicy]

/-- Of three edges one has a policy that is switched off, and one has none. With other fees, flags,
channels and nodes the time locks report the same; turned around, so do all fields but for the mean;
and the edge without a policy may be left out. -/
theorem policyStats_by_field_of_three_edges :
    let one : PublicKey :=
      ⟨0x2f8bde4d1a07209355b4a7250a5c5128e88b84bddc619ab7cba8d569b240efe4,
        0xd8ac222636e5e3d6d4dba9dda6c9c426f788271bab0d6840dca87d3aa6ac62d6, by decide +kernel⟩
    let two : PublicKey :=
      ⟨0xfff97bd5755eeea420453a14355235d382f6472f8568a18b2f057a1460297556,
        0xae12777aacfbb620f3be96017f45c560de80f0f6518fe4a03c870c36b075f297, by decide +kernel⟩
    let policy (timeLock : UInt32) (base : UInt64) (disabled : Bool) : RoutingPolicy :=
      ⟨timeLock, 1000, 990000000, base, 100, disabled⟩
    let full : ChannelEdge :=
      ⟨1, ⟨one, some (policy 40 1000 false)⟩, ⟨two, some (policy 144 0 true)⟩⟩
    let half : ChannelEdge := ⟨2, ⟨two, none⟩, ⟨one, some (policy 80 2000 false)⟩⟩
    let bare : ChannelEdge := ⟨3, ⟨one, none⟩, ⟨two, none⟩⟩
    let edges := [full, half, bare]
    let changed : List ChannelEdge :=
      [⟨7, ⟨two, some (policy 40 5 true)⟩, ⟨two, some (policy 144 6 false)⟩⟩,
        ⟨2, ⟨one, none⟩, ⟨one, some (policy 80 7 true)⟩⟩, bare]
    let turned := [half, full.swapped, bare]
    (presentPolicies edges).count (policy 144 0 true) = 1 ∧
      List.Forall₂ (ChannelEdge.AgreesIn .timeLockDelta) edges changed ∧
      (PolicyStats.ofEdges changed).timeLockDelta = (PolicyStats.ofEdges edges).timeLockDelta ∧
      IsRearranged edges turned ∧
      (PolicyStats.ofEdges turned).feeBase.median = (PolicyStats.ofEdges edges).feeBase.median ∧
      [full, half].filter ChannelEdge.hasPolicy = edges.filter ChannelEdge.hasPolicy ∧
      PolicyStats.ofEdges [full, half] = PolicyStats.ofEdges edges := by
  intro one two policy full half bare edges changed turned
  obtain ⟨counts, -, agreement, order, thinning⟩ := policyStats_by_field edges
  have agree : List.Forall₂ (ChannelEdge.AgreesIn .timeLockDelta) edges changed :=
    .cons ⟨rfl, rfl⟩ <| .cons ⟨rfl, rfl⟩ <| .cons ⟨rfl, rfl⟩ .nil
  have rearranged : IsRearranged edges turned :=
    ⟨[full.swapped, half, bare], .cons (.inr rfl) <| .cons (.inl rfl) <| .cons (.inl rfl) .nil,
      .swap _ _ _⟩
  have kept : [full, half].filter ChannelEdge.hasPolicy =
      edges.filter ChannelEdge.hasPolicy := rfl
  refine ⟨?_, agree, agreement .timeLockDelta changed agree, rearranged,
    (order turned rearranged .feeBase).2.2, kept, thinning _ kept⟩
  rw [counts]
  decide +kernel

end LightningMetrics
