import Mathlib.Data.List.Forall2
import Mathlib.Logic.Relation
import LightningMetrics.Channel.RemotePolicy
import LightningMetrics.Proofs.Channel.LastEntry

set_option autoImplicit false

namespace LightningMetrics

theorem Endpoint.enabledPolicy?_eq_some_iff {endpoint : Endpoint} {policy : RoutingPolicy} :
    endpoint.enabledPolicy? = some policy ↔
      endpoint.policy = some policy ∧ policy.disabled = false := by
  unfold enabledPolicy?
  rw [Option.filter_eq_some_iff, Bool.not_eq_true']

namespace ChannelEdge

/-- Our key is at neither end. -/
def IsForeign (edge : ChannelEdge) (ours : PublicKey) : Prop :=
  edge.first.node ≠ ours ∧ edge.second.node ≠ ours

instance (edge : ChannelEdge) (ours : PublicKey) : Decidable (edge.IsForeign ours) :=
  inferInstanceAs (Decidable (_ ∧ _))

/-- The end opposite to us: the second one if the first is ours, and else the first. -/
def opposite (edge : ChannelEdge) (ours : PublicKey) : Endpoint :=
  if edge.first.node = ours then edge.second else edge.first

/-- The end opposite to us has this policy, and has it switched on. -/
def Announces (edge : ChannelEdge) (ours : PublicKey) (policy : RoutingPolicy) : Prop :=
  (edge.opposite ours).policy = some policy ∧ policy.disabled = false

/-- An edge told otherwise, with another policy at our own end or with its ends the other way round.
Its two ends are different nodes. -/
inductive Retold (ours : PublicKey) : ChannelEdge → ChannelEdge → Prop where
  | ownFirst {edge : ChannelEdge} (apart : edge.first.node ≠ edge.second.node)
      (own : edge.first.node = ours) (policy : Option RoutingPolicy) :
      Retold ours edge { edge with first.policy := policy }
  | ownSecond {edge : ChannelEdge} (apart : edge.first.node ≠ edge.second.node)
      (own : edge.second.node = ours) (policy : Option RoutingPolicy) :
      Retold ours edge { edge with second.policy := policy }
  | swapped {edge : ChannelEdge} (apart : edge.first.node ≠ edge.second.node) :
      Retold ours edge { edge with first := edge.second, second := edge.first }

variable {ours : PublicKey}

theorem peer?_of_isForeign {edge : ChannelEdge} (foreign : edge.IsForeign ours) :
    edge.peer? ours = none := by
  unfold peer?
  rw [if_neg foreign.1, if_neg foreign.2]

theorem peer?_of_not_isForeign {edge : ChannelEdge} (known : ¬ edge.IsForeign ours) :
    edge.peer? ours = some (edge.opposite ours) := by
  unfold peer? opposite
  by_cases first : edge.first.node = ours
  · rw [if_pos first, if_pos first]
  · have second : edge.second.node = ours := by
      by_contra second
      exact known ⟨first, second⟩
    rw [if_neg first, if_neg first, if_pos second]

/-- Telling an edge otherwise leaves its channel and its peer. -/
theorem Retold.same {edge other : ChannelEdge} (retold : Retold ours edge other) :
    other.channel = edge.channel ∧ other.peer? ours = edge.peer? ours := by
  unfold peer?
  cases retold with
  | ownFirst apart own policy => exact ⟨rfl, by rw [if_pos own, if_pos own]⟩
  | ownSecond apart own policy =>
      have first : edge.first.node ≠ ours := own ▸ apart
      exact ⟨rfl, by rw [if_neg first, if_neg first, if_pos own]⟩
  | swapped apart =>
      refine ⟨rfl, ?_⟩
      dsimp only
      by_cases first : edge.first.node = ours
      · rw [if_pos first, if_pos first, if_neg fun second => apart (first.trans second.symm)]
      · rw [if_neg first, if_neg first]

/-- The entry that an edge of ours adds to the table of policies, if any. -/
def announcement? (edge : ChannelEdge) (ours : PublicKey) : Option (UInt64 × RoutingPolicy) :=
  (edge.opposite ours).enabledPolicy?.map (edge.channel, ·)

theorem announcement?_eq_some_iff {edge : ChannelEdge} {entry : UInt64 × RoutingPolicy} :
    edge.announcement? ours = some entry ↔
      edge.channel = entry.1 ∧ edge.Announces ours entry.2 := by
  unfold announcement? Announces
  rw [← Endpoint.enabledPolicy?_eq_some_iff, Option.map_eq_some_iff]
  constructor
  · rintro ⟨policy, enabled, rfl⟩
    exact ⟨rfl, enabled⟩
  · rintro ⟨same, enabled⟩
    exact ⟨entry.2, enabled, Prod.ext same rfl⟩

end ChannelEdge

section Reading

variable {ours : PublicKey} {policies : ChannelMap RoutingPolicy}

theorem addRemotePolicy_of_isForeign {edge : ChannelEdge} (foreign : edge.IsForeign ours) :
    addRemotePolicy ours policies edge = .error (.foreignChannel ours.text edge.channel) := by
  rw [addRemotePolicy, ChannelEdge.peer?_of_isForeign foreign]

theorem addRemotePolicy_of_not_isForeign {edge : ChannelEdge} (known : ¬ edge.IsForeign ours) :
    addRemotePolicy ours policies edge =
      .ok ((edge.announcement? ours).elim policies fun entry =>
        policies.insert entry.1 entry.2) := by
  rw [addRemotePolicy, ChannelEdge.peer?_of_not_isForeign known, ChannelEdge.announcement?]
  dsimp only
  cases (edge.opposite ours).enabledPolicy? <;> rfl

theorem ChannelEdge.Retold.addRemotePolicy_eq {edge other : ChannelEdge}
    (retold : edge.Retold ours other) :
    addRemotePolicy ours policies other = addRemotePolicy ours policies edge := by
  obtain ⟨channel, peer⟩ := retold.same
  rw [addRemotePolicy, addRemotePolicy, channel, peer]

/-- The announcements of edges that are all ours are put into the table one after the other. -/
theorem foldlM_addRemotePolicy {edges : List ChannelEdge}
    (known : ∀ edge ∈ edges, ¬ edge.IsForeign ours) :
    edges.foldlM (addRemotePolicy ours) policies =
      .ok ((edges.filterMap (·.announcement? ours)).foldl
        (fun table entry => table.insert entry.1 entry.2) policies) := by
  induction edges generalizing policies with
  | nil => rfl
  | cons edge rest ih =>
      obtain ⟨here, later⟩ := List.forall_mem_cons.mp known
      rw [List.foldlM_cons, addRemotePolicy_of_not_isForeign here, List.filterMap_cons]
      cases edge.announcement? ours with
      | none => exact ih later
      | some entry => exact ih later

theorem remotePolicies_of_known {edges : List ChannelEdge}
    (known : ∀ edge ∈ edges, ¬ edge.IsForeign ours) :
    remotePolicies ours edges =
      .ok (.ofEntries (edges.filterMap (·.announcement? ours))) :=
  foldlM_addRemotePolicy known

theorem remotePolicies_of_foreign {earlier : List ChannelEdge} {edge : ChannelEdge}
    (known : ∀ other ∈ earlier, ¬ other.IsForeign ours) (foreign : edge.IsForeign ours)
    (later : List ChannelEdge) :
    remotePolicies ours (earlier ++ edge :: later) =
      .error (.foreignChannel ours.text edge.channel) := by
  unfold remotePolicies
  rw [List.foldlM_append, foldlM_addRemotePolicy known]
  change (edge :: later).foldlM (addRemotePolicy ours) _ = _
  rw [List.foldlM_cons, addRemotePolicy_of_isForeign foreign]
  rfl

theorem exists_first_foreign (ours : PublicKey) (edges : List ChannelEdge) :
    (∀ edge ∈ edges, ¬ edge.IsForeign ours) ∨
      ∃ earlier edge later, edges = earlier ++ edge :: later ∧
        (∀ other ∈ earlier, ¬ other.IsForeign ours) ∧ edge.IsForeign ours := by
  induction edges with
  | nil => exact .inl nofun
  | cons edge rest ih =>
      by_cases foreign : edge.IsForeign ours
      · exact .inr ⟨[], edge, rest, rfl, nofun, foreign⟩
      · rcases ih with known | ⟨earlier, first, later, rfl, known, found⟩
        · exact .inl (List.forall_mem_cons.mpr ⟨foreign, known⟩)
        · exact .inr ⟨edge :: earlier, first, later, rfl,
            List.forall_mem_cons.mpr ⟨foreign, known⟩, found⟩

theorem remotePolicies_eq_error_iff (ours : PublicKey) (edges : List ChannelEdge)
    (error : MonitorError) :
    remotePolicies ours edges = .error error ↔
      ∃ earlier edge later, edges = earlier ++ edge :: later ∧
        (∀ other ∈ earlier, ¬ other.IsForeign ours) ∧ edge.IsForeign ours ∧
        error = .foreignChannel ours.text edge.channel := by
  constructor
  · intro refused
    rcases exists_first_foreign ours edges with known | ⟨earlier, edge, later, rfl, known, foreign⟩
    · rw [remotePolicies_of_known known] at refused
      cases refused
    · rw [remotePolicies_of_foreign known foreign] at refused
      cases refused
      exact ⟨earlier, edge, later, rfl, known, foreign, rfl⟩
  · rintro ⟨earlier, edge, later, rfl, known, foreign, rfl⟩
    exact remotePolicies_of_foreign known foreign later

theorem remotePolicies_of_retold {edges others : List ChannelEdge}
    (retold : List.Forall₂ (Relation.ReflTransGen (ChannelEdge.Retold ours)) edges others) :
    remotePolicies ours others = remotePolicies ours edges := by
  have one {policies : ChannelMap RoutingPolicy} {edge other : ChannelEdge}
      (steps : Relation.ReflTransGen (ChannelEdge.Retold ours) edge other) :
      addRemotePolicy ours policies other = addRemotePolicy ours policies edge := by
    induction steps with
    | refl => rfl
    | tail _ step ih => exact step.addRemotePolicy_eq.trans ih
  unfold remotePolicies
  generalize (∅ : ChannelMap RoutingPolicy) = policies
  induction retold generalizing policies with
  | nil => rfl
  | cons steps _ ih =>
      rw [List.foldlM_cons, List.foldlM_cons, one steps]
      cases addRemotePolicy ours policies _ with
      | error error => rfl
      | ok next => exact ih next

end Reading

/-- Edges are refused exactly if one of them has our key at neither end, and then for the first such
edge, whatever the others are. Otherwise there is a policy for a channel exactly if an edge of this
channel carries one that is switched on at the end opposite to us, and it is that of the last such
edge. So neither the policies at our own ends of edges between two nodes matter, nor the order of
the two ends of such an edge. -/
theorem remotePolicies_enabled_opposite (ours : PublicKey) (edges : List ChannelEdge) :
    ((∃ error, remotePolicies ours edges = .error error) ↔
      ∃ edge ∈ edges, edge.IsForeign ours) ∧
    (∀ error, remotePolicies ours edges = .error error ↔
      ∃ earlier edge later, edges = earlier ++ edge :: later ∧
        (∀ other ∈ earlier, ¬ other.IsForeign ours) ∧ edge.IsForeign ours ∧
        error = .foreignChannel ours.text edge.channel) ∧
    ((∀ edge ∈ edges, ¬ edge.IsForeign ours) →
      ∃ policies, remotePolicies ours edges = .ok policies ∧ ∀ channel : UInt64,
        (channel ∈ policies ↔
          ∃ edge ∈ edges, edge.channel = channel ∧ ∃ policy, edge.Announces ours policy) ∧
        ∀ policy, policies[channel]? = some policy ↔
          ∃ earlier edge later, edges = earlier ++ edge :: later ∧
            edge.channel = channel ∧ edge.Announces ours policy ∧
            ∀ other ∈ later, ∀ announced, other.channel = channel →
              ¬ other.Announces ours announced) ∧
    ∀ others, List.Forall₂ (Relation.ReflTransGen (ChannelEdge.Retold ours)) edges others →
      remotePolicies ours others = remotePolicies ours edges := by
  refine ⟨?_, remotePolicies_eq_error_iff ours edges, fun known => ?_,
    fun others => remotePolicies_of_retold⟩
  · constructor
    · rintro ⟨error, refused⟩
      obtain ⟨earlier, edge, later, rfl, -, foreign, -⟩ :=
        (remotePolicies_eq_error_iff ours edges error).mp refused
      exact ⟨edge, List.mem_append_right _ List.mem_cons_self, foreign⟩
    · rintro ⟨edge, member, foreign⟩
      rcases exists_first_foreign ours edges with known | ⟨earlier, first, later, rfl, known, found⟩
      · exact absurd foreign (known edge member)
      · exact ⟨_, remotePolicies_of_foreign known found later⟩
  · refine ⟨_, remotePolicies_of_known known, fun channel => ⟨?_, fun policy => ?_⟩⟩
    · rw [ChannelMap.mem_ofEntries, List.mem_map]
      simp only [List.mem_filterMap, ChannelEdge.announcement?_eq_some_iff, Prod.exists]
      constructor
      · rintro ⟨_, policy, ⟨edge, member, rfl, announced⟩, rfl⟩
        exact ⟨edge, member, rfl, policy, announced⟩
      · rintro ⟨edge, member, rfl, policy, announced⟩
        exact ⟨_, policy, ⟨edge, member, rfl, announced⟩, rfl⟩
    · rw [ChannelMap.getElem?_ofEntries, lastOf?_filterMap_eq_some_iff]
      simp only [ChannelEdge.announcement?_eq_some_iff, ne_eq, not_and, and_assoc]

/-- Channel 4 is listed from both sides, and at last with its peer's policy switched off; channel 9
has only a policy of ours. A stranger's channel is refused, although others come after it. -/
theorem remotePolicies_enabled_opposite_of_repeated_channel :
    let ours : PublicKey :=
      ⟨0xf9308a019258c31049344f85f89d5229b531c845836f99b08601f113bce036f9,
        0x388f7b0f632de8140fe337e62a37f3566500a99934c2231b6cb9fd7584b8e672, by decide +kernel⟩
    let peer : PublicKey :=
      ⟨0xe493dbf1c10d80f3581e4904930b1404cc6c13900ee0758474fa94abe8c4cd13,
        0x51ed993ea0d455b75642e2098ea51448d967ae33bfbdfe40cfe97bdc47739922, by decide +kernel⟩
    let charging (base : UInt64) : RoutingPolicy := ⟨40, 1, 1, base, 100, false⟩
    let first : ChannelEdge := ⟨4, ⟨ours, some (charging 1)⟩, ⟨peer, some (charging 2)⟩⟩
    let second : ChannelEdge := ⟨4, ⟨peer, some (charging 3)⟩, ⟨ours, none⟩⟩
    let third : ChannelEdge :=
      ⟨4, ⟨ours, some (charging 5)⟩, ⟨peer, some { charging 6 with disabled := true }⟩⟩
    let silent : ChannelEdge := ⟨9, ⟨peer, none⟩, ⟨ours, some (charging 8)⟩⟩
    let stranger : ChannelEdge := ⟨12, ⟨peer, none⟩, ⟨peer, some (charging 7)⟩⟩
    let edges := [first, second, third, silent]
    let retold := [{ first with first := first.second, second := first.first }, second, third,
      { silent with second.policy := none }]
    (∀ edge ∈ edges, ¬ edge.IsForeign ours) ∧
      (∃ policies, remotePolicies ours edges = .ok policies ∧
        policies[(4 : UInt64)]? = some (charging 3) ∧ (9 : UInt64) ∉ policies) ∧
      List.Forall₂ (Relation.ReflTransGen (ChannelEdge.Retold ours)) edges retold ∧
      remotePolicies ours retold = remotePolicies ours edges ∧
      remotePolicies ours (edges ++ stranger :: edges) =
        .error (.foreignChannel ours.text 12) := by
  intro ours peer charging first second third silent stranger edges retold
  have apart : ours ≠ peer := by decide +kernel
  have known : ∀ edge ∈ edges, ¬ edge.IsForeign ours := by decide +kernel
  have foreign : stranger.IsForeign ours := by decide +kernel
  obtain ⟨-, -, reads, indifferent⟩ := remotePolicies_enabled_opposite ours edges
  obtain ⟨-, refuses, -, -⟩ := remotePolicies_enabled_opposite ours (edges ++ stranger :: edges)
  obtain ⟨policies, read, holds⟩ := reads known
  have own : silent.second.node = ours := rfl
  have told : List.Forall₂ (Relation.ReflTransGen (ChannelEdge.Retold ours)) edges retold :=
    .cons (.single (.swapped apart)) <| .cons .refl <| .cons .refl <|
      .cons (.single (.ownSecond (Ne.symm apart) own none)) .nil
  have silence {channel : UInt64} {listed : List ChannelEdge}
      (unannounced : ∀ edge ∈ listed, (edge.announcement? ours).map Prod.fst ≠ some channel) :
      ∀ edge ∈ listed, ∀ announced, edge.channel = channel → ¬ edge.Announces ours announced := by
    intro edge member announced same announces
    have given : edge.announcement? ours = some (channel, announced) :=
      ChannelEdge.announcement?_eq_some_iff.mpr ⟨same, announces⟩
    exact unannounced edge member (congrArg (Option.map Prod.fst) given)
  refine ⟨known, ⟨policies, read, ?_, ?_⟩, told, indifferent retold told,
    (refuses _).mpr ⟨edges, stranger, edges, rfl, known, foreign, rfl⟩⟩
  · refine ((holds 4).2 (charging 3)).mpr
      ⟨[first], second, [third, silent], rfl, rfl, ⟨?_, rfl⟩, ?_⟩
    · exact congrArg Endpoint.policy (if_neg apart.symm)
    · exact silence (by decide +kernel)
  · rw [(holds 9).1]
    rintro ⟨edge, member, same, announced, announces⟩
    have unannounced : ∀ edge ∈ edges, (edge.announcement? ours).map Prod.fst ≠ some 9 := by
      decide +kernel
    exact silence unannounced edge member announced same announces

end LightningMetrics
