import Lightpath.Proofs.Json.Members
import Lightpath.Proofs.Service.Plans

/-!
What plans expect of every interface, and what they have at least. An interface is expected in
service, and a plan has two resources of different names, so no one name stands for all of it.
-/

namespace Lightpath

/-- A resource that is expected to be in service. -/
def PlannedResource.ExpectsService (p : PlannedResource)
    : Prop :=
  p.expected.get? "administrative-state" = some (.string "inService")

namespace Plan

/-- A plan by which faults can be told: its interfaces are expected in service, and its resources do
not share one name. -/
structure Telling (plan : Plan)
    : Prop where
  inService : ∀ p ∈ plan.resources, p.isConnection = false → p.ExpectsService
  diverse : ∀ name, ∃ p ∈ plan.resources, p.name ≠ name

/-- Every interface is expected in service, whatever its own container holds. -/
theorem expectsService_interface (name : String) (kind : ResourceKind) (type : String)
    (port : Port) (supporting : Option String) {container : String}
    (apart : container ≠ "administrative-state") (content : List (String × Json))
    : (interface name kind type port supporting container content).ExpectsService := by
  let common :=
    [("name", Json.string name),
      ("type", .string (interfaceType type)),
      ("administrative-state", .string "inService"),
      ("supporting-circuit-pack-name", .string port.circuitPack),
      ("supporting-port", .string port.supportingPort)]
    ++ supporting.toList.map fun s => ("supporting-interface-list", Json.ofStrings [s])
  have expected
      : (interface name kind type port supporting container content).expected
        = Json.ofMembers (common ++ [(container, Json.ofMembers content)]) := by
    cases supporting <;> rfl
  rw [PlannedResource.ExpectsService, expected, Json.get?_ofMembers, List.reverse_append,
    List.reverse_singleton, List.singleton_append, Keyed.lookup_cons, if_neg (Ne.symm apart)]
  cases supporting <;> rfl

/-- A plan that names its resources apart and begins with two interfaces has one of another name
than any given.
-/
theorem exists_other_name {plan : Plan} (distinct : plan.Distinct)
    {first second : PlannedResource} {rest : List PlannedResource}
    (resources : plan.resources = first :: second :: rest)
    (alike : first.isConnection = second.isConnection) (name : String)
    : ∃ p ∈ plan.resources, p.name ≠ name := by
  rw [Distinct, resources] at distinct
  have apart : first.name ≠ second.name :=
    (List.pairwise_cons.mp distinct).1 second List.mem_cons_self alike
  rw [resources]
  by_cases isFirst : first.name = name
  · exact ⟨second, by simp, fun isSecond => apart (isFirst.trans isSecond.symm)⟩
  · exact ⟨first, by simp, isFirst⟩

theorem telling_optical (ctx : PlanContext) (network : Port) (client : Option Port)
    (rate : SignalRate)
    : (optical ctx network client rate).Telling := by
  have stack : ∀ p ∈ networkStack ctx.spectrum network rate, p.ExpectsService := by
    cases rate with
    | g100 =>
        simp only [networkStack, SignalRate.slices?, wholeStack, transportUnit, dataUnit,
          List.forall_mem_cons, List.not_mem_nil, false_implies, implies_true, and_true]
        exact ⟨expectsService_interface _ _ _ _ _ (by decide) _,
          expectsService_interface _ _ _ _ _ (by decide) _⟩
    | g200 | g300 | g400 =>
        simp only [networkStack, SignalRate.slices?, slicedStack, transportUnit, dataUnit,
          List.forall_mem_cons, List.not_mem_nil, false_implies, implies_true, and_true]
        exact ⟨expectsService_interface _ _ _ _ _ (by decide) _,
          expectsService_interface _ _ _ _ _ (by decide) _,
          expectsService_interface _ _ _ _ _ (by decide) _,
          expectsService_interface _ _ _ _ _ (by decide) _⟩
  constructor
  · intro p member _
    rcases List.mem_append.mp member with inStack | atEnd
    · exact stack p inStack
    · cases client with
      | none => simp at atEnd
      | some c =>
          obtain rfl := List.mem_singleton.mp atEnd
          exact expectsService_interface _ _ _ _ _ (by decide) _
  · have two : ∃ first second rest,
        (optical ctx network client rate).resources = first :: second :: rest
        ∧ first.isConnection = second.isConnection := by
      cases rate <;> exact ⟨_, _, _, rfl, rfl⟩
    obtain ⟨first, second, rest, resources, alike⟩ := two
    exact exists_other_name (optical_distinct ctx network client rate) resources alike

theorem IsClient.telling {plan : Plan} {ctx : PlanContext} {network client : Port}
    {rate : SignalRate} {kind : ClientKind} {position : Nat}
    (isClient : plan.IsClient ctx network rate client kind position)
    : plan.Telling where
  inService := by
    rw [isClient.resources]
    simp only [clientResources, List.forall_mem_cons, List.not_mem_nil, false_implies,
      implies_true, and_true]
    exact ⟨fun _ => expectsService_interface _ _ _ _ _ (by decide) _,
      fun _ => expectsService_interface _ _ _ _ _ (by decide) _,
      fun _ => expectsService_interface _ _ _ _ _ (by decide) _⟩
  diverse := exists_other_name isClient.distinct isClient.resources rfl

theorem telling_roadm (ctx : PlanContext) {source destination : Port} (degreeIsSource : Bool)
    (apart : source.name ≠ destination.name)
    : (roadm ctx source destination degreeIsSource).Telling where
  inService := by
    simp only [roadm, roadmOf, List.forall_mem_cons, List.not_mem_nil, false_implies, implies_true,
      and_true]
    refine ⟨fun _ => expectsService_interface _ _ _ _ _ (by decide) _,
      fun _ => expectsService_interface _ _ _ _ _ (by decide) _,
      fun _ => expectsService_interface _ _ _ _ _ (by decide) _, ?_⟩
    intro isInterface
    simp [crossConnection, PlannedResource.isConnection] at isInterface
  diverse := exists_other_name (roadm_distinct ctx degreeIsSource apart) rfl rfl

end Plan

end Lightpath
