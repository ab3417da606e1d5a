import Lightpath.Proofs.Json.Equality
import Lightpath.Proofs.Json.WrittenRecords
import Lightpath.Proofs.Lifecycle.Evidence
import Lightpath.Proofs.Service.Plans

/-!
Which answers to a create request are accepted. The entry of the node has to list the planned names
of each kind that the plan has resources of, no more and no fewer; what it lists of the other kinds
is not looked at.
-/

namespace Lightpath

-----------------------------------------------------------------------------------------
-- The entry that a plan expects
-----------------------------------------------------------------------------------------

/-- An entry lists exactly the given names as resources of a kind, in whatever order; where none are
given it may have no such list.
-/
def ResourceKind.ListedIn (kind : ResourceKind) (entry : Json) (names : List String)
    : Prop :=
  (∃ listed : List String,
      listed.Perm names ∧ entry.get? kind.listKey = some (Json.ofStrings listed))
  ∨ (names = [] ∧ entry.get? kind.listKey = none)

theorem ResourceKind.mem_all (kind : ResourceKind)
    : kind ∈ all := by
  cases kind <;> decide

namespace Plan

/-- The kinds that a plan has resources of. -/
def usedKinds (p : Plan)
    : List ResourceKind :=
  ResourceKind.all.filter fun kind => !(p.namesOf kind).isEmpty

theorem mem_usedKinds {p : Plan} {kind : ResourceKind}
    : kind ∈ p.usedKinds ↔ p.namesOf kind ≠ [] := by
  rw [usedKinds, List.mem_filter]
  simp [kind.mem_all]

/-- The list of a kind in the expected entry, if the plan has resources of that kind. -/
def listOf? (p : Plan) (kind : ResourceKind)
    : Option Json :=
  if (p.namesOf kind).isEmpty then none else some (Json.ofStrings (p.namesOf kind))

/-- The fields of the expected entry: the node and the list of each kind. -/
def entryFields (p : Plan)
    : List (String × Option Json) :=
  ("node-id", some (.string p.node))
  :: ResourceKind.all.map fun kind => (kind.listKey, p.listOf? kind)

theorem expectedEntry_eq (p : Plan)
    : p.expectedEntry = Json.ofFields p.entryFields := by
  rw [expectedEntry, Json.ofFields, entryFields, List.filterMap_cons, List.filterMap_map]
  congr 3
  funext kind
  simp only [Function.comp, listOf?]
  split <;> rfl

theorem nodup_entryFields (p : Plan)
    : (p.entryFields.map Prod.fst).Nodup := by
  change ("node-id" :: ResourceKind.all.map ResourceKind.listKey).Nodup
  decide

/-- An entry is accepted exactly if it states the node and lists the planned names of each kind that
the plan has resources of.
-/
theorem isSubset_expectedEntry (p : Plan) (entry : Json)
    : Json.isSubset p.expectedEntry entry = true
      ↔ entry.get? "node-id" = some (.string p.node)
        ∧ ∀ kind ∈ p.usedKinds, kind.ListedIn entry (p.namesOf kind) := by
  simp only [mem_usedKinds]
  rw [expectedEntry_eq]
  constructor
  · intro subset
    constructor
    · have stated := Json.get?_ofFields p.nodup_entryFields List.mem_cons_self
      obtain ⟨v, found, covered⟩ := Json.get?_of_isSubset subset stated
      rw [found, (Json.covers_string _ v).mp covered]
    · intro kind used
      have field : (kind.listKey, some (Json.ofStrings (p.namesOf kind))) ∈ p.entryFields := by
        refine List.mem_cons_of_mem _ (List.mem_map.mpr ⟨kind, kind.mem_all, ?_⟩)
        rw [listOf?, if_neg (by simpa using used)]
      have stated := Json.get?_ofFields p.nodup_entryFields field
      obtain ⟨v, found, covered⟩ := Json.get?_of_isSubset subset stated
      obtain ⟨listed, same, written⟩ := (Json.covers_ofStrings _ v).mp covered
      exact Or.inl ⟨listed, same, found.trans (congrArg some written)⟩
  · intro stated
    obtain ⟨node, lists⟩ := stated
    apply Json.isSubset_ofMembers
    intro f member
    obtain ⟨field, inFields, written⟩ := List.mem_filterMap.mp member
    obtain ⟨v, stated, rfl⟩ := Option.map_eq_some_iff.mp written
    rcases List.mem_cons.mp inFields with rfl | inLists
    · cases stated
      exact ⟨_, node, (Json.covers_string _ _).mpr rfl⟩
    · obtain ⟨kind, -, rfl⟩ := List.mem_map.mp inLists
      simp only [listOf?] at stated
      split at stated
      · cases stated
      · rename_i used
        cases stated
        have used : p.namesOf kind ≠ [] := by simpa using used
        rcases lists kind used with ⟨listed, same, found⟩ | ⟨none, -⟩
        · exact ⟨_, found, (Json.covers_ofStrings _ _).mpr ⟨listed, same, rfl⟩⟩
        · exact absurd none used

theorem usedKinds_optical (ctx : PlanContext) (network : Port) (client : Option Port)
    (rate : SignalRate)
    : (optical ctx network client rate).usedKinds
      = (if rate.isSliced then [.opticalChannel] else []) ++ [.transportUnit, .dataUnit]
        ++ (if client.isSome then [.ethernet] else []) := by
  cases rate <;> cases client <;> rfl

theorem usedKinds_client {ctx : PlanContext} {network : Port} {rate : SignalRate} {client : Port}
    {kind : ClientKind} {position : Nat} {plan : Plan}
    (planned : client? ctx network rate client kind position = some plan)
    : plan.usedKinds = [.dataUnit, .ethernet] := by
  have resources := (isClient planned).resources
  simp only [usedKinds, namesOf, resources]
  rfl

theorem usedKinds_roadm (ctx : PlanContext) (source destination : Port) (degreeIsSource : Bool)
    : (roadm ctx source destination degreeIsSource).usedKinds
      = [.opticalChannel, .connection] := by
  cases degreeIsSource <;> rfl

end Plan

-----------------------------------------------------------------------------------------
-- Accepted creations
-----------------------------------------------------------------------------------------

namespace Lifecycle

theorem creationFindings_eq_nil_iff (plan : Plan) (response : Option RpcResponse)
    : creationFindings plan response = [] ↔ ∃ r, response = some r ∧ r.Lists plan := by
  cases response with
  | none => simp [creationFindings]
  | some r =>
      simp only [Option.some.injEq, exists_eq_left', ← creationFault?_eq_none]
      cases fault : creationFault? plan r <;> simp [creationFindings, fault]

/-- An answer is accepted exactly if the request was carried out and the entry of the node lists what
is planned of the kinds in use.
-/
theorem lists_iff (plan : Plan) (r : RpcResponse)
    : r.Lists plan
      ↔ r.Succeeded
        ∧ ∃ entry,
            createdEntry? plan.node r = some entry
            ∧ entry.get? "node-id" = some (.string plan.node)
            ∧ ∀ kind ∈ plan.usedKinds, kind.ListedIn entry (plan.namesOf kind) := by
  rw [RpcResponse.Lists]
  apply and_congr_right
  intro _
  constructor
  · intro covered
    obtain ⟨entries, entry, listed, found, subset⟩ := covered
    have first : createdEntry? plan.node r = some entry := by
      unfold createdEntry?
      rw [listed]
      exact found
    exact ⟨entry, first, (plan.isSubset_expectedEntry entry).mp subset⟩
  · intro stated
    obtain ⟨entry, found, lists⟩ := stated
    obtain ⟨entries, listed, found⟩ := Option.bind_eq_some_iff.mp found
    exact ⟨entries, entry, listed, found, (plan.isSubset_expectedEntry entry).mpr lists⟩

/-- A creation is accepted without a finding exactly if the request was carried out and the first
entry of the node lists the planned names of every kind that the plan has resources of. An accepted
entry lists exactly what is planned of all kinds if and only if it lists nothing of the other kinds;
which these are depends on the service.
-/
theorem creation_accepted_iff_lists_used_kinds (plan : Plan) (response : Option RpcResponse)
    : (creationFindings plan response = []
        ↔ ∃ r,
            response = some r
            ∧ r.Succeeded
            ∧ ∃ entry,
                createdEntry? plan.node r = some entry
                ∧ entry.get? "node-id" = some (.string plan.node)
                ∧ ∀ kind ∈ plan.usedKinds, kind.ListedIn entry (plan.namesOf kind))
      ∧ (creationFindings plan response = [] →
          ∀ r ∈ response, ∀ entry ∈ createdEntry? plan.node r,
            (∀ kind : ResourceKind, kind.ListedIn entry (plan.namesOf kind))
            ↔ ∀ kind : ResourceKind, kind ∉ plan.usedKinds → kind.ListedIn entry [])
      ∧ (∀ ctx network client rate, plan = .optical ctx network client rate →
          plan.usedKinds
            = (if rate.isSliced then [.opticalChannel] else []) ++ [.transportUnit, .dataUnit]
              ++ (if client.isSome then [.ethernet] else []))
      ∧ (∀ ctx network rate client kind position,
          Plan.client? ctx network rate client kind position = some plan →
            plan.usedKinds = [.dataUnit, .ethernet])
      ∧ ∀ ctx source destination degreeIsSource,
          plan = .roadm ctx source destination degreeIsSource →
            plan.usedKinds = [.opticalChannel, .connection] := by
  have accepted := creationFindings_eq_nil_iff plan response
  simp only [lists_iff] at accepted
  refine ⟨accepted, ?exact, ?optical, ?client, ?roadm⟩
  case exact =>
    intro silent r answered entry found
    obtain ⟨r', same, -, entry', found', -, lists⟩ := accepted.mp silent
    obtain rfl := Option.some.inj (answered.symm.trans same)
    obtain rfl := Option.some.inj (found.symm.trans found')
    constructor
    · intro all kind unused
      have none : plan.namesOf kind = [] := by simpa [Plan.mem_usedKinds] using unused
      exact none ▸ all kind
    · intro others kind
      by_cases used : kind ∈ plan.usedKinds
      · exact lists kind used
      · have none : plan.namesOf kind = [] := by simpa [Plan.mem_usedKinds] using used
        exact none ▸ others kind used
  case optical =>
    intro ctx network client rate same
    subst same
    exact Plan.usedKinds_optical ctx network client rate
  case client =>
    intro ctx network rate client kind position planned
    exact Plan.usedKinds_client planned
  case roadm =>
    intro ctx source destination degreeIsSource same
    subst same
    exact Plan.usedKinds_roadm ctx source destination degreeIsSource

/-- The optical path between a client and a network port. -/
def pairPlan
    : Plan :=
  .optical ⟨"XPDR-A", "oroadm-lifecycle", ⟨761, 768⟩⟩ { name := "XPDR1-NETWORK1" }
    (some { name := "XPDR1-CLIENT1" }) .g100

/-- An answer that lists a cross-connection besides what the path needs. -/
def answerWithConnection
    : RpcResponse :=
  ⟨200, .object [("output", .object [
    ("node-interface", .array [.object [
      ("connection-id", .array [.string "XPDR1-NETWORK1-XPDR1-CLIENT1"]),
      ("eth-interface-id", .array [.string "XPDR1-CLIENT1-ETHERNET"]),
      ("node-id", .string "XPDR-A"),
      ("odu-interface-id", .array [.string "XPDR1-NETWORK1-ODU4"]),
      ("otu-interface-id", .array [.string "XPDR1-NETWORK1-OTU"])]]),
    ("success", .bool true)])]⟩

/-- The creation of a path is accepted although its entry lists a connection, of which none is
planned.
-/
theorem creation_accepted_with_unplanned_connection
    : creationFindings pairPlan (some answerWithConnection) = []
      ∧ ∃ entry,
          createdEntry? pairPlan.node answerWithConnection = some entry
          ∧ pairPlan.namesOf .connection = []
          ∧ ¬ ResourceKind.connection.ListedIn entry (pairPlan.namesOf .connection) := by
  refine ⟨by decide +kernel, _, rfl, rfl, ?_⟩
  intro listed
  rcases listed with ⟨names, same, found⟩ | ⟨-, absent⟩
  · obtain rfl := List.perm_nil.mp same
    cases found
  · cases absent

end Lifecycle

end Lightpath
