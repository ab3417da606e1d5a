import Lightpath.Proofs.Json.Members
import Lightpath.Proofs.Lifecycle.Evidence
import Lightpath.Proofs.Service.Plans
import Lightpath.Proofs.Simulation.Reachable

/-!
When what an element makes of a plan's request is what the plan expects, and how the element answers
such a request: what it lists is what was planned, unless a fault makes it reject the creation.
-/

namespace Lightpath

namespace Plan

/-- The content of the request for an operation. -/
def body (p : Plan) (operation : Operation)
    : Json :=
  Json.ofMembers (p.members ++ [("operation", .string operation.word)])

theorem unwrap_request (p : Plan) (operation : Operation)
    : (p.request operation).unwrap "input" = p.body operation :=
  rfl

theorem operation?_body (p : Plan) (operation : Operation)
    : Element.operation? (p.body operation) = some operation := by
  have stated : (p.body operation).textField? "operation" = some operation.word := by
    refine Json.textField?_ofMembers ?_
    simp
  rw [Element.operation?, stated]
  cases operation <;> rfl

end Plan

/-- A rendered resource is the planned one: by its name, by the list it stands in, and by a
configuration that holds what the plan expects. -/
structure PlannedResource.Matches (description : String) (p : PlannedResource)
    (r : RenderedResource)
    : Prop where
  name : r.name = p.name
  listKey : r.listKey = p.kind.listKey
  config : Json.isSubset p.expected (Element.held description r) = true

/-- A rendering is what a plan expects, resource by resource. -/
structure Rendering.Realizes (rendering : Rendering) (plan : Plan)
    : Prop where
  resources
    : List.Forall₂ (PlannedResource.Matches rendering.description) plan.resources
        rendering.resources
  distinct : plan.Distinct
  monitored : ∃ p ∈ plan.resources, p.name = plan.primary ∧ p.isConnection = false

-----------------------------------------------------------------------------------------
-- Resources that match
-----------------------------------------------------------------------------------------

namespace PlannedResource.Matches

variable {description : String}

/-- A resource that matches is a cross-connection exactly if it is planned as one. -/
theorem isConnection {p : PlannedResource} {r : RenderedResource}
    (matching : p.Matches description r)
    : r.isConnection = p.isConnection := by
  rw [RenderedResource.isConnection, matching.listKey, PlannedResource.isConnection]
  cases p.kind <;> rfl

/-- A resource that matches stands in the list of a kind exactly if it is of that kind. -/
theorem listKey_iff {p : PlannedResource} {r : RenderedResource}
    (matching : p.Matches description r) (kind : ResourceKind)
    : r.listKey = kind.listKey ↔ p.kind = kind := by
  rw [matching.listKey]
  cases p.kind <;> cases kind <;> decide

variable {planned : List PlannedResource} {rendered : List RenderedResource}
  (matching : List.Forall₂ (PlannedResource.Matches description) planned rendered)
include matching

theorem names
    : rendered.map RenderedResource.name = planned.map PlannedResource.name := by
  induction matching with
  | nil => rfl
  | cons first _ ih => rw [List.map_cons, List.map_cons, ih, first.name]

/-- Resources that match have the same names in the list of each kind. -/
theorem namesUnder (kind : ResourceKind)
    : (rendered.filter fun r => r.listKey = kind.listKey).map RenderedResource.name
      = (planned.filter fun p => p.kind = kind).map PlannedResource.name := by
  induction matching with
  | nil => rfl
  | @cons p r _ _ first _ ih =>
      have same := first.listKey_iff kind
      by_cases listed : p.kind = kind
      · simp [listed, same.mpr listed, ih, first.name]
      · simp [listed, mt same.mp listed, ih]

theorem exists_rendered {p : PlannedResource} (member : p ∈ planned)
    : ∃ r ∈ rendered, p.Matches description r := by
  induction matching with
  | nil => simp at member
  | cons first _ ih =>
      rcases List.mem_cons.mp member with rfl | later
      · exact ⟨_, List.mem_cons_self, first⟩
      · obtain ⟨r, inRest, found⟩ := ih later
        exact ⟨r, List.mem_cons_of_mem _ inRest, found⟩

theorem exists_planned {r : RenderedResource} (member : r ∈ rendered)
    : ∃ p ∈ planned, p.Matches description r := by
  induction matching with
  | nil => simp at member
  | cons first _ ih =>
      rcases List.mem_cons.mp member with rfl | later
      · exact ⟨_, List.mem_cons_self, first⟩
      · obtain ⟨p, inRest, found⟩ := ih later
        exact ⟨p, List.mem_cons_of_mem _ inRest, found⟩

/-- What matches distinct resources is distinct. -/
theorem distinct
    (apart : planned.Pairwise fun a b => a.isConnection = b.isConnection → a.name ≠ b.name)
    : rendered.Pairwise fun a b => a.isConnection = b.isConnection → a.name ≠ b.name := by
  induction matching with
  | nil => exact List.Pairwise.nil
  | cons first rest ih =>
      obtain ⟨head, tail⟩ := List.pairwise_cons.mp apart
      refine List.pairwise_cons.mpr ⟨?_, ih tail⟩
      intro r member
      obtain ⟨p, inRest, found⟩ := exists_planned rest member
      rw [first.isConnection, found.isConnection, first.name, found.name]
      exact head p inRest

end PlannedResource.Matches

-----------------------------------------------------------------------------------------
-- Entries of a node
-----------------------------------------------------------------------------------------

namespace Rendering

variable {rendering : Rendering}

/-- The lists of an entry from the last one, before the name of the node. -/
theorem get?_nodeEntry_eq (node key : String)
    : (rendering.nodeEntry node).get? key
      = (((rendering.resources.map RenderedResource.listKey).eraseDups.reverse.map
            fun k => (k, Json.ofStrings (rendering.namesUnder k))).lookup key).or
          ([("node-id", Json.string node)].lookup key) := by
  rw [nodeEntry, Json.get?_ofMembers, List.reverse_cons, ← List.map_reverse, List.lookup_append]

/-- An entry lists the names under each key that there are any under. -/
theorem get?_nodeEntry {key name : String} (isName : name ∈ rendering.namesUnder key)
    (node : String)
    : (rendering.nodeEntry node).get? key = some (Json.ofStrings (rendering.namesUnder key)) := by
  have listed : key ∈ rendering.resources.map RenderedResource.listKey := by
    obtain ⟨r, ofKey, -⟩ := List.mem_map.mp isName
    obtain ⟨inResources, isKey⟩ := List.mem_filter.mp ofKey
    exact List.mem_map.mpr ⟨r, inResources, by simpa using isKey⟩
  have isKey
      : key ∈ (rendering.resources.map RenderedResource.listKey).eraseDups.reverse := by
    rw [List.mem_reverse, List.mem_eraseDups]
    exact listed
  rw [get?_nodeEntry_eq, Json.lookup_map_of_mem _ isKey, Option.some_or]

/-- An entry states its node, unless a list of resources is called like that. -/
theorem get?_nodeEntry_node
    (noList : "node-id" ∉ rendering.resources.map RenderedResource.listKey) (node : String)
    : (rendering.nodeEntry node).get? "node-id" = some (.string node) := by
  have absent
      : ((rendering.resources.map RenderedResource.listKey).eraseDups.reverse.map
          fun k => (k, Json.ofStrings (rendering.namesUnder k))).lookup "node-id" = none := by
    refine List.lookup_eq_none_iff.mpr ?_
    intro pair member
    obtain ⟨key, isKey, rfl⟩ := List.mem_map.mp member
    rw [List.mem_reverse, List.mem_eraseDups] at isKey
    have other : key ≠ "node-id" := fun same => noList (same ▸ isKey)
    simpa using Ne.symm other
  rw [get?_nodeEntry_eq, absent]
  rfl

end Rendering

-----------------------------------------------------------------------------------------
-- Realised plans
-----------------------------------------------------------------------------------------

namespace Rendering.Realizes

variable {rendering : Rendering} {plan : Plan} (realizes : rendering.Realizes plan)
include realizes

/-- No resource of a realised plan is listed under the name of the node. -/
theorem no_list_node
    : "node-id" ∉ rendering.resources.map RenderedResource.listKey := by
  intro member
  obtain ⟨r, inResources, key⟩ := List.mem_map.mp member
  obtain ⟨p, -, matching⟩ :=
    PlannedResource.Matches.exists_planned realizes.resources inResources
  rw [matching.listKey] at key
  revert key
  cases p.kind <;> decide

/-- The entry of a node that realises a plan lists what the plan expects. -/
theorem isSubset_nodeEntry
    : Json.isSubset plan.expectedEntry (rendering.nodeEntry plan.node) = true := by
  refine Json.isSubset_ofMembers ?_
  rw [List.forall_mem_cons]
  refine ⟨⟨_, Rendering.get?_nodeEntry_node realizes.no_list_node _, Json.covers_self rfl⟩, ?_⟩
  intro field member
  obtain ⟨kind, -, listed⟩ := List.mem_filterMap.mp member
  split at listed
  · cases listed
  · rename_i filled
    cases listed
    have same := PlannedResource.Matches.namesUnder realizes.resources kind
    obtain ⟨name, isName⟩ := List.exists_mem_of_ne_nil _ (mt List.isEmpty_iff.mpr filled)
    rw [Plan.namesOf, ← same] at isName
    refine ⟨_, Rendering.get?_nodeEntry isName _, ?_⟩
    rw [Rendering.namesUnder, same]
    exact Json.covers_self rfl

/-- After its deletion a realised plan has no resource kept. -/
theorem kept_deleted (s : ElementState) {p : PlannedResource} (member : p ∈ plan.resources)
    : (rendering.resources.foldl Element.deleteResource s).kept p.isConnection p.name = none := by
  rw [Element.kept_deleteResources, PlannedResource.Matches.names realizes.resources]
  exact if_pos (List.mem_map_of_mem member)

end Rendering.Realizes

-----------------------------------------------------------------------------------------
-- Requests of realised plans
-----------------------------------------------------------------------------------------

namespace Element

variable {e : Element} {plan : Plan}

/-- An element renders both requests of a plan in one way. -/
structure Renders (e : Element) (plan : Plan) (rendering : Rendering)
    : Prop where
  node : plan.node = e.node
  render
    : ∀ operation, e.renderer.render plan.rpc (plan.body operation) = .ok rendering

/-- The answer to a creation: success, with the entry of the node. -/
def created (e : Element) (rendering : Rendering)
    : RpcResponse :=
  ⟨200, success ("Interfaces created successfully for nodes: " ++ e.node)
    [("node-interface", .array [rendering.nodeEntry e.node])]⟩

/-- The answer to a deletion. -/
def deleted
    : RpcResponse :=
  ⟨200, success "Request processed" []⟩

section Answers

variable {rendering : Rendering} (renders : e.Renders plan rendering)
include renders

/-- What an element answers to a creation that it accepts, and what it keeps then. -/
theorem answer_accepted {s : ElementState} (accepts : s.faults.rejectCreate = false)
    : e.answer plan.rpc (plan.request .create) s
      = (e.created rendering,
        rendering.resources.foldl (createResource rendering.description)
          (logged s plan.rpc .create)) := by
  rw [answer, plan.unwrap_request, plan.operation?_body]
  simp only [renders.render, create, accepts, Bool.false_eq_true, if_false, logged, created]

theorem answer_rejected {s : ElementState} (rejects : s.faults.rejectCreate = true)
    : (e.answer plan.rpc (plan.request .create) s).1
      = ⟨200, failure "device rejected the configuration"⟩ := by
  rw [answer, plan.unwrap_request, plan.operation?_body]
  simp only [renders.render, create, rejects, if_true]

/-- A deletion is answered with success, whether what it deletes survives or not. -/
theorem answer_torn_down (s : ElementState)
    : e.answer plan.rpc (plan.request .delete) s
      = (deleted,
        if s.faults.surviveDelete = true then logged s plan.rpc .delete
        else rendering.resources.foldl deleteResource (logged s plan.rpc .delete)) := by
  rw [answer, plan.unwrap_request, plan.operation?_body]
  simp only [renders.render, delete, logged, deleted]

end Answers

theorem unwrapOutput_success (result : String) (more : List (String × Json))
    : (success result more).unwrapOutput
      = Json.ofMembers ([("success", .bool true), ("result", .string result)] ++ more) :=
  rfl

/-- An answer that holds a failure is no success. -/
theorem not_succeeded_failure (reason : String)
    : ¬ (⟨200, failure reason⟩ : RpcResponse).Succeeded := by
  rintro ⟨-, -, flag⟩
  have output
      : (failure reason).unwrapOutput
        = Json.ofMembers [("success", .bool false), ("result", .string reason)] :=
    rfl
  simp [output, Json.get?_ofMembers, Keyed.lookup_cons] at flag

theorem created_succeeded (rendering : Rendering)
    : (e.created rendering).Succeeded := by
  refine ⟨by simp [created], by simp [created], ?_⟩
  rw [created, unwrapOutput_success, Json.get?_ofMembers]
  rfl

theorem deleted_succeeded
    : deleted.Succeeded := by
  refine ⟨by decide, by decide, ?_⟩
  rw [deleted, unwrapOutput_success, Json.get?_ofMembers]
  rfl

theorem field?_created (rendering : Rendering)
    : (e.created rendering).output.unwrapOutput.field? "node-interface"
      = some (.array [rendering.nodeEntry e.node]) := by
  rw [created, unwrapOutput_success]
  exact Json.field?_ofMembers rfl

/-- Nothing speaks against the answer to the creation of a realised plan. -/
theorem creation_accepted {rendering : Rendering} (renders : e.Renders plan rendering)
    (realizes : rendering.Realizes plan)
    : Lifecycle.creationFault? plan (e.created rendering) = none := by
  refine (Lifecycle.creationFault?_eq_none plan _).mpr ⟨created_succeeded rendering, ?_⟩
  refine ⟨_, _, field?_created rendering, ?_, realizes.isSubset_nodeEntry⟩
  have named := Rendering.get?_nodeEntry_node realizes.no_list_node plan.node
  rw [← renders.node]
  simp [Json.asList, Json.textField?, Json.field?_of_get? named, Json.string?]

end Element

end Lightpath
