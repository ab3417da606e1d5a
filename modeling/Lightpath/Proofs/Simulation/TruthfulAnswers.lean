import Lightpath.Proofs.Simulation.Restoration
import Mathlib.Data.List.Basic

/-!
The answer to a request tells what became of the tables. What a request can come to is said once, as
the answer together with the state after it: a request that fails touches no table, a creation makes
what it lists, and a deletion takes away what the same request would have created.
-/

namespace Lightpath

namespace RpcResponse

/-- An answer whose output, which may be wrapped, holds a flag for success. -/
def Flags (r : RpcResponse) (success : Bool)
    : Prop :=
  r.output.unwrapOutput.get? "success" = some (.bool success)

/-- An answer that tells of a failure: by its status, or by the flag in its output. -/
def Failed (r : RpcResponse)
    : Prop :=
  r.isSuccess = false ∨ r.Flags false

/-- An answer that tells of a failure and does not flag a success. -/
structure Denies (r : RpcResponse)
    : Prop where
  failed : r.Failed
  unflagged : ¬ r.Flags true

/-- An answer that lists a name under a key in one of its entries. -/
def ListsUnder (r : RpcResponse) (key name : String)
    : Prop :=
  ∃ entries entry names,
    r.output.unwrapOutput.field? "node-interface" = some (.array entries)
    ∧ entry ∈ entries
    ∧ entry.get? key = some (.array names)
    ∧ .string name ∈ names

/-- An answer that lists a name among the cross-connections or among the interfaces. -/
def Mentions (r : RpcResponse) (isConnection : Bool) (name : String)
    : Prop :=
  ∃ key, (isConnection = true ↔ key = "connection-id") ∧ r.ListsUnder key name

theorem Succeeded.not_failed {r : RpcResponse} (succeeded : r.Succeeded)
    : ¬ r.Failed := by
  obtain ⟨low, high, flag⟩ := succeeded
  rintro (status | denied)
  · simp [isSuccess, low, high] at status
  · rw [Flags, flag] at denied
    cases denied

end RpcResponse

namespace Element

open ElementState

-----------------------------------------------------------------------------------------
-- What a request can come to
-----------------------------------------------------------------------------------------

/-- A request that an element understands and renders. -/
structure Accepts (e : Element) (rpc : String) (request : Json) (operation : Operation)
    (rendering : Rendering)
    : Prop where
  states : operation? (request.unwrap "input") = some operation
  renders : e.renderer.render rpc (request.unwrap "input") = .ok rendering

/-- What a request can come to: the answer and the state after it. -/
inductive Comes (e : Element) (rpc : String) (request : Json) (s : ElementState)
    : Except TransportError RpcResponse → ElementState → Prop
  | unreached (offline : s.faults.controlOffline = true)
    : Comes e rpc request s (.error e.unreachable) s
  | refused {r : RpcResponse} (denies : r.Denies)
    (unaccepted : ∀ operation rendering, ¬ e.Accepts rpc request operation rendering)
    : Comes e rpc request s (.ok r) s
  | rejected {r : RpcResponse} {rendering : Rendering} (denies : r.Denies)
    (online : s.faults.controlOffline = false)
    (accepts : e.Accepts rpc request .create rendering)
    : Comes e rpc request s (.ok r) (logged s rpc .create)
  | created {rendering : Rendering} (online : s.faults.controlOffline = false)
    (accepts : e.Accepts rpc request .create rendering)
    : Comes e rpc request s (.ok (e.created rendering))
        (rendering.resources.foldl (createResource rendering.description)
          (logged s rpc .create))
  | spared {rendering : Rendering} (online : s.faults.controlOffline = false)
    (accepts : e.Accepts rpc request .delete rendering)
    (survives : s.faults.surviveDelete = true)
    : Comes e rpc request s (.ok deleted) (logged s rpc .delete)
  | removed {rendering : Rendering} (online : s.faults.controlOffline = false)
    (accepts : e.Accepts rpc request .delete rendering)
    (removes : s.faults.surviveDelete = false)
    : Comes e rpc request s (.ok deleted)
        (rendering.resources.foldl deleteResource (logged s rpc .delete))

theorem denies_failure (reason : String)
    : (⟨200, failure reason⟩ : RpcResponse).Denies := by
  have flag : (⟨200, failure reason⟩ : RpcResponse).Flags false := by
    have output
        : (failure reason).unwrapOutput
          = Json.ofMembers [("success", .bool false), ("result", .string reason)] :=
      rfl
    rw [RpcResponse.Flags, output, Json.get?_ofMembers]
    rfl
  refine ⟨Or.inr flag, ?_⟩
  intro succeeded
  rw [RpcResponse.Flags, flag] at succeeded
  cases succeeded

theorem denies_errors {status : Nat} (low : 300 ≤ status) (message : String)
    : (⟨status, errors message⟩ : RpcResponse).Denies := by
  refine ⟨Or.inl ?_, ?_⟩
  · simp [RpcResponse.isSuccess]
    omega
  · have plain : Json.localName? "errors" = none := by decide
    have bare : (errors message).unwrapOutput = errors message := by
      simp [errors, Json.unwrapOutput, Json.unwrap, Json.field?, Json.ofMembers, Keyed.ofList,
        Keyed.insert, Keyed.lookup_cons, plain]
    rw [RpcResponse.Flags, bare, errors, Json.get?_single]
    simp

theorem comes_invoke (e : Element) (rpc : String) (request : Json) (s : ElementState)
    : e.Comes rpc request s (e.invoke rpc request s).1 (e.invoke rpc request s).2 := by
  cases online : s.faults.controlOffline with
  | true =>
      rw [invoke_offline e online]
      exact .unreached online
  | false =>
      rw [invoke_online e online, answer]
      cases stated : operation? (request.unwrap "input") with
      | none =>
          refine .refused (denies_errors (by decide) _) ?_
          intro operation rendering accepts
          simp [accepts.states] at stated
      | some operation =>
          cases rendered : e.renderer.render rpc (request.unwrap "input") with
          | error fault =>
              have unaccepted : ∀ op rendering, ¬ e.Accepts rpc request op rendering := by
                intro op rendering accepts
                simp [accepts.renders] at rendered
              cases fault with
              | unknownRpc other => exact .refused (denies_errors (by decide) _) unaccepted
              | rejected reason => exact .refused (denies_failure reason) unaccepted
          | ok rendering =>
              cases operation with
              | create =>
                  simp only [create]
                  split
                  · exact .rejected (denies_failure _) online ⟨stated, rendered⟩
                  · exact .created online ⟨stated, rendered⟩
              | delete =>
                  simp only [delete]
                  split
                  · exact .spared online ⟨stated, rendered⟩ ‹_›
                  · exact .removed online ⟨stated, rendered⟩ (Bool.not_eq_true _ ▸ ‹_›)

theorem operation?_eq_some_iff {body : Json} {operation : Operation}
    : operation? body = some operation ↔ body.textField? "operation" = some operation.word := by
  rw [operation?, Option.bind_eq_some_iff]
  constructor
  · rintro ⟨word, stated, named⟩
    have same : operation.word = word := by simpa using List.find?_some named
    rw [stated, same]
  · intro stated
    refine ⟨operation.word, stated, ?_⟩
    cases operation <;> rfl

-----------------------------------------------------------------------------------------
-- What a creation makes
-----------------------------------------------------------------------------------------

theorem requests_createResources (description : String) (resources : List RenderedResource)
    (s : ElementState)
    : (resources.foldl (createResource description) s).requests = s.requests := by
  induction resources generalizing s with
  | nil => rfl
  | cons r rest ih =>
      rw [List.foldl_cons, ih, createResource]
      split
      · rfl
      · split <;> rfl

/-- After resources were created a name is kept if it was before, or if it is one of theirs that is
not left out.
-/
theorem kept_createResources_ne_none_iff (description : String)
    (resources : List RenderedResource) (s : ElementState) (isConnection : Bool) (name : String)
    : (resources.foldl (createResource description) s).kept isConnection name ≠ none
      ↔ s.kept isConnection name ≠ none
        ∨ s.faults.skipResource ≠ some name
          ∧ ∃ r ∈ resources, r.isConnection = isConnection ∧ r.name = name := by
  induction resources generalizing s with
  | nil => simp
  | cons r rest ih =>
      rw [List.foldl_cons, ih, kept_createResource, faults_createResource, List.exists_mem_cons_iff]
      by_cases here : isConnection = r.isConnection ∧ name = r.name
      · obtain ⟨rfl, rfl⟩ := here
        by_cases skipped : s.faults.skipResource = some r.name
        · simp [skipped]
        · simp [skipped]
      · have other : ¬ (r.isConnection = isConnection ∧ r.name = name) :=
          fun same => here ⟨same.1.symm, same.2.symm⟩
        simp [here, other]

/-- A creation leaves alone every name that is none of its resources'. -/
theorem kept_createResources_of_foreign (description : String)
    {resources : List RenderedResource} {isConnection : Bool} {name : String}
    (foreign : ¬ ∃ r ∈ resources, r.isConnection = isConnection ∧ r.name = name)
    (s : ElementState)
    : (resources.foldl (createResource description) s).kept isConnection name
      = s.kept isConnection name := by
  induction resources generalizing s with
  | nil => rfl
  | cons r rest ih =>
      rw [List.exists_mem_cons_iff, not_or] at foreign
      obtain ⟨here, later⟩ := foreign
      rw [List.foldl_cons, ih later, kept_createResource, if_neg]
      intro same
      exact here ⟨same.1.1.symm, same.1.2.symm⟩

/-- The entry of a creation lists the rendered names under each key, and nothing else. -/
theorem listsUnder_created (e : Element) (rendering : Rendering) (key name : String)
    : (e.created rendering).ListsUnder key name ↔ name ∈ rendering.namesUnder key := by
  constructor
  · rintro ⟨entries, entry, names, stated, inEntries, listed, member⟩
    rw [field?_created] at stated
    obtain rfl := List.mem_singleton.mp (Json.array.inj (Option.some.inj stated) ▸ inEntries)
    rw [Rendering.get?_nodeEntry_eq] at listed
    rcases Option.or_eq_some_iff.mp listed with found | ⟨-, node⟩
    · obtain ⟨k, -, same⟩ := List.mem_map.mp (Keyed.mem_of_lookup found)
      cases same
      simpa using member
    · rw [Keyed.lookup_cons] at node
      split at node
      · cases node
      · cases node
  · intro member
    refine ⟨_, _, _, field?_created rendering, List.mem_singleton_self _,
      Rendering.get?_nodeEntry member _, ?_⟩
    exact List.mem_map_of_mem member

/-- What a creation mentions is what was rendered. -/
theorem mentions_created (e : Element) (rendering : Rendering) (isConnection : Bool)
    (name : String)
    : (e.created rendering).Mentions isConnection name
      ↔ ∃ r ∈ rendering.resources, r.isConnection = isConnection ∧ r.name = name := by
  simp only [RpcResponse.Mentions, listsUnder_created, Rendering.namesUnder, List.mem_map,
    List.mem_filter, decide_eq_true_eq]
  constructor
  · rintro ⟨key, sort, r, ⟨member, rfl⟩, rfl⟩
    refine ⟨r, member, ?_, rfl⟩
    rw [Bool.eq_iff_iff, RenderedResource.isConnection, decide_eq_true_eq, sort]
  · rintro ⟨r, member, rfl, rfl⟩
    refine ⟨r.listKey, ?_, r, ⟨member, rfl⟩, rfl⟩
    rw [RenderedResource.isConnection, decide_eq_true_eq]

-----------------------------------------------------------------------------------------
-- Reading the outcome
-----------------------------------------------------------------------------------------

section Outcomes

variable {e : Element} {rpc : String} {request : Json} {s t : ElementState}

/-- A request that is not answered, or answered with a failure, touches no table. -/
theorem Comes.same_tables {answer : Except TransportError RpcResponse}
    (comes : e.Comes rpc request s answer t) (failed : ∀ r, answer = .ok r → r.Failed)
    : t.interfaces = s.interfaces ∧ t.connections = s.connections := by
  cases comes with
  | unreached _ | refused _ _ | rejected _ _ _ | spared _ _ _ => exact ⟨rfl, rfl⟩
  | created _ _ => exact absurd (failed _ rfl) (created_succeeded _).not_failed
  | removed _ _ _ => exact absurd (failed _ rfl) deleted_succeeded.not_failed

/-- A request is logged once if it is accepted and reaches the element, and not otherwise. -/
theorem Comes.requests {answer : Except TransportError RpcResponse}
    (comes : e.Comes rpc request s answer t)
    : (t.requests = s.requests
        ∧ ¬ (s.faults.controlOffline = false
          ∧ ∃ operation rendering, e.Accepts rpc request operation rendering))
      ∨ (∃ operation, t.requests = s.requests ++ [(rpc, operation)])
        ∧ s.faults.controlOffline = false
        ∧ ∃ operation rendering, e.Accepts rpc request operation rendering := by
  cases comes with
  | unreached offline => exact Or.inl ⟨rfl, by simp [offline]⟩
  | refused _ unaccepted =>
      refine Or.inl ⟨rfl, ?_⟩
      rintro ⟨-, operation, rendering, accepts⟩
      exact unaccepted operation rendering accepts
  | rejected _ online accepts => exact Or.inr ⟨⟨.create, rfl⟩, online, _, _, accepts⟩
  | created online accepts =>
      exact Or.inr ⟨⟨.create, requests_createResources _ _ _⟩, online, _, _, accepts⟩
  | spared online accepts _ => exact Or.inr ⟨⟨.delete, rfl⟩, online, _, _, accepts⟩
  | removed online accepts _ =>
      exact Or.inr ⟨⟨.delete, by rw [deleteResources_eq]; rfl⟩, online, _, _, accepts⟩

/-- A creation that succeeded has a rendering, which is what it answers and makes. -/
theorem Comes.of_created {r : RpcResponse} (comes : e.Comes rpc request s (.ok r) t)
    (succeeded : r.Flags true)
    (stated : operation? (request.unwrap "input") = some .create)
    : ∃ rendering,
        e.renderer.render rpc (request.unwrap "input") = .ok rendering
        ∧ r = e.created rendering
        ∧ t = rendering.resources.foldl (createResource rendering.description)
          (logged s rpc .create) := by
  cases comes with
  | refused denies _ | rejected denies _ _ => exact absurd succeeded denies.unflagged
  | created _ accepts => exact ⟨_, accepts.renders, rfl, rfl⟩
  | spared _ accepts _ | removed _ accepts _ =>
      have other := accepts.states
      rw [stated] at other
      cases other

/-- A deletion that succeeded has a rendering, which it takes away unless a fault is in the way. -/
theorem Comes.of_deleted {r : RpcResponse} (comes : e.Comes rpc request s (.ok r) t)
    (succeeded : r.Flags true)
    (stated : operation? (request.unwrap "input") = some .delete)
    (removes : s.faults.surviveDelete = false)
    : ∃ rendering,
        e.renderer.render rpc (request.unwrap "input") = .ok rendering
        ∧ t = rendering.resources.foldl deleteResource (logged s rpc .delete) := by
  cases comes with
  | refused denies _ | rejected denies _ _ => exact absurd succeeded denies.unflagged
  | created _ accepts =>
      have other := accepts.states
      rw [stated] at other
      cases other
  | spared _ _ survives =>
      rw [removes] at survives
      cases survives
  | removed _ accepts _ => exact ⟨_, accepts.renders, rfl⟩

end Outcomes

-----------------------------------------------------------------------------------------
-- What a request would create
-----------------------------------------------------------------------------------------

/-- Requests that say the same but for their operation. -/
def SameService (request other : Json)
    : Prop :=
  ∀ name, name ≠ "operation" →
    (other.unwrap "input").field? name = (request.unwrap "input").field? name

/-- A name that a request would create: in some state its creation succeeds and mentions the name.
-/
def WouldCreate (e : Element) (rpc : String) (request : Json) (name : String)
    : Prop :=
  ∃ other u r isConnection,
    SameService request other
    ∧ (other.unwrap "input").textField? "operation" = some "create"
    ∧ (e.invoke rpc other u).1 = .ok r
    ∧ r.Flags true
    ∧ r.Mentions isConnection name

/-- The request with its operation set to a creation, inside the wrapper. -/
def restatedAsCreation (members : List (String × Json))
    : Json :=
  .object [("input", .object (Keyed.insert "operation" (.string "create") members))]

theorem sameService_restated {request : Json} {members : List (String × Json)}
    (body : request.unwrap "input" = .object members)
    : SameService request (restatedAsCreation members) := by
  intro name other
  have plain : Json.localName? "operation" = none := by decide
  have search
      : (Keyed.insert "operation" (.string "create") members).find?
          (fun m => Json.localName? m.1 = some name)
        = members.find? (fun m => Json.localName? m.1 = some name) :=
    Keyed.find?_insert (by simp [plain]) _ _
  rw [body]
  change (Json.object _).field? name = _
  simp only [Json.field?, Keyed.lookup_insert, if_neg other, search]

theorem operation_restated (members : List (String × Json))
    : ((restatedAsCreation members).unwrap "input").textField? "operation" = some "create" := by
  change (Json.object _).textField? "operation" = _
  simp [Json.textField?, Json.field?, Keyed.lookup_insert, Json.string?]

/-- What a request would create is what the element renders for it, whatever its operation. -/
theorem wouldCreate_iff {e : Element} {rpc : String} {request : Json} {rendering : Rendering}
    (renders : e.renderer.render rpc (request.unwrap "input") = .ok rendering)
    {operation : Operation} (stated : operation? (request.unwrap "input") = some operation)
    {name : String}
    : e.WouldCreate rpc request name
      ↔ name ∈ rendering.resources.map RenderedResource.name := by
  constructor
  · rintro ⟨other, u, r, isConnection, same, creates, answered, succeeded, mentioned⟩
    have comes := e.comes_invoke rpc other u
    rw [answered] at comes
    obtain ⟨made, renders', rfl, -⟩ :=
      comes.of_created succeeded (operation?_eq_some_iff.mpr creates)
    rw [Renderer.render_congr same, renders] at renders'
    obtain rfl := Except.ok.inj renders'
    obtain ⟨resource, member, -, rfl⟩ :=
      (mentions_created e rendering isConnection name).mp mentioned
    exact List.mem_map_of_mem member
  · intro named
    obtain ⟨resource, member, rfl⟩ := List.mem_map.mp named
    obtain ⟨members, body⟩ : ∃ members, request.unwrap "input" = .object members := by
      cases body : request.unwrap "input" with
      | object members => exact ⟨members, rfl⟩
      | null | bool _ | number _ | string _ | array _ => rw [body] at stated; cases stated
    have same := sameService_restated body
    have creates := operation_restated members
    have understood
        : operation? ((restatedAsCreation members).unwrap "input") = some .create :=
      operation?_eq_some_iff.mpr creates
    have accepted
        : e.renderer.render rpc ((restatedAsCreation members).unwrap "input")
          = .ok rendering :=
      (Renderer.render_congr same _ _).trans renders
    have answered
        : (e.invoke rpc (restatedAsCreation members) {}).1 = .ok (e.created rendering) := by
      rw [invoke_online e rfl, answer, understood]
      simp only [accepted, create, created, Bool.false_eq_true, if_false]
    exact ⟨_, {}, _, resource.isConnection, same, creates, answered,
      (created_succeeded rendering).2.2,
      (mentions_created e rendering _ _).mpr ⟨resource, member, rfl, rfl⟩⟩

-----------------------------------------------------------------------------------------
-- The answer tells the state
-----------------------------------------------------------------------------------------

/-- An element that can be reached logs what it accepts: a request for one of the two operations
that it renders.
-/
theorem exists_accepts_iff {e : Element} {rpc : String} {request : Json}
    : (∃ operation rendering, e.Accepts rpc request operation rendering)
      ↔ ((request.unwrap "input").textField? "operation" = some "create"
          ∨ (request.unwrap "input").textField? "operation" = some "delete")
        ∧ ∃ rendering, e.renderer.render rpc (request.unwrap "input") = .ok rendering := by
  constructor
  · rintro ⟨operation, rendering, accepts⟩
    have stated := operation?_eq_some_iff.mp accepts.states
    refine ⟨?_, rendering, accepts.renders⟩
    cases operation with
    | create => exact Or.inl stated
    | delete => exact Or.inr stated
  · rintro ⟨creates | deletes, rendering, renders⟩
    · exact ⟨.create, rendering, operation?_eq_some_iff.mpr creates, renders⟩
    · exact ⟨.delete, rendering, operation?_eq_some_iff.mpr deletes, renders⟩

/-- The answer to a request tells the truth about the element. A request that is not answered, or
answered with a failure, touches no table. After a creation that succeeded the names it mentions
are kept, except for one that a fault leaves out and that was not there before, and all others are
kept as they were. After a deletion that succeeded nothing is left under the names that the request
would create, unless a fault lets it survive, and all others are kept as they were. The element logs
a request once if it can be reached, and understands and renders it, and not otherwise.
-/
theorem invoke_tells_truth (e : Element) (rpc : String) (request : Json) (s : ElementState)
    : let answer := (e.invoke rpc request s).1
      let t := (e.invoke rpc request s).2
      let operation := (request.unwrap "input").textField? "operation"
      ((∃ fault, answer = .error fault) ∨ (∃ r, answer = .ok r ∧ r.Failed) →
          t.interfaces = s.interfaces ∧ t.connections = s.connections)
      ∧ (∀ r, answer = .ok r → r.Flags true → operation = some "create" →
          ∀ isConnection name,
            (r.Mentions isConnection name →
              (t.kept isConnection name ≠ none
                ↔ ¬ (s.faults.skipResource = some name ∧ s.kept isConnection name = none)))
            ∧ (¬ r.Mentions isConnection name →
                t.kept isConnection name = s.kept isConnection name))
      ∧ (∀ r, answer = .ok r → r.Flags true → operation = some "delete" →
          s.faults.surviveDelete = false →
            ∀ isConnection name,
              (e.WouldCreate rpc request name → t.kept isConnection name = none)
              ∧ (¬ e.WouldCreate rpc request name →
                  t.kept isConnection name = s.kept isConnection name))
      ∧ (t.requests = s.requests ∨ ∃ entry, t.requests = s.requests ++ [entry])
      ∧ ((∃ entry, t.requests = s.requests ++ [entry])
          ↔ s.faults.controlOffline = false
            ∧ (operation = some "create" ∨ operation = some "delete")
            ∧ ∃ rendering, e.renderer.render rpc (request.unwrap "input") = .ok rendering) := by
  intro answer t operation
  have comes : e.Comes rpc request s answer t := e.comes_invoke rpc request s
  refine ⟨?failure, ?creation, ?deletion, ?once, ?logged⟩
  case failure =>
    intro failure
    refine comes.same_tables ?_
    intro r answered
    rcases failure with ⟨fault, unanswered⟩ | ⟨other, other', failed⟩
    · rw [answered] at unanswered
      cases unanswered
    · rw [answered] at other'
      exact Except.ok.inj other' ▸ failed
  case creation =>
    intro r answered succeeded creates isConnection name
    rw [answered] at comes
    obtain ⟨rendering, -, rfl, state⟩ :=
      comes.of_created succeeded (operation?_eq_some_iff.mpr creates)
    rw [mentions_created, state]
    constructor
    · intro mentioned
      rw [kept_createResources_ne_none_iff]
      change s.kept isConnection name ≠ none ∨ s.faults.skipResource ≠ some name ∧ _ ↔ _
      by_cases before : s.kept isConnection name = none
      · simp [before, mentioned]
      · simp [before]
    · intro foreign
      exact kept_createResources_of_foreign _ foreign _
  case deletion =>
    intro r answered succeeded deletes removes isConnection name
    have stated : operation? (request.unwrap "input") = some .delete :=
      operation?_eq_some_iff.mpr deletes
    rw [answered] at comes
    obtain ⟨rendering, renders, state⟩ := comes.of_deleted succeeded stated removes
    rw [wouldCreate_iff renders stated, state, kept_deleteResources]
    exact ⟨fun named => if_pos named, fun other => if_neg other⟩
  case once =>
    rcases comes.requests with ⟨same, -⟩ | ⟨⟨op, grown⟩, -⟩
    · exact Or.inl same
    · exact Or.inr ⟨_, grown⟩
  case logged =>
    rw [← exists_accepts_iff]
    rcases comes.requests with ⟨same, unaccepted⟩ | ⟨⟨op, grown⟩, accepted⟩
    · refine iff_of_false ?_ unaccepted
      rintro ⟨entry, grown⟩
      simp [same] at grown
    · exact iff_of_true ⟨_, grown⟩ accepted

/-- A request for the line of the port of an element with one transponder. -/
def lineRequest (operation : String)
    : Json :=
  .object [("input", .object [
    ("center-freq", .null), ("higher-spectral-slot-number", .ofNat 768),
    ("lower-spectral-slot-number", .ofNat 761), ("max-freq", .null), ("min-freq", .null),
    ("modulation-format", .null), ("nmc-width", .null),
    ("nodes", .array [.object [
      ("dest-tp", .string "XPDR1-NETWORK1"), ("node-id", .string "XPDR-A")]]),
    ("operation", .string operation)])]

/-- A creation that leaves out a data unit mentions it all the same and keeps the transport unit
only. A deletion takes both names away and leaves another interface, and a request for an unknown
operation leaves all as it was.
-/
theorem invoke_tells_truth_leaving_out
    : let rpc := Plan.opticalRpc
      let invoke := oneTransponder.invoke rpc
      let s : ElementState := { faults := { skipResource := some "XPDR1-NETWORK1-ODU4" } }
      let u : ElementState :=
        { interfaces := [("OTHER", .string "kept"), ("XPDR1-NETWORK1-OTU", .null)] }
      (∃ r,
        (invoke (lineRequest "create") s).1 = .ok r
        ∧ r.Mentions false "XPDR1-NETWORK1-OTU"
        ∧ r.Mentions false "XPDR1-NETWORK1-ODU4"
        ∧ (invoke (lineRequest "create") s).2.kept false "XPDR1-NETWORK1-OTU" ≠ none
        ∧ (invoke (lineRequest "create") s).2.kept false "XPDR1-NETWORK1-ODU4" = none)
      ∧ (invoke (lineRequest "delete") u).2.kept false "XPDR1-NETWORK1-OTU" = none
      ∧ (invoke (lineRequest "delete") u).2.kept false "OTHER" = some (.string "kept")
      ∧ (invoke (lineRequest "replace") u).2.interfaces = u.interfaces
      ∧ ∃ entry, (invoke (lineRequest "delete") u).2.requests = [entry] := by
  intro rpc invoke s u
  obtain ⟨rendering, renders, names⟩
      : ∃ rendering,
          oneTransponder.renderer.render rpc ((lineRequest "create").unwrap "input")
            = .ok rendering
          ∧ rendering.resources.map (fun r => (r.isConnection, r.name))
            = [(false, "XPDR1-NETWORK1-OTU"), (false, "XPDR1-NETWORK1-ODU4")] :=
    ⟨_, rfl, by decide +kernel⟩
  have renders'
      : oneTransponder.renderer.render rpc ((lineRequest "delete").unwrap "input")
        = .ok rendering :=
    renders
  have mentions (name : String)
      : (oneTransponder.created rendering).Mentions false name
        ↔ name = "XPDR1-NETWORK1-OTU" ∨ name = "XPDR1-NETWORK1-ODU4" := by
    have listed
        : (false, name) ∈ rendering.resources.map (fun r => (r.isConnection, r.name))
          ↔ name = "XPDR1-NETWORK1-OTU" ∨ name = "XPDR1-NETWORK1-ODU4" := by
      rw [names]
      simp
    rw [← listed, mentions_created, List.mem_map]
    simp only [Prod.mk.injEq]
  have creates (name : String)
      : oneTransponder.WouldCreate rpc (lineRequest "delete") name
        ↔ name = "XPDR1-NETWORK1-OTU" ∨ name = "XPDR1-NETWORK1-ODU4" := by
    have stated
        : operation? ((lineRequest "delete").unwrap "input") = some .delete := by
      decide +kernel
    rw [wouldCreate_iff renders' stated]
    have bare
        : rendering.resources.map RenderedResource.name
          = ["XPDR1-NETWORK1-OTU", "XPDR1-NETWORK1-ODU4"] := by
      have seconds := congrArg (List.map Prod.snd) names
      rw [List.map_map] at seconds
      exact seconds
    rw [bare]
    simp
  have answered
      : (invoke (lineRequest "create") s).1 = .ok (oneTransponder.created rendering) := by
    simp only [invoke, invoke_online oneTransponder (s := s) rfl, answer, renders]
    rfl
  have removed : (invoke (lineRequest "delete") u).1 = .ok deleted := by
    simp only [invoke, invoke_online oneTransponder (s := u) rfl, answer, renders']
    rfl
  obtain ⟨-, creation, -⟩ := invoke_tells_truth oneTransponder rpc (lineRequest "create") s
  obtain ⟨-, -, deletion, -, logs⟩ :=
    invoke_tells_truth oneTransponder rpc (lineRequest "delete") u
  obtain ⟨failure, -⟩ := invoke_tells_truth oneTransponder rpc (lineRequest "replace") u
  have kept := fun name =>
    creation _ answered (created_succeeded rendering).2.2 (by decide +kernel) false name
  have left := fun name =>
    deletion _ removed deleted_succeeded.2.2 (by decide +kernel) rfl false name
  refine ⟨⟨_, answered, ?_, ?_, ?_, ?_⟩, ?_, ?_, ?_, ?_⟩
  · exact (mentions _).mpr (Or.inl rfl)
  · exact (mentions _).mpr (Or.inr rfl)
  · refine ((kept _).1 ((mentions _).mpr (Or.inl rfl))).mpr ?_
    decide
  · by_contra present
    exact ((kept _).1 ((mentions _).mpr (Or.inr rfl))).mp present ⟨rfl, rfl⟩
  · exact (left _).1 ((creates _).mpr (Or.inl rfl))
  · refine ((left _).2 ?_).trans rfl
    rw [creates]
    decide
  · exact (failure (Or.inr ⟨_, rfl, Or.inl rfl⟩)).1
  · exact logs.mpr ⟨rfl, Or.inr (by decide +kernel), rendering, renders'⟩

end Element

end Lightpath
