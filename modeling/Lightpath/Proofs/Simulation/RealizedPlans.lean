import Mathlib.Data.List.Forall2
import Lightpath.Proofs.Json.Equality
import Lightpath.Proofs.Simulation.Faultless
import Lightpath.Proofs.Simulation.Likeness
import Lightpath.Proofs.Simulation.Spared

/-!
Which plans an element brings up. Paths through a roadm and client services within the
capacity are always realised; the path of a network port is realised at the rate that the port
is set to, and from a port that is a client.
-/

namespace Lightpath

namespace ResourceName

/-- The transport units of a port tell its rate. -/
theorem transportUnit_inj (port : String) {rate other : SignalRate}
    : transportUnit port rate = transportUnit port other ↔ rate = other := by
  constructor
  · intro same
    cases rate <;> cases other <;>
      simp [transportUnit, SignalRate.slices?, ← String.toList_inj] at same ⊢ <;>
        revert same <;> decide
  · rintro rfl
    rfl

end ResourceName

namespace Json

/-- A list of one text covers another only if the texts are the same. -/
theorem eq_of_covers_ofStrings {s t : String}
    (covered : covers (ofStrings [s]) (ofStrings [t]) = true)
    : s = t := by
  obtain ⟨listed, same, written⟩ := (covers_ofStrings [s] _).mp covered
  obtain rfl := List.perm_singleton.mp same
  simpa [ofStrings] using written.symm

end Json

namespace Plan

variable (ctx : PlanContext) (network : Port) (client : Option Port) (rate : SignalRate)

/-- The path of a network port is monitored at its transport unit. -/
theorem optical_monitored
    : ∃ p ∈ (optical ctx network client rate).resources,
        p.name = (optical ctx network client rate).primary ∧ p.isConnection = false := by
  have among
      : ∃ p ∈ networkStack ctx.spectrum network rate,
          p.name = ResourceName.transportUnit network.name rate ∧ p.isConnection = false := by
    cases rate <;>
      simp [networkStack, wholeStack, slicedStack, SignalRate.slices?, transportUnit, interface,
        PlannedResource.isConnection]
  obtain ⟨p, member, isUnit⟩ := among
  exact ⟨p, List.mem_append_left _ member, isUnit⟩

/-- The entry that lists the path of a network port states its transport unit. -/
theorem optical_listed
    : ∃ fields,
        (optical ctx network client rate).expectedEntry = Json.ofMembers fields
        ∧ fields.reverse.lookup "otu-interface-id"
          = some (Json.ofStrings [ResourceName.transportUnit network.name rate]) := by
  refine ⟨_, rfl, ?_⟩
  cases rate <;> cases client <;> rfl

end Plan

-----------------------------------------------------------------------------------------
-- Realised plans
-----------------------------------------------------------------------------------------

namespace Renderer

variable {r : Renderer}

/-- The path of a network port realises its plan at the rate that the port is set to. -/
theorem realizes_optical (ctx : PlanContext) (network : Port) (client : Option Port)
    : (r.xponder network client
        (requested ctx.spectrum (r.rateFor network).modulation)).Realizes
        (Plan.optical ctx network client (r.rateFor network)) := by
  refine ⟨?_, Plan.optical_distinct _ _ _ _, Plan.optical_monitored _ _ _ _⟩
  refine List.rel_append (PlannedResource.Matches.line _ _ _) ?_
  cases client with
  | none => exact .nil
  | some client => exact .cons (PlannedResource.Matches.ethernet _ _ _) .nil

/-- The rendering of a client service realises its plan. -/
theorem realizes_client {ctx : PlanContext} {network client : Port} {rate : SignalRate}
    {kind : ClientKind} {position : Nat} {plan : Plan}
    (isClient : plan.IsClient ctx network rate client kind position)
    : (clientRendering network rate client kind position).Realizes plan where
  resources := by
    rw [isClient.resources]
    exact PlannedResource.Matches.clientService network rate client kind position
  distinct := isClient.distinct
  monitored := by
    rw [isClient.resources, isClient.primary]
    exact ⟨_, List.mem_cons_self, rfl, rfl⟩

theorem realizes_drop (ctx : PlanContext) {degree drop : Port} (apart : degree.name ≠ drop.name)
    (modulation : String)
    : (roadm degree drop degree drop (requested ctx.spectrum modulation)).Realizes
        (Plan.roadm ctx degree drop true) :=
  ⟨PlannedResource.Matches.roadm _ _ _ _ _ _, Plan.roadm_distinct _ _ apart,
    ⟨_, List.mem_cons_self, rfl, rfl⟩⟩

theorem realizes_add (ctx : PlanContext) {degree drop : Port} (apart : drop.name ≠ degree.name)
    (modulation : String)
    : (roadm drop degree degree drop (requested ctx.spectrum modulation)).Realizes
        (Plan.roadm ctx drop degree false) :=
  ⟨PlannedResource.Matches.roadm _ _ _ _ _ _, Plan.roadm_distinct _ _ apart,
    ⟨_, List.mem_cons_self, rfl, rfl⟩⟩

/-- The whole path of a network port and a client is rendered, and of no other port. -/
theorem render_pair {ctx : PlanContext} (named : ctx.node = r.table.node) {network first : Port}
    (networkKnown : r.table.port? network.name = some network)
    (firstKnown : r.table.port? first.name = some first) (role : network.role? = some .network)
    (rate : SignalRate) (operation : Operation)
    : r.render Plan.opticalRpc ((Plan.optical ctx network (some first) rate).body operation)
      = if first.role? = some .client then
          .ok (r.xponder network (some first) (requested ctx.spectrum rate.modulation))
        else .error (.rejected ("cannot render a path to " ++ network.name)) := by
  change r.render Plan.opticalRpc (opticalBody ctx _ rate.modulation _ operation) = _
  rw [render_path named _ _ firstKnown networkKnown (Json.textField?_ofMembers rfl)
    (Json.textField?_ofMembers rfl) (Json.textField?_ofMembers rfl), between, role]
  cases source : first.role? with
  | none => rfl
  | some role => cases role <;> rfl

/-- The line side of a port has one transport unit, that of its rate. -/
theorem line_units (port : Port) (rate : SignalRate) (spectrum : RequestedSpectrum)
    : ((line port rate spectrum).filter fun x => x.listKey = "otu-interface-id").map
          RenderedResource.name
      = [ResourceName.transportUnit port.name rate] := by
  cases rate <;>
    simp [line, wholeLine, slicedLine, interface, dataUnit, ResourceName.transportUnit,
      SignalRate.slices?]

/-- The path of a network port has one transport unit, that of the rate that the port is set
to.
-/
theorem xponder_units (r : Renderer) (network : Port) (client : Option Port)
    (spectrum : RequestedSpectrum)
    : (r.xponder network client spectrum).namesUnder "otu-interface-id"
      = [ResourceName.transportUnit network.name (r.rateFor network)] := by
  have resources
      : (r.xponder network client spectrum).resources
        = line network (r.rateFor network) spectrum
          ++ client.toList.map fun c =>
            ethernet (c.name ++ "-ETHERNET") c ((r.rateFor network).gbps * 1000) := by
    cases client <;> rfl
  rw [Rendering.namesUnder, resources, List.filter_append, List.map_append, line_units]
  cases client <;> simp [ethernet, interface]

end Renderer

-----------------------------------------------------------------------------------------
-- Steps
-----------------------------------------------------------------------------------------

namespace Element

variable {e : Element}

theorem bars_of_faultless {s : ElementState} (faultless : s.faults = {})
    : s.Bars := by
  intro isConnection name out
  simp [faultless, Faults.KeepsOut] at out

theorem spares_of_faultless (plan : Plan) (check : Check)
    : ({} : Faults).Spares plan check := by
  cases check <;> simp [Faults.Spares, Faults.KeepsOut, Faults.Misstates]

theorem findings_eq_nil {tasks : List Task} {s : ElementState}
    (clears : ∀ check, e.Clears check tasks s)
    : e.findings tasks s = [] :=
  List.eq_nil_iff_forall_not_mem.mpr fun f member => clears f.check f member rfl

theorem bringUp_passes {plan : Plan} (carries : e.Carries plan)
    : e.PassesIff [.bringUp plan] True := by
  intro s faultless
  have online := ElementState.online_of_faultless faultless
  refine iff_of_true (findings_eq_nil fun check => ?_) trivial
  rw [List.flatMap_singleton]
  refine (bringUp_clears carries online (bars_of_faultless faultless) check).mpr ?_
  rw [faultless]
  exact spares_of_faultless plan check

theorem tearDown_passes {plan : Plan} (carries : e.Carries plan)
    : e.PassesIff [.tearDown plan] True := by
  intro s faultless
  have online := ElementState.online_of_faultless faultless
  have gone : s.faults.surviveDelete = false := by rw [faultless]
  refine iff_of_true (findings_eq_nil fun check => ?_) trivial
  rw [List.flatMap_singleton]
  exact tearDown_clears carries online (bars_of_faultless faultless) check fun _ => Or.inl gone

/-- A plan whose creation is not answered as planned is not brought up without a finding. -/
theorem bringUp_fails {plan : Plan}
    (refused
      : ∀ s : ElementState, s.faults = {} →
          ¬ (e.answer plan.rpc (plan.request .create) s).1.Lists plan)
    : e.PassesIff [.bringUp plan] False := by
  intro s faultless
  have online := ElementState.online_of_faultless faultless
  refine iff_of_false ?_ id
  rw [List.flatMap_singleton, Step.tasks, findings_cons e online, observe_create e online]
  intro none
  have quiet := (List.append_eq_nil_iff.mp none).1
  refine refused s faultless ((Lifecycle.creationFault?_eq_none plan _).mp ?_)
  simpa [Observation.findings, Lifecycle.creationFindings, Except.toOption] using quiet

theorem cycle_passes {plan : Plan} (carries : e.Carries plan)
    : e.PassesIff (Agenda.cycle plan) True :=
  ((bringUp_passes carries).append fun _ => tearDown_passes carries).congr and_self_iff

/-- A plan whose creation is not answered as planned is not brought up and torn down without a
finding.
-/
theorem cycle_fails {plan : Plan}
    (refused
      : ∀ s : ElementState, s.faults = {} →
          ¬ (e.answer plan.rpc (plan.request .create) s).1.Lists plan)
    : e.PassesIff (Agenda.cycle plan) False := by
  have down : False → e.PassesIff [.tearDown plan] False := False.elim
  exact ((bringUp_fails refused).append down).congr and_self_iff

/-- A request that is not rendered is not answered as planned. -/
theorem not_lists_of_rejected {plan : Plan} {reason : String}
    (rejected
      : e.renderer.render plan.rpc (plan.body .create) = .error (.rejected reason))
    (s : ElementState)
    : ¬ (e.answer plan.rpc (plan.request .create) s).1.Lists plan := by
  rw [answer, plan.unwrap_request, plan.operation?_body]
  simp only [rejected]
  rintro ⟨succeeded, -⟩
  exact not_succeeded_failure reason succeeded

/-- A path that is rendered at another rate than planned is not answered as planned. -/
theorem not_lists_of_rate {ctx : PlanContext} {network : Port} {client : Option Port}
    {rate : SignalRate} (spectrum : Renderer.RequestedSpectrum)
    (other : rate ≠ e.renderer.rateFor network)
    : ¬ (e.created (e.renderer.xponder network client spectrum)).Lists
        (Plan.optical ctx network client rate) := by
  rintro ⟨-, entries, entry, isEntries, first, subset⟩
  have isEntry : entry = (e.renderer.xponder network client spectrum).nodeEntry e.node := by
    rw [field?_created] at isEntries
    cases isEntries
    simpa [Json.asList] using List.mem_of_find?_eq_some first
  obtain ⟨fields, expected, stated⟩ := Plan.optical_listed ctx network client rate
  rw [expected, isEntry] at subset
  rw [← Json.get?_ofMembers] at stated
  obtain ⟨v, listed, covered⟩ := Json.get?_of_isSubset subset stated
  have units := e.renderer.xponder_units network client spectrum
  rw [Rendering.get?_nodeEntry (units ▸ List.mem_singleton_self _), units] at listed
  cases listed
  exact other ((ResourceName.transportUnit_inj _).mp (Json.eq_of_covers_ofStrings covered))

section Paths

variable {ctx : PlanContext} {network : Port} {client : Option Port} {rate : SignalRate}
  (renders
    : e.Renders (.optical ctx network client rate)
        (e.renderer.xponder network client (Renderer.requested ctx.spectrum rate.modulation)))
include renders

/-- A path that is rendered at the rate that its network port is set to is carried. -/
theorem path_carried (same : rate = e.renderer.rateFor network)
    : e.Carries (.optical ctx network client rate) := by
  subst same
  exact ⟨Plan.telling_optical _ _ _ _, _, renders, Renderer.realizes_optical ctx network client⟩

/-- A path that is rendered is brought up at the rate that its network port is set to, and at
no other rate.
-/
theorem path_brought_up
    : e.PassesIff [.bringUp (.optical ctx network client rate)]
        (rate = e.renderer.rateFor network) := by
  by_cases same : rate = e.renderer.rateFor network
  · exact (bringUp_passes (path_carried renders same)).congr (iff_of_true trivial same)
  · refine (bringUp_fails fun s faultless => ?_).congr (iff_of_false id same)
    rw [answer_accepted renders (by rw [faultless])]
    exact not_lists_of_rate _ same

theorem path_torn_down (same : rate = e.renderer.rateFor network)
    : e.PassesIff [.tearDown (.optical ctx network client rate)] True :=
  tearDown_passes (path_carried renders same)

end Paths

end Element

end Lightpath
