import Lightpath.Proofs.Simulation.RealizedPlans
import Lightpath.Proofs.Topology.Clean

/-!
The agreement of plans and elements over whole runs. An element without faults passes a run on
its own ports exactly if every network port can be served at each rate of the run; degrees are
always passed.
-/

namespace Lightpath

namespace Element

/-- A network port can be served at a rate: it is set to that rate, the services of its
clients fit into it, and the first client of a transponder has the role of one.
-/
structure Serves (e : Element) (record : NetworkRecord) (rate : SignalRate)
    : Prop where
  isSet : rate = e.renderer.rateFor record.port
  fits
    : ∀ kind, (PortClass.ofNetwork record).clientKind? = some kind →
        record.clients.length ≤ kind.capacity rate
  paired
    : PortClass.ofNetwork record = .transponder →
        ∃ first, record.clients.head? = some first ∧ first.role? = some .client

theorem forall_position_lt {α : Type} (items : List α) (n : Nat)
    : (∀ a ∈ items.zipIdx, a.2 < n) ↔ items.length ≤ n := by
  constructor
  · intro below
    by_contra above
    have last : n < items.length := Nat.lt_of_not_le above
    have member : (items[n], n) ∈ items.zipIdx :=
      List.mk_mem_zipIdx_iff_getElem?.mpr (List.getElem?_eq_getElem last)
    exact Nat.lt_irrefl n (below _ member)
  · intro fits a member
    have within := List.snd_lt_of_mem_zipIdx member
    omega

/-- Of the network ports only transponders give their clients no services of their own. -/
theorem clientKind?_ofNetwork (record : NetworkRecord)
    : (PortClass.ofNetwork record).clientKind? = none
      ↔ PortClass.ofNetwork record = .transponder := by
  rw [PortClass.ofNetwork]
  cases record.kind with
  | none => decide
  | some kind => cases kind <;> decide

section Ports

variable {e : Element} {ctx : PlanContext} (named : ctx.node = e.node)
include named

-----------------------------------------------------------------------------------------
-- Network ports
-----------------------------------------------------------------------------------------

theorem line_renders {network : Port} (known : e.table.port? network.name = some network)
    (role : network.role? = some .network) (rate : SignalRate)
    : e.Renders (.optical ctx network none rate)
        (e.renderer.xponder network none (Renderer.requested ctx.spectrum rate.modulation)) :=
  ⟨named, Renderer.render_line named known role⟩

theorem pair_renders {network first : Port}
    (known : e.table.port? network.name = some network)
    (firstKnown : e.table.port? first.name = some first) (role : network.role? = some .network)
    (client : first.role? = some .client) (rate : SignalRate)
    : e.Renders (.optical ctx network (some first) rate)
        (e.renderer.xponder network (some first)
          (Renderer.requested ctx.spectrum rate.modulation)) := by
  refine ⟨named, fun operation => ?_⟩
  have render := e.renderer.render_pair named known firstKnown role rate operation
  rw [if_pos client] at render
  exact render

theorem client_carried {network client : Port}
    (known : e.table.port? network.name = some network)
    (clientKnown : e.table.port? client.name = some client) {kind : ClientKind}
    {position : Nat} {plan : Plan}
    (isClient : plan.IsClient ctx network (e.renderer.rateFor network) client kind position)
    : e.Carries plan :=
  ⟨isClient.telling, _,
    ⟨isClient.node.trans named, Renderer.render_client named known clientKnown isClient⟩,
    Renderer.realizes_client isClient⟩

/-- The path of a transponder passes at the rate that its network port is set to, from a
client.
-/
theorem pair_passesIff {network first : Port}
    (known : e.table.port? network.name = some network)
    (firstKnown : e.table.port? first.name = some first) (role : network.role? = some .network)
    (rate : SignalRate)
    : e.PassesIff (Agenda.cycle (.optical ctx network (some first) rate))
        (rate = e.renderer.rateFor network ∧ first.role? = some .client) := by
  by_cases client : first.role? = some .client
  · have renders := pair_renders named known firstKnown role client rate
    exact ((path_brought_up renders).append (path_torn_down renders)).congr
      (and_congr_right fun _ => iff_of_true trivial client)
  · have render := e.renderer.render_pair named known firstKnown role rate .create
    rw [if_neg client] at render
    exact (cycle_fails fun s _ => not_lists_of_rejected render s).congr
      (iff_of_false id fun both => client both.2)

/-- The service of a client passes within the capacity of its network port. -/
theorem client_passesIff {network client : Port}
    (known : e.table.port? network.name = some network)
    (clientKnown : e.table.port? client.name = some client) (kind : ClientKind)
    (position : Nat)
    : e.PassesIff
        (Agenda.clientSteps ctx network (e.renderer.rateFor network) kind position client)
        (position < kind.capacity (e.renderer.rateFor network)) := by
  rw [Agenda.clientSteps]
  cases planned : Plan.client? ctx network (e.renderer.rateFor network) client kind position with
  | some plan =>
      have isClient := Plan.isClient planned
      exact (cycle_passes (client_carried named known clientKnown isClient)).congr
        (iff_of_true trivial isClient.fits)
  | none => exact (PassesIff.note _).congr (iff_of_false id (Plan.client?_eq_none planned))

theorem clients_passesIff {network : Port} {clients : List Port}
    (known : e.table.port? network.name = some network)
    (clientsKnown : ∀ c ∈ clients, e.table.port? c.name = some c) (kind : ClientKind)
    : e.PassesIff
        (clients.mapIdx
          (Agenda.clientSteps ctx network (e.renderer.rateFor network) kind)).flatten
        (clients.length ≤ kind.capacity (e.renderer.rateFor network)) := by
  have each
      : ∀ c ∈ clients.zipIdx,
          e.PassesIff
            (Agenda.clientSteps ctx network (e.renderer.rateFor network) kind c.2 c.1)
            (c.2 < kind.capacity (e.renderer.rateFor network)) := by
    intro c member
    exact client_passesIff named known (clientsKnown c.1 (List.fst_mem_of_mem_zipIdx member))
      kind c.2
  rw [List.mapIdx_eq_zipIdx_map, ← List.flatMap_def]
  exact (PassesIff.flatMap each).congr (forall_position_lt _ _)

/-- A network port with clients passes at a rate exactly if it can be served at that rate. -/
theorem rate_passesIff {record : NetworkRecord} {first : Port} {rest : List Port}
    (known : e.table.port? record.port.name = some record.port)
    (role : record.port.role? = some .network) (linked : record.clients = first :: rest)
    (clientsKnown : ∀ c ∈ record.clients, e.table.port? c.name = some c) (rate : SignalRate)
    : e.PassesIff (Agenda.rateSteps ctx record first rate) (e.Serves record rate) := by
  rw [Agenda.rateSteps]
  cases service : (PortClass.ofNetwork record).clientKind? with
  | none =>
      have firstKnown := clientsKnown first (by simp [linked])
      refine (pair_passesIff named known firstKnown role rate).congr ?_
      constructor
      · rintro ⟨isSet, client⟩
        exact ⟨isSet, by simp [service], fun _ => ⟨first, by simp [linked], client⟩⟩
      · rintro ⟨isSet, -, paired⟩
        obtain ⟨head, isHead, client⟩ := paired ((clientKind?_ofNetwork record).mp service)
        rw [linked] at isHead
        cases isHead
        exact ⟨isSet, client⟩
  | some kind =>
      have ownServices : PortClass.ofNetwork record ≠ .transponder := by
        intro transponder
        simp [transponder, PortClass.clientKind?] at service
      have clients
          : rate = e.renderer.rateFor record.port →
              e.PassesIff
                (record.clients.mapIdx (Agenda.clientSteps ctx record.port rate kind)).flatten
                (record.clients.length ≤ kind.capacity rate) := by
        rintro rfl
        exact clients_passesIff named known clientsKnown kind
      have renders := line_renders named known role rate
      refine (((path_brought_up renders).append clients).append fun both =>
        path_torn_down renders both.1).congr ?_
      constructor
      · rintro ⟨⟨isSet, fits⟩, -⟩
        refine ⟨isSet, fun other isKind => ?_, fun transponder => absurd transponder ownServices⟩
        rw [service] at isKind
        cases isKind
        exact fits
      · rintro ⟨isSet, fits, -⟩
        exact ⟨⟨isSet, fits kind service⟩, trivial⟩

-----------------------------------------------------------------------------------------
-- Degrees
-----------------------------------------------------------------------------------------

section RiskGroups

variable {degree drop : Port} (known : e.table.port? degree.name = some degree)
  (role : degree.role? = some .degree) (dropKnown : e.table.port? drop.name = some drop)
  (dropRole : drop.role? = some .riskGroup)
include known role dropKnown dropRole

omit named in
/-- A degree is no risk group, so the two have names of their own. -/
theorem degree_ne_riskGroup
    : degree.name ≠ drop.name := by
  intro same
  rw [same, dropKnown] at known
  cases known
  simp [dropRole] at role

theorem add_carried
    : e.Carries (.roadm ctx drop degree false) := by
  have apart := (degree_ne_riskGroup known role dropKnown dropRole).symm
  refine ⟨Plan.telling_roadm ctx false apart, _, ⟨named, fun operation => ?_⟩,
    Renderer.realizes_add ctx apart SignalRate.g100.modulation⟩
  refine (Renderer.render_path named _ _ dropKnown known (Json.textField?_ofMembers rfl)
    (Json.textField?_ofMembers rfl) (Json.textField?_ofMembers rfl) operation).trans ?_
  rw [Renderer.between, role, dropRole]

theorem drop_carried
    : e.Carries (.roadm ctx degree drop true) := by
  have apart := degree_ne_riskGroup known role dropKnown dropRole
  refine ⟨Plan.telling_roadm ctx true apart, _, ⟨named, fun operation => ?_⟩,
    Renderer.realizes_drop ctx apart SignalRate.g100.modulation⟩
  refine (Renderer.render_path named _ _ known dropKnown (Json.textField?_ofMembers rfl)
    (Json.textField?_ofMembers rfl) (Json.textField?_ofMembers rfl) operation).trans ?_
  rw [Renderer.between, role, dropRole]

theorem riskGroup_passes
    : e.PassesIff (Agenda.riskGroupSteps ctx degree drop) True := by
  have added := cycle_passes (add_carried named known role dropKnown dropRole)
  have dropped := cycle_passes (drop_carried named known role dropKnown dropRole)
  exact (added.append fun _ => dropped).congr and_self_iff

end RiskGroups

end Ports

-----------------------------------------------------------------------------------------
-- Runs
-----------------------------------------------------------------------------------------

section Runs

variable {e : Element} {params : RunParameters} (named : params.node = e.node)
include named

/-- A network port with clients passes exactly if it can be served at every rate of the run. -/
theorem network_passesIff {record : NetworkRecord}
    (known : e.table.port? record.port.name = some record.port)
    (role : record.port.role? = some .network) (linked : record.clients ≠ [])
    (clientsKnown : ∀ c ∈ record.clients, e.table.port? c.name = some c)
    : e.PassesIff (Agenda.networkSteps params record)
        (∀ rate ∈ params.exercisedRates record.port, e.Serves record rate) := by
  cases clients : record.clients with
  | nil => exact absurd clients linked
  | cons first rest =>
      have onNode : (Agenda.context params).node = e.node := named
      rw [Agenda.networkSteps_of_linked params clients]
      exact PassesIff.flatMap fun rate _ =>
        rate_passesIff onNode known role clients clientsKnown rate

theorem degree_passes {record : DegreeRecord}
    (known : e.table.port? record.port.name = some record.port)
    (role : record.port.role? = some .degree) (linked : record.riskGroups ≠ [])
    (groupsKnown
      : ∀ g ∈ record.riskGroups, e.table.port? g.name = some g ∧ g.role? = some .riskGroup)
    : e.PassesIff (Agenda.degreeSteps params record) True := by
  rw [Agenda.degreeSteps, if_neg (mt List.isEmpty_iff.mp linked)]
  have each
      : ∀ g ∈ record.riskGroups,
          e.PassesIff (Agenda.riskGroupSteps (Agenda.context params) record.port g) True := by
    intro g member
    obtain ⟨groupKnown, groupRole⟩ := groupsKnown g member
    exact riskGroup_passes named known role groupKnown groupRole
  exact (PassesIff.flatMap each).congr (by simp)

/-- The whole agenda of a clean table passes exactly if every network port can be served at
every rate of the run.
-/
theorem agenda_passesIff (clean : (Reconstruction.ofTable e.table).isClean = true)
    : e.PassesIff (Agenda.ofTopology params (Reconstruction.ofTable e.table).topology)
        (∀ record ∈ (Reconstruction.ofTable e.table).topology.networks,
          ∀ rate ∈ params.exercisedRates record.port, e.Serves record rate) := by
  have networks
      : ∀ record ∈ (Reconstruction.ofTable e.table).topology.networks,
          e.PassesIff (Agenda.networkSteps params record)
            (∀ rate ∈ params.exercisedRates record.port, e.Serves record rate) := by
    intro record member
    obtain ⟨row, role, linked, clients⟩ := Reconstruction.network_of_clean clean member
    exact network_passesIff named (Reconstruction.port?_of_clean clean row) role linked
      fun c isClient => Reconstruction.port?_of_clean clean (clients c isClient)
  have degrees
      : ∀ record ∈ (Reconstruction.ofTable e.table).topology.degrees,
          e.PassesIff (Agenda.degreeSteps params record) True := by
    intro record member
    obtain ⟨row, role, linked, groups⟩ := Reconstruction.degree_of_clean clean member
    exact degree_passes named (Reconstruction.port?_of_clean clean row) role linked
      fun g isGroup =>
        ⟨Reconstruction.port?_of_clean clean (groups g isGroup).1, (groups g isGroup).2⟩
  rw [Agenda.ofTopology]
  refine ((PassesIff.flatMap networks).append fun _ => PassesIff.flatMap degrees).congr ?_
  exact and_iff_left fun _ _ => trivial

end Runs

/-- A run of a verifier with the ports of an element against that element, which has no
faults, gives a verdict. Exactly if every network port can be served at every rate of the run,
the verdict has no finding and all its checks hold.
-/
theorem verify_passesIff (e : Element) (params : RunParameters) (s : ElementState)
    (clean : (Reconstruction.ofTable e.table).isClean = true) (named : params.node = e.node)
    (faultless : s.faults = {})
    : ∃ v s',
        Lifecycle.verify e.collaborators params (Reconstruction.ofTable e.table).topology s
          = (.ok v, s')
        ∧ (v.findings = []
          ↔ ∀ record ∈ (Reconstruction.ofTable e.table).topology.networks,
              ∀ rate ∈ params.exercisedRates record.port, e.Serves record rate)
        ∧ (v.passed = true ↔ v.findings = []) := by
  have run := verify_online e (ElementState.online_of_faultless faultless) named
    (Reconstruction.ofTable e.table).topology
  refine ⟨_, _, run, ?_, Lifecycle.passed_iff_of_verdict (congrArg Prod.fst run)⟩
  rw [Verdict.findings_ofFindings]
  exact agenda_passesIff named clean s faultless

/-- An element with one muxponder port of two clients, set to the lowest rate. -/
def oneMuxponder
    : Element :=
  { table := {
      node := "XPDR-A"
      ports := [
        { name := "XPDR1-NETWORK1", xponderText := some "mpdr" },
        { name := "XPDR1-CLIENT1", connectionMap := some "XPDR1-NETWORK1" },
        { name := "XPDR1-CLIENT2", connectionMap := some "XPDR1-NETWORK1" }] }
    device := .null
    rates := [("XPDR1-NETWORK1", .g100)] }

/-- A run against one muxponder port with two clients has no finding. -/
theorem verify_passesIff_muxponder
    : ∃ v s',
        Lifecycle.verify oneMuxponder.collaborators { node := "XPDR-A" }
            (Reconstruction.ofTable oneMuxponder.table).topology {}
          = (.ok v, s')
        ∧ v.findings = []
        ∧ v.passed = true := by
  have clean : (Reconstruction.ofTable oneMuxponder.table).isClean = true := by decide
  have serves
      : ∀ record ∈ (Reconstruction.ofTable oneMuxponder.table).topology.networks,
          ∀ rate ∈ ({ node := "XPDR-A" } : RunParameters).exercisedRates record.port,
            oneMuxponder.Serves record rate := by
    intro record member rate asked
    have lowest : rate = oneMuxponder.renderer.rateFor record.port := by
      revert record rate
      decide
    have services : PortClass.ofNetwork record = .muxponder := by
      clear lowest asked
      revert record
      decide
    have fits : record.clients.length ≤ ClientKind.ethernet10G.capacity rate := by
      clear lowest services
      revert record rate
      decide
    refine ⟨lowest, ?_, by simp [services]⟩
    intro kind isKind
    rw [services] at isKind
    cases isKind
    exact fits
  obtain ⟨v, s', given, passes, checks⟩ :=
    verify_passesIff oneMuxponder { node := "XPDR-A" } {} clean rfl rfl
  exact ⟨v, s', given, passes.mpr serves, checks.mpr (passes.mpr serves)⟩

end Element

end Lightpath
