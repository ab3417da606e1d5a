import Lightpath.Proofs.Lifecycle.TerminationPoints
import Lightpath.Proofs.Simulation.Agreement

/-!
Which linked ports a passing run has exercised: all of them but the further clients of
transponders. A transponder is meant to have one client; nothing keeps a table from linking several
to it, and then the others are left out without a finding.
-/

namespace Lightpath

/-- A run with a verdict exercises exactly the ports that its topology calls for. Each linked port
is one of them, or the verdict has a finding about it, or it is a client past the first of a
transponder. So a run that passes has exercised all linked ports exactly if it came to those clients
in another way.
-/
theorem Lifecycle.verdict_covers_linked_ports {σ κ : Type} {c : Collaborators σ κ}
    {params : RunParameters} {topology : Topology} {s : σ} {v : Verdict}
    (given : (verify c params topology s).1 = .ok v)
    : let log := transcript c params topology s
      (∀ port, Exercised log port ↔ port ∈ topology.exercisedNames params)
      ∧ (∀ port ∈ topology.linkedNames,
          Exercised log port
          ∨ (∃ f ∈ v.findings, f.category = .reconstruction ∧ f.subject = port)
          ∨ port ∈ topology.spareNames)
      ∧ (v.passed = true →
          ((∀ port ∈ topology.linkedNames, Exercised log port)
          ↔ ∀ port ∈ topology.spareNames, port ∈ topology.exercisedNames params)) := by
  intro log
  have calledFor : ∀ port, Exercised log port ↔ port ∈ topology.exercisedNames params :=
    exercised_iff given
  have covered
      : ∀ port ∈ topology.linkedNames,
          Exercised log port
          ∨ (∃ f ∈ v.findings, f.category = .reconstruction ∧ f.subject = port)
          ∨ port ∈ topology.spareNames := by
    intro port linked
    rcases Topology.linked_cases params linked with exercised | skipped | spare
    · exact Or.inl ((calledFor port).mpr exercised)
    · exact Or.inr (Or.inl (finding_of_passesOver given skipped))
    · exact Or.inr (Or.inr spare)
  refine ⟨calledFor, covered, ?_⟩
  intro passed
  have quiet : v.findings = [] := (passed_iff_of_verdict given).mp passed
  constructor
  · intro all port spare
    exact (calledFor port).mp (all port (Topology.mem_linkedNames_of_spare spare))
  · intro spares port linked
    rcases covered port linked with exercised | ⟨f, found, -⟩ | spare
    · exact exercised
    · simp [quiet] at found
    · exact (calledFor port).mpr (spares port spare)

namespace Element

/-- An element with one transponder port to which two clients are linked. -/
def pairWithSpare
    : Element :=
  { table := {
      node := "XPDR-A"
      ports := [
        { name := "XPDR1-NETWORK1" },
        { name := "XPDR1-CLIENT1", connectionMap := some "XPDR1-NETWORK1" },
        { name := "XPDR1-CLIENT2", connectionMap := some "XPDR1-NETWORK1" }] }
    device := .null
    rates := [("XPDR1-NETWORK1", .g100)] }

theorem pairWithSpare_passes
    : ∃ v s',
        Lifecycle.verify pairWithSpare.collaborators { node := "XPDR-A" }
            (Reconstruction.ofTable pairWithSpare.table).topology {}
          = (.ok v, s')
        ∧ v.findings = [] := by
  have clean : (Reconstruction.ofTable pairWithSpare.table).isClean = true := by decide
  have named : ({ node := "XPDR-A" } : RunParameters).node = pairWithSpare.node := rfl
  have serves
      : ∀ record ∈ (Reconstruction.ofTable pairWithSpare.table).topology.networks,
          ∀ rate ∈ ({ node := "XPDR-A" } : RunParameters).exercisedRates record.port,
            pairWithSpare.Serves record rate := by
    intro record member rate asked
    refine ⟨?_, ?_, fun _ => ?_⟩
    · revert record rate
      decide
    · revert record rate
      decide
    · revert record rate
      decide
  refine ⟨_, _, verify_online _ rfl named _, ?_⟩
  rw [Verdict.findings_ofFindings]
  exact (agenda_passesIff named clean {} rfl).mpr serves

/-- A passing run with the two clients: the network port and the first client are exercised. -/
theorem verdict_covers_linked_ports_pair
    : ∃ v s',
        Lifecycle.verify pairWithSpare.collaborators { node := "XPDR-A" }
            (Reconstruction.ofTable pairWithSpare.table).topology {}
          = (.ok v, s')
        ∧ v.passed = true
        ∧ ∀ port ∈ ["XPDR1-NETWORK1", "XPDR1-CLIENT1"],
            Exercised
              (Lifecycle.transcript pairWithSpare.collaborators { node := "XPDR-A" }
                (Reconstruction.ofTable pairWithSpare.table).topology {}) port := by
  obtain ⟨v, s', run, quiet⟩ := pairWithSpare_passes
  obtain ⟨calledFor, -, -⟩ := Lifecycle.verdict_covers_linked_ports (congrArg Prod.fst run)
  have given := congrArg Prod.fst run
  refine ⟨v, s', run, (Lifecycle.passed_iff_of_verdict given).mpr quiet, ?_⟩
  intro port member
  rw [calledFor]
  revert port
  decide

/-- The second client is linked to the port, and yet a run that never names it passes. -/
theorem verify_passes_without_spare_client
    : ∃ v s',
        Lifecycle.verify pairWithSpare.collaborators { node := "XPDR-A" }
            (Reconstruction.ofTable pairWithSpare.table).topology {}
          = (.ok v, s')
        ∧ v.passed = true
        ∧ v.findings = []
        ∧ "XPDR1-CLIENT2" ∈ (Reconstruction.ofTable pairWithSpare.table).topology.linkedNames
        ∧ ¬ Exercised
            (Lifecycle.transcript pairWithSpare.collaborators { node := "XPDR-A" }
              (Reconstruction.ofTable pairWithSpare.table).topology {}) "XPDR1-CLIENT2" := by
  obtain ⟨v, s', run, quiet⟩ := pairWithSpare_passes
  have given := congrArg Prod.fst run
  refine ⟨v, s', run, (Lifecycle.passed_iff_of_verdict given).mpr quiet, quiet, by decide, ?_⟩
  rw [Lifecycle.exercised_iff given]
  decide

end Element

end Lightpath
