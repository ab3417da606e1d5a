import Lightpath.Proofs.Service.Plans
import Mathlib.Data.List.Infix

/-!
The names of a line and of the client services that are nested in it. All are a port and an ending,
but a port is any text, so one name could be split in two ways. Then one of the endings is an end of
the other, which happens for the data unit of one kind only.
-/

namespace Lightpath

namespace ResourceName

-----------------------------------------------------------------------------------------
-- Endings
-----------------------------------------------------------------------------------------

/-- What the names of a line have after its port, except for the signal. -/
def lineEndings (rate : SignalRate)
    : List String :=
  match rate.slices? with
  | none => ["-OTU", "-ODU4"]
  | some n => ["-OTSIGROUP-" ++ rate.word, "-OTUC" ++ toString n, "-ODUC" ++ toString n]

/-- What the names of a client service have after its client. -/
def clientEndings (kind : ClientKind)
    : List String :=
  ["-ETHERNET" ++ toString kind.gbps ++ "G", "-" ++ kind.dataUnit]

/-- A character of a range of slots, or of the dash before it. -/
def InRange (c : Char)
    : Prop :=
  c.isDigit = true ∨ c = ':' ∨ c = '-'

instance (c : Char)
    : Decidable (InRange c) :=
  inferInstanceAs (Decidable (_ ∨ _ ∨ _))

theorem inRange_of_mem {spectrum : Spectrum} {c : Char}
    (member : c ∈ ("-" ++ spectrum.text).toList)
    : InRange c := by
  have digits (n : Nat) (member : c ∈ Nat.toDigits 10 n) : InRange c :=
    Or.inl (Nat.isDigit_of_mem_toDigits (by decide) (by decide) member)
  have parts
      : c = '-' ∨ c ∈ Nat.toDigits 10 spectrum.lowest ∨ c = ':'
        ∨ c ∈ Nat.toDigits 10 spectrum.highest := by
    simpa [Spectrum.text] using member
  rcases parts with dash | lowest | colon | highest
  · exact Or.inr (Or.inr dash)
  · exact digits _ lowest
  · exact Or.inr (Or.inl colon)
  · exact digits _ highest

theorem colon_mem_range (spectrum : Spectrum)
    : ':' ∈ ("-" ++ spectrum.text).toList := by
  simp [Spectrum.text]

section Endings

variable {rate : SignalRate} {kind : ClientKind}

/-- An ending of a line and one of a client have an end in common only if they are the same. -/
theorem ending_eq_of_suffix
    : ∀ ending ∈ lineEndings rate, ∀ tail ∈ clientEndings kind,
        ending.toList <:+ tail.toList ∨ tail.toList <:+ ending.toList → ending = tail := by
  cases rate <;> cases kind <;> decide +kernel

/-- An ending of a client has a letter, which ranges lack, and lacks the colon. -/
theorem clientEnding_apart
    : ∀ tail ∈ clientEndings kind,
        ':' ∉ tail.toList ∧ ('E' ∈ tail.toList ∨ 'U' ∈ tail.toList) := by
  cases kind <;> decide +kernel

/-- No ending of a line begins with the data unit of a tributary. -/
theorem lineEnding_not_tributary
    : ∀ ending ∈ lineEndings rate,
        ¬ ("-" ++ kind.dataUnit ++ "-").toList <+: ending.toList := by
  cases rate <;> cases kind <;> decide +kernel

end Endings

-----------------------------------------------------------------------------------------
-- Names of a line and of a client service
-----------------------------------------------------------------------------------------

/-- The names of a line: of its signal, if it has one, and of its other resources. -/
inductive IsLine (port : String) (spectrum : Spectrum) (rate : SignalRate)
    : String → Prop
  | signal
    : IsLine port spectrum rate (signal port spectrum)
  | ending {ending : String} (among : ending ∈ lineEndings rate)
    : IsLine port spectrum rate (port ++ ending)

/-- The names of a client service: on the side of the client and on that of its network port. -/
inductive IsNested (network client : String) (kind : ClientKind)
    : String → Prop
  | client {ending : String} (among : ending ∈ clientEndings kind)
    : IsNested network client kind (client ++ ending)
  | tributary
    : IsNested network client kind (tributary network kind client)

/-- Of two ways to split a text, one ending is an end of the other. -/
theorem suffix_or_suffix {front other ending tail : String}
    (same : front ++ ending = other ++ tail)
    : ending.toList <:+ tail.toList ∨ tail.toList <:+ ending.toList := by
  have texts : front.toList ++ ending.toList = other.toList ++ tail.toList := by
    simpa using congrArg String.toList same
  exact List.suffix_or_suffix_of_suffix ⟨_, texts⟩ ⟨_, rfl⟩

variable {network client : String} {spectrum : Spectrum} {rate : SignalRate} {kind : ClientKind}

theorem signal_ne_client {tail : String} (among : tail ∈ clientEndings kind)
    : signal network spectrum ≠ client ++ tail := by
  intro same
  obtain ⟨noColon, letter⟩ := clientEnding_apart tail among
  rw [signal, String.append_assoc] at same
  rcases suffix_or_suffix same with within | within
  · exact noColon (within.subset (colon_mem_range spectrum))
  · rcases letter with member | member
    · exact absurd (inRange_of_mem (within.subset member)) (by decide)
    · exact absurd (inRange_of_mem (within.subset member)) (by decide)

theorem signal_ne_tributary
    : signal network spectrum ≠ tributary network kind client := by
  intro same
  have tails
      : ("-" ++ spectrum.text).toList
        = ("-" ++ kind.dataUnit ++ "-").toList ++ client.toList := by
    simpa [signal, tributary] using congrArg String.toList same
  have letter : 'O' ∈ ("-" ++ spectrum.text).toList := by
    rw [tails]
    cases kind <;> simp [ClientKind.dataUnit]
  exact absurd (inRange_of_mem letter) (by decide)

theorem ending_ne_tributary {ending : String} (among : ending ∈ lineEndings rate)
    : network ++ ending ≠ tributary network kind client := by
  intro same
  have tails
      : ending.toList = ("-" ++ kind.dataUnit ++ "-").toList ++ client.toList := by
    simpa [tributary] using congrArg String.toList same
  exact lineEnding_not_tributary ending among ⟨_, tails.symm⟩

/-- A line has no name of a client service, if its port is not the client. -/
theorem line_ne_nested (apart : network ≠ client) {name : String}
    (line : IsLine network spectrum rate name)
    : ¬ IsNested network client kind name := by
  intro nested
  cases line with
  | signal =>
      generalize shown : signal network spectrum = name at nested
      cases nested with
      | client among => exact signal_ne_client among shown
      | tributary => exact signal_ne_tributary shown
  | @ending ending inLine =>
      generalize shown : network ++ ending = name at nested
      cases nested with
      | client among =>
          -- Endings of one length are the same only for the data unit, and then so are the ports.
          obtain rfl := ending_eq_of_suffix ending inLine _ among (suffix_or_suffix shown)
          exact apart ((String.append_left_inj ending).mp shown)
      | tributary => exact ending_ne_tributary inLine shown

end ResourceName

namespace Plan

/-- The names of the planned resources in order. -/
def names (plan : Plan)
    : List String :=
  plan.resources.map PlannedResource.name

/-- A plan without cross-connections that names its resources apart has no name twice. -/
theorem Distinct.nodup_names {plan : Plan} (distinct : plan.Distinct)
    (interfaces : ∀ p ∈ plan.resources, p.isConnection = false)
    : plan.names.Nodup := by
  refine List.pairwise_map.mpr (distinct.imp_of_mem ?_)
  intro a b inA inB apart
  exact apart ((interfaces a inA).trans (interfaces b inB).symm)

variable {ctx : PlanContext} {network client : Port} {rate : SignalRate} {kind : ClientKind}
  {position : Nat}

theorem optical_interfaces {ends : Option Port}
    : ∀ p ∈ (optical ctx network ends rate).resources, p.isConnection = false := by
  cases rate <;> cases ends <;>
    simp [optical, opticalOf, networkStack, wholeStack, slicedStack, SignalRate.slices?, transportUnit,
      dataUnit, ethernet, interface, PlannedResource.isConnection]

theorem isLine_of_mem {name : String} (member : name ∈ (optical ctx network none rate).names)
    : ResourceName.IsLine network.name ctx.spectrum rate name := by
  have listed
      : name = ResourceName.signal network.name ctx.spectrum
        ∨ name ∈ (ResourceName.lineEndings rate).map (network.name ++ ·) := by
    revert member
    cases rate <;>
      simp +contextual [names, optical, opticalOf, networkStack, wholeStack, slicedStack,
        transportUnit, dataUnit, interface, SignalRate.slices?, ResourceName.lineEndings,
        ResourceName.signalGroup, ResourceName.transportUnit, ResourceName.dataUnit,
        String.append_assoc]
  rcases listed with rfl | ending
  · exact .signal
  · obtain ⟨ending, among, rfl⟩ := List.mem_map.mp ending
    exact .ending among

theorem IsClient.isNested_of_mem {plan : Plan}
    (isClient : plan.IsClient ctx network rate client kind position) {name : String}
    (member : name ∈ plan.names)
    : ResourceName.IsNested network.name client.name kind name := by
  have listed
      : plan.names
        = (ResourceName.clientEndings kind).map (client.name ++ ·)
          ++ [ResourceName.tributary network.name kind client.name] := by
    simp [names, isClient.resources, clientResources, ethernet, dataUnit, interface,
      ResourceName.clientEthernet, ResourceName.clientDataUnit, ResourceName.clientEndings,
      String.append_assoc]
  rw [listed] at member
  rcases List.mem_append.mp member with atClient | atLine
  · obtain ⟨ending, among, rfl⟩ := List.mem_map.mp atClient
    exact .client among
  · obtain rfl := List.mem_singleton.mp atLine
    exact .tributary

end Plan

end Lightpath
