import Lightpath.Proofs.Simulation.Telemetry
import Mathlib.Data.List.Infix

/-!
Which resources have one instance path. A path states the names of a resource between quotes as
they are, and samples are told apart by the path alone. The names of a port can hold what stands
between them, so that one text is cut into two names at two places; the resources that are taken
for each other are exactly the ports of which that is so.
-/

namespace Lightpath

namespace ResourceId

-----------------------------------------------------------------------------------------
-- One text cut at two places
-----------------------------------------------------------------------------------------

/-- What the path of a port has between its names. -/
def portMark
    : String :=
  "']/ports[port-name='"

/-- A port that has the path of another one, which has the longer circuit pack. Either the mark
occurs twice in the text of both names, or two occurrences have a quote in common.
-/
inductive Shadows
    : ResourceId → ResourceId → Prop
  | apart (first middle last : String)
    : Shadows (.port first (middle ++ portMark ++ last)) (.port (first ++ portMark ++ middle) last)
  | overlapping (first last : String)
    : Shadows (.port first ("]/ports[port-name='" ++ last))
        (.port (first ++ "']/ports[port-name=") last)

/-- An end of the mark that is also a beginning of it. -/
theorem border_of_mark
    : ∀ border ∈ portMark.toList.inits,
        border <:+ portMark.toList →
          border = [] ∨ border = ['\''] ∨ border = portMark.toList := by
  decide +kernel

/-- What the longer of two first parts has more than the other, where both are followed by the
mark.
-/
theorem excess_cases {excess back last : List Char}
    (same : portMark.toList ++ back = excess ++ (portMark.toList ++ last))
    : (excess = [] ∧ back = last)
      ∨ (∃ middle, excess = portMark.toList ++ middle
          ∧ back = middle ++ (portMark.toList ++ last))
      ∨ (excess = "']/ports[port-name=".toList
          ∧ back = "]/ports[port-name='".toList ++ last) := by
  rcases List.append_eq_append_iff.mp same with ⟨middle, longer, rest⟩ | ⟨border, ends, rest⟩
  · exact Or.inr (Or.inl ⟨middle, longer, rest⟩)
  · have suffix : border <:+ portMark.toList := ⟨excess, ends.symm⟩
    have initial : border <+: portMark.toList :=
      List.prefix_of_prefix_length_le ⟨back, rest.symm⟩ (List.prefix_append _ _) suffix.length_le
    rcases border_of_mark border ((List.mem_inits _ _).mpr initial) suffix with rfl | rfl | rfl
    · refine Or.inr (Or.inl ⟨[], ?_, rest.symm⟩)
      simpa using ends.symm
    · refine Or.inr (Or.inr ⟨?_, ?_⟩)
      · have quoted : "']/ports[port-name=".toList ++ ['\''] = excess ++ ['\''] := ends
        exact (List.append_cancel_right quoted).symm
      · exact (List.cons.inj rest).2.symm
    · refine Or.inl ⟨?_, List.append_cancel_left rest.symm⟩
      exact List.self_eq_append_left.mp ends

-----------------------------------------------------------------------------------------
-- Paths
-----------------------------------------------------------------------------------------

/-- The path of a port, with the text of both names in one piece. -/
theorem toList_port_path (circuitPack name : String)
    : (ResourceId.port circuitPack name).instancePath.toList
      = ("/" ++ deviceRoot ++ "/circuit-packs[circuit-pack-name='").toList
        ++ (circuitPack.toList ++ (portMark.toList ++ name.toList)) ++ "']".toList := by
  simp [instancePath, portMark]

/-- Of the text of two names, the one with the shorter circuit pack shadows the other. -/
theorem eq_or_shadows {pack name pack' name' : String} {excess : List Char}
    (longer : pack'.toList = pack.toList ++ excess)
    (same : portMark.toList ++ name.toList = excess ++ (portMark.toList ++ name'.toList))
    : ResourceId.port pack name = .port pack' name'
      ∨ Shadows (.port pack name) (.port pack' name') := by
  rcases excess_cases same with ⟨rfl, rest⟩ | ⟨middle, rfl, rest⟩ | ⟨rfl, rest⟩
  · left
    rw [String.toList_inj.mp rest, String.toList_inj.mp (longer.trans (List.append_nil _))]
  · right
    have packs : pack' = pack ++ portMark ++ String.ofList middle :=
      String.toList_inj.mp (by simpa using longer)
    have names : name = String.ofList middle ++ portMark ++ name' :=
      String.toList_inj.mp (by simpa using rest)
    rw [packs, names]
    exact .apart pack (String.ofList middle) name'
  · right
    have packs : pack' = pack ++ "']/ports[port-name=" :=
      String.toList_inj.mp (by simpa using longer)
    have names : name = "]/ports[port-name='" ++ name' :=
      String.toList_inj.mp (by simpa using rest)
    rw [packs, names]
    exact .overlapping pack name'

theorem Shadows.same_path {r s : ResourceId} (shadows : Shadows r s)
    : r.instancePath = s.instancePath := by
  cases shadows <;> simp [instancePath, portMark, ← String.toList_inj]

theorem Shadows.same_type {r s : ResourceId} (shadows : Shadows r s)
    : r.type = s.type := by
  cases shadows <;> rfl

/-- Two resources have one path exactly if they are the same or one shadows the other. -/
theorem same_path_iff {r s : ResourceId}
    : r.instancePath = s.instancePath ↔ r = s ∨ Shadows r s ∨ Shadows s r := by
  constructor
  · intro same
    have texts := congrArg String.toList same
    cases r with
    | interface name =>
        cases s with
        | interface name' =>
            left
            rw [String.toList_inj.mp (by simpa [instancePath] using texts : name.toList = _)]
        | port pack' name' =>
            exact absurd texts (by simp [instancePath])
    | port pack name =>
        cases s with
        | interface name' =>
            exact absurd texts (by simp [instancePath])
        | port pack' name' =>
            rw [toList_port_path, toList_port_path] at texts
            have names := List.append_cancel_left (List.append_cancel_right texts)
            rcases List.append_eq_append_iff.mp names with ⟨excess, longer, rest⟩
              | ⟨excess, longer, rest⟩
            · exact (eq_or_shadows longer rest).imp_right Or.inl
            · exact (eq_or_shadows longer rest).imp Eq.symm Or.inr
  · rintro (rfl | shadows | shadows)
    · rfl
    · exact shadows.same_path
    · exact shadows.same_path.symm

theorem same_path_and_type_iff {r s : ResourceId}
    : r.type = s.type ∧ r.instancePath = s.instancePath ↔ r = s ∨ Shadows r s ∨ Shadows s r := by
  refine ⟨fun same => same_path_iff.mp same.2, fun related => ⟨?_, same_path_iff.mpr related⟩⟩
  rcases related with rfl | shadows | shadows
  · rfl
  · exact shadows.same_type
  · exact shadows.same_type.symm

/-- A resource without a quote in the name of a circuit pack. -/
def Unquoted
    : ResourceId → Prop
  | .interface _ => True
  | .port circuitPack _ => '\'' ∉ circuitPack.toList

theorem Shadows.quoted {r s : ResourceId} (shadows : Shadows r s)
    : ¬ s.Unquoted := by
  cases shadows <;> simp [Unquoted, portMark]

-----------------------------------------------------------------------------------------
-- Samples
-----------------------------------------------------------------------------------------

theorem same_path_of_about {r s : ResourceId} {entry : Json}
    (first : PmSample.isAbout r entry = true) (second : PmSample.isAbout s entry = true)
    : r.instancePath = s.instancePath := by
  rw [PmSample.isAbout, Bool.and_eq_true, decide_eq_true_iff] at first second
  exact Option.some.inj (first.2.symm.trans second.2)

theorem about_congr {r s : ResourceId} (types : r.type = s.type)
    (paths : r.instancePath = s.instancePath) (entry : Json)
    : PmSample.isAbout r entry = PmSample.isAbout s entry := by
  rw [PmSample.isAbout, PmSample.isAbout, types, paths]

/-- Two resources have one path, an entry about one is about the other, and the sample that an
element has of one is found for the other, exactly if they are the same or one shadows the
other. Interfaces, and ports without a quote in the names of circuit packs, are told apart.
-/
theorem samples_taken_iff_shadowed (r s : ResourceId)
    : (r.instancePath = s.instancePath ↔ r = s ∨ Shadows r s ∨ Shadows s r)
      ∧ (∀ entry, PmSample.isAbout r entry = true →
          (PmSample.isAbout s entry = true ↔ r = s ∨ Shadows r s ∨ Shadows s r))
      ∧ ((PmSample.find? (Element.sampleDocument r) s).isSome = true
          ↔ r = s ∨ Shadows r s ∨ Shadows s r)
      ∧ (r.Unquoted → s.Unquoted → r.instancePath = s.instancePath → r = s) := by
  refine ⟨same_path_iff, ?entry, ?sample, ?unquoted⟩
  case entry =>
    intro entry first
    constructor
    · exact fun second => same_path_iff.mp (same_path_of_about first second)
    · intro related
      obtain ⟨types, paths⟩ := same_path_and_type_iff.mpr related
      rw [← about_congr types paths, first]
  case sample => rw [Element.find?_sampleDocument_iff, same_path_and_type_iff]
  case unquoted =>
    intro unquoted unquoted' same
    rcases same_path_iff.mp same with equal | shadows | shadows
    · exact equal
    · exact absurd unquoted' shadows.quoted
    · exact absurd unquoted shadows.quoted

/-- The sample that an element has of one port is found for a port of another circuit pack. -/
theorem sample_taken_for_other_port
    : let r := ResourceId.port "a" "b']/ports[port-name='c"
      let s := ResourceId.port "a']/ports[port-name='b" "c"
      r ≠ s
      ∧ r.instancePath = s.instancePath
      ∧ (PmSample.find? (Element.sampleDocument r) s).isSome = true := by
  intro r s
  have paths : r.instancePath = s.instancePath := by decide +kernel
  exact ⟨by decide, paths, (Element.find?_sampleDocument_iff r s).mpr ⟨rfl, paths⟩⟩

end ResourceId

end Lightpath
