import Lightpath.Proofs.Text.Replacements
import Lightpath.Session.Request

/-!
The instance path as the filter of a telemetry read states it. The text of the element is escaped,
so that nothing in the names of a resource can end it or start another one, and what it stands for
is the path with the mark of the device's name space. The mark is not only put at the steps and
leaves of the path but also at what looks like them within a name; the path has the names as they
are exactly if no name has such a part.
-/

namespace Lightpath

namespace ReadRequest

-----------------------------------------------------------------------------------------
-- The text of an element
-----------------------------------------------------------------------------------------

/-- What the entities for markup have after the ampersand. -/
def entityTails
    : List String :=
  ["amp;", "lt;", "gt;"]

/-- A text that an element can have between its tags: no tag begins or ends in it, and an ampersand
is the beginning of an entity.
-/
structure IsElementText (text : String)
    : Prop where
  no_opening : '<' ∉ text.toList
  no_closing : '>' ∉ text.toList
  entity : ∀ front back,
    text.toList = front ++ '&' :: back → ∃ tail ∈ entityTails, tail.toList <+: back

/-- The characters that the text of an element stands for. -/
def decodeChars
    : List Char → List Char
  | '&' :: 'a' :: 'm' :: 'p' :: ';' :: rest => '&' :: decodeChars rest
  | '&' :: 'l' :: 't' :: ';' :: rest => '<' :: decodeChars rest
  | '&' :: 'g' :: 't' :: ';' :: rest => '>' :: decodeChars rest
  | c :: rest => c :: decodeChars rest
  | [] => []

/-- The text that the text of an element stands for. -/
def decode (text : String)
    : String :=
  String.ofList (decodeChars text.toList)

/-- A character is escaped in one of four ways. -/
theorem escapeChar_cases (c : Char)
    : (c = '&' ∧ escapeChar c = "&amp;".toList)
      ∨ (c = '<' ∧ escapeChar c = "&lt;".toList)
      ∨ (c = '>' ∧ escapeChar c = "&gt;".toList)
      ∨ (c ≠ '&' ∧ c ≠ '<' ∧ c ≠ '>' ∧ escapeChar c = [c]) := by
  rw [escapeChar]
  split
  next amp => exact Or.inl ⟨amp, rfl⟩
  next not_amp =>
    split
    next lt => exact Or.inr (Or.inl ⟨lt, rfl⟩)
    next not_lt =>
      split
      next gt => exact Or.inr (Or.inr (Or.inl ⟨gt, rfl⟩))
      next not_gt => exact Or.inr (Or.inr (Or.inr ⟨not_amp, not_lt, not_gt, rfl⟩))

theorem decodeChars_escapeChar (c : Char) (rest : List Char)
    : decodeChars (escapeChar c ++ rest) = c :: decodeChars rest := by
  rcases escapeChar_cases c with ⟨rfl, shown⟩ | ⟨rfl, shown⟩ | ⟨rfl, shown⟩
    | ⟨other, _, _, shown⟩
  · rw [shown]
    rfl
  · rw [shown]
    rfl
  · rw [shown]
    rfl
  · rw [shown, List.singleton_append]
    simp [decodeChars, other]

theorem decode_escape (s : String)
    : decode (escape s) = s := by
  have chars (cs : List Char) : decodeChars (cs.flatMap escapeChar) = cs := by
    induction cs with
    | nil => rfl
    | cons c cs ih => rw [List.flatMap_cons, decodeChars_escapeChar, ih]
  rw [decode, escape, String.toList_ofList, chars, String.ofList_toList]

theorem no_tag_in_escapeChar (c : Char)
    : '<' ∉ escapeChar c ∧ '>' ∉ escapeChar c := by
  rcases escapeChar_cases c with ⟨_, shown⟩ | ⟨_, shown⟩ | ⟨_, shown⟩
    | ⟨_, not_lt, not_gt, shown⟩
  · rw [shown]
    decide
  · rw [shown]
    decide
  · rw [shown]
    decide
  · rw [shown, List.mem_singleton, List.mem_singleton]
    exact ⟨not_lt.symm, not_gt.symm⟩

/-- An ampersand in a text that begins with an escaped character begins the entity for that
character, or stands in what follows.
-/
theorem ampersand_cases {c : Char} {rest back : List Char}
    (ampersand : '&' :: back <:+ escapeChar c ++ rest)
    : (∃ tail ∈ entityTails, back = tail.toList ++ rest) ∨ '&' :: back <:+ rest := by
  rcases escapeChar_cases c with ⟨_, shown⟩ | ⟨_, shown⟩ | ⟨_, shown⟩
    | ⟨other, _, _, shown⟩
  · refine Or.imp_left (fun here => ⟨"amp;", by decide, here⟩) ?_
    simpa [shown, List.suffix_cons_iff] using ampersand
  · refine Or.imp_left (fun here => ⟨"lt;", by decide, here⟩) ?_
    simpa [shown, List.suffix_cons_iff] using ampersand
  · refine Or.imp_left (fun here => ⟨"gt;", by decide, here⟩) ?_
    simpa [shown, List.suffix_cons_iff] using ampersand
  · right
    rw [shown, List.singleton_append, List.suffix_cons_iff] at ampersand
    exact ampersand.resolve_left (fun here => other (List.cons.inj here).1.symm)

theorem entity_of_ampersand {cs back : List Char}
    (ampersand : '&' :: back <:+ cs.flatMap escapeChar)
    : ∃ tail ∈ entityTails, tail.toList <+: back := by
  induction cs with
  | nil => simp at ampersand
  | cons c cs ih =>
      rw [List.flatMap_cons] at ampersand
      rcases ampersand_cases ampersand with ⟨tail, known, here⟩ | further
      · exact ⟨tail, known, here ▸ List.prefix_append _ _⟩
      · exact ih further

theorem isElementText_escape (s : String)
    : IsElementText (escape s) where
  no_opening := by
    rw [escape, String.toList_ofList, List.mem_flatMap]
    rintro ⟨c, _, opening⟩
    exact (no_tag_in_escapeChar c).1 opening
  no_closing := by
    rw [escape, String.toList_ofList, List.mem_flatMap]
    rintro ⟨c, _, closing⟩
    exact (no_tag_in_escapeChar c).2 closing
  entity := by
    intro front back cut
    rw [escape, String.toList_ofList] at cut
    exact entity_of_ampersand ⟨front, cut.symm⟩

/-- Escaping a text is replacing the three characters in turn, the ampersand first. -/
theorem escape_eq_replace (s : String)
    : escape s
      = Text.replace (Text.replace (Text.replace s "&" "&amp;") "<" "&lt;") ">" "&gt;" := by
  have ampersand : "&".toList = ['&'] := rfl
  have opening : "<".toList = ['<'] := rfl
  have closing : ">".toList = ['>'] := rfl
  simp only [escape, Text.replace, String.toList_ofList]
  rw [ampersand, opening, closing, Text.replaceFrom_char, Text.replaceFrom_char,
    Text.replaceFrom_char, List.flatMap_assoc, List.flatMap_assoc]
  -- No text that stands for a character has one of the characters that are replaced after it.
  congr 2
  funext c
  rcases escapeChar_cases c with ⟨rfl, _⟩ | ⟨rfl, _⟩ | ⟨rfl, _⟩
    | ⟨not_amp, not_lt, not_gt, shown⟩
  · rfl
  · rfl
  · rfl
  · simp [shown, not_amp, not_lt, not_gt]

-----------------------------------------------------------------------------------------
-- Marking a text
-----------------------------------------------------------------------------------------

/-- The parts of instance paths that are marked wherever they stand. -/
def markedParts
    : List String :=
  [ResourceId.deviceRoot, "/interface[name=", "/circuit-packs[circuit-pack-name=",
    "/ports[port-name="]

/-- A name without any part that is marked. -/
def IsPlain (name : String)
    : Prop :=
  ∀ part ∈ markedParts, ¬ part.toList <:+: name.toList

instance (name : String)
    : Decidable (IsPlain name) :=
  inferInstanceAs (Decidable (∀ part ∈ markedParts, ¬ part.toList <:+: name.toList))

/-- Marking as one pass after the other over the characters. -/
theorem toList_markedPath (s : String)
    : (markedPath s).toList
      = Text.replaceFrom "/ports[port-name=".toList "/d:ports[d:port-name=".toList 0
          (Text.replaceFrom "/circuit-packs[circuit-pack-name=".toList
            "/d:circuit-packs[d:circuit-pack-name=".toList 0
            (Text.replaceFrom "/interface[name=".toList "/d:interface[d:name=".toList 0
              (Text.replaceFrom ResourceId.deviceRoot.toList "d:org-openroadm-device".toList 0
                s.toList))) := by
  simp only [markedPath, Text.replace, String.toList_ofList]

/-- What stands left and right of a quote is marked apart. -/
theorem markedPath_quoted (s t : String)
    : markedPath (s ++ "'" ++ t) = markedPath s ++ "'" ++ markedPath t := by
  have quote : "'" = String.singleton '\'' := rfl
  rw [quote]
  simp only [markedPath]
  rw [Text.replace_append_mark (by simp [ResourceId.deviceRoot]) (by simp [ResourceId.deviceRoot]),
    Text.replace_append_mark (by simp) (by simp), Text.replace_append_mark (by simp) (by simp),
    Text.replace_append_mark (by simp) (by simp)]

theorem markedPath_of_plain {name : String} (plain : IsPlain name)
    : markedPath name = name := by
  simp only [markedPath]
  rw [Text.replace_of_absent (by simp [ResourceId.deviceRoot]) _ (plain _ (by simp [markedParts])),
    Text.replace_of_absent (by simp) _ (plain _ (by simp [markedParts])),
    Text.replace_of_absent (by simp) _ (plain _ (by simp [markedParts])),
    Text.replace_of_absent (by simp) _ (plain _ (by simp [markedParts]))]

example : IsPlain "1/0/1-PLUG-NET" := by
  decide +kernel

/-- Marking the root takes three `o` from the text each time and leaves its colons. -/
theorem exists_root_marks (s : String)
    : let marked := Text.replace s ResourceId.deviceRoot "d:org-openroadm-device"
      ∃ roots,
        marked.toList.count 'o' + 3 * roots = s.toList.count 'o'
        ∧ marked.toList.count ':' = s.toList.count ':'
        ∧ (roots = 0 → marked = s ∧ ¬ ResourceId.deviceRoot.toList <:+: s.toList) := by
  intro marked
  have filled : ResourceId.deviceRoot ≠ "" := by simp [ResourceId.deviceRoot]
  obtain ⟨roots, counts, none_found⟩ :=
    Text.exists_count_replace filled "d:org-openroadm-device" s
  have letters : marked.toList.count 'o' + roots * 6 = s.toList.count 'o' + roots * 3 := counts 'o'
  have colons : marked.toList.count ':' + roots * 1 = s.toList.count ':' + roots * 1 := counts ':'
  exact ⟨roots, by omega, by omega, none_found⟩

/-- Marking a step and its leaf adds two colons to the text each time and leaves its `o`. -/
theorem exists_leaf_marks (part marked s : String) (filled : part ≠ "")
    (letters : marked.toList.count 'o' = part.toList.count 'o')
    (colons : marked.toList.count ':' = part.toList.count ':' + 2)
    : ∃ leaves,
        (Text.replace s part marked).toList.count 'o' = s.toList.count 'o'
        ∧ (Text.replace s part marked).toList.count ':' = s.toList.count ':' + 2 * leaves
        ∧ (leaves = 0 → Text.replace s part marked = s ∧ ¬ part.toList <:+: s.toList) := by
  obtain ⟨leaves, counts, none_found⟩ := Text.exists_count_replace filled marked s
  have letters_left := counts 'o'
  have colons_left := counts ':'
  rw [letters] at letters_left
  rw [colons, Nat.mul_add] at colons_left
  exact ⟨leaves, by omega, by omega, none_found⟩

/-- The roots and the leaves that are marked in a text can be told from how often it has `o` and a
colon afterwards.
-/
theorem exists_marks (s : String)
    : ∃ roots leaves,
        (markedPath s).toList.count 'o' + 3 * roots = s.toList.count 'o'
        ∧ (markedPath s).toList.count ':' = s.toList.count ':' + 2 * leaves
        ∧ (roots = 0 → leaves = 0 → IsPlain s) := by
  simp only [markedPath]
  obtain ⟨roots, letters₁, colons₁, no_root⟩ := exists_root_marks s
  generalize Text.replace s _ _ = s₁ at *
  obtain ⟨interfaces, letters₂, colons₂, no_interface⟩ :=
    exists_leaf_marks "/interface[name=" "/d:interface[d:name=" s₁ (by decide +kernel)
      (by decide +kernel) (by decide +kernel)
  generalize Text.replace s₁ _ _ = s₂ at *
  obtain ⟨packs, letters₃, colons₃, no_pack⟩ :=
    exists_leaf_marks "/circuit-packs[circuit-pack-name=" "/d:circuit-packs[d:circuit-pack-name="
      s₂ (by decide +kernel) (by decide +kernel) (by decide +kernel)
  generalize Text.replace s₂ _ _ = s₃ at *
  obtain ⟨ports, letters₄, colons₄, no_port⟩ :=
    exists_leaf_marks "/ports[port-name=" "/d:ports[d:port-name=" s₃ (by decide +kernel)
      (by decide +kernel) (by decide +kernel)
  refine ⟨roots, interfaces + packs + ports, by omega, by omega, ?_⟩
  intro roots_zero leaves_zero
  obtain ⟨rfl, root_absent⟩ := no_root roots_zero
  obtain ⟨rfl, interface_absent⟩ := no_interface (by omega)
  obtain ⟨rfl, pack_absent⟩ := no_pack (by omega)
  obtain ⟨-, port_absent⟩ := no_port (by omega)
  simp only [IsPlain, markedParts, List.forall_mem_cons]
  exact ⟨root_absent, interface_absent, pack_absent, port_absent, List.forall_mem_nil _⟩

/-- The same of several texts together. -/
theorem exists_marks_together (texts : List String)
    : ∃ roots leaves,
        ((texts.map markedPath).flatMap String.toList).count 'o' + 3 * roots
          = (texts.flatMap String.toList).count 'o'
        ∧ ((texts.map markedPath).flatMap String.toList).count ':'
          = (texts.flatMap String.toList).count ':' + 2 * leaves
        ∧ (roots = 0 → leaves = 0 → ∀ s ∈ texts, IsPlain s) := by
  induction texts with
  | nil => exact ⟨0, 0, rfl, rfl, fun _ _ => List.forall_mem_nil _⟩
  | cons s texts ih =>
      obtain ⟨roots, leaves, letters, colons, plain⟩ := exists_marks s
      obtain ⟨roots', leaves', letters', colons', plain'⟩ := ih
      simp only [List.map_cons, List.flatMap_cons, List.count_append]
      refine ⟨roots + roots', leaves + leaves', by omega, by omega, ?_⟩
      intro no_root no_leaf
      rw [List.forall_mem_cons]
      exact ⟨plain (by omega) (by omega), plain' (by omega) (by omega)⟩

end ReadRequest

-----------------------------------------------------------------------------------------
-- Instance paths
-----------------------------------------------------------------------------------------

namespace ResourceId

/-- The names that the path of a resource states. -/
def names
    : ResourceId → List String
  | .interface name => [name]
  | .port circuitPack name => [circuitPack, name]

/-- A resource of the same sort with other names. -/
def mapNames (f : String → String)
    : ResourceId → ResourceId
  | .interface name => .interface (f name)
  | .port circuitPack name => .port (f circuitPack) (f name)

/-- The container that holds all of a device, with the mark of the name space. -/
def prefixedRoot
    : String :=
  "d:org-openroadm-device"

/-- The path of a resource with the mark of the name space at its own steps and leaves. -/
def prefixedPath
    : ResourceId → String
  | .interface name => "/" ++ prefixedRoot ++ "/d:interface[d:name='" ++ name ++ "']"
  | .port circuitPack name =>
      "/" ++ prefixedRoot ++ "/d:circuit-packs[d:circuit-pack-name='" ++ circuitPack
        ++ "']/d:ports[d:port-name='" ++ name ++ "']"

end ResourceId

namespace ReadRequest

/-- The names stand between quotes, and no part that is marked has one. -/
theorem markedPath_instancePath (r : ResourceId)
    : markedPath r.instancePath = (r.mapNames markedPath).prefixedPath := by
  have last : markedPath "]" = "]" := by decide +kernel
  cases r with
  | interface name =>
      have cut
          : (ResourceId.interface name).instancePath
            = "/" ++ ResourceId.deviceRoot ++ "/interface[name=" ++ "'" ++ name ++ "'" ++ "]" := by
        simp [ResourceId.instancePath, ← String.toList_inj]
      have first
          : markedPath ("/" ++ ResourceId.deviceRoot ++ "/interface[name=")
            = "/" ++ ResourceId.prefixedRoot ++ "/d:interface[d:name=" := by
        rw [← String.toList_inj, toList_markedPath]
        simp only [ResourceId.deviceRoot, ResourceId.prefixedRoot, String.toList_append,
          String.reduceToList]
        decide +kernel
      rw [cut, markedPath_quoted, markedPath_quoted, first, last]
      simp [ResourceId.prefixedPath, ResourceId.mapNames, ← String.toList_inj]
  | port pack name =>
      have cut
          : (ResourceId.port pack name).instancePath
            = "/" ++ ResourceId.deviceRoot ++ "/circuit-packs[circuit-pack-name=" ++ "'" ++ pack
              ++ "'" ++ "]/ports[port-name=" ++ "'" ++ name ++ "'" ++ "]" := by
        simp [ResourceId.instancePath, ← String.toList_inj]
      have first
          : markedPath ("/" ++ ResourceId.deviceRoot ++ "/circuit-packs[circuit-pack-name=")
            = "/" ++ ResourceId.prefixedRoot ++ "/d:circuit-packs[d:circuit-pack-name=" := by
        rw [← String.toList_inj, toList_markedPath]
        simp only [ResourceId.deviceRoot, ResourceId.prefixedRoot, String.toList_append,
          String.reduceToList]
        decide +kernel
      have middle : markedPath "]/ports[port-name=" = "]/d:ports[d:port-name=" := by
        rw [← String.toList_inj, toList_markedPath]
        simp only [ResourceId.deviceRoot, String.reduceToList]
        decide +kernel
      rw [cut, markedPath_quoted, markedPath_quoted, markedPath_quoted, markedPath_quoted, first,
        middle, last]
      simp [ResourceId.prefixedPath, ResourceId.mapNames, ← String.toList_inj]

theorem mapNames_of_plain {r : ResourceId} (plain : ∀ name ∈ r.names, IsPlain name)
    : r.mapNames markedPath = r := by
  cases r with
  | interface name =>
      rw [ResourceId.mapNames, markedPath_of_plain (plain name (by simp [ResourceId.names]))]
  | port pack name =>
      rw [ResourceId.mapNames, markedPath_of_plain (plain pack (by simp [ResourceId.names])),
        markedPath_of_plain (plain name (by simp [ResourceId.names]))]

/-- A resource with other names but the same path has each character as often in its names
together, as the rest of the path is the same.
-/
theorem count_names_of_same_path {r : ResourceId} {f : String → String}
    (same : (r.mapNames f).prefixedPath = r.prefixedPath) (c : Char)
    : ((r.names.map f).flatMap String.toList).count c
      = (r.names.flatMap String.toList).count c := by
  have counts := congrArg (fun path => path.toList.count c) same
  cases r with
  | interface name =>
      simp only [ResourceId.mapNames, ResourceId.prefixedPath, String.toList_append,
        List.count_append] at counts
      simp only [ResourceId.names, List.map_cons, List.map_nil, List.flatMap_cons,
        List.flatMap_nil, List.append_nil]
      omega
  | port pack name =>
      simp only [ResourceId.mapNames, ResourceId.prefixedPath, String.toList_append,
        List.count_append] at counts
      simp only [ResourceId.names, List.map_cons, List.map_nil, List.flatMap_cons,
        List.flatMap_nil, List.append_nil, List.count_append]
      omega

/-- The path has the names as they are exactly if none of them has a part that is marked. -/
theorem prefixedPath_marked_iff {r : ResourceId}
    : (r.mapNames markedPath).prefixedPath = r.prefixedPath
      ↔ ∀ name ∈ r.names, IsPlain name := by
  constructor
  · intro same
    -- Two ports can have one path, so that the names need not be the same one by one; what they
    -- count together is.
    have letters := count_names_of_same_path same 'o'
    have colons := count_names_of_same_path same ':'
    obtain ⟨roots, leaves, fewer, more, plain⟩ := exists_marks_together r.names
    exact plain (by omega) (by omega)
  · intro plain
    rw [mapNames_of_plain plain]

-----------------------------------------------------------------------------------------
-- Filters
-----------------------------------------------------------------------------------------

/-- What the filter of a telemetry read has before the text for its resource. -/
def filterHead (type : ResourceType)
    : String :=
  "<current-pm-list xmlns=\"http://org/openroadm/pm\"><current-pm-entry>"
    ++ "<pm-resource-type>" ++ type.word ++ "</pm-resource-type>"
    ++ "<pm-resource-type-extension></pm-resource-type-extension>"
    ++ "<pm-resource-instance xmlns:d=\"http://org/openroadm/device\">"

/-- What the filter of a telemetry read has after the text for its resource. -/
def filterTail
    : String :=
  "</pm-resource-instance></current-pm-entry></current-pm-list>"

/-- The text between the tags of the instance is well formed, and stands for the path with the mark
of the name space at its steps and leaves and in the names; it has the names as they are exactly
if none of them has a part that is marked.
-/
theorem filter_text_decodes (r : ResourceId)
    : ∃ text,
        (currentPm r).subtreeFilter = filterHead r.type ++ text ++ filterTail
        ∧ IsElementText text
        ∧ decode text = (r.mapNames markedPath).prefixedPath
        ∧ (decode text = r.prefixedPath ↔ ∀ name ∈ r.names, IsPlain name) := by
  have decoded : decode (escape (markedPath r.instancePath))
      = (r.mapNames markedPath).prefixedPath := by
    rw [decode_escape, markedPath_instancePath]
  refine ⟨escape (markedPath r.instancePath), rfl, isElementText_escape _, decoded, ?names⟩
  case names => rw [decoded, prefixedPath_marked_iff]

/-- A name that has a step of a path in it is marked there. -/
theorem filter_marks_interface_name
    : let r := ResourceId.interface "x/interface[name=y"
      let text := "/d:org-openroadm-device/d:interface[d:name='x/d:interface[d:name=y']"
      (currentPm r).subtreeFilter = filterHead r.type ++ text ++ filterTail
      ∧ decode text = text
      ∧ decode text ≠ r.prefixedPath := by
  intro r text
  -- The kernel compares characters much faster than texts.
  have marked : escape (markedPath r.instancePath) = text := by
    rw [← String.toList_inj, escape, String.toList_ofList, toList_markedPath]
    simp only [r, text, ResourceId.instancePath, ResourceId.deviceRoot, String.toList_append,
      String.reduceToList]
    decide +kernel
  have decoded : decode text = text := by
    rw [← String.toList_inj, decode, String.toList_ofList]
    simp only [text, String.reduceToList]
    decide +kernel
  have other : text ≠ r.prefixedPath := by
    rw [← String.toList_inj.ne]
    simp only [r, text, ResourceId.prefixedPath, ResourceId.prefixedRoot, String.toList_append,
      String.reduceToList]
    decide +kernel
  refine ⟨?filter, decoded, ?other⟩
  case filter =>
    rw [← marked]
    rfl
  case other =>
    rw [decoded]
    exact other

end ReadRequest

end Lightpath
