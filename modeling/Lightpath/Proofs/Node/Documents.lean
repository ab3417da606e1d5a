import Lightpath.Node.PortTable
import Lightpath.Proofs.Json.Members
import Lightpath.Proofs.Json.WrittenRecords

/-!
Port tables written as documents and read back. What is left out for being empty or absent is read
as that, so a table comes back whole from every document in which a controller may hand it out.
-/

namespace Lightpath

-----------------------------------------------------------------------------------------
-- Numbers of their widths
-----------------------------------------------------------------------------------------

/-- The number of a group has 32 bits, its bandwidths have 64. -/
structure PoolGroup.Fits (g : PoolGroup)
    : Prop where
  number : g.number < UInt32.size
  bandwidthUnit : ∀ n ∈ g.bandwidthUnit, n < UInt64.size
  bandwidth : ∀ n ∈ g.bandwidth, n < UInt64.size

/-- The number of a pool has 32 bits, and its groups fit. -/
structure SwitchingPool.Fits (pool : SwitchingPool)
    : Prop where
  number : pool.number < UInt32.size
  groups : ∀ g ∈ pool.groups, g.Fits

/-- The numbers in a table have the widths that tables have room for. -/
def PortTable.Fits (t : PortTable)
    : Prop :=
  ∀ pool ∈ t.pools, pool.Fits

-----------------------------------------------------------------------------------------
-- Parts of a table
-----------------------------------------------------------------------------------------

/-- Every port is read back from its document. -/
theorem Port.ofJson?_toJson (p : Port)
    : ofJson? p.toJson = some p := by
  rw [ofJson?, toJson, JsonRecord.ofJson?_ofFields]
  simp only [Option.bind_eq_bind, Option.bind_some, Option.bind_eq_some_iff]
  exact ⟨
    p.name, JsonRecord.required_text (by simp) (by simp),
    p.qualifierText, JsonRecord.optional_text (by simp) (by simp),
    p.xponderText, JsonRecord.optional_text (by simp) (by simp),
    p.direction, JsonRecord.optional_text (by simp) (by simp),
    p.circuitPack, JsonRecord.orElse_text (by simp) (by simp),
    p.supportingPort, JsonRecord.orElse_text (by simp) (by simp),
    p.connectionMap, JsonRecord.optional_text (by simp) (by simp),
    p.partner, JsonRecord.optional_text (by simp) (by simp),
    p.capabilityTexts, JsonRecord.orElse_texts (by simp) (by simp),
    p.adminState, JsonRecord.optional_text (by simp) (by simp),
    p.operState, JsonRecord.optional_text (by simp) (by simp),
    rfl⟩

/-- What a node says of itself is read back from its document. -/
theorem NodeInfo.ofJson?_toJson (info : NodeInfo)
    : ofJson? info.toJson = some info := by
  rw [ofJson?, toJson, JsonRecord.ofJson?_ofFields]
  simp only [Option.bind_eq_bind, Option.bind_some, Option.bind_eq_some_iff]
  exact ⟨
    info.nodeType, JsonRecord.optional_text (by simp) (by simp),
    info.modelVersion, JsonRecord.optional_text (by simp) (by simp),
    info.clli, JsonRecord.optional_text (by simp) (by simp),
    info.vendor, JsonRecord.optional_text (by simp) (by simp),
    info.model, JsonRecord.optional_text (by simp) (by simp),
    rfl⟩

/-- A group is read back from its document, also one without ports. -/
theorem PoolGroup.ofJson?_toJson {g : PoolGroup} (fits : g.Fits)
    : ofJson? g.toJson = some g := by
  rw [ofJson?, toJson, JsonRecord.ofJson?_ofFields]
  simp only [Option.bind_eq_bind, Option.bind_some, Option.bind_eq_some_iff]
  exact ⟨
    g.number, JsonRecord.required_written (by simp) (by simp) (Json.natBelow?_ofNat fits.number),
    g.ports, JsonRecord.orElse_written (by simp) (by simp) (Json.list?_ofStrings g.ports),
    g.bandwidthUnit, JsonRecord.optional_nat (by simp) (by simp) fits.bandwidthUnit,
    g.bandwidth, JsonRecord.optional_nat (by simp) (by simp) fits.bandwidth,
    rfl⟩

/-- A pool is read back from its document, also one without groups. -/
theorem SwitchingPool.ofJson?_toJson {pool : SwitchingPool} (fits : pool.Fits)
    : ofJson? pool.toJson = some pool := by
  have groups := Json.list?_map fun g member => PoolGroup.ofJson?_toJson (fits.groups g member)
  rw [ofJson?, toJson, JsonRecord.ofJson?_ofFields]
  simp only [Option.bind_eq_bind, Option.bind_some, Option.bind_eq_some_iff]
  exact ⟨
    pool.number, JsonRecord.required_written (by simp) (by simp) (Json.natBelow?_ofNat fits.number),
    pool.kindText, JsonRecord.required_text (by simp) (by simp),
    pool.groups, JsonRecord.orElse_written (by simp) (by simp) groups,
    rfl⟩

/-- A table is read back from its document. -/
theorem PortTable.ofJson?_toJson {t : PortTable} (fits : t.Fits)
    : ofJson? t.toJson = some t := by
  have ports := Json.list?_map fun p (_ : p ∈ t.ports) => p.ofJson?_toJson
  have pools := Json.list?_map fun pool member => SwitchingPool.ofJson?_toJson (fits pool member)
  rw [ofJson?, toJson, JsonRecord.ofJson?_ofFields]
  simp only [Option.bind_eq_bind, Option.bind_some, Option.bind_eq_some_iff]
  exact ⟨
    t.node, JsonRecord.required_text (by simp) (by simp),
    t.info, JsonRecord.orElse_written (by simp) (by simp) t.info.ofJson?_toJson,
    t.ports, JsonRecord.orElse_written (by simp) (by simp) ports,
    t.pools, JsonRecord.orElse_written (by simp) (by simp) pools,
    rfl⟩

-----------------------------------------------------------------------------------------
-- What is read fits
-----------------------------------------------------------------------------------------

theorem PoolGroup.fits_of_ofJson? {v : Json} {g : PoolGroup} (given : ofJson? v = some g)
    : g.Fits := by
  simp only [ofJson?, Option.bind_eq_bind, Option.bind_eq_some_iff] at given
  obtain ⟨r, -, number, numbered, ports, -, unit, united, bandwidth, stated, same⟩ := given
  cases same
  obtain ⟨v, read⟩ := JsonRecord.exists_of_required numbered
  refine ⟨Json.lt_of_natBelow? read, ?unit, ?bandwidth⟩
  case unit =>
    intro n member
    obtain ⟨v, read⟩ := JsonRecord.exists_of_optional united member
    exact Json.lt_of_natBelow? read
  case bandwidth =>
    intro n member
    obtain ⟨v, read⟩ := JsonRecord.exists_of_optional stated member
    exact Json.lt_of_natBelow? read

theorem SwitchingPool.fits_of_ofJson? {v : Json} {pool : SwitchingPool}
    (given : ofJson? v = some pool)
    : pool.Fits := by
  simp only [ofJson?, Option.bind_eq_bind, Option.bind_eq_some_iff] at given
  obtain ⟨r, -, number, numbered, kind, -, groups, listed, same⟩ := given
  cases same
  obtain ⟨v, read⟩ := JsonRecord.exists_of_required numbered
  refine ⟨Json.lt_of_natBelow? read, ?_⟩
  intro g member
  rcases JsonRecord.exists_of_orElse listed with empty | ⟨w, items⟩
  · simp [empty] at member
  · obtain ⟨u, group⟩ := Json.exists_of_list? items g member
    exact PoolGroup.fits_of_ofJson? group

/-- Every table that is read has numbers of the widths for them. -/
theorem PortTable.fits_of_ofJson? {v : Json} {t : PortTable} (given : ofJson? v = some t)
    : t.Fits := by
  simp only [ofJson?, Option.bind_eq_bind, Option.bind_eq_some_iff] at given
  obtain ⟨r, -, node, -, info, -, ports, -, pools, listed, same⟩ := given
  cases same
  intro pool member
  rcases JsonRecord.exists_of_orElse listed with empty | ⟨w, items⟩
  · simp [empty] at member
  · obtain ⟨u, read⟩ := Json.exists_of_list? items pool member
    exact SwitchingPool.fits_of_ofJson? read

-----------------------------------------------------------------------------------------
-- Documents of a controller
-----------------------------------------------------------------------------------------

namespace PortTable

/-- The documents that carry a content: the content itself, and one with it inside `data`. -/
def carriers (content : Json)
    : List Json :=
  [content, Json.ofMembers [("data", content)]]

/-- A content under each of the names that a list of nodes may have. -/
def named (content : Json)
    : List Json :=
  [Json.ofMembers [("transportpce-portmapping:nodes", content)],
    Json.ofMembers [("nodes", content)],
    Json.ofMembers [("node", content)]]

/-- The contents that list tables. -/
def listings (tables : List PortTable)
    : List Json :=
  named (.array (tables.map toJson))

/-- The contents that state a single table: its own document, alone or in place of a list. -/
def statements (t : PortTable)
    : List Json :=
  t.toJson :: named t.toJson

/-- The names are those under which nodes are looked for. -/
theorem mem_named_iff {content document : Json}
    : document ∈ named content ↔ ∃ key ∈ nodeKeys, document = Json.ofMembers [(key, content)] := by
  simp [named, nodeKeys]

/-- The tables of a document are those of the nodes in its content, which may be inside `data`. -/
theorem ofDocument_eq_ok_iff {document : Json} {tables : List PortTable}
    : ofDocument document = .ok tables
      ↔ ∃ nodes,
          nodesIn ((document.get? "data").getD document) = .ok nodes
          ∧ Json.list? ofJson? (.array nodes) = some tables := by
  cases found : nodesIn ((document.get? "data").getD document) with
  | error e => simp [ofDocument, found, bind, Except.bind]
  | ok nodes =>
      simp only [ofDocument, found, bind, Except.bind, Except.ok.injEq, exists_eq_left', Json.list?]
      cases nodes.mapM ofJson? <;> simp

/-- A name for lists of nodes is found among these names, and is not `data`. -/
theorem single_of_mem_nodeKeys {key : String} (listed : key ∈ nodeKeys) (v : Json)
    : nodeKeys.findSome? (Json.ofMembers [(key, v)]).get? = some v
      ∧ (Json.ofMembers [(key, v)]).get? "data" = none := by
  simp only [nodeKeys, List.mem_cons, List.not_mem_nil, or_false] at listed
  rcases listed with same | same | same <;>
    subst same <;>
      simp [nodeKeys, Json.get?_single]

theorem nodesIn_list {key : String} (listed : key ∈ nodeKeys) (nodes : List Json)
    : nodesIn (Json.ofMembers [(key, .array nodes)]) = .ok nodes := by
  rw [nodesIn, (single_of_mem_nodeKeys listed _).1]

/-- A node in place of a list is the only one. -/
theorem nodesIn_node {key : String} (listed : key ∈ nodeKeys) (t : PortTable)
    : nodesIn (Json.ofMembers [(key, t.toJson)]) = .ok [t.toJson] := by
  rw [nodesIn, (single_of_mem_nodeKeys listed _).1]
  rfl

/-- The document of a table has no member that would make it one with a list of nodes or with
`data`, and it states the node.
-/
theorem nodesIn_bare (t : PortTable)
    : nodesIn t.toJson = .ok [t.toJson] ∧ t.toJson.get? "data" = none := by
  have unlisted : nodeKeys.findSome? t.toJson.get? = none := by
    rw [List.findSome?_eq_none_iff]
    intro key listed
    apply Json.get?_ofFields_eq_none
    simp only [nodeKeys, List.mem_cons, List.not_mem_nil, or_false] at listed
    rcases listed with same | same | same <;> simp [same]
  have node : t.toJson.get? "node-id" = some (.string t.node) :=
    Json.get?_ofFields (by simp) (by simp)
  refine ⟨?_, Json.get?_ofFields_eq_none (by simp)⟩
  rw [nodesIn, unlisted, node]
  rfl

/-- Nodes that are the documents of tables are read as these tables. -/
theorem ofDocument_of_nodes {content document : Json} {tables : List PortTable}
    (carried : document ∈ carriers content) (plain : content.get? "data" = none)
    (nodes : nodesIn content = .ok (tables.map toJson)) (fits : ∀ t ∈ tables, t.Fits)
    : ofDocument document = .ok tables := by
  have read := Json.list?_map fun t member => ofJson?_toJson (fits t member)
  refine ofDocument_eq_ok_iff.mpr ⟨_, ?_, read⟩
  rcases List.mem_cons.mp carried with bare | inside
  · rw [bare, plain]
    exact nodes
  · rw [List.mem_singleton.mp inside, Json.get?_single, if_pos rfl]
    exact nodes

/-- Tables are restored from every document that lists them, and a single one from every document
that states it. Only numbers too wide for a table could be lost, and none such are ever read.
-/
theorem ofDocument_restores_tables
    : (∀ tables : List PortTable, (∀ t ∈ tables, t.Fits) →
          ∀ content ∈ listings tables, ∀ document ∈ carriers content,
            ofDocument document = .ok tables)
      ∧ (∀ t : PortTable, t.Fits →
          ∀ content ∈ statements t, ∀ document ∈ carriers content,
            ofDocument document = .ok [t])
      ∧ ∀ document tables, ofDocument document = .ok tables → ∀ t ∈ tables, t.Fits := by
  refine ⟨?lists, ?single, ?read⟩
  case lists =>
    intro tables fits content listing document carried
    obtain ⟨key, listed, rfl⟩ := mem_named_iff.mp listing
    exact ofDocument_of_nodes carried (single_of_mem_nodeKeys listed _).2
      (nodesIn_list listed _) fits
  case single =>
    intro t fits content statement document carried
    have alone : ∀ u ∈ [t], u.Fits := by simpa using fits
    rcases List.mem_cons.mp statement with bare | placed
    · subst bare
      obtain ⟨nodes, plain⟩ := nodesIn_bare t
      exact ofDocument_of_nodes carried plain nodes alone
    · obtain ⟨key, listed, rfl⟩ := mem_named_iff.mp placed
      exact ofDocument_of_nodes carried (single_of_mem_nodeKeys listed _).2
        (nodesIn_node listed t) alone
  case read =>
    intro document tables given t member
    obtain ⟨nodes, -, read⟩ := ofDocument_eq_ok_iff.mp given
    obtain ⟨node, restored⟩ := Json.exists_of_list? read t member
    exact fits_of_ofJson? restored

/-- A table of a switch with a client in a group of its own, one group empty. -/
def switchTable
    : PortTable :=
  { node := "XPDR-A"
    info := { nodeType := some "xpdr", modelVersion := some "7.1" }
    ports := [
      { name := "XPDR2-NETWORK1", xponderText := some "switch",
        capabilityTexts := ["if-OTU4-ODU4", "if-100GE"] },
      { name := "XPDR2-CLIENT1", supportingPort := "C1", connectionMap := some "XPDR2-NETWORK1" }]
    pools := [{
      number := 1
      kindText := "blocking"
      groups := [
        { number := 1, ports := ["XPDR2-NETWORK1", "XPDR2-CLIENT1"],
          bandwidthUnit := some 100000000000 },
        { number := 2 }] }] }

/-- The table of a switch comes back from the lists under two names, from its bare document inside
`data`, and from its document in place of a list.
-/
theorem ofDocument_restores_tables_switch
    : switchTable.Fits
      ∧ ofDocument
          (Json.ofMembers [("data", Json.ofMembers [("nodes", .array [switchTable.toJson])])])
        = .ok [switchTable]
      ∧ ofDocument
          (Json.ofMembers [("transportpce-portmapping:nodes", .array [switchTable.toJson])])
        = .ok [switchTable]
      ∧ ofDocument (Json.ofMembers [("data", switchTable.toJson)]) = .ok [switchTable]
      ∧ ofDocument (Json.ofMembers [("node", switchTable.toJson)]) = .ok [switchTable]
      ∧ ∀ t ∈ [switchTable], t.Fits := by
  have fits : switchTable.Fits := by
    intro pool member
    rw [List.mem_singleton.mp member]
    refine ⟨by decide, ?_⟩
    intro g listed
    rcases List.mem_cons.mp listed with same | last
    · rw [same]
      exact ⟨by decide, by decide, by decide⟩
    · rw [List.mem_singleton.mp last]
      exact ⟨by decide, by decide, by decide⟩
  have alone : ∀ t ∈ [switchTable], t.Fits := by simpa using fits
  obtain ⟨lists, single, read⟩ := ofDocument_restores_tables
  have plain : ∀ content : Json, content ∈ carriers content := fun _ => by simp [carriers]
  have inData : ∀ content, Json.ofMembers [("data", content)] ∈ carriers content :=
    fun _ => by simp [carriers]
  refine ⟨fits, lists _ alone _ ?nodes _ (inData _), lists _ alone _ ?prefixed _ (plain _),
    single _ fits _ ?bare _ (inData _), single _ fits _ ?placed _ (plain _), ?_⟩
  case nodes => simp [listings, named]
  case prefixed => simp [listings, named]
  case bare => simp [statements]
  case placed => simp [statements, named]
  exact read _ _ (single _ fits _ (by simp [statements]) switchTable.toJson (plain _))

end PortTable

end Lightpath
