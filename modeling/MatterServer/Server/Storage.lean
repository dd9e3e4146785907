import MatterServer.Server.Commands

/-!
# The node store

The node half of `storage.JSONStorage` and `Server.loadNodes`. The store keeps a
`map[int]*models.MatterNodeData`; `Start` fills it with whatever `json.Unmarshal` stores from
`nodes.json` (nothing when the file is missing or empty), `SaveNode` puts a copy under the record's
own `NodeID`, `DeleteNode` deletes a key, and the server's `loadNodes` re-keys every record of
`GetNodes` by its `NodeID`. A JSON `null` decodes to a nil pointer, which `GetNode` and `GetNodes`
dereference; the model's `none` for their result is that panic. The file writes that follow every
change return their error to the caller and leave the map as it is; they are not modelled.

Nothing in the loader compares a key with the record's `NodeID`. The store keeps keys and IDs
together (`KeysMatch`) when it starts from a file in which they agree, as every file `saveNodes`
writes does: `SaveNode` and `DeleteNode` keep that (`KeysMatch.saveNode`,
`KeysMatch.deleteNode`), so every reachable store does, and `loadNodes` then rebuilds the
store's map exactly. A file that files a record under another key breaks it from the start.
-/

namespace MatterServer.Server

/-- `JSONStorage.nodes`: a nil pointer is `none`. -/
abbrev StoredNodes := AList fun _ : Int => Option MatterNodeData

/-- The node half of `JSONStorage`. -/
structure JSONStorage where
  nodes : StoredNodes

/-- `Start()` on the node file: `NewJSONStorage`'s empty map, into which `json.Unmarshal` stored
`decoded`. -/
def JSONStorage.start (decoded : StoredNodes) : JSONStorage := ⟨decoded⟩

/-- `GetNode(nodeID)`: a copy of the record, `node %d not found`, or (`none`) the panic of
dereferencing a nil pointer. -/
def JSONStorage.getNode (s : JSONStorage) (nodeID : Int) : Option (Except Int MatterNodeData) :=
  match s.nodes.lookup nodeID with
  | none => some (.error nodeID)
  | some none => none
  | some (some node) => some (.ok node)

/-- `GetNodes()`: a copy of every record, or (`none`) the panic at a nil pointer. -/
def JSONStorage.getNodes (s : JSONStorage) : Option (List MatterNodeData) :=
  s.nodes.entries.mapM Sigma.snd

/-- `SaveNode(node)`: a copy of the record under its own ID. -/
def JSONStorage.saveNode (s : JSONStorage) (node : MatterNodeData) : JSONStorage :=
  ⟨s.nodes.insert node.nodeId (some node)⟩

/-- `DeleteNode(nodeID)`. -/
def JSONStorage.deleteNode (s : JSONStorage) (nodeID : Int) : JSONStorage :=
  ⟨s.nodes.erase nodeID⟩

/-- A call that changes the store. -/
inductive StorageOp
  | saveNode (node : MatterNodeData)
  | deleteNode (nodeID : Int)

/-- One call. -/
def JSONStorage.apply (s : JSONStorage) : StorageOp → JSONStorage
  | .saveNode node => s.saveNode node
  | .deleteNode nodeID => s.deleteNode nodeID

/-- Calls one after the other. -/
def JSONStorage.run (s : JSONStorage) (ops : List StorageOp) : JSONStorage := ops.foldl apply s

/-- `Server.loadNodes`: every record `GetNodes` returns, put into the registry under its
`NodeID`, in the order `GetNodes` returns them. -/
def loadNodes (registry : NodeMap) (storage : JSONStorage) : Option NodeMap :=
  storage.getNodes.map fun nodes => nodes.foldl (fun m node => m.insert node.nodeId node) registry

/-! ## Keys and IDs -/

/-- Every key holds a record, and the record's `NodeID` is the key. -/
def KeysMatch (m : StoredNodes) : Prop :=
  ∀ k v, m.lookup k = some v → ∃ node, v = some node ∧ node.nodeId = k

/-- `SaveNode` keeps keys and IDs together. -/
theorem KeysMatch.saveNode {s : JSONStorage} (h : KeysMatch s.nodes) (node : MatterNodeData) :
    KeysMatch (s.saveNode node).nodes := by
  intro k v hk
  by_cases hid : k = node.nodeId
  · subst hid
    rw [JSONStorage.saveNode, AList.lookup_insert] at hk
    exact ⟨node, (Option.some.inj hk).symm, rfl⟩
  · rw [JSONStorage.saveNode, AList.lookup_insert_ne hid] at hk
    exact h k v hk

/-- `DeleteNode` keeps keys and IDs together. -/
theorem KeysMatch.deleteNode {s : JSONStorage} (h : KeysMatch s.nodes) (nodeID : Int) :
    KeysMatch (s.deleteNode nodeID).nodes := by
  intro k v hk
  by_cases hid : k = nodeID
  · subst hid
    rw [JSONStorage.deleteNode, AList.lookup_erase] at hk
    cases hk
  · rw [JSONStorage.deleteNode, AList.lookup_erase_ne hid] at hk
    exact h k v hk

/-- Every sequence of calls keeps keys and IDs together. -/
theorem KeysMatch.run {s : JSONStorage} (h : KeysMatch s.nodes) :
    ∀ ops : List StorageOp, KeysMatch (s.run ops).nodes
  | [] => h
  | .saveNode node :: ops => KeysMatch.run (s := s.saveNode node) (h.saveNode node) ops
  | .deleteNode nodeID :: ops => KeysMatch.run (s := s.deleteNode nodeID) (h.deleteNode nodeID) ops

/-- The entries of a map whose keys match: `GetNodes` dereferences no nil pointer, every record
it returns is the one filed under its `NodeID`, and putting its records into a registry by
`NodeID` sets each key of the map to that key's record. -/
theorem getNodes_loadNodes (registry : NodeMap) :
    ∀ l : List (Σ _ : Int, Option MatterNodeData), l.NodupKeys →
      (∀ e ∈ l, ∃ node, e.2 = some node ∧ node.nodeId = e.1) →
      ∃ nodes, l.mapM Sigma.snd = some nodes ∧
        (∀ node ∈ nodes, l.dlookup node.nodeId = some (some node)) ∧ ∀ k,
          (nodes.foldl (fun m node => m.insert node.nodeId node) registry).lookup k =
            match l.dlookup k with
            | some (some node) => some node
            | _ => registry.lookup k
  | [], _, _ => ⟨[], rfl, nofun, fun _ => rfl⟩
  | ⟨a, v⟩ :: t, hnd, hk => by
    rw [List.nodupKeys_cons] at hnd
    obtain ⟨node, rfl, hid⟩ := hk _ (List.mem_cons_self _ _)
    obtain ⟨nodes, hm, hmem, hl⟩ := getNodes_loadNodes (registry.insert a node) t hnd.2
      fun e he => hk e (List.mem_cons_of_mem _ he)
    refine ⟨node :: nodes, by rw [List.mapM_cons, hm]; rfl, ?_, fun k => ?_⟩
    · -- each record sits under its `NodeID`; the tail's IDs are not the head's key
      rintro node' (_ | ⟨_, hn⟩)
      · rw [hid, List.dlookup_cons_eq]
      · have hne : node'.nodeId ≠ a := fun he =>
          hnd.1 (he ▸ List.dlookup_isSome.mp (by rw [hmem node' hn]; rfl))
        rw [List.dlookup_cons_ne _ _ hne, hmem node' hn]
    · rw [List.foldl_cons, hid, hl]
      by_cases hka : k = a
      · subst hka
        rw [List.dlookup_eq_none.mpr hnd.1, List.dlookup_cons_eq, AList.lookup_insert]
      · rw [List.dlookup_cons_ne _ _ hka, AList.lookup_insert_ne hka]

section KeysMatch

variable {s : JSONStorage} (h : KeysMatch s.nodes)
include h

/-- `GetNodes` on a store whose keys match, as `getNodes_loadNodes` gives it. -/
theorem KeysMatch.getNodes (registry : NodeMap) :
    ∃ nodes, s.getNodes = some nodes ∧
      (∀ node ∈ nodes, s.nodes.lookup node.nodeId = some (some node)) ∧ ∀ k,
        (nodes.foldl (fun m node => m.insert node.nodeId node) registry).lookup k =
          match s.nodes.lookup k with
          | some (some node) => some node
          | _ => registry.lookup k :=
  getNodes_loadNodes registry s.nodes.entries s.nodes.nodupKeys fun e he =>
    h e.1 e.2 (AList.mem_lookup_iff.mpr he)

/-- `GetNode(k)` does not panic, and a record it returns has `NodeID` `k`. -/
theorem KeysMatch.getNode (k : Int) :
    s.getNode k ≠ none ∧ ∀ node, s.getNode k = some (.ok node) → node.nodeId = k := by
  unfold JSONStorage.getNode
  cases hl : s.nodes.lookup k with
  | none => simp
  | some v =>
    obtain ⟨node, rfl, hid⟩ := h k v hl
    simp only [ne_eq, reduceCtorEq, not_false_eq_true, Option.some.injEq, Except.ok.injEq,
      true_and]
    exact fun _ he => he ▸ hid

/-- After `DeleteNode(nodeID)`, `GetNodes` returns no record with that ID. -/
theorem KeysMatch.deleteNode_removes (nodeID : Int) :
    ∃ rest, (s.deleteNode nodeID).getNodes = some rest ∧ ∀ node ∈ rest, node.nodeId ≠ nodeID := by
  obtain ⟨rest, hrest, hmem, -⟩ := (h.deleteNode nodeID).getNodes ∅
  refine ⟨rest, hrest, fun node hr hid => ?_⟩
  have hgone := hmem node hr
  rw [hid, JSONStorage.deleteNode, AList.lookup_erase] at hgone
  cases hgone

/-- `loadNodes` into the empty registry keeps exactly the store's keys, each with its record. -/
theorem KeysMatch.loadNodes_keys :
    ∃ registry, loadNodes ∅ s = some registry ∧ (∀ k, k ∈ registry ↔ k ∈ s.nodes) ∧
      ∀ k node, registry.lookup k = some node ↔ s.nodes.lookup k = some (some node) := by
  obtain ⟨nodes, hs, -, hl⟩ := h.getNodes ∅
  refine ⟨_, by rw [loadNodes, hs]; rfl, fun k => ?_, fun k node => ?_⟩
  · rw [← AList.lookup_isSome, ← AList.lookup_isSome, hl]
    cases hk : s.nodes.lookup k with
    | none => rfl
    | some v => obtain ⟨_, rfl, -⟩ := h k v hk; rfl
  · rw [hl]
    cases s.nodes.lookup k with
    | none => simp
    | some v => cases v <;> simp

end KeysMatch

/-- Started from a node file whose keys are the records' IDs, the store keeps keys and IDs
together through every sequence of `SaveNode` and `DeleteNode` calls, and so `GetNode(k)` never
panics and returns only a record with `NodeID` `k`, `DeleteNode(r.NodeID)` takes out each record
`r` of `GetNodes`, and `loadNodes` into the empty registry keeps exactly the store's keys, each
with its record. -/
theorem jsonStorage_keysMatch (decoded : StoredNodes) (hdec : KeysMatch decoded)
    (ops : List StorageOp) :
    let s := (JSONStorage.start decoded).run ops
    KeysMatch s.nodes ∧
      (∀ k, s.getNode k ≠ none ∧ ∀ node, s.getNode k = some (.ok node) → node.nodeId = k) ∧
      (∃ nodes, s.getNodes = some nodes ∧
        ∀ node ∈ nodes, ∃ rest, (s.deleteNode node.nodeId).getNodes = some rest ∧ node ∉ rest) ∧
      ∃ registry, loadNodes ∅ s = some registry ∧ (∀ k, k ∈ registry ↔ k ∈ s.nodes) ∧
        ∀ k node, registry.lookup k = some node ↔ s.nodes.lookup k = some (some node) := by
  intro s
  have h : KeysMatch s.nodes := KeysMatch.run (s := JSONStorage.start decoded) hdec ops
  obtain ⟨nodes, hs, -⟩ := h.getNodes ∅
  refine ⟨h, h.getNode, ⟨nodes, hs, fun node _ => ?_⟩, h.loadNodes_keys⟩
  obtain ⟨rest, hrest, hne⟩ := h.deleteNode_removes node.nodeId
  exact ⟨rest, hrest, fun hn => hne node hn rfl⟩

/-- `nodes.json` holding node 1 under its own ID. -/
def nodeOneFile : StoredNodes := AList.insert 1 (some nodeOne) ∅

/-- Node 2. -/
def nodeTwo : MatterNodeData := { nodeOne with nodeId := 2 }

theorem jsonStorage_keysMatch_nodeOneFile :
    KeysMatch nodeOneFile ∧
      let s := (JSONStorage.start nodeOneFile).run [.saveNode nodeTwo, .deleteNode 1]
      KeysMatch s.nodes ∧
        (∀ k, s.getNode k ≠ none ∧ ∀ node, s.getNode k = some (.ok node) → node.nodeId = k) ∧
        (∃ nodes, s.getNodes = some nodes ∧
          ∀ node ∈ nodes, ∃ rest, (s.deleteNode node.nodeId).getNodes = some rest ∧
            node ∉ rest) ∧
        ∃ registry, loadNodes ∅ s = some registry ∧ (∀ k, k ∈ registry ↔ k ∈ s.nodes) ∧
          ∀ k node, registry.lookup k = some node ↔ s.nodes.lookup k = some (some node) :=
  have hfile : KeysMatch nodeOneFile :=
    KeysMatch.saveNode (s := ⟨∅⟩) (fun _ _ he => nomatch he) nodeOne
  ⟨hfile, jsonStorage_keysMatch nodeOneFile hfile [.saveNode nodeTwo, .deleteNode 1]⟩

/-- `nodes.json` filing node 2 under key 1, which `json.Unmarshal` accepts. -/
def misfiledFile : StoredNodes := AList.insert 1 (some nodeTwo) ∅

/-- From that file, `GetNode(1)` returns node 2, `DeleteNode(2)` leaves it in the store, and
`loadNodes` files it under 2, a key the store does not have. -/
theorem jsonStorage_misfiled :
    (JSONStorage.start misfiledFile).getNode 1 = some (.ok nodeTwo) ∧ nodeTwo.nodeId = 2 ∧
      ((JSONStorage.start misfiledFile).deleteNode nodeTwo.nodeId).getNodes = some [nodeTwo] ∧
      (loadNodes ∅ (JSONStorage.start misfiledFile)).map AList.keys = some [2] ∧
      (JSONStorage.start misfiledFile).nodes.keys = [1] :=
  ⟨rfl, rfl, rfl, rfl, rfl⟩

end MatterServer.Server
