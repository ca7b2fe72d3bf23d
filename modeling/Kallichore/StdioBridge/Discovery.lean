import Kallichore.StdioBridge.Link
import Mathlib.Data.List.AList
import Mathlib.Data.List.MinMax
import Mathlib.Data.Prod.Lex
import Mathlib.Data.String.Basic

/-!
# Finding a workspace by the working directory

A bridge that is told nothing looks for the workspace whose folder contains its working
directory, in an index that every window of the machine writes to. The index is a hash map, so
it is gone through in no particular order. `resolve_by_folder` says which workspace is found
all the same: of those with a folder around the working directory, one with the deepest, of
these one that was active last, and of these the last by ID.

A path is the list of its components, with symbolic links resolved by `canonical`.
-/

namespace Kallichore

namespace StdioBridge

abbrev PathBuf := List String

def connectionsVersion : UInt32 := 1

structure IndexEntry where
  descriptor : PathBuf
  folders : List PathBuf
  lastActive : Option String

/-- When the workspace was last active, where nothing is known before everything. -/
def IndexEntry.active (entry : IndexEntry) : WithBot String := entry.lastActive

structure Index where
  version : UInt32
  workspaces : AList fun _ : String => IndexEntry

/-- The parts of a workspace's descriptor that the bridge reads. -/
structure Descriptor where
  version : UInt32
  url : String
  token : String

/-- The connections directory and the file system around it. -/
structure Connections where
  /-- The index, where it can be read. -/
  readIndex : Option Index
  readDescriptor : PathBuf → Option Descriptor
  canonicalize : PathBuf → Option PathBuf
  /-- `Endpoint::parse`. -/
  parse : String → String → Option Endpoint

namespace Connections

variable (connections : Connections)

/-- A path with symbolic links resolved when it exists, and as given when it does not. -/
def canonical (path : PathBuf) : PathBuf := (connections.canonicalize path).getD path

def index : Option Index :=
  connections.readIndex.filter fun index => index.version == connectionsVersion

/-- A workspace's current endpoint, from its descriptor. -/
def lookup (workspaceId : String) : Option Endpoint := do
  let index ← connections.index
  let entry ← index.workspaces.lookup workspaceId
  let descriptor ← connections.readDescriptor entry.descriptor
  if descriptor.version ≠ connectionsVersion then none
  else connections.parse descriptor.url descriptor.token

/-- The depth of the deepest folder of the workspace that contains the working directory. -/
def depth (workingDir : PathBuf) (entry : IndexEntry) : Option ℕ :=
  (((entry.folders.map connections.canonical).filter fun folder =>
    folder.isPrefixOf workingDir).map List.length).argmax id

abbrev Rank := ℕ ×ₗ WithBot String ×ₗ String

def rank (workingDir : PathBuf) (id : String) (entry : IndexEntry) : Option Rank :=
  (connections.depth workingDir entry).map fun depth =>
    toLex (depth, toLex (entry.active, id))

/-- The workspace whose folder most closely contains the working directory, or of two that list
the same folder, the one used most recently. The entries are gone through in the given order. -/
def workspaceForWorkingDir (workingDir : Option PathBuf)
    (entries : List (Sigma fun _ : String => IndexEntry)) : Option String :=
  workingDir.bind fun workingDir =>
    ((entries.filterMap fun entry => connections.rank (connections.canonical workingDir) entry.1
      entry.2).argmax id).map fun rank => (ofLex (ofLex rank).2).2

/-- What the bridge asks of the connections directory. -/
def directory (workingDir : Option PathBuf)
    (order : Index → List (Sigma fun _ : String => IndexEntry)) : Directory where
  lookup := connections.lookup
  workspaceForWorkingDir :=
    connections.index.bind fun index =>
      connections.workspaceForWorkingDir workingDir (order index)

/-! ## The workspace that is found -/

variable {connections}

/-- The deepest folder of the workspace around the working directory has this depth. -/
structure Around (connections : Connections) (workingDir : PathBuf) (entry : IndexEntry)
    (depth : ℕ) : Prop where
  folder : ∃ folder ∈ entry.folders, connections.canonical folder <+: workingDir ∧
    (connections.canonical folder).length = depth
  deepest : ∀ folder ∈ entry.folders, connections.canonical folder <+: workingDir →
    (connections.canonical folder).length ≤ depth

theorem argmax_id_eq_some_iff {α : Type*} [LinearOrder α] {l : List α} {m : α} :
    l.argmax id = some m ↔ m ∈ l ∧ ∀ a ∈ l, a ≤ m :=
  List.maximum_eq_coe_iff

theorem depth_eq_some_iff {workingDir : PathBuf} {entry : IndexEntry} {depth : ℕ} :
    connections.depth workingDir entry = some depth ↔
      Around connections workingDir entry depth := by
  have hmem : ∀ n, n ∈ ((entry.folders.map connections.canonical).filter fun folder =>
      folder.isPrefixOf workingDir).map List.length ↔
        ∃ folder ∈ entry.folders, connections.canonical folder <+: workingDir ∧
          (connections.canonical folder).length = n := by
    intro n
    simp [and_assoc]
  rw [Connections.depth, argmax_id_eq_some_iff, hmem]
  constructor
  · rintro ⟨hfolder, hdeepest⟩
    exact ⟨hfolder, fun folder hin hcontains =>
      hdeepest _ ((hmem _).mpr ⟨folder, hin, hcontains, rfl⟩)⟩
  · rintro ⟨hfolder, hdeepest⟩
    refine ⟨hfolder, fun n hn => ?_⟩
    obtain ⟨folder, hin, hcontains, rfl⟩ := (hmem n).mp hn
    exact hdeepest folder hin hcontains

theorem rank_eq_some_iff {workingDir : PathBuf} {id : String} {entry : IndexEntry} {rank : Rank} :
    connections.rank workingDir id entry = some rank ↔
      ∃ depth, Around connections workingDir entry depth ∧
        toLex (depth, toLex (entry.active, id)) = rank := by
  rw [Connections.rank, Option.map_eq_some_iff]
  exact exists_congr fun depth => and_congr_left' depth_eq_some_iff

/-- The first comes no later than the second: it is less deep, or as deep and was active
earlier, or at the same time and comes first by ID. -/
theorem rank_le_iff {depth depth' : ℕ} {active active' : WithBot String} {id id' : String} :
    (toLex (depth, toLex (active, id)) : Rank) ≤ toLex (depth', toLex (active', id')) ↔
      depth < depth' ∨ depth = depth' ∧ (active < active' ∨ active = active' ∧ id ≤ id') := by
  rw [Prod.Lex.toLex_le_toLex, Prod.Lex.toLex_le_toLex]

/-- The workspace that is found is the last by rank, in whatever order the entries are gone
through. -/
theorem workspaceForWorkingDir_eq_some_iff {index : Index} {workingDir : PathBuf} {id : String}
    {entries : List (Sigma fun _ : String => IndexEntry)}
    (horder : entries.Perm index.workspaces.entries) :
    connections.workspaceForWorkingDir (some workingDir) entries = some id ↔
      ∃ entry depth, index.workspaces.lookup id = some entry ∧
        Around connections (connections.canonical workingDir) entry depth ∧
        ∀ id' entry' depth', index.workspaces.lookup id' = some entry' →
          Around connections (connections.canonical workingDir) entry' depth' →
            (toLex (depth', toLex (entry'.active, id')) : Rank) ≤
              toLex (depth, toLex (entry.active, id)) := by
  have hmem : ∀ rank, rank ∈ (entries.filterMap fun entry =>
      connections.rank (connections.canonical workingDir) entry.1 entry.2) ↔
        ∃ id entry depth, index.workspaces.lookup id = some entry ∧
          Around connections (connections.canonical workingDir) entry depth ∧
          toLex (depth, toLex (entry.active, id)) = rank := by
    intro rank
    rw [List.mem_filterMap, Sigma.exists]
    refine exists_congr fun id => exists_congr fun entry => ?_
    rw [horder.mem_iff, ← AList.mem_lookup_iff, Option.mem_def, rank_eq_some_iff, exists_and_left]
  rw [Connections.workspaceForWorkingDir, Option.bind_some, Option.map_eq_some_iff]
  constructor
  · rintro ⟨rank, hmax, rfl⟩
    obtain ⟨hrank, hlast⟩ := argmax_id_eq_some_iff.mp hmax
    obtain ⟨id, entry, depth, hentry, haround, rfl⟩ := (hmem rank).mp hrank
    refine ⟨entry, depth, hentry, haround, ?_⟩
    intro id' entry' depth' hentry' haround'
    exact hlast _ ((hmem _).mpr ⟨id', entry', depth', hentry', haround', rfl⟩)
  · rintro ⟨entry, depth, hentry, haround, hlast⟩
    refine ⟨toLex (depth, toLex (entry.active, id)), argmax_id_eq_some_iff.mpr ⟨?_, ?_⟩, rfl⟩
    · exact (hmem _).mpr ⟨id, entry, depth, hentry, haround, rfl⟩
    · intro rank hrank
      obtain ⟨id', entry', depth', hentry', haround', rfl⟩ := (hmem rank).mp hrank
      exact hlast id' entry' depth' hentry' haround'

/-- A bridge that is told nothing uses the endpoint in the descriptor of the workspace with the
deepest folder around its working directory, of several the one that was active last, and of
several of these the last by ID; in whatever order the index is gone through. -/
theorem resolve_by_folder {resolver : Resolver} {index : Index} {workingDir : PathBuf}
    {order : Index → List (Sigma fun _ : String => IndexEntry)} {stale : Option Endpoint}
    {endpoint : Endpoint} (hworkspace : resolver.workspace = none)
    (henvironment : resolver.environment = none) (hindex : connections.index = some index)
    (horder : (order index).Perm index.workspaces.entries) :
    (resolver.resolve (connections.directory (some workingDir) order) stale).2 = some endpoint ↔
      ∃ id entry depth, index.workspaces.lookup id = some entry ∧
        Around connections (connections.canonical workingDir) entry depth ∧
        (∀ id' entry' depth', index.workspaces.lookup id' = some entry' →
          Around connections (connections.canonical workingDir) entry' depth' →
            depth' < depth ∨ depth' = depth ∧
              (entry'.active < entry.active ∨ entry'.active = entry.active ∧ id' ≤ id)) ∧
        connections.lookup id = some endpoint := by
  have hresolve : (resolver.resolve (connections.directory (some workingDir) order) stale).2 =
      (connections.workspaceForWorkingDir (some workingDir) (order index)).bind
        connections.lookup := by
    rw [Resolver.resolve, hworkspace, henvironment]
    simp only [directory, hindex, Option.bind_some]
  rw [hresolve, Option.bind_eq_some_iff]
  refine exists_congr fun id => ?_
  rw [workspaceForWorkingDir_eq_some_iff horder]
  constructor
  · rintro ⟨⟨entry, depth, hentry, haround, hlast⟩, hendpoint⟩
    refine ⟨entry, depth, hentry, haround, ?_, hendpoint⟩
    intro id' entry' depth' hentry' haround'
    exact rank_le_iff.mp (hlast id' entry' depth' hentry' haround')
  · rintro ⟨entry, depth, hentry, haround, hlast, hendpoint⟩
    refine ⟨⟨entry, depth, hentry, haround, ?_⟩, hendpoint⟩
    intro id' entry' depth' hentry' haround'
    exact rank_le_iff.mpr (hlast id' entry' depth' hentry' haround')

/-- Two workspaces, one with a folder inside a folder of the other. -/
def nested : Connections where
  readIndex := some ⟨1, (AList.insert "inner" ⟨["i"], [["/", "a", "b"]], none⟩
    (AList.insert "outer" ⟨["o"], [["/", "a"], ["/", "c"]], some "2026"⟩ ∅))⟩
  readDescriptor path := some ⟨1, "http://" ++ path.headD "", "t"⟩
  canonicalize _ := none
  parse url token := some ⟨url, 4567, [], token⟩

theorem resolve_by_folder_nested :
    ∃ endpoint, (Resolver.resolve ⟨none, none, false⟩
        (nested.directory (some ["/", "a", "b", "c"]) fun index =>
          index.workspaces.entries.reverse) none).2 = some endpoint ∧
      endpoint.host = "http://i" ∧
      ∃ id entry depth, Around nested ["/", "a", "b", "c"] entry depth ∧
        nested.lookup id = some endpoint := by
  have hfound : (Resolver.resolve ⟨none, none, false⟩
      (nested.directory (some ["/", "a", "b", "c"]) fun index =>
        index.workspaces.entries.reverse) none).2 = some ⟨"http://i", 4567, [], "t"⟩ := by
    decide +kernel
  obtain ⟨id, entry, depth, -, haround, -, hendpoint⟩ :=
    (resolve_by_folder rfl rfl rfl (List.reverse_perm _)).mp hfound
  exact ⟨_, hfound, rfl, id, entry, depth, haround, hendpoint⟩

end Connections

end StdioBridge

end Kallichore
