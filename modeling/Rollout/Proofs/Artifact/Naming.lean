import Mathlib.Data.List.Nodup
import Rollout.Proofs.Artifact.Reported
import Rollout.Proofs.CommandLine.Deployment
import Rollout.Proofs.Pipeline.Naming

/-!
# What artifacts call themselves

Each contract has a place where its artifact is looked for, and what is found
there counts as the contract. The file may also give a name to what it holds,
and then this name is taken, without a look at the place. So a file in the wrong
place is used for the contract of the place and goes under the name of another:
what is deployed is logged and told under a name that nothing has asked for.

## Main results

* `Artifacts.keyedByName_iff`: the name of what has been loaded is the one that
  its file gives, or that of its place where the file gives none. It is always
  that of the place exactly if no file gives another.
-/

namespace Rollout

namespace Artifact

/-- A name is given by a text that is not empty; where no name is given, what stands there is empty
or nothing. -/
theorem nameOf?_eq_some {contract name : String} {v : Option Value}
    (h : nameOf? contract v = some name) :
    (v = some (.text name) ∧ name ≠ "") ∨
      (name = contract ∧ ∀ s, v = some (.text s) → s = "") := by
  unfold nameOf? at h
  split at h
  · exact .inr ⟨(Option.some.inj h).symm, nofun⟩
  · rename_i v
    split at h
    · rename_i hempty
      refine .inr ⟨(Option.some.inj h).symm, fun s hs => ?_⟩
      rw [Option.some.inj hs] at hempty
      exact String.isEmpty_iff.mp hempty
    · rename_i hfull
      split at h
      · obtain rfl := Option.some.inj h
        exact .inl ⟨rfl, fun hs => hfull (String.isEmpty_iff.mpr hs)⟩
      · cases h

/-- What is made of a value is made of an object, and takes its name from there. -/
theorem ofValue_eq_ok {contract : String} {v : Value} {a : Artifact}
    (h : ofValue contract v = .ok a) :
    ∃ entries, v = .mapping entries ∧
      nameOf? contract (Value.find? entries "contractName") = some a.name := by
  unfold ofValue at h
  split at h
  · rename_i entries
    refine ⟨entries, rfl, ?_⟩
    split at h
    · split at h
      · cases h
      · obtain ⟨interface?, -, h⟩ := Outcome.bind_eq_ok.mp h
        split at h
        · rename_i hname _
          cases h
          exact hname
        · cases h
    · cases h
  · cases h

/-- What is loaded is loaded from a file with an object. -/
theorem load_eq_ok {path : Path} {contract : String} {w : World} {a : Artifact}
    (h : ((load path contract).perform w).1 = .ok a) :
    ∃ entries, HoldsObject w.files path entries ∧
      nameOf? contract (Value.find? entries "contractName") = some a.name := by
  cases hlook : w.files.look path with
  | error e =>
      unfold load at h
      rw [Action.perform_get_bind, Store.contains, hlook] at h
      cases e <;> cases h
  | ok entry =>
      cases entry with
      | directory =>
          rw [load_of_directory hlook] at h
          cases h
      | file bytes =>
          rw [load_result hlook] at h
          cases htext : Text.ofFile? bytes with
          | none =>
              rw [htext] at h
              cases h
          | some cs =>
              rw [htext] at h
              dsimp only at h
              split at h
              · cases h
              · cases h
              · rename_i v hread
                obtain ⟨entries, rfl, hname⟩ := ofValue_eq_ok h
                exact ⟨entries, ⟨bytes, cs, hlook, htext, hread⟩, hname⟩

end Artifact

/-! ## The artifacts of a deployment -/

namespace Artifacts

/-- The file in the place of a contract gives a name to what it holds. -/
def Declares (directory : Path) (files : Store) (k : ContractKind) (name : String) : Prop :=
  ∃ entries, Artifact.HoldsObject files (directory.join k.path) entries ∧
    Value.find? entries "contractName" = some (.text name) ∧ name ≠ ""

/-- A name is the one that the file gives, or that of the contract if the file gives none. -/
def Bears (directory : Path) (files : Store) (k : ContractKind) (name : String) : Prop :=
  Declares directory files k name ∨
    (name = k.name ∧ ∀ other, ¬Declares directory files k other)

variable {directory : Path} {files : Store} {w : World} {k : ContractKind} {name : String}
  {found : List (ContractKind × Artifact)}

theorem Declares.eq {other : String} (h : Declares directory files k name)
    (h' : Declares directory files k other) : name = other := by
  obtain ⟨entries, hholds, hname, -⟩ := h
  obtain ⟨entries', hholds', hname', -⟩ := h'
  obtain rfl := hholds.eq hholds'
  exact Value.text.inj (Option.some.inj (hname.symm.trans hname'))

/-- If a file gives a name, then this one and no other. -/
theorem Bears.eq {declared : String} (h : Bears directory files k name)
    (hdeclared : Declares directory files k declared) : declared = name := by
  rcases h with h | ⟨-, hnone⟩
  · exact hdeclared.eq h
  · exact absurd hdeclared (hnone declared)

/-- What is loaded bears the name that its file gives. -/
theorem bears_of_loaded {a : Artifact} (h : loaded directory w k = .ok a) :
    Bears directory w.files k a.name := by
  obtain ⟨entries, hholds, hname⟩ := Artifact.load_eq_ok h
  rcases Artifact.nameOf?_eq_some hname with ⟨hgiven, hne⟩ | ⟨hown, hnone⟩
  · exact .inl ⟨entries, hholds, hgiven, hne⟩
  · refine .inr ⟨hown, fun other hother => ?_⟩
    obtain ⟨entries', hholds', hgiven, hne⟩ := hother
    obtain rfl := hholds.eq hholds'
    exact hne (hnone other hgiven)

/-- Where all artifacts have been loaded, the types are theirs. -/
theorem ofList_of_mem (hkeys : found.map Prod.fst = ContractKind.all) {a : Artifact}
    (ha : (k, a) ∈ found) : ofList found k = a.contractType := by
  have hnodup : (found.map Prod.fst).Nodup := by
    rw [hkeys]
    decide
  have hsome : (found.find? (·.1 == k)).isSome = true :=
    List.find?_isSome.mpr ⟨(k, a), ha, beq_self_eq_true k⟩
  obtain ⟨p, hp⟩ := Option.isSome_iff_exists.mp hsome
  have hkey : (p.1 == k) = true :=
    List.find?_some (p := fun q : ContractKind × Artifact => q.1 == k) hp
  have hsame : p = (k, a) :=
    List.inj_on_of_nodup_map hnodup (List.mem_of_find?_eq_some hp) ha (eq_of_beq hkey)
  rw [ofList, hp, hsame]

theorem exists_mem_of_keys (hkeys : found.map Prod.fst = ContractKind.all) (k : ContractKind) :
    ∃ a, (k, a) ∈ found := by
  have hk : k ∈ found.map Prod.fst := by
    rw [hkeys]
    exact k.mem_all
  obtain ⟨⟨_, a⟩, ha, rfl⟩ := List.mem_map.mp hk
  exact ⟨a, ha⟩

/-- The types that a deployment works with have the names that the files give. -/
theorem bears_ofList (h : ((loadEach directory).perform w).1 = .ok found) (k : ContractKind) :
    Bears directory w.files k (ofList found k).name := by
  rcases loadEach_cases directory w with ⟨found', hfound, hkeys, hall⟩ | ⟨_, _, herror, -⟩
  · rw [h] at hfound
    cases hfound
    obtain ⟨a, ha⟩ := exists_mem_of_keys hkeys k
    have hk : loaded directory w k = .ok a := hall (k, a) ha
    rw [ofList_of_mem hkeys ha]
    exact bears_of_loaded hk
  · rw [h] at herror
    cases herror

/-- The artifacts are what they are taken for: one for each contract, with its name, and every run
with them deploys under the names of the contracts that it asks for. -/
structure KeyedByName (found : List (ContractKind × Artifact)) : Prop where
  keys : found.map Prod.fst = ContractKind.all
  names : ∀ p ∈ found, p.2.name = p.1.name
  runs : ∀ (d : Deployer) (s : Settings) (path : Path) (w : World),
    Pipeline.Credits ContractKind.name s w
      ((Pipeline.run d s (ofList found) path).perform w).2

/-- **What a file is taken for and what it says it is.** Loading gives an artifact for each contract,
under the name that its file gives it or else under its own. Every run deploys under these names, in
the log and in what is told. They are always those of the contracts that were asked for exactly if no
file says that it is another contract than that of its place. -/
theorem keyedByName_iff (h : ((loadEach directory).perform w).1 = .ok found) :
    found.map Prod.fst = ContractKind.all ∧
    (∀ k, Bears directory w.files k (ofList found k).name) ∧
    (∀ (d : Deployer) (s : Settings) (path : Path) (w' : World),
      Pipeline.Credits (fun k => (ofList found k).name) s w'
        ((Pipeline.run d s (ofList found) path).perform w').2) ∧
    (KeyedByName found ↔
      ∀ k name, Declares directory w.files k name → name = k.name) := by
  have hkeys := map_fst_of_loadEach h
  have hbears := bears_ofList h
  have hruns : ∀ (d : Deployer) (s : Settings) (path : Path) (w' : World),
      Pipeline.Credits (fun k => (ofList found k).name) s w'
        ((Pipeline.run d s (ofList found) path).perform w').2 :=
    fun d s path w' => Pipeline.run_credits d s (ofList found) path w'
  refine ⟨hkeys, hbears, hruns, fun hkeyed k name hname => ?_, fun hown => ?_⟩
  · obtain ⟨a, ha⟩ := exists_mem_of_keys hkeys k
    have hbears := hbears k
    rw [ofList_of_mem hkeys ha] at hbears
    exact (hbears.eq hname).trans (hkeyed.names _ ha)
  · have hnames : (fun k => (ofList found k).name) = ContractKind.name := by
      funext k
      rcases hbears k with hdeclared | ⟨hname, -⟩
      · exact hown k _ hdeclared
      · exact hname
    refine ⟨hkeys, fun ⟨k, a⟩ ha => ?_, fun d s path w' => hnames ▸ hruns d s path w'⟩
    have hname : (ofList found k).name = k.name := congrFun hnames k
    rw [ofList_of_mem hkeys ha] at hname
    exact hname

/-- The standard contracts, whose files give no names. -/
theorem keyedByName_standard : ∃ found,
    ((loadEach ⟨.here, []⟩).perform .standard).1 = .ok found ∧ KeyedByName found := by
  obtain ⟨found, hfound, hstandard⟩ := CommandLine.loadEach_standard
  obtain ⟨-, hbears, -, hkeyed⟩ := keyedByName_iff hfound
  refine ⟨found, hfound, hkeyed.mpr fun k name hname => ?_⟩
  rw [hstandard] at hbears
  exact ((hbears k).eq hname).trans (standard_name k)

/-- The artifact of a mock that says which one it is. -/
def namedText (name : String) : List Char :=
  objectText [("contractName", quoted name), ("abi", arrayText []), ("bytecode", quoted "00")]

/-- The standard contracts, but what is in the place of one mock is another. -/
def misplacedWorld : World :=
  { World.standard with
    files := Store.standard.install ContractKind.mockUsdt.path
      (.file (Text.encode (namedText "MockSpokePool"))) }

/-- What a deployment makes of these. -/
def misplaced : Artifacts := fun k =>
  if k = .mockUsdt then { name := "MockSpokePool", constructor := [], methods := [] }
  else standard k

/-- A file in the place of one mock that says that it is another is used for the first and goes under
the name of the second. The first contract that a run on the test network asks for is logged and told
under that name. -/
theorem not_keyedByName_misplaced : ∃ found,
    ((loadEach ⟨.here, []⟩).perform misplacedWorld).1 = .ok found ∧
    Declares ⟨.here, []⟩ misplacedWorld.files .mockUsdt "MockSpokePool" ∧
    (Pipeline.asked .standard).head? = some .mockUsdt ∧
    (((Pipeline.run .standard .standard (ofList found) .standard).perform .fresh).2.chain.log.map
      LogEntry.contract).head? = some "MockSpokePool" ∧
    ((((Pipeline.run .standard .standard (ofList found) .standard).perform .fresh).2.notices.filterMap
      Notice.deployment?).map Prod.fst).head? = some "MockSpokePool" ∧
    ¬KeyedByName found := by
  have hload : ((loadEach ⟨.here, []⟩).perform misplacedWorld).1.toOption.map
      (fun found => ContractKind.all.map (ofList found)) =
        some (ContractKind.all.map misplaced) := by
    decide +kernel
  obtain ⟨found, hfound, hmisplaced⟩ := exists_loadEach_of_map hload
  have hruns :
      (((Pipeline.run .standard .standard misplaced .standard).perform .fresh).2.chain.log.map
        LogEntry.contract).head? = some "MockSpokePool" ∧
      ((((Pipeline.run .standard .standard misplaced .standard).perform .fresh).2.notices.filterMap
        Notice.deployment?).map Prod.fst).head? = some "MockSpokePool" := by
    decide +kernel
  have hname : (ofList found .mockUsdt).name = "MockSpokePool" := by
    rw [hmisplaced]
    rfl
  have hne : "MockSpokePool" ≠ ContractKind.name .mockUsdt := by decide
  refine ⟨found, hfound, ?_, rfl, ?_, ?_, fun hkeyed => ?_⟩
  · have hbears := bears_ofList hfound .mockUsdt
    rw [hname] at hbears
    exact hbears.resolve_right fun h => hne h.1
  · rw [hmisplaced]
    exact hruns.1
  · rw [hmisplaced]
    exact hruns.2
  · obtain ⟨a, ha⟩ := exists_mem_of_keys hkeyed.keys .mockUsdt
    rw [ofList_of_mem hkeyed.keys ha] at hname
    exact hne (hname.symm.trans (hkeyed.names _ ha))

end Artifacts

end Rollout
