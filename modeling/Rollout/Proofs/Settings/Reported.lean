import Rollout.Proofs.Action.Reading
import Rollout.Proofs.Settings.Respelling
import Rollout.Proofs.Settings.VerificationKey
import Rollout.Proofs.Standard

/-!
# What is reported of a bad configuration

Everything about a configuration that is looked at when parameters are loaded is
reported as a fault of the configuration, with a title and a message. But not
everything is looked at then. That a network has a number for its chain is
checked, and not that it is an integer; what stands where the manifest is
described is not checked at all; and a constant that is no address is reported
with its value, which may be too long to be shown. These are found later, as
something of another kind, or not at all.

`Overlooked` lists them, each with all that has to be in order for it to be
reached. They are properties of the document as it stands in the file: loading
changes nothing in it but the spelling of addresses.

## Main results

* `Settings.Finds.isReported_iff`: what may be overlooked in parameters that were
  accepted.
* `Settings.isReported_resolve_iff`: everything is reported but what `Overlooked`
  lists.
-/

namespace Rollout

open Yaml (Document Item)
open Outcome (FailsOnly)
open Params (IsTold)

/-- A fault of the configuration that is told. -/
def Failure.IsOfConfiguration (f : Failure) : Prop := ∃ c, f = .configuration c ∧ IsTold c

open Failure (IsOfConfiguration)

/-- Faults of the configuration that are all told. -/
theorem isOfConfiguration_failsOnly {α : Type} {r : Except ConfigFault α}
    (h : FailsOnly r IsTold) : FailsOnly (r.mapError Failure.configuration) IsOfConfiguration :=
  .mapError fun c hc => ⟨c, rfl, h c hc⟩

/-! ## Parts of the environment -/

/-- A text is an address or is refused, and told so. -/
theorem optionalAddress_failsOnly [Address.CaseRule] (s : Option String) (name : String) :
    FailsOnly (optionalAddress s name) IsTold := by
  unfold optionalAddress
  split
  · exact .ok _
  split
  · exact .ok _
  · refine .bind ?_ fun _ => .ok _
    unfold checksum checksumWith
    dsimp only
    split
    · exact .ok _
    · exact .error rfl

/-- The variables that may hold an address. -/
def Environ.addressNames : List String :=
  ["SP1_VERIFIER_ADDRESS", "ADMIN_ADDRESS", "UNLIMITED_CREATOR_ADDRESS", "REGISTRAR_ADDRESS"]

/-- All addresses of the environment can be read. -/
def Environ.AddressesRead [Address.CaseRule] (env : Environ) : Prop :=
  ∀ name ∈ addressNames, ∃ address, optionalAddress (env name) name = .ok address

namespace Settings

theorem recipientsOf_failsOnly [Address.CaseRule] (env : Environ) :
    FailsOnly (recipientsOf env) IsTold := by
  unfold recipientsOf
  refine .bind (optionalAddress_failsOnly _ _) fun _ => ?_
  refine .bind (optionalAddress_failsOnly _ _) fun _ => ?_
  exact .bind (optionalAddress_failsOnly _ _) fun _ => .ok _

theorem verificationKeyOf_failsOnly (s : Option String) :
    FailsOnly (verificationKeyOf s) IsTold := by
  intro f hf
  rw [IsTold, Failure.isForeseen, title?_of_verificationKeyOf hf]
  rfl

/-! ## Parts of the parameters -/

theorem lookUp_eq_ok_iff {d : Document} {item found : Item} {key : String} :
    lookUp d item key = .ok found ↔ d.entry? item key = some found := by
  unfold lookUp Document.entry?
  cases d.entries? item with
  | none => exact ⟨nofun, nofun⟩
  | some entries =>
      rw [Option.bind_some]
      dsimp only
      cases Value.find? entries key with
      | none => exact ⟨nofun, nofun⟩
      | some item => rw [Except.ok.injEq, Option.some.injEq]

/-- The number that a document gives for the chain of the target. -/
def chainItem? (flags : Flags) (d : Document) : Option Item := do
  let networks ← d.entry? d.root "networks"
  let network ← d.entry? networks flags.target.label
  d.entry? network "chain_id"

/-- Where the manifest is described, if anywhere, there is a mapping, whose file name, if it has
one, is a text. -/
def NamesManifest (d : Document) : Prop :=
  ∀ part, d.entry? d.root "manifest" = some part → d.isEmpty part = false →
    Params.isMapping d part = true ∧
      ∀ item, d.entry? part "filename" = some item → ∃ name, item = .leaf (.text name)

/-- The addresses among the settings are made of constants and of the environment. -/
theorem dependenciesOf_spec [Address.CaseRule] {d : Document} {constants : Item} (env : Environ)
    (hconstants : ∀ dep : Dependency, ∃ item, lookUp d constants dep.constant = .ok item) :
    FailsOnly (dependenciesOf env d constants) IsOfConfiguration ∧
      ((∃ deps, dependenciesOf env d constants = .ok deps) ↔
        ∃ address, optionalAddress (env "SP1_VERIFIER_ADDRESS") "SP1_VERIFIER_ADDRESS" =
          .ok address) := by
  obtain ⟨verifier, hverifier⟩ := hconstants .sp1Verifier
  obtain ⟨spokePool, hspokePool⟩ := hconstants .spokePool
  obtain ⟨usdt, husdt⟩ := hconstants .usdt
  obtain ⟨router, hrouter⟩ := hconstants .aggregationRouter
  unfold dependenciesOf
  dsimp only
  rw [hverifier, hspokePool, husdt, hrouter]
  cases hread : optionalAddress (env "SP1_VERIFIER_ADDRESS") "SP1_VERIFIER_ADDRESS" with
  | ok address => exact ⟨nofun, iff_of_true ⟨_, rfl⟩ ⟨_, rfl⟩⟩
  | error f =>
      refine ⟨.error ⟨f, rfl, optionalAddress_failsOnly _ _ f hread⟩, iff_of_false ?_ ?_⟩
      · rintro ⟨_, ⟨⟩⟩
      · rintro ⟨_, ⟨⟩⟩

theorem exists_recipientsOf_iff [Address.CaseRule] (env : Environ) :
    (∃ r, recipientsOf env = .ok r) ↔
      ∀ name ∈ ["ADMIN_ADDRESS", "UNLIMITED_CREATOR_ADDRESS", "REGISTRAR_ADDRESS"],
        ∃ address, optionalAddress (env name) name = .ok address := by
  simp only [List.forall_mem_cons, List.not_mem_nil, false_implies, implies_true, and_true]
  constructor
  · rintro ⟨r, h⟩
    obtain ⟨admin, hadmin, h⟩ := Outcome.bind_eq_ok.mp h
    obtain ⟨creator, hcreator, h⟩ := Outcome.bind_eq_ok.mp h
    obtain ⟨registrar, hregistrar, -⟩ := Outcome.bind_eq_ok.mp h
    exact ⟨⟨admin, hadmin⟩, ⟨creator, hcreator⟩, registrar, hregistrar⟩
  · rintro ⟨⟨admin, hadmin⟩, ⟨creator, hcreator⟩, registrar, hregistrar⟩
    unfold recipientsOf
    rw [hadmin, hcreator, hregistrar]
    exact ⟨_, rfl⟩

/-! ## Settings that are reported -/

/-- Settings are put together with a file name for the manifest that is a text, or a fault of the
configuration is told. -/
structure IsReported (r : Except Failure Settings) : Prop where
  filename : ∀ s, r = .ok s → ∃ name, s.manifestFilename = .text name
  failsOnly : FailsOnly r IsOfConfiguration

section

variable {α : Type} {x : Except Failure α} {f : α → Except Failure Settings}

theorem isReported_bind_of_ok {a : α} (h : x = .ok a) :
    IsReported (x >>= f) ↔ IsReported (f a) := by
  rw [h]
  rfl

theorem isReported_ok_iff {s : Settings} :
    IsReported (.ok s) ↔ ∃ name, s.manifestFilename = .text name :=
  ⟨fun h => h.filename s rfl, fun h => ⟨fun _ hs => Except.ok.inj hs ▸ h, nofun⟩⟩

/-- After a step that tells its faults, the others decide. -/
theorem isReported_bind_of_failsOnly (h : FailsOnly x IsOfConfiguration) :
    IsReported (x >>= f) ↔ ∀ a, x = .ok a → IsReported (f a) := by
  cases x with
  | ok a => exact ⟨fun hf _ ha => Except.ok.inj ha ▸ hf, fun hf => hf a rfl⟩
  | error e => exact iff_of_true ⟨nofun, .error (h e rfl)⟩ nofun

/-- A step that tells none of its faults has to be taken. -/
theorem isReported_bind_of_not (h : FailsOnly x fun e => ¬e.IsOfConfiguration) :
    IsReported (x >>= f) ↔ ∃ a, x = .ok a ∧ IsReported (f a) := by
  cases x with
  | ok a => exact ⟨fun hf => ⟨a, rfl, hf⟩, fun ⟨_, ha, hf⟩ => Except.ok.inj ha ▸ hf⟩
  | error e => exact iff_of_false (fun hf => h e rfl (hf.failsOnly e rfl)) nofun

end

theorem lookUpOptional_eq (d : Document) (item : Item) (key : String) :
    lookUpOptional d item key =
      if Params.isMapping d item then .ok (d.entry? item key) else .error .notAMapping := by
  unfold lookUpOptional Document.entry? Params.isMapping
  cases d.entries? item with
  | none => rfl
  | some entries => rfl

/-- The file name of the manifest by what there is in the document, which is a mapping. -/
theorem manifestFilenameOf_eq {d : Document} (hroot : Params.isMapping d d.root = true) :
    manifestFilenameOf d =
      match d.entry? d.root "manifest" with
      | none => .ok (.text usualManifestFilename)
      | some part =>
          if d.isEmpty part then .ok (.text usualManifestFilename)
          else if Params.isMapping d part then
            .ok (((d.entry? part "filename").map d.value).getD (.text usualManifestFilename))
          else .error .notAMapping := by
  unfold manifestFilenameOf
  rw [lookUpOptional_eq, if_pos hroot]
  cases d.entry? d.root "manifest" with
  | none => rfl
  | some part =>
      show (if d.isEmpty part then _ else _) = (if d.isEmpty part then _ else _)
      rw [lookUpOptional_eq]
      congr 1
      split
      · rfl
      · rfl

/-- It is a text or not found where the document says so, and nothing else is told. -/
theorem manifestFilenameOf_spec {d : Document} (hroot : Params.isMapping d d.root = true) :
    FailsOnly (manifestFilenameOf d) (fun e => ¬e.IsOfConfiguration) ∧
      ((∃ name, manifestFilenameOf d = .ok (.text name)) ↔ NamesManifest d) := by
  rw [manifestFilenameOf_eq hroot]
  unfold NamesManifest
  cases d.entry? d.root "manifest" with
  | none => exact ⟨.ok _, iff_of_true ⟨_, rfl⟩ nofun⟩
  | some part =>
      simp only [Option.some.injEq, forall_eq']
      cases d.isEmpty part with
      | true => exact ⟨.ok _, iff_of_true ⟨_, rfl⟩ nofun⟩
      | false =>
          simp only [Bool.false_eq_true, if_false, forall_const]
          cases Params.isMapping d part with
          | false =>
              refine ⟨.error ?_, iff_of_false nofun (by simp)⟩
              rintro ⟨_, ⟨⟩, _⟩
          | true =>
              refine ⟨.ok _, ?_⟩
              cases d.entry? part "filename" with
              | none => exact iff_of_true ⟨_, rfl⟩ ⟨rfl, nofun⟩
              | some item =>
                  simp [Params.value_eq_text_iff]

/-! ## Parameters that were accepted -/

/-- A document that is accepted for parameters. -/
def IsAccepted [Address.CaseRule] (d : Document) : Prop :=
  Params.checkNetworks d = .ok () ∧ ∃ params, Params.canonical d = .ok params

/-- A network that was checked has what is looked up in it. -/
theorem entries_of_checkNetwork {d : Document} {networks : Item} {label : String}
    (h : Params.checkNetwork d networks label = .ok ()) :
    ∃ network uri chain, d.entry? networks label = some network ∧
      d.entry? network "uri" = some uri ∧ d.entry? network "chain_id" = some chain := by
  have hset : ∀ {item : Item} {key : String}, Params.isSet d item key = true →
      ∃ found, d.entry? item key = some found := by
    intro item key hset
    unfold Params.isSet at hset
    cases hfound : d.entry? item key with
    | none =>
        rw [hfound] at hset
        cases hset
    | some found => exact ⟨found, rfl⟩
  unfold Params.checkNetwork at h
  split at h
  · cases h
  · rename_i network hpart
    split at h
    · cases h
    · rename_i huri
      split at h
      · cases h
      · rename_i hchain
        obtain ⟨uri, huri⟩ := hset (by simpa using huri)
        obtain ⟨chain, hchain⟩ := hset (by simpa using hchain)
        exact ⟨network, uri, chain, (Option.filter_eq_some_iff.mp hpart).1, huri, hchain⟩

theorem entries_of_checkNetworks {d : Document} (h : Params.checkNetworks d = .ok ())
    (target : Target) :
    ∃ networks network uri chain, d.entry? d.root "networks" = some networks ∧
      d.entry? networks target.label = some network ∧ d.entry? network "uri" = some uri ∧
      d.entry? network "chain_id" = some chain := by
  unfold Params.checkNetworks at h
  split at h
  · cases h
  · rename_i networks hpart
    obtain ⟨⟨⟩, hmainnet, h⟩ := Outcome.bind_eq_ok.mp h
    obtain ⟨⟨⟩, htestnet, -⟩ := Outcome.bind_eq_ok.mp h
    have hnetwork : Params.checkNetwork d networks target.label = .ok () := by
      cases target with
      | production => exact hmainnet
      | test => exact htestnet
    obtain ⟨network, uri, chain, hnetwork⟩ := entries_of_checkNetwork hnetwork
    exact ⟨networks, network, uri, chain, (Option.filter_eq_some_iff.mp hpart).1, hnetwork⟩

/-- Parameters in which everything is found that is looked up, with what they give for the chain. -/
structure Finds (flags : Flags) (params : Document) (chain : Item) : Prop where
  network : ∃ networks network uri, lookUp params params.root "networks" = .ok networks ∧
    lookUp params networks flags.target.label = .ok network ∧
    lookUp params network "uri" = .ok uri ∧ lookUp params network "chain_id" = .ok chain
  constants : ∃ constants, lookUp params params.root "constants" = .ok constants ∧
    ∀ dep : Dependency, ∃ item, lookUp params constants dep.constant = .ok item

/-- Everything that was looked up before is found in accepted parameters. -/
theorem exists_finds [Address.CaseRule] {d params : Document} (flags : Flags)
    (hnetworks : Params.checkNetworks d = .ok ()) (hcanonical : Params.canonical d = .ok params) :
    ∃ chain, chainItem? flags d = some chain ∧ Finds flags params chain := by
  have hrespells := Params.respells_of_canonical hcanonical
  obtain ⟨networks, network, uri, chain, hd⟩ := entries_of_checkNetworks hnetworks flags.target
  have hlabel : flags.target.label ∉ Dependency.constants.map Dependency.constant := by
    cases flags.target <;> decide
  refine ⟨chain, ?_, ⟨networks, network, uri, ?_⟩, ?_⟩
  · unfold chainItem?
    rw [hd.1, Option.bind_eq_bind, Option.bind_some, hd.2.1, Option.bind_some, hd.2.2.2]
  · simp only [lookUp_eq_ok_iff]
    rw [hrespells.root, hrespells.entry?_eq _ (by decide), hrespells.entry?_eq _ hlabel,
      hrespells.entry?_eq _ (by decide), hrespells.entry?_eq _ (by decide)]
    exact hd
  · obtain ⟨id, hconstants, hknown⟩ := Params.canonical_spec hcanonical
    refine ⟨_, hconstants, fun dep => ?_⟩
    obtain ⟨v, hv, -⟩ := hknown dep
    exact ⟨_, hv⟩

/-- Where everything is found, only the number of the chain and the manifest may be overlooked, and
only once what comes before them is in order. -/
theorem Finds.isReported_iff [Address.CaseRule] {flags : Flags} {params : Document} {chain : Item}
    (h : Finds flags params chain) (env : Environ) (key : String) :
    IsReported (ofParams flags env key params) ↔
      (env.AddressesRead → ∃ n, integerOfItem chain = .ok n ∧
        ((∃ key, verificationKeyOf (env "SP1_VKEY") = .ok key) → NamesManifest params)) := by
  obtain ⟨networks, network, uri, hnetworks, hnetwork, huri, hchain⟩ := h.network
  obtain ⟨constants, hconstants, hfound⟩ := h.constants
  obtain ⟨hdefaults, hdefaults_iff⟩ := dependenciesOf_spec env hfound
  have hrecipients : FailsOnly ((recipientsOf env).mapError Failure.configuration)
      IsOfConfiguration := isOfConfiguration_failsOnly (recipientsOf_failsOnly env)
  have hkey : FailsOnly ((verificationKeyOf (env "SP1_VKEY")).mapError Failure.configuration)
      IsOfConfiguration := isOfConfiguration_failsOnly (verificationKeyOf_failsOnly _)
  have hroot : Params.isMapping params params.root = true :=
    Params.isMapping_of_entry? (lookUp_eq_ok_iff.mp hnetworks)
  obtain ⟨hmanifest, hmanifest_iff⟩ := manifestFilenameOf_spec hroot
  -- Steps that find something or tell their faults are passed. The number of the chain and the
  -- manifest tell none of theirs, and so they have to be in order whenever they are reached.
  unfold ofParams
  refine (isReported_bind_of_ok hnetworks).trans ?_
  refine (isReported_bind_of_ok hnetwork).trans ?_
  refine (isReported_bind_of_ok hconstants).trans ?_
  refine (isReported_bind_of_failsOnly hdefaults).trans ?_
  have haddresses : env.AddressesRead ↔
      (∃ defaults, dependenciesOf env params constants = .ok defaults) ∧
        ∃ r, (recipientsOf env).mapError Failure.configuration = .ok r := by
    simp only [Outcome.mapError_eq_ok]
    rw [hdefaults_iff, exists_recipientsOf_iff]
    exact List.forall_mem_cons
  rw [haddresses, and_imp, exists_imp]
  refine forall₂_congr fun defaults _ => ?_
  refine (isReported_bind_of_failsOnly hrecipients).trans ?_
  rw [exists_imp]
  refine forall₂_congr fun recipients _ => ?_
  refine (isReported_bind_of_ok huri).trans ((isReported_bind_of_ok hchain).trans ?_)
  refine (isReported_bind_of_not (integerOfItem_failsOnly nofun nofun nofun chain)).trans ?_
  refine exists_congr fun n => and_congr_right fun _ => ?_
  refine (isReported_bind_of_failsOnly hkey).trans ?_
  simp only [Outcome.mapError_eq_ok]
  rw [exists_imp]
  refine forall₂_congr fun verificationKey _ => ?_
  refine (isReported_bind_of_not hmanifest).trans (Iff.trans ?_ hmanifest_iff)
  constructor
  · rintro ⟨v, hv, hreported⟩
    obtain ⟨name, hname⟩ := isReported_ok_iff.mp hreported
    exact ⟨name, hname ▸ hv⟩
  · rintro ⟨name, hname⟩
    exact ⟨_, hname, isReported_ok_iff.mpr ⟨name, rfl⟩⟩

/-- Loading does not change what there is about the manifest. -/
theorem namesManifest_iff_of_respells [Address.CaseRule] {d params : Document}
    (h : d.Respells params) :
    NamesManifest params ↔ NamesManifest d := by
  have hmanifest : ∀ item, params.entry? item "manifest" = d.entry? item "manifest" :=
    fun item => h.entry?_eq item (by decide)
  have hfilename : ∀ item, params.entry? item "filename" = d.entry? item "filename" :=
    fun item => h.entry?_eq item (by decide)
  unfold NamesManifest
  simp only [h.root, hmanifest, hfilename, h.isEmpty_eq, h.isMapping_eq]

/-! ## What is overlooked -/

/-- What is wrong with parameters and is not reported as a fault of the configuration. -/
inductive Overlooked [Address.CaseRule] (flags : Flags) (env : Environ) (d : Document) : Prop
  /-- The first constant that is no address cannot be shown. -/
  | constant (networks : Params.checkNetworks d = .ok ()) (hidden : Params.HidesConstants d)
  /-- What stands for the number of the chain is no integer. -/
  | chain (accepted : IsAccepted d) (addresses : env.AddressesRead) {item : Item}
      (found : chainItem? flags d = some item) (malformed : ∀ n, integerOfItem item ≠ .ok n)
  /-- What is said about the manifest is no mapping, or its file name is no text. -/
  | manifest (accepted : IsAccepted d) (addresses : env.AddressesRead) {item : Item} {n : Int}
      (found : chainItem? flags d = some item) (integer : integerOfItem item = .ok n)
      {key : Bytes} (keyRead : verificationKeyOf (env "SP1_VKEY") = .ok key)
      (unnamed : ¬NamesManifest d)

/-- Parameters that are no mapping or whose networks are not described are refused, and told so. -/
theorem checkNetworks_failsOnly (d : Document) : FailsOnly (Params.checkNetworks d) IsTold := by
  unfold Params.checkNetworks
  split
  · exact .error rfl
  · refine .forM (fun target => ?_) _
    unfold Params.checkNetwork
    split
    · exact .error rfl
    · split
      · exact .error rfl
      · split
        · exact .error rfl
        · exact .ok _

/-- Nothing is overlooked in a document whose networks are refused. -/
theorem Overlooked.networks [Address.CaseRule] {flags : Flags} {env : Environ} {d : Document}
    (h : Overlooked flags env d) : Params.checkNetworks d = .ok () := by
  cases h with
  | constant networks _ => exact networks
  | chain accepted _ _ _ => exact accepted.1
  | manifest accepted _ _ _ _ _ => exact accepted.1

/-- Nothing but a constant is overlooked in a document whose constants are refused. -/
theorem overlooked_iff_of_refused [Address.CaseRule] {flags : Flags} {env : Environ} {d : Document}
    {f : ConfigFault} (hnetworks : Params.checkNetworks d = .ok ())
    (hrefused : Params.canonical d = .error f) :
    Overlooked flags env d ↔ Params.HidesConstants d := by
  have hnot : ¬IsAccepted d := by
    rintro ⟨-, params, hparams⟩
    rw [hrefused] at hparams
    cases hparams
  constructor
  · intro h
    cases h with
    | constant _ hidden => exact hidden
    | chain accepted _ _ _ => exact absurd accepted hnot
    | manifest accepted _ _ _ _ _ => exact absurd accepted hnot
  · exact .constant hnetworks

/-- In a document that is accepted, the number of the chain and the manifest may be overlooked. -/
theorem overlooked_iff_of_accepted [Address.CaseRule] {flags : Flags} {env : Environ}
    {d params : Document} {chain : Item} (hnetworks : Params.checkNetworks d = .ok ())
    (hcanonical : Params.canonical d = .ok params) (hchain : chainItem? flags d = some chain) :
    Overlooked flags env d ↔ ¬(env.AddressesRead → ∃ n, integerOfItem chain = .ok n ∧
      ((∃ key, verificationKeyOf (env "SP1_VKEY") = .ok key) → NamesManifest d)) := by
  have haccepted : IsAccepted d := ⟨hnetworks, params, hcanonical⟩
  have hshown : ¬Params.HidesConstants d := by
    rw [← Params.canonical_failsOnly_iff, hcanonical]
    exact .ok _
  constructor
  · intro h hgood
    cases h with
    | constant _ hidden => exact hshown hidden
    | chain _ addresses found malformed =>
        rw [hchain] at found
        cases found
        obtain ⟨n, hn, -⟩ := hgood addresses
        exact malformed n hn
    | manifest _ addresses _ _ keyRead unnamed =>
        obtain ⟨n, -, hnamed⟩ := hgood addresses
        exact unnamed (hnamed ⟨_, keyRead⟩)
  · intro h
    obtain ⟨addresses, hbad⟩ := Classical.not_imp.mp h
    by_cases hint : ∃ n, integerOfItem chain = .ok n
    · obtain ⟨n, hn⟩ := hint
      obtain ⟨⟨key, hkey⟩, hunnamed⟩ := Classical.not_imp.mp fun hnamed => hbad ⟨n, hn, hnamed⟩
      exact .manifest haccepted addresses hchain hn hkey hunnamed
    · exact .chain haccepted addresses hchain fun n hn => hint ⟨n, hn⟩

/-- The settings made of a document are reported exactly if nothing in it is overlooked. -/
theorem isReported_ofDocument_iff [Address.CaseRule] (flags : Flags) (env : Environ)
    (key path : String) (d : Document) :
    IsReported ((Params.ofDocument path d).mapError Failure.configuration >>=
        ofParams flags env key) ↔ ¬Overlooked flags env d := by
  have htold : ∀ {f : ConfigFault}, IsReported ((.error f : Except ConfigFault Document).mapError
      Failure.configuration >>= ofParams flags env key) ↔ IsTold f := by
    intro f
    refine ⟨fun h => ?_, fun h => ⟨nofun, .error ⟨f, rfl, h⟩⟩⟩
    obtain ⟨_, ⟨⟩, hf⟩ := h.failsOnly _ rfl
    exact hf
  unfold Params.ofDocument
  cases hroot : Params.isMapping d d.root with
  | false =>
      refine iff_of_true (htold.mpr rfl) fun h => ?_
      obtain ⟨_, _, _, _, hentry, -⟩ := entries_of_checkNetworks h.networks flags.target
      rw [Params.isMapping_of_entry? hentry] at hroot
      cases hroot
  | true =>
      cases hnetworks : Params.checkNetworks d with
      | error f =>
          refine iff_of_true (htold.mpr (checkNetworks_failsOnly d f hnetworks)) fun h => ?_
          rw [h.networks] at hnetworks
          cases hnetworks
      | ok _ =>
          cases hcanonical : Params.canonical d with
          | error f =>
              have hrefused := Params.canonical_failsOnly_iff d
              rw [hcanonical] at hrefused
              rw [overlooked_iff_of_refused hnetworks hcanonical, ← hrefused]
              exact htold.trans ⟨.error, fun h => h f rfl⟩
          | ok params =>
              obtain ⟨chain, hchain, hfinds⟩ := exists_finds flags hnetworks hcanonical
              rw [overlooked_iff_of_accepted hnetworks hcanonical hchain, not_not,
                ← namesManifest_iff_of_respells (Params.respells_of_canonical hcanonical)]
              exact hfinds.isReported_iff env key

/-- What is loaded from a file, by what its text says. -/
theorem load_result [Address.CaseRule] {path : Path} {w : World} {bytes : Bytes} {cs : List Char}
    (hread : w.files.read path = .ok bytes) (htext : Text.ofFile? bytes = some cs) :
    ((Params.load (.file path)).perform w).1 =
      match Document.ofText cs with
      | .error e => .error (.yaml e)
      | .ok d => (Params.ofDocument path.text d).mapError Failure.configuration := by
  have hsource : ∀ w' : World, w'.files = w.files →
      (Params.readSource (.file path)).perform w' = (.ok cs, w') := by
    intro w' hfiles
    unfold Params.readSource
    dsimp only
    rw [Action.perform_get_bind, hfiles, hread]
    dsimp only
    rw [Action.perform_readText, hfiles, hread]
    dsimp only
    rw [htext]
  unfold Params.load
  rw [Action.perform_bind]
  show (Action.perform _ { w with notices := w.notices ++ [.validatingParams path.text] }).1 = _
  rw [Action.perform_bind,
    hsource { w with notices := w.notices ++ [.validatingParams path.text] } rfl]
  dsimp only
  cases Document.ofText cs with
  | error e => rfl
  | ok d => rw [Action.perform_ofExcept]; rfl

/-- What is made of parameters that are loaded. -/
theorem resolve_result [Address.CaseRule] {flags : Flags} {env : Environ} {key : String}
    {source : Params.Source} {w : World} (hkey : env.nonempty? "PRIVATE_KEY" = some key) :
    ((resolve flags env none source).perform w).1 =
      ((Params.load source).perform w).1 >>= ofParams flags env key := by
  unfold resolve
  rw [hkey]
  dsimp only
  rw [Action.perform_bind]
  rcases (Params.load source).perform w with ⟨r, w'⟩
  cases r with
  | error f => rfl
  | ok d =>
      dsimp only
      rw [Action.perform_ofExcept]
      rfl

/-- A bad configuration is reported exactly if the file says something and nothing in it is
overlooked. Nothing is looked at before there is a private key. -/
theorem isReported_resolve_iff [Address.CaseRule] (flags : Flags) (env : Environ) {path : Path}
    {w : World} {bytes : Bytes} {cs : List Char} (hread : w.files.read path = .ok bytes)
    (htext : Text.ofFile? bytes = some cs) :
    IsReported ((resolve flags env none (.file path)).perform w).1 ↔
      ((env.nonempty? "PRIVATE_KEY").isSome = true →
        ∃ d, Document.ofText cs = .ok d ∧ ¬Overlooked flags env d) := by
  cases hkey : env.nonempty? "PRIVATE_KEY" with
  | none =>
      unfold resolve
      rw [hkey]
      exact iff_of_true ⟨nofun, .error ⟨_, rfl, rfl⟩⟩ nofun
  | some key =>
      rw [resolve_result hkey, load_result hread htext]
      simp only [Option.isSome_some, forall_true_left]
      cases Document.ofText cs with
      | error e =>
          refine iff_of_false (fun h => ?_) (by rintro ⟨_, ⟨⟩, _⟩)
          obtain ⟨_, ⟨⟩, _⟩ := h.failsOnly _ rfl
      | ok d =>
          simp only [Except.ok.injEq, exists_eq_left']
          exact isReported_ofDocument_iff flags env key path.text d

/-! ## Parameters with a word for the chain -/

/-- The text of parameters without any address, with what they say of the test network's chain. -/
def textWithChain (chain : String) : List Char :=
  let constants := Dependency.constants.map fun dep =>
    " " ++ dep.constant ++ ": " ++ placeholder ++ "\n"
  ("networks:\n" ++
    " mainnet:\n  uri: main\n  chain_id: 324\n" ++
    " testnet:\n  uri: test\n  chain_id: " ++ chain ++ "\n" ++
    "constants:\n" ++ String.join constants).toList

/-- A world in which a file holds these parameters. -/
def worldWithChain (chain : String) : World := .holding (Text.encode (textWithChain chain))

theorem read_worldWithChain (chain : String) :
    (worldWithChain chain).files.read .given = .ok (Text.encode (textWithChain chain)) := by
  rw [worldWithChain, Store.read, World.look_holding]
  rfl

/-- An environment with nothing but a private key. -/
def environWithKey : Environ := .ofList [("PRIVATE_KEY", "1")]

/-- What is made of the parameters in that file. -/
def resolvedWithChain [Address.CaseRule] (chain : String) : Except Failure Settings :=
  ((resolve ⟨false, false⟩ environWithKey none (.file .given)).perform
    (worldWithChain chain)).1

theorem isReported_integer :
    (worldWithChain "280").files.read .given =
        .ok (Text.encode (textWithChain "280")) ∧
      Text.ofFile? (Text.encode (textWithChain "280")) = some (textWithChain "280") ∧
      IsReported (resolvedWithChain "280") ∧
      ∃ d, Document.ofText (textWithChain "280") = .ok d ∧
        ¬Overlooked ⟨false, false⟩ environWithKey d := by
  have htext : Text.ofFile? (Text.encode (textWithChain "280")) =
      some (textWithChain "280") := by decide +kernel
  have hnamed : (resolvedWithChain "280").toOption.map
      (fun s => s.manifestFilename.isText "deployment.json") = some true := by
    decide +kernel
  obtain ⟨s, hs, hname⟩ := Option.map_eq_some_iff.mp hnamed
  have hreported : IsReported (resolvedWithChain "280") := by
    rw [Outcome.eq_ok_of_toOption hs]
    exact isReported_ok_iff.mpr ⟨_, (Value.isText_iff _ _).mp hname⟩
  refine ⟨read_worldWithChain "280", htext, hreported, ?_⟩
  rw [resolvedWithChain] at hreported
  exact (isReported_resolve_iff ⟨false, false⟩ environWithKey (read_worldWithChain "280")
    htext).mp hreported rfl

/-- A word in the place of the number is well-formed, and what is said of it is not that the
configuration is at fault. -/
theorem not_isReported_word :
    (∃ d, Document.ofText (textWithChain "abc") = .ok d) ∧
      resolvedWithChain "abc" = .error .malformedNumber ∧
      ¬IsReported (resolvedWithChain "abc") := by
  have hformed : (Document.ofText (textWithChain "abc")).isOk = true := by decide +kernel
  have hfails : (Outcome.error? (resolvedWithChain "abc")).any
      (fun f => match f with
        | .malformedNumber => true
        | _ => false) = true := by
    decide +kernel
  obtain ⟨f, hf, hmalformed⟩ := Outcome.exists_eq_error hfails
  have hcause : f = .malformedNumber := by
    cases f <;> first | rfl | cases hmalformed
  rw [hcause] at hf
  refine ⟨Outcome.exists_eq_ok hformed, hf, fun h => ?_⟩
  obtain ⟨c, hc, -⟩ := h.failsOnly _ hf
  cases hc

end Settings

end Rollout
