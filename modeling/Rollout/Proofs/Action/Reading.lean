import Rollout.Account
import Rollout.Artifact
import Rollout.Proofs.Action.Effect
import Rollout.Settings.Resolve

/-!
# Actions that only read

Settings are put together and artifacts are loaded from the files alone. What
such an action gives depends on nothing else in the world, and all it changes is
what the operator has been told. So it does not matter at which point of a call
it is taken, as long as the files are the same.

An account is opened from the keystore alone in the same way, but it may be put
there on this occasion, at the end.

## Main results

* `Action.ReadsFiles.result_eq`, `Action.ReadsFiles.keeps`: the same files give the
  same result, and everything but the notices is kept.
* `Settings.resolve_readsFiles`, `Artifacts.loadEach_readsFiles`: the two actions.
* `Artifacts.loadEach_cases`: all artifacts, or the first that does not load.
* `Account.perform_load`: what opening an account gives, and what it adds to the
  keystore.
-/

namespace Rollout

namespace Action

variable {α β γ : Type}

/-- The action looks at the files only, and all it does is to tell something. -/
def ReadsFiles (a : Action α) : Prop :=
  ∀ files, ∃ r told, ∀ w : World, w.files = files →
    a.perform w = (r, { w with notices := w.notices ++ told })

namespace ReadsFiles

/-- Worlds with the same files give the same result. -/
theorem result_eq {a : Action α} (h : a.ReadsFiles) {w w' : World} (hfiles : w'.files = w.files) :
    (a.perform w').1 = (a.perform w).1 := by
  obtain ⟨r, told, hr⟩ := h w.files
  rw [hr w rfl, hr w' hfiles]

/-- A part of the world that the notices do not belong to is kept. -/
theorem keeps {a : Action α} (h : a.ReadsFiles) (part : World → γ)
    (hpart : ∀ w notices, part { w with notices } = part w) (w : World) : a.Keeps part w := by
  obtain ⟨r, told, hr⟩ := h w.files
  rw [Keeps, hr w rfl]
  exact hpart w _

theorem pure (x : α) : (Pure.pure x : Action α).ReadsFiles :=
  fun _ => ⟨.ok x, [], fun w _ => by rw [List.append_nil]; rfl⟩

theorem throw (f : Failure) : (throw f : Action α).ReadsFiles :=
  fun _ => ⟨.error f, [], fun w _ => by rw [List.append_nil]; rfl⟩

theorem ofExcept (r : Except Failure α) : (ofExcept r).ReadsFiles := by
  cases r with
  | ok x => exact pure x
  | error f => exact throw f

theorem say (n : Notice) : (say n).ReadsFiles :=
  fun _ => ⟨.ok (), [n], fun _ _ => rfl⟩

theorem bind {a : Action α} {g : α → Action β} (ha : a.ReadsFiles)
    (hg : ∀ x, (g x).ReadsFiles) : (a >>= g).ReadsFiles := by
  intro files
  obtain ⟨r, told, hr⟩ := ha files
  cases r with
  | error f =>
      refine ⟨.error f, told, fun w hw => ?_⟩
      rw [perform_bind, hr w hw]
  | ok x =>
      obtain ⟨r', told', hr'⟩ := hg x files
      refine ⟨r', told ++ told', fun w hw => ?_⟩
      rw [perform_bind, hr w hw, ← List.append_assoc]
      exact hr' { w with notices := w.notices ++ told } hw

theorem map {a : Action α} (ha : a.ReadsFiles) (f : α → β) : (f <$> a).ReadsFiles := by
  rw [map_eq_pure_bind]
  exact ha.bind fun _ => pure _

/-- What an action does may depend on the files. -/
theorem get_bind {f : World → Action β} (hsame : ∀ w w' : World, w'.files = w.files → f w' = f w)
    (hf : ∀ w, (f w).ReadsFiles) : (get >>= f : Action β).ReadsFiles := by
  intro files
  by_cases hsome : ∃ w : World, w.files = files
  · obtain ⟨w, rfl⟩ := hsome
    obtain ⟨r, told, hr⟩ := hf w w.files
    refine ⟨r, told, fun w' hw' => ?_⟩
    rw [perform_get_bind, hsame w w' hw']
    exact hr w' hw'
  · exact ⟨.error .aborted, [], fun w hw => absurd ⟨w, hw⟩ hsome⟩

theorem mapM {f : α → Action β} (hf : ∀ x, (f x).ReadsFiles) (xs : List α) :
    (xs.mapM f).ReadsFiles := by
  induction xs with
  | nil => exact pure _
  | cons x xs ih =>
      rw [List.mapM_cons]
      exact bind (hf x) fun _ => bind ih fun _ => pure _

/-- Actions that only read, one after the other, give what each of them gives alone. -/
theorem mapM_result {f : α → Action β} (hf : ∀ x, (f x).ReadsFiles) (xs : List α) (w : World) :
    ((xs.mapM f).perform w).1 = xs.mapM fun x => ((f x).perform w).1 := by
  induction xs generalizing w with
  | nil => rfl
  | cons x xs ih =>
      rw [List.mapM_cons, List.mapM_cons, perform_bind]
      obtain ⟨r, told, hr⟩ := hf x w.files
      rw [hr w rfl]
      cases r with
      | error e => rfl
      | ok y =>
          have hsame : ∀ x', ((f x').perform { w with notices := w.notices ++ told }).1 =
              ((f x').perform w).1 := fun x' => (hf x').result_eq rfl
          have hrest := ih { w with notices := w.notices ++ told }
          simp only [hsame] at hrest
          show (Action.perform (xs.mapM f >>= fun ys => Pure.pure (y :: ys)) _).1 =
            (xs.mapM fun x => ((f x).perform w).1) >>= fun ys => .ok (y :: ys)
          rw [perform_bind, ← hrest]
          rcases (xs.mapM f).perform { w with notices := w.notices ++ told } with ⟨r, w'⟩
          cases r <;> rfl

end ReadsFiles

/-- The text of a file, or what is wrong with it. -/
theorem perform_readText (p : Path) (w : World) :
    (readText p).perform w =
      (match w.files.read p with
        | .error e => .error (.file e)
        | .ok bytes =>
            match Text.ofFile? bytes with
            | none => .error .notText
            | some cs => .ok cs, w) := by
  unfold readText
  rw [perform_get_bind]
  cases w.files.read p with
  | error e => rfl
  | ok bytes =>
      dsimp only
      cases Text.ofFile? bytes <;> rfl

theorem readText_readsFiles (p : Path) : (readText p).ReadsFiles := by
  unfold readText
  refine .get_bind (fun w w' h => by rw [h]) fun w => ?_
  split
  · exact .throw _
  · split
    · exact .throw _
    · exact .pure _

end Action

namespace Params

theorem readSource_readsFiles (source : Source) : (readSource source).ReadsFiles := by
  unfold readSource
  cases source with
  | packaged => exact .pure _
  | file path =>
      refine .get_bind (fun w w' h => by rw [h]) fun w => ?_
      split
      · exact .throw _
      · exact Action.readText_readsFiles path

theorem load_readsFiles [Address.CaseRule] (source : Source) : (load source).ReadsFiles := by
  unfold load
  refine .bind (.say _) fun _ => .bind (readSource_readsFiles source) fun cs => ?_
  split
  · exact .throw _
  · exact .ofExcept _

end Params

/-- Settings depend on the files only, apart from what they are given. -/
theorem Settings.resolve_readsFiles [Address.CaseRule] (flags : Flags) (env : Environ)
    (params : Option Value) (source : Params.Source) :
    (resolve flags env params source).ReadsFiles := by
  unfold resolve
  split
  · exact .throw _
  · dsimp only
    split
    · exact .bind (.pure _) fun _ => .ofExcept _
    · exact .bind (Params.load_readsFiles source) fun _ => .ofExcept _

namespace Artifact

theorem ofFile_readsFiles (path : Path) (contract : String) :
    (ofFile path contract).ReadsFiles := by
  unfold ofFile
  refine .bind (Action.readText_readsFiles path) fun cs => ?_
  split
  · exact .throw _
  · exact .throw _
  · exact .ofExcept _

theorem load_readsFiles (path : Path) (contract : String) : (load path contract).ReadsFiles := by
  unfold load
  refine .get_bind (fun w w' h => by rw [h]) fun w => ?_
  split
  · exact .throw _
  · exact .throw _
  · exact ofFile_readsFiles path contract

end Artifact

/-! ## All artifacts -/

namespace Artifacts

/-- Artifacts depend on the files only. -/
theorem loadEach_readsFiles (directory : Path) : (loadEach directory).ReadsFiles := by
  unfold loadEach
  refine .bind (.say _) fun _ => .mapM (fun k => ?_) _
  exact .bind (Artifact.load_readsFiles _ _) fun _ => .pure _

variable {directory : Path} {w : World}

/-- What loading the artifact of a contract gives. -/
def loaded (directory : Path) (w : World) (k : ContractKind) : Except Failure Artifact :=
  ((Artifact.load (directory.join k.path) k.name).perform w).1

/-- The first of some contracts whose artifact does not load, and why. -/
def FirstUnloaded (directory : Path) (w : World) (ks : List ContractKind) (k : ContractKind)
    (f : Failure) : Prop :=
  ∃ before after, ks = before ++ k :: after ∧
    (∀ j ∈ before, ∃ a, loaded directory w j = .ok a) ∧ loaded directory w k = .error f

/-- One artifact for each of some contracts, in their order. -/
def AreLoaded (directory : Path) (w : World) (ks : List ContractKind)
    (found : List (ContractKind × Artifact)) : Prop :=
  found.map Prod.fst = ks ∧ ∀ p ∈ found, loaded directory w p.1 = .ok p.2

/-- Artifacts are loaded one after the other, each as it would be alone. -/
theorem loadEach_result (directory : Path) (w : World) :
    ((loadEach directory).perform w).1 =
      ContractKind.all.mapM fun k => (loaded directory w k).map (Prod.mk k) := by
  have hreads : ∀ k : ContractKind,
      (Prod.mk k <$> Artifact.load (directory.join k.path) k.name).ReadsFiles :=
    fun k => .map (Artifact.load_readsFiles _ _) _
  unfold loadEach
  simp only [bind_pure_comp]
  rw [Action.perform_bind]
  show ((ContractKind.all.mapM fun k =>
    Prod.mk k <$> Artifact.load (directory.join k.path) k.name).perform
      { w with notices := w.notices ++ [.loadingArtifacts directory.text] }).1 = _
  rw [Action.ReadsFiles.mapM_result hreads]
  refine congrArg (fun f => ContractKind.all.mapM f) (funext fun k => ?_)
  rw [Action.perform_map]
  exact congrArg (Except.map (Prod.mk k)) ((Artifact.load_readsFiles _ _).result_eq rfl)

/-- Either all artifacts are loaded or loading stops at the first that does not load. -/
theorem mapM_loaded_cases (ks : List ContractKind) :
    (∃ found, (ks.mapM fun k => (loaded directory w k).map (Prod.mk k)) = .ok found ∧
      AreLoaded directory w ks found) ∨
    ∃ k f, (ks.mapM fun k => (loaded directory w k).map (Prod.mk k)) = .error f ∧
      FirstUnloaded directory w ks k f := by
  induction ks with
  | nil => exact .inl ⟨[], rfl, rfl, nofun⟩
  | cons k ks ih =>
      rw [List.mapM_cons]
      cases hk : loaded directory w k with
      | error f => exact .inr ⟨k, f, rfl, [], ks, rfl, nofun, hk⟩
      | ok a =>
          rcases ih with ⟨found, hfound, hfst, hall⟩ |
            ⟨j, f, herror, before, after, rfl, hbefore, hj⟩
          · refine .inl ⟨(k, a) :: found, ?_, ?_, List.forall_mem_cons.mpr ⟨hk, hall⟩⟩
            · rw [hfound]
              rfl
            · rw [List.map_cons, hfst]
          · refine .inr ⟨j, f, ?_, k :: before, after, rfl,
              List.forall_mem_cons.mpr ⟨⟨a, hk⟩, hbefore⟩, hj⟩
            rw [herror]
            rfl

/-- Loading gives all artifacts in their order, or stops at the first that does not load. -/
theorem loadEach_cases (directory : Path) (w : World) :
    (∃ found, ((loadEach directory).perform w).1 = .ok found ∧
      AreLoaded directory w ContractKind.all found) ∨
    ∃ k f, ((loadEach directory).perform w).1 = .error f ∧
      FirstUnloaded directory w ContractKind.all k f := by
  rw [loadEach_result]
  exact mapM_loaded_cases ContractKind.all

end Artifacts

/-! ## The account -/

namespace Account

variable {addressOf? : String → Option String} {privateKey passphrase : String}

/-- What opening an account gives, by what is in the keystore. -/
def opened (addressOf? : String → Option String) (privateKey passphrase : String)
    (keystore : Keystore) : Except Failure Account :=
  match addressOf? privateKey with
  | none => .error (.configuration .invalidPrivateKey)
  | some address =>
      let name := Keystore.aliasOf address
      let stored := (keystore.find? name).getD ⟨address, passphrase⟩
      if stored.address ≠ address then .error (.configuration (.foreignAlias name address))
      else if stored.passphrase ≠ passphrase then .error (.configuration (.lockedAlias name))
      else .ok { address := stored.address, passphrase }

/-- What opening an account adds to the keystore: the account of the key, if there is one and its
alias is free. -/
def imports (addressOf? : String → Option String) (privateKey passphrase : String)
    (k : Keystore) : Keystore :=
  match addressOf? privateKey with
  | none => []
  | some address =>
      if (k.find? (Keystore.aliasOf address)).isNone then
        [(Keystore.aliasOf address, ⟨address, passphrase⟩)]
      else []

section

variable {address : String} {k : Keystore}

theorem imports_of_free (haddress : addressOf? privateKey = some address)
    (hfree : k.find? (Keystore.aliasOf address) = none) :
    imports addressOf? privateKey passphrase k =
      [(Keystore.aliasOf address, ⟨address, passphrase⟩)] := by
  simp [imports, haddress, hfree]

theorem imports_of_taken {stored : Keyfile} (haddress : addressOf? privateKey = some address)
    (htaken : k.find? (Keystore.aliasOf address) = some stored) :
    imports addressOf? privateKey passphrase k = [] := by
  simp [imports, haddress, htaken]

theorem opened_of_free (haddress : addressOf? privateKey = some address)
    (hfree : k.find? (Keystore.aliasOf address) = none) :
    opened addressOf? privateKey passphrase k = .ok ⟨address, passphrase⟩ := by
  simp [opened, haddress, hfree]

theorem opened_of_own (haddress : addressOf? privateKey = some address)
    (hown : k.find? (Keystore.aliasOf address) = some ⟨address, passphrase⟩) :
    opened addressOf? privateKey passphrase k = .ok ⟨address, passphrase⟩ := by
  simp [opened, haddress, hown]

end

/-- The account is put there if its alias is free. -/
theorem perform_obtain (name address passphrase : String) (w : World) :
    (obtain name address passphrase).perform w =
      match w.keystore.find? name with
      | some stored => (.ok stored, w)
      | none =>
          (.ok ⟨address, passphrase⟩,
            { w with
              keystore := w.keystore ++ [(name, ⟨address, passphrase⟩)]
              notices := w.notices ++ [.accountImported address] }) := by
  unfold obtain
  rw [Action.perform_get_bind]
  cases w.keystore.find? name with
  | some stored => rfl
  | none => rfl

/-- Opening an account looks at the keystore only. It adds at most one entry there, at the end, and
tells so. -/
theorem perform_load (addressOf? : String → Option String) (privateKey passphrase : String)
    (w : World) :
    (load addressOf? privateKey passphrase).perform w =
      (opened addressOf? privateKey passphrase w.keystore,
        { w with
          keystore := w.keystore ++ imports addressOf? privateKey passphrase w.keystore
          notices := w.notices ++ (imports addressOf? privateKey passphrase w.keystore).map
            fun p => .accountImported p.2.address }) := by
  cases haddress : addressOf? privateKey with
  | none =>
      have himports : imports addressOf? privateKey passphrase w.keystore = [] := by
        rw [imports, haddress]
      rw [himports, load, opened, haddress, List.append_nil, List.map_nil, List.append_nil]
      rfl
  | some address =>
      unfold load
      rw [haddress]
      dsimp only
      rw [Action.perform_bind, perform_obtain]
      cases hthere : w.keystore.find? (Keystore.aliasOf address) with
      | none =>
          rw [opened_of_free haddress hthere, imports_of_free haddress hthere]
          simp only [ne_eq, not_true_eq_false, if_false]
          rfl
      | some stored =>
          rw [imports_of_taken haddress hthere, List.append_nil, List.map_nil, List.append_nil,
            opened, haddress]
          dsimp only
          rw [hthere, Option.getD_some]
          by_cases hsame : stored.address = address
          · by_cases hpass : stored.passphrase = passphrase
            · simp only [hsame, hpass, ne_eq, not_true_eq_false, if_false]
              rfl
            · simp only [hsame, hpass, ne_eq, not_true_eq_false, not_false_eq_true, if_false, if_true]
              rfl
          · simp only [hsame, ne_eq, not_false_eq_true, if_true]
            rfl

/-- Which account it is depends on the keystore only. -/
theorem load_result_eq {w w' : World} (h : w'.keystore = w.keystore) :
    ((load addressOf? privateKey passphrase).perform w').1 =
      ((load addressOf? privateKey passphrase).perform w).1 := by
  rw [perform_load, perform_load, h]

/-- An account that was opened is that of the key. -/
theorem addressOf?_of_opened {keystore : Keystore} {account : Account}
    (h : opened addressOf? privateKey passphrase keystore = .ok account) :
    addressOf? privateKey = some account.address := by
  unfold opened at h
  split at h
  · cases h
  · rename_i address haddress
    dsimp only at h
    split at h
    · cases h
    · rename_i hsame
      split at h
      · cases h
      · cases h
        rw [haddress, Decidable.not_not.mp hsame]

end Account

end Rollout
