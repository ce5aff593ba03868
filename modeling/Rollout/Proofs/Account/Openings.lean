import Rollout.Proofs.Action.Reading

/-!
# Accounts that are opened one after the other

An alias is made of a part of an address only, so the keys of different accounts
may share one, and what the keystore has under an alias from before may belong to
anybody. An account that is new is put there before its owner and its passphrase
are checked. What it is put there with is what the checks are going to ask for,
so they can only fail for an account that was there already: a call that fails
changes nothing.

`Account.openings` is a run of calls of any length, some of which may fail. What
a call needs of the keystore, and what it adds to it, depends on nothing else
(`Account.opening`). From what one call does to the keystore it follows by
induction what a run does: entries are added at the end, each under an alias that
was free, and none is ever changed. So an account that was opened once is found
again by the same call, whatever was opened in between.

## Main results

* `Account.opening_isSound`: what is to be said of one call.
* `Account.openings_import_once`: what is to be said of a run of calls.
-/

namespace Rollout

namespace Keystore

variable {k : Keystore} {name : String}

/-- What is found under an alias is found there when more has been added. -/
theorem find?_append_of_eq_some {f : Keyfile} (h : k.find? name = some f) (more : Keystore) :
    find? (k ++ more) name = some f := by
  obtain ⟨p, hp, rfl⟩ := Option.map_eq_some_iff.mp h
  rw [find?, List.find?_append, hp]
  rfl

/-- An alias is free if it was free and is not among what has been added. -/
theorem find?_append_eq_none_iff {more : Keystore} :
    find? (k ++ more) name = none ↔ k.find? name = none ∧ find? more name = none := by
  unfold find?
  rw [Option.map_eq_none_iff, Option.map_eq_none_iff, Option.map_eq_none_iff, List.find?_append,
    Option.or_eq_none_iff]

theorem find?_eq_none_iff : k.find? name = none ↔ ∀ p ∈ k, p.1 ≠ name := by
  rw [find?, Option.map_eq_none_iff, List.find?_eq_none]
  simp only [beq_iff_eq, ne_eq]

theorem find?_singleton_self (f : Keyfile) : find? [(name, f)] name = some f := by
  rw [find?, List.find?_cons_of_pos (by simp)]
  rfl

/-- What has been added under a free alias is found there. -/
theorem find?_append_self (h : k.find? name = none) (f : Keyfile) :
    find? (k ++ [(name, f)]) name = some f := by
  have hnone : List.find? (·.1 == name) k = none := Option.map_eq_none_iff.mp h
  rw [find?, List.find?_append, hnone, Option.none_or]
  exact find?_singleton_self f

end Keystore

namespace Account

variable {addressOf? : String → Option String}

/-! ## One call -/

section

variable {privateKey passphrase address : String} {k : Keystore}

/-- A call returns the account of the key, and then the alias is free or has this account with this
passphrase. -/
theorem opened_eq_ok {account : Account}
    (h : opened addressOf? privateKey passphrase k = .ok account) :
    addressOf? privateKey = some account.address ∧ account.passphrase = passphrase ∧
      ∀ stored, k.find? (Keystore.aliasOf account.address) = some stored →
        stored = ⟨account.address, passphrase⟩ := by
  have haddress : addressOf? privateKey = some account.address := addressOf?_of_opened h
  unfold opened at h
  rw [haddress] at h
  dsimp only at h
  split at h
  · cases h
  · split at h
    · cases h
    · rename_i hsame hpass
      have hpassphrase : account.passphrase = passphrase := by rw [← Except.ok.inj h]
      refine ⟨haddress, hpassphrase, fun stored hstored => ?_⟩
      rw [hstored, Option.getD_some, Decidable.not_not] at hsame hpass
      cases stored
      cases hsame
      cases hpass
      rfl

end

/-! ## Calls on record -/

/-- A call on record: what it was given, how it ended, and the keystore before and after it. -/
structure Opening where
  privateKey : String
  passphrase : String
  result : Except Failure Account
  before : Keystore
  after : Keystore

/-- What a call has added to the keystore. -/
def Opening.imported (o : Opening) : Keystore := o.after.drop o.before.length

/-- Calls to open accounts, each with a private key and a passphrase. They are made one after the
other, whether they fail or not. -/
def openings (addressOf? : String → Option String) :
    List (String × String) → World → List Opening
  | [], _ => []
  | (privateKey, passphrase) :: calls, w =>
      let out := (load addressOf? privateKey passphrase).perform w
      { privateKey, passphrase, result := out.1, before := w.keystore, after := out.2.keystore } ::
        openings addressOf? calls out.2

/-- The world after such calls. -/
def loadAll (addressOf? : String → Option String) (calls : List (String × String))
    (w : World) : World :=
  calls.foldl (fun w c => ((load addressOf? c.1 c.2).perform w).2) w

/-- The record of a call is settled by the keystore before it. -/
def opening (addressOf? : String → Option String) (privateKey passphrase : String)
    (k : Keystore) : Opening :=
  { privateKey, passphrase
    result := opened addressOf? privateKey passphrase k
    before := k
    after := k ++ imports addressOf? privateKey passphrase k }

@[simp] theorem imported_opening (privateKey passphrase : String) (k : Keystore) :
    (opening addressOf? privateKey passphrase k).imported =
      imports addressOf? privateKey passphrase k :=
  List.drop_left

theorem openings_cons (privateKey passphrase : String) (calls : List (String × String))
    (w : World) :
    openings addressOf? ((privateKey, passphrase) :: calls) w =
      opening addressOf? privateKey passphrase w.keystore ::
        openings addressOf? calls ((load addressOf? privateKey passphrase).perform w).2 := by
  show _ :: _ = _ :: _
  rw [perform_load]
  rfl

/-! ## What a call means -/

namespace Opening

/-- What is to be said of every call by itself. -/
structure IsSound (addressOf? : String → Option String) (o : Opening) : Prop where
  /-- No entry is changed or removed. -/
  grows : o.after = o.before ++ o.imported
  /-- What is added is the account of the key, under its own alias, which was free. -/
  imports : ∀ p ∈ o.imported, ∃ address, addressOf? o.privateKey = some address ∧
    p = (Keystore.aliasOf address, ⟨address, o.passphrase⟩) ∧ o.before.find? p.1 = none
  atMostOne : o.imported.length ≤ 1
  /-- A call that fails changes nothing. -/
  failed : ∀ f, o.result = .error f → o.after = o.before
  /-- A call that returns gives the account of the key, unlocked with the passphrase, and it is
  stored under its own alias. -/
  returned : ∀ account, o.result = .ok account →
    addressOf? o.privateKey = some account.address ∧ account.passphrase = o.passphrase ∧
      o.after.find? (Keystore.aliasOf account.address) = some ⟨account.address, o.passphrase⟩
  /-- A call returns as long as nothing else is stored under the alias. -/
  opens : ∀ address, addressOf? o.privateKey = some address →
    (∀ stored, o.before.find? (Keystore.aliasOf address) = some stored →
      stored = ⟨address, o.passphrase⟩) → o.result = .ok ⟨address, o.passphrase⟩

/-- What the first of two calls means for the second: if it gave an account, then with the same
arguments the second gives the same and adds nothing. -/
def Settles (o later : Opening) : Prop :=
  later.privateKey = o.privateKey → later.passphrase = o.passphrase →
    ∀ account, o.result = .ok account → later.result = .ok account ∧ later.after = later.before

end Opening

section

variable {privateKey passphrase : String} {k : Keystore}

/-- Everything that a call adds is the account of its key, under an alias that was free. -/
theorem eq_of_mem_imports {p : String × Keyfile}
    (hp : p ∈ imports addressOf? privateKey passphrase k) :
    ∃ address, addressOf? privateKey = some address ∧
      p = (Keystore.aliasOf address, ⟨address, passphrase⟩) ∧ k.find? p.1 = none := by
  unfold imports at hp
  cases haddress : addressOf? privateKey with
  | none =>
      rw [haddress] at hp
      cases hp
  | some address =>
      rw [haddress] at hp
      dsimp only at hp
      split at hp
      · rename_i hfree
        obtain rfl := List.mem_singleton.mp hp
        exact ⟨address, rfl, rfl, Option.isNone_iff_eq_none.mp hfree⟩
      · cases hp

theorem length_imports_le : (imports addressOf? privateKey passphrase k).length ≤ 1 := by
  unfold imports
  split
  · exact Nat.zero_le 1
  · split <;> simp

theorem nodup_imports :
    ((imports addressOf? privateKey passphrase k).map Prod.fst).Nodup := by
  unfold imports
  split
  · exact List.nodup_nil
  · split
    · exact List.pairwise_singleton _ _
    · exact List.nodup_nil

/-- The account that a call gives is stored when the call returns. -/
theorem find?_of_opened {account : Account}
    (h : opened addressOf? privateKey passphrase k = .ok account) :
    Keystore.find? (k ++ imports addressOf? privateKey passphrase k)
      (Keystore.aliasOf account.address) = some ⟨account.address, passphrase⟩ := by
  obtain ⟨haddress, -, hown⟩ := opened_eq_ok h
  cases hthere : k.find? (Keystore.aliasOf account.address) with
  | none =>
      rw [imports_of_free haddress hthere]
      exact Keystore.find?_append_self hthere _
  | some stored =>
      rw [← hown stored hthere]
      exact Keystore.find?_append_of_eq_some hthere _

theorem opening_isSound : (opening addressOf? privateKey passphrase k).IsSound addressOf? where
  grows := by
    rw [imported_opening]
    rfl
  imports p hp := by
    rw [imported_opening] at hp
    exact eq_of_mem_imports hp
  atMostOne := by
    rw [imported_opening]
    exact length_imports_le
  failed f hf := by
    have herror : opened addressOf? privateKey passphrase k = .error f := hf
    have hnothing : imports addressOf? privateKey passphrase k = [] := by
      cases haddress : addressOf? privateKey with
      | none => rw [imports, haddress]
      | some address =>
          cases hthere : k.find? (Keystore.aliasOf address) with
          | none =>
              rw [opened_of_free haddress hthere] at herror
              cases herror
          | some stored => exact imports_of_taken haddress hthere
    show k ++ imports addressOf? privateKey passphrase k = k
    rw [hnothing, List.append_nil]
  returned account h := by
    obtain ⟨haddress, hpass, -⟩ := opened_eq_ok h
    exact ⟨haddress, hpass, find?_of_opened h⟩
  opens address haddress hown := by
    cases hthere : k.find? (Keystore.aliasOf address) with
    | none => exact opened_of_free haddress hthere
    | some stored =>
        have hstored : stored = ⟨address, passphrase⟩ := hown stored hthere
        rw [hstored] at hthere
        exact opened_of_own haddress hthere

/-- A call that gave an account settles every call on a keystore that only has more. -/
theorem settles_of_append (o : Opening) (hsound : o.IsSound addressOf?) (more : Keystore) :
    o.Settles (opening addressOf? privateKey passphrase (o.after ++ more)) := by
  rintro (hkey : privateKey = _) (hpass : passphrase = _) account hresult
  obtain ⟨haddress, hunlocked, hstored⟩ := hsound.returned account hresult
  subst hkey hpass
  have hfound : Keystore.find? (o.after ++ more) (Keystore.aliasOf account.address) =
      some ⟨account.address, o.passphrase⟩ := Keystore.find?_append_of_eq_some hstored more
  refine ⟨?_, ?_⟩
  · show opened addressOf? o.privateKey o.passphrase (o.after ++ more) = .ok account
    rw [opened_of_own haddress hfound, ← hunlocked]
  · show (o.after ++ more) ++ _ = o.after ++ more
    rw [imports_of_taken haddress hfound, List.append_nil]

end

/-! ## Runs of calls -/

/-- The keystore after a run has what was there and what the calls have added, in this order. -/
theorem keystore_loadAll (calls : List (String × String)) :
    ∀ w : World, (loadAll addressOf? calls w).keystore =
      w.keystore ++ (openings addressOf? calls w).flatMap Opening.imported := by
  induction calls with
  | nil => exact fun w => (List.append_nil _).symm
  | cons call calls ih =>
      intro w
      obtain ⟨privateKey, passphrase⟩ := call
      have hrest := ih ((load addressOf? privateKey passphrase).perform w).2
      have hafter : ((load addressOf? privateKey passphrase).perform w).2.keystore =
          w.keystore ++ imports addressOf? privateKey passphrase w.keystore := by
        rw [perform_load]
      rw [openings_cons, List.flatMap_cons, imported_opening, ← List.append_assoc, ← hafter,
        ← hrest]
      rfl

/-- Every call of a run finds the keystore that the run started with, and maybe more. -/
theorem exists_of_mem_openings {calls : List (String × String)} :
    ∀ {w : World} {o : Opening}, o ∈ openings addressOf? calls w →
      ∃ more, o = opening addressOf? o.privateKey o.passphrase (w.keystore ++ more) := by
  induction calls with
  | nil => exact fun ho => by cases ho
  | cons call calls ih =>
      intro w o ho
      obtain ⟨privateKey, passphrase⟩ := call
      rw [openings_cons] at ho
      rcases List.mem_cons.mp ho with rfl | ho
      · exact ⟨[], by rw [List.append_nil]; rfl⟩
      · obtain ⟨more, ho⟩ := ih ho
        refine ⟨imports addressOf? privateKey passphrase w.keystore ++ more, ?_⟩
        rw [perform_load, List.append_assoc] at ho
        exact ho

/-- Aliases that are imported in a run are different, and none of them was taken before. -/
theorem nodup_imported (calls : List (String × String)) :
    ∀ w : World,
      (((openings addressOf? calls w).flatMap Opening.imported).map Prod.fst).Nodup ∧
      ∀ p ∈ (openings addressOf? calls w).flatMap Opening.imported,
        w.keystore.find? p.1 = none := by
  induction calls with
  | nil => exact fun w => ⟨List.nodup_nil, nofun⟩
  | cons call calls ih =>
      intro w
      obtain ⟨privateKey, passphrase⟩ := call
      obtain ⟨hnodup, hfree⟩ := ih ((load addressOf? privateKey passphrase).perform w).2
      rw [openings_cons, List.flatMap_cons, imported_opening]
      rw [perform_load] at hnodup hfree ⊢
      refine ⟨?_, ?_⟩
      · rw [List.map_append, List.nodup_append]
        refine ⟨nodup_imports, hnodup, ?_⟩
        -- What comes later is free in the keystore that the first call has left.
        rintro name hname _ hlater rfl
        obtain ⟨p, hp, rfl⟩ := List.mem_map.mp hname
        obtain ⟨q, hq, hsame⟩ := List.mem_map.mp hlater
        have hnone := (Keystore.find?_append_eq_none_iff.mp (hfree q hq)).2
        exact Keystore.find?_eq_none_iff.mp hnone p hp hsame.symm
      · intro p hp
        rcases List.mem_append.mp hp with hp | hp
        · obtain ⟨_, -, -, hnone⟩ := eq_of_mem_imports hp
          exact hnone
        · exact (Keystore.find?_append_eq_none_iff.mp (hfree p hp)).1

/-- A call settles all that come later in a run. -/
theorem pairwise_settles (calls : List (String × String)) :
    ∀ w : World, (openings addressOf? calls w).Pairwise Opening.Settles := by
  induction calls with
  | nil => exact fun w => List.Pairwise.nil
  | cons call calls ih =>
      intro w
      obtain ⟨privateKey, passphrase⟩ := call
      rw [openings_cons]
      refine List.pairwise_cons.mpr ⟨fun later hlater => ?_, ih _⟩
      obtain ⟨more, hmore⟩ := exists_of_mem_openings hlater
      rw [perform_load] at hmore
      rw [hmore]
      exact settles_of_append _ opening_isSound more

/-- **The keystore only takes in new accounts.** Whatever is in the keystore, and however addresses
come from keys, let any calls be made to open accounts. After all of them the keystore has what was
there before and behind it what the calls have added, under aliases that are all different and were
free. A call that fails adds nothing; one that returns gives the account of its key, unlocked with
its passphrase and stored under its alias; and once it has returned, every later call with the same
arguments gives the same account and adds nothing. -/
theorem openings_import_once (addressOf? : String → Option String)
    (calls : List (String × String)) (w : World) :
    (loadAll addressOf? calls w).keystore =
        w.keystore ++ (openings addressOf? calls w).flatMap Opening.imported ∧
      (((openings addressOf? calls w).flatMap Opening.imported).map Prod.fst).Nodup ∧
      (∀ p ∈ (openings addressOf? calls w).flatMap Opening.imported,
        w.keystore.find? p.1 = none) ∧
      (∀ o ∈ openings addressOf? calls w, o.IsSound addressOf?) ∧
      (openings addressOf? calls w).Pairwise Opening.Settles := by
  obtain ⟨hnodup, hfree⟩ := @nodup_imported addressOf? calls w
  refine ⟨keystore_loadAll calls w, hnodup, hfree, fun o ho => ?_, pairwise_settles calls w⟩
  obtain ⟨more, hopening⟩ := exists_of_mem_openings ho
  rw [hopening]
  exact opening_isSound

end Account

end Rollout
