import Mathlib.Data.Set.Insert
import Rollout.Proofs.Roles.Plan

/-!
# Who holds a role

Grants and revocations are read as changes of a table that says, for each role
identifier, which accounts hold it. `Holders.after` is the table after some
entries of the log. Whom an address names is a parameter, so that two spellings
of one address may be one account.

While a role is handed over, the set of holders of each of its identifiers goes
through three stages (`Holders.Stage`): as it was, with the recipient, and then
without the former holder. The last stage is the one to look at, because the
recipient may be the former holder: revoking then takes away what was granted
just before.

## Main results

* `Role.stage_of_prefix_handovers`, `Role.after_prefix_handovers_of_not_mem`: at
  every moment of some handovers, each identifier of a moving role is in one of
  the three stages, and every other identifier is as it was.
* `Role.after_handovers`: at the end each moving role is at its last stage.
-/

namespace Rollout

/-- The accounts that hold each role, by the role's identifier. -/
abbrev Holders (Account : Type) := Value → Set Account

namespace Holders

variable {Account : Type}

/-- One more holder of a role. -/
def grant (h : Holders Account) (id : Value) (a : Account) : Holders Account :=
  fun i => {b | b ∈ h i ∨ i = id ∧ b = a}

/-- A role without one of its holders. -/
def revoke (h : Holders Account) (id : Value) (a : Account) : Holders Account :=
  fun i => {b | b ∈ h i ∧ ¬(i = id ∧ b = a)}

/-- What an entry of the log does to the holders. -/
def step (account : Value → Account) (h : Holders Account) (e : LogEntry) : Holders Account :=
  match e.kind, e.name, e.args with
  | .transact, "grantRole", [id, a] => h.grant id (account a)
  | .transact, "revokeRole", [id, a] => h.revoke id (account a)
  | _, _, _ => h

/-- The holders after some entries. -/
def after (account : Value → Account) (h : Holders Account) (es : List LogEntry) :
    Holders Account :=
  es.foldl (step account) h

/-- After each part of the entries from the beginning, every one of the identifiers is held by
somebody. -/
def NeverOrphaned (account : Value → Account) (h : Holders Account) (ids : List Value)
    (es : List LogEntry) : Prop :=
  ∀ done, done <+: es → ∀ id ∈ ids, (h.after account done id).Nonempty

/-- The sets of holders that an identifier has one after the other while it is handed over. -/
inductive Stage (before : Set Account) (recipient holder : Account) : Set Account → Prop where
  | untouched : Stage before recipient holder before
  | granted : Stage before recipient holder (insert recipient before)
  | moved : Stage before recipient holder (insert recipient before \ {holder})

/-- The table in which one account holds every role, and nobody else holds any. -/
def only (a : Account) : Holders Account := fun _ => {a}

@[simp] theorem only_apply (a : Account) (i : Value) : only a i = {a} := rfl

theorem mem_only (a : Account) (i : Value) : a ∈ only a i := Set.mem_singleton a

/-! ## Calls in a row -/

variable (account : Value → Account) (h : Holders Account)

@[simp] theorem after_nil : h.after account [] = h := rfl

theorem after_append (xs ys : List LogEntry) :
    h.after account (xs ++ ys) = (h.after account xs).after account ys :=
  List.foldl_append

theorem after_grants (core : String) (ids : List Value) (a : Value) (i : Value) :
    h.after account (Role.calls core "grantRole" ids a) i =
      {b | b ∈ h i ∨ i ∈ ids ∧ b = account a} := by
  induction ids generalizing h with
  | nil => simp [Role.calls]
  | cons id ids ih =>
      have hstep : h.after account (Role.calls core "grantRole" (id :: ids) a) =
          (h.grant id (account a)).after account (Role.calls core "grantRole" ids a) := rfl
      rw [hstep, ih]
      ext b
      simp only [grant, Set.mem_ofPred_eq, List.mem_cons]
      rw [or_assoc, ← or_and_right]

theorem after_revocations (core : String) (ids : List Value) (a : Value) (i : Value) :
    h.after account (Role.calls core "revokeRole" ids a) i =
      {b | b ∈ h i ∧ ¬(i ∈ ids ∧ b = account a)} := by
  induction ids generalizing h with
  | nil => simp [Role.calls]
  | cons id ids ih =>
      have hstep : h.after account (Role.calls core "revokeRole" (id :: ids) a) =
          (h.revoke id (account a)).after account (Role.calls core "revokeRole" ids a) := rfl
      rw [hstep, ih]
      ext b
      simp only [revoke, Set.mem_ofPred_eq, List.mem_cons]
      rw [and_assoc, ← not_or, ← or_and_right]

end Holders

namespace Role

variable {Account : Type} (account : Value → Account) (h : Holders Account)

/-! ## One role -/

/-- A handover leaves every identifier alone that is not among its own. -/
theorem after_prefix_handover_of_not_mem {core : String} {ids : List Value}
    {recipient holder : Value} {done : List LogEntry} {i : Value}
    (hp : done <+: handover core ids recipient holder) (hi : i ∉ ids) :
    h.after account done i = h i := by
  rcases prefix_handover_cases hp with ⟨part, hs, rfl⟩ | ⟨part, hs, rfl⟩
  · have hi' : i ∉ part := fun hm => hi (hs.subset hm)
    rw [Holders.after_grants]
    simp [hi']
  · have hi' : i ∉ part := fun hm => hi (hs.subset hm)
    rw [Holders.after_append, Holders.after_revocations, Holders.after_grants]
    simp [hi, hi']

/-- At every moment of a handover each of its identifiers is in one of three stages. -/
theorem stage_of_prefix_handover {core : String} {ids : List Value} {recipient holder : Value}
    {done : List LogEntry} {i : Value} (hp : done <+: handover core ids recipient holder)
    (hi : i ∈ ids) :
    Holders.Stage (h i) (account recipient) (account holder) (h.after account done i) := by
  rcases prefix_handover_cases hp with ⟨part, _, rfl⟩ | ⟨part, _, rfl⟩
  · rw [Holders.after_grants]
    by_cases hs : i ∈ part
    · have hset : {b | b ∈ h i ∨ i ∈ part ∧ b = account recipient} =
          insert (account recipient) (h i) := by
        ext b
        simp [hs, or_comm]
      rw [hset]
      exact .granted
    · simp only [hs, false_and, or_false, Set.ofPred_mem_eq]
      exact .untouched
  · rw [Holders.after_append, Holders.after_revocations, Holders.after_grants]
    by_cases hs : i ∈ part
    · have hset : {b | b ∈ {b | b ∈ h i ∨ i ∈ ids ∧ b = account recipient} ∧
          ¬(i ∈ part ∧ b = account holder)} =
          insert (account recipient) (h i) \ {account holder} := by
        ext b
        simp [hs, hi, or_comm]
      rw [hset]
      exact .moved
    · have hset : {b | b ∈ {b | b ∈ h i ∨ i ∈ ids ∧ b = account recipient} ∧
          ¬(i ∈ part ∧ b = account holder)} = insert (account recipient) (h i) := by
        ext b
        simp [hs, hi, or_comm]
      rw [hset]
      exact .granted

/-- After a handover the recipient has taken the holder's place. -/
theorem after_handover {core : String} {ids : List Value} {recipient holder : Value} {i : Value}
    (hi : i ∈ ids) :
    h.after account (handover core ids recipient holder) i =
      insert (account recipient) (h i) \ {account holder} := by
  rw [handover, Holders.after_append, Holders.after_revocations, Holders.after_grants]
  ext b
  simp [hi, or_comm]

/-! ## Several roles -/

section Several

variable (core : String) (idOf : String → Value) (holder : Value)

/-- Handovers leave every identifier alone that is not among their own. -/
theorem after_prefix_handovers_of_not_mem {ps : List (Role × Value)} {i : Value}
    (hi : ∀ p ∈ ps, i ∉ p.1.getters.map idOf) {done : List LogEntry}
    (hp : done <+: handovers core idOf holder ps) : h.after account done i = h i := by
  induction ps generalizing h done with
  | nil => rw [List.prefix_nil.mp hp, Holders.after_nil]
  | cons p ps ih =>
      have hnot : i ∉ p.1.getters.map idOf := hi p List.mem_cons_self
      rw [handovers_cons] at hp
      rcases prefix_append_cases hp with hx | ⟨rest, rfl, hr⟩
      · exact after_prefix_handover_of_not_mem account h hx hnot
      · rw [Holders.after_append, ih _ (fun q hq => hi q (List.mem_cons_of_mem p hq)) hr]
        exact after_prefix_handover_of_not_mem account h (List.prefix_refl _) hnot

variable {ps : List (Role × Value)}
  (hapart : ps.Pairwise fun p q => ∀ i ∈ p.1.getters.map idOf, i ∉ q.1.getters.map idOf)
  {p : Role × Value} (hp : p ∈ ps) {i : Value} (hi : i ∈ p.1.getters.map idOf)

include hapart hp hi

/-- At every moment of some handovers each identifier is in one of three stages. -/
theorem stage_of_prefix_handovers {done : List LogEntry}
    (hd : done <+: handovers core idOf holder ps) :
    Holders.Stage (h i) (account p.2) (account holder) (h.after account done i) := by
  induction ps generalizing h done with
  | nil => cases hp
  | cons q ps ih =>
      obtain ⟨hq, hps⟩ := List.pairwise_cons.mp hapart
      rw [handovers_cons] at hd
      rcases List.mem_cons.mp hp with rfl | hp
      · -- The role is the first one: the others leave its identifiers alone.
        rcases prefix_append_cases hd with hx | ⟨rest, rfl, hr⟩
        · exact stage_of_prefix_handover account h hx hi
        · rw [Holders.after_append,
            after_prefix_handovers_of_not_mem account _ core idOf holder
              (fun r hr => hq r hr i hi) hr,
            after_handover account h hi]
          exact .moved
      · -- The role comes later: the first one leaves its identifiers alone.
        have hnot : i ∉ q.1.getters.map idOf := fun hm => hq p hp i hm hi
        rcases prefix_append_cases hd with hx | ⟨rest, rfl, hr⟩
        · rw [after_prefix_handover_of_not_mem account h hx hnot]
          exact .untouched
        · have hih := ih (h.after account (handover core (q.1.getters.map idOf) q.2 holder))
            hps hp hr
          rw [after_prefix_handover_of_not_mem account h (List.prefix_refl _) hnot] at hih
          rwa [Holders.after_append]

/-- After some handovers each recipient has taken the holder's place. -/
theorem after_handovers :
    h.after account (handovers core idOf holder ps) i =
      insert (account p.2) (h i) \ {account holder} := by
  induction ps generalizing h with
  | nil => cases hp
  | cons q ps ih =>
      obtain ⟨hq, hps⟩ := List.pairwise_cons.mp hapart
      rw [handovers_cons, Holders.after_append]
      rcases List.mem_cons.mp hp with rfl | hp
      · rw [after_prefix_handovers_of_not_mem account _ core idOf holder
            (fun r hr => hq r hr i hi) (List.prefix_refl _),
          after_handover account h hi]
      · have hnot : i ∉ q.1.getters.map idOf := fun hm => hq p hp i hm hi
        rw [ih _ hps hp,
          after_prefix_handover_of_not_mem account h (List.prefix_refl _) hnot]

end Several

end Role

end Rollout
