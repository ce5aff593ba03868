import Rollout.Roles
import Rollout.Proofs.Deployer.Plan

/-!
# The transactions that hand over roles

A role is handed over by granting each of its identifiers to the recipient and
then revoking each from the deployer. `Role.handover` is this list of
transactions, and `Role.migration` joins the lists of all roles that have a
recipient, in their fixed order. Reading an identifier submits nothing.

## Main results

* `Role.transfer_follows`, `Role.migrate_follows`: these lists are the plans of
  the two operations, and a migration that returns names the roles it moved.
-/

namespace Rollout

/-- What the getter of a role identifier answers, empty where the chain has no such role. -/
def Chain.idOf (c : Chain) (getter : String) : Value :=
  match c.roleId? getter with
  | some id => .bytes id
  | none => .null

/-- The chain knows the identifiers of all roles, and no two roles have the same. -/
def Chain.TellsRolesApart (c : Chain) : Prop :=
  (∀ g ∈ roleGetters, (c.roleId? g).isSome = true) ∧
    ∀ g ∈ roleGetters, ∀ g' ∈ roleGetters, c.roleId? g = c.roleId? g' → g = g'

/-- On such a chain a getter is known by its answer. -/
theorem Chain.TellsRolesApart.eq_of_idOf_eq {c : Chain} (hc : c.TellsRolesApart)
    {g g' : String} (hg : g ∈ roleGetters) (hg' : g' ∈ roleGetters)
    (h : c.idOf g = c.idOf g') : g = g' := by
  obtain ⟨id, hid⟩ := Option.isSome_iff_exists.mp (hc.1 g hg)
  obtain ⟨id', hid'⟩ := Option.isSome_iff_exists.mp (hc.1 g' hg')
  rw [Chain.idOf, Chain.idOf, hid, hid'] at h
  cases h
  exact hc.2 g hg g' hg' (hid.trans hid'.symm)

theorem World.Accepts.idOf {w w' : World} {es : List LogEntry} (h : w.Accepts es w') :
    w'.chain.idOf = w.chain.idOf := by
  funext getter
  rw [Chain.idOf, Chain.idOf, h.roleId?]

/-- Whether an entry grants or revokes a role. -/
def LogEntry.movesRole (e : LogEntry) : Bool :=
  e.kind == .transact && (e.name == "grantRole" || e.name == "revokeRole")

theorem LogEntry.movesRole_iff {e : LogEntry} :
    e.movesRole = true ↔ e.kind = .transact ∧ (e.name = "grantRole" ∨ e.name = "revokeRole") := by
  simp [LogEntry.movesRole]

namespace Role

open Rollout.Action (Follows)

/-! ## Plans -/

/-- A transaction with an account for each identifier. -/
def calls (core method : String) (ids : List Value) (account : Value) : List LogEntry :=
  ids.map fun id => .transact core method [id, account]

/-- All grants to the recipient, then all revocations from the holder. -/
def handover (core : String) (ids : List Value) (recipient holder : Value) : List LogEntry :=
  calls core "grantRole" ids recipient ++ calls core "revokeRole" ids holder

/-- A part of two joined lists from the beginning lies in the first or reaches into the second. -/
theorem prefix_append_cases {α : Type} {done xs ys : List α} (hp : done <+: xs ++ ys) :
    done <+: xs ∨ ∃ rest, done = xs ++ rest ∧ rest <+: ys := by
  rcases List.prefix_or_prefix_of_prefix hp (List.prefix_append xs ys) with hx | ⟨rest, rfl⟩
  · exact .inl hx
  · exact .inr ⟨rest, rfl, (List.prefix_append_right_inj xs).mp hp⟩

/-- A part of a handover from the beginning is some grants, or all grants and some revocations. -/
theorem prefix_handover_cases {core : String} {ids : List Value} {recipient holder : Value}
    {done : List LogEntry} (hp : done <+: handover core ids recipient holder) :
    (∃ part, part <+: ids ∧ done = calls core "grantRole" part recipient) ∨
      ∃ part, part <+: ids ∧
        done = calls core "grantRole" ids recipient ++ calls core "revokeRole" part holder := by
  rcases prefix_append_cases hp with hg | ⟨rest, rfl, hr⟩
  · exact .inl (List.prefix_map_iff.mp hg)
  · obtain ⟨part, hs, rfl⟩ := List.prefix_map_iff.mp hr
    exact .inr ⟨part, hs, rfl⟩

/-- The handovers of some roles to their recipients, one after the other. -/
def handovers (core : String) (idOf : String → Value) (holder : Value)
    (ps : List (Role × Value)) : List LogEntry :=
  ps.flatMap fun p => handover core (p.1.getters.map idOf) p.2 holder

theorem handovers_cons (core : String) (idOf : String → Value) (holder : Value)
    (p : Role × Value) (ps : List (Role × Value)) :
    handovers core idOf holder (p :: ps) =
      handover core (p.1.getters.map idOf) p.2 holder ++ handovers core idOf holder ps :=
  List.flatMap_cons

/-- The entries of some handovers: each grants an identifier of one of the roles to its recipient, or
revokes one from the holder. -/
theorem mem_handovers {core : String} {idOf : String → Value} {holder : Value}
    {ps : List (Role × Value)} {e : LogEntry} :
    e ∈ handovers core idOf holder ps ↔ ∃ p ∈ ps, ∃ i ∈ p.1.getters.map idOf,
      e = .transact core "grantRole" [i, p.2] ∨ e = .transact core "revokeRole" [i, holder] := by
  constructor
  · intro he
    obtain ⟨p, hp, he⟩ := List.mem_flatMap.mp he
    rcases List.mem_append.mp he with he | he
    · obtain ⟨i, hi, rfl⟩ := List.mem_map.mp he
      exact ⟨p, hp, i, hi, .inl rfl⟩
    · obtain ⟨i, hi, rfl⟩ := List.mem_map.mp he
      exact ⟨p, hp, i, hi, .inr rfl⟩
  · rintro ⟨p, hp, i, hi, rfl | rfl⟩
    · exact List.mem_flatMap.mpr ⟨p, hp, List.mem_append_left _ (List.mem_map_of_mem hi)⟩
    · exact List.mem_flatMap.mpr ⟨p, hp, List.mem_append_right _ (List.mem_map_of_mem hi)⟩

/-- The roles that have a recipient, with it, in the order in which they are handed over. -/
def moving (recipients : Recipients) : List (Role × Value) :=
  (withRecipients recipients).filter fun p => !p.2.isEmpty

/-- The transactions that hand over every role with a recipient. -/
def migration (core : String) (idOf : String → Value) (recipients : Recipients)
    (holder : Value) : List LogEntry :=
  handovers core idOf holder (moving recipients)

/-! ## Identifiers -/

/-- The getters of role identifiers are no methods of a contract. -/
theorem method?_of_mem_roleGetters (t : ContractType) {getter : String}
    (h : getter ∈ roleGetters) : t.method? getter = none := by
  have hc : roleGetters.contains getter = true := List.contains_iff_mem.mpr h
  rw [ContractType.method?, if_pos (by rw [hc, Bool.true_or])]

theorem identifier_follows (core : Contract) {getter : String} (h : getter ∈ roleGetters)
    (w : World) :
    (identifier core getter).Follows w [] (fun id => id = w.chain.idOf getter) := by
  unfold identifier
  refine .get_bind ?_
  rw [method?_of_mem_roleGetters core.type h, Chain.idOf]
  cases w.chain.roleId? getter with
  | some id => exact .pure rfl
  | none => exact .throw _

theorem identifiers_follow (core : Contract) {getters : List String}
    (h : ∀ g ∈ getters, g ∈ roleGetters) (w : World) :
    (getters.mapM (identifier core)).Follows w []
      (fun ids => ids = getters.map w.chain.idOf) := by
  have hplan : getters.flatMap (fun _ => ([] : List LogEntry)) = [] := by simp
  rw [← hplan]
  refine .mapM getters w fun g hg done w' hw' => ?_
  rw [← hw'.idOf]
  exact identifier_follows core (h g hg) w'

/-- Every role is known by getters of role identifiers. -/
theorem getters_subset {recipients : Recipients} {p : Role × Value}
    (hp : p ∈ withRecipients recipients) : ∀ g ∈ p.1.getters, g ∈ roleGetters := by
  simp only [withRecipients, List.mem_cons, List.not_mem_nil, or_false] at hp
  rcases hp with rfl | rfl | rfl
  all_goals simp [admin, unlimitedCreator, registrar, roleGetters]

/-- A getter belongs to one role. -/
theorem eq_of_mem_getters {recipients : Recipients} {p q : Role × Value}
    (hp : p ∈ withRecipients recipients) (hq : q ∈ withRecipients recipients) {g : String}
    (hgp : g ∈ p.1.getters) (hgq : g ∈ q.1.getters) : p = q := by
  simp only [withRecipients, List.mem_cons, List.not_mem_nil, or_false] at hp hq
  rcases hp with rfl | rfl | rfl <;> rcases hq with rfl | rfl | rfl <;>
    simp [admin, unlimitedCreator, registrar, adminGetter] at hgp hgq ⊢
  all_goals grind

/-- The roles of a migration have no identifier in common if the chain tells them apart. -/
theorem pairwise_moving {c : Chain} (hc : c.TellsRolesApart) (recipients : Recipients) :
    (moving recipients).Pairwise fun p q =>
      ∀ i ∈ p.1.getters.map c.idOf, i ∉ q.1.getters.map c.idOf := by
  have hgetters : (withRecipients recipients).Pairwise fun p q =>
      ∀ g ∈ p.1.getters, g ∉ q.1.getters := by
    simp [withRecipients, admin, unlimitedCreator, registrar, adminGetter]
  refine (hgetters.imp_of_mem fun {p q} hp hq hpq i hi hi' => ?_).filter _
  obtain ⟨g, hg, rfl⟩ := List.mem_map.mp hi
  obtain ⟨g', hg', he⟩ := List.mem_map.mp hi'
  have hsame : g' = g :=
    hc.eq_of_idOf_eq (getters_subset hq g' hg') (getters_subset hp g hg) he
  exact hpq g hg (hsame ▸ hg')

/-- A role that has no recipient has no identifier in common with those that move. -/
theorem idOf_not_mem_moving {c : Chain} (hc : c.TellsRolesApart) {recipients : Recipients}
    {p : Role × Value} (hp : p ∈ withRecipients recipients) (he : p.2.isEmpty = true) {g : String}
    (hg : g ∈ p.1.getters) : ∀ q ∈ moving recipients, c.idOf g ∉ q.1.getters.map c.idOf := by
  intro q hq hm
  obtain ⟨hq, hne⟩ := List.mem_filter.mp hq
  obtain ⟨g', hg', hsame⟩ := List.mem_map.mp hm
  have hgg : g' = g :=
    hc.eq_of_idOf_eq (getters_subset hq g' hg') (getters_subset hp g hg) hsame
  have hpq : p = q := eq_of_mem_getters hp hq hg (hgg ▸ hg')
  subst hpq
  simp [he] at hne

/-! ## Handing over -/

variable (d : Deployer)

theorem call_follows (core : Contract) (method : String) (id account : Value) (w : World) :
    (do let _ ← d.transact core method [id, account] : Action Unit).Follows w
      [.transact core.type.name method [id, account]] (fun _ => True) :=
  .bind_quiet (d.transact_follows core method [id, account]) fun _ _ _ _ => .pure trivial

theorem callEach_follows (core : Contract) (method : String) (ids : List Value)
    (account : Value) (w : World) :
    (callEach d core method ids account).Follows w (calls core.type.name method ids account)
      (fun _ => True) := by
  have hplan : calls core.type.name method ids account =
      ids.flatMap fun id => [LogEntry.transact core.type.name method [id, account]] := by
    rw [calls, List.map_eq_flatMap]
  rw [hplan, callEach]
  exact .forM ids w fun id _ _ w' _ => call_follows d core method id account w'

/-- The transactions of a handover, once the identifiers are known. -/
def grantThenRevoke (core : Contract) (ids : List Value) (recipient holder : Value) :
    Action Unit := do
  callEach d core "grantRole" ids recipient
  callEach d core "revokeRole" ids holder

theorem transfer_eq (core : Contract) (role : Role) (recipient holder : Value) :
    transfer d core role recipient holder = (do
      Action.say (.transferringRole role.name recipient)
      let ids ← role.getters.mapM (identifier core)
      grantThenRevoke d core ids recipient holder) := rfl

theorem grantThenRevoke_follows (core : Contract) (ids : List Value) (recipient holder : Value)
    (w : World) :
    (grantThenRevoke d core ids recipient holder).Follows w
      (handover core.type.name ids recipient holder) (fun _ => True) :=
  .bind (callEach_follows d core _ ids recipient w) fun _ w₁ _ _ =>
    callEach_follows d core _ ids holder w₁

theorem transfer_follows (core : Contract) (role : Role) (recipient holder : Value)
    (h : ∀ g ∈ role.getters, g ∈ roleGetters) (w : World) :
    (transfer d core role recipient holder).Follows w
      (handover core.type.name (role.getters.map w.chain.idOf) recipient holder)
      (fun _ => True) := by
  rw [transfer_eq]
  refine .quiet_bind (.say _) fun _ w₁ h₁ _ => ?_
  refine .quiet_bind (identifiers_follow core h w₁) fun ids w₂ _ hids => ?_
  rw [hids, h₁.idOf]
  exact grantThenRevoke_follows d core _ recipient holder w₂

/-- The name of a role that has a recipient. -/
def movedName (p : Role × Value) : List String :=
  if p.2.isEmpty then [] else [p.1.name]

/-- The transactions for one role, none if it has no recipient. -/
def movePlan (core : String) (idOf : String → Value) (holder : Value)
    (p : Role × Value) : List LogEntry :=
  if p.2.isEmpty then [] else handover core (p.1.getters.map idOf) p.2 holder

theorem migrateOne_follows (core : Contract) (holder : Value) (p : Role × Value)
    (h : ∀ g ∈ p.1.getters, g ∈ roleGetters) (w : World) :
    (migrateOne d core p.1 p.2 holder).Follows w
      (movePlan core.type.name w.chain.idOf holder p) (fun names => names = movedName p) := by
  unfold migrateOne movePlan movedName
  split
  · exact .quiet_bind (.say _) fun _ _ _ _ => .pure rfl
  · exact .bind_quiet (transfer_follows d core p.1 p.2 holder h w) fun _ _ _ _ => .pure rfl

theorem flatMap_movePlan (core : String) (idOf : String → Value) (holder : Value)
    (ps : List (Role × Value)) :
    ps.flatMap (movePlan core idOf holder) =
      handovers core idOf holder (ps.filter fun p => !p.2.isEmpty) := by
  induction ps with
  | nil => rfl
  | cons p ps ih =>
      rw [List.flatMap_cons, ih, movePlan]
      by_cases hp : p.2.isEmpty = true
      · rw [if_pos hp, List.filter_cons_of_neg (by simp [hp]), List.nil_append]
      · rw [if_neg hp, List.filter_cons_of_pos (by simp [hp]), handovers_cons]

private theorem flatten_movedName (ps : List (Role × Value)) :
    (ps.map movedName).flatten = (ps.filter fun p => !p.2.isEmpty).map fun p => p.1.name := by
  induction ps with
  | nil => rfl
  | cons p ps ih =>
      rw [List.map_cons, List.flatten_cons, ih, movedName]
      by_cases hp : p.2.isEmpty = true
      · rw [if_pos hp, List.filter_cons_of_neg (by simp [hp]), List.nil_append]
      · rw [if_neg hp, List.filter_cons_of_pos (by simp [hp]), List.map_cons,
          List.singleton_append]

/-- A migration submits the transactions for every role with a recipient, and names those roles. -/
theorem migrate_follows (core : Contract) (recipients : Recipients) (holder : Value)
    (w : World) :
    (migrate d core recipients holder).Follows w
      (migration core.type.name w.chain.idOf recipients holder)
      (fun names => names = (moving recipients).map fun p => p.1.name) := by
  unfold migrate migration moving
  rw [← flatMap_movePlan]
  have hall : ∀ p ∈ withRecipients recipients, ∀ done w', w.Accepts done w' →
      (migrateOne d core p.1 p.2 holder).Follows w'
        (movePlan core.type.name w.chain.idOf holder p) (fun names => names = movedName p) := by
    intro p hp done w' hw'
    rw [← hw'.idOf]
    exact migrateOne_follows d core holder p (getters_subset hp) w'
  refine .bind_quiet (.mapM _ w hall) fun moved _ _ hmoved => .pure ?_
  rw [hmoved, flatten_movedName]

end Role

end Rollout
