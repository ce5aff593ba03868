import Rollout.Proofs.Roles.Holders
import Rollout.Proofs.Standard

/-!
# Who may hand over roles

Roles are granted and revoked by whoever holds the role that administers all
others. The account that hands over roles holds it at first, and one of the
roles it hands over is this very role. `Holders.Authorized` says that it still
held it whenever it sent a grant or a revocation.

A migration hands over the administering role before all others, and with its
two identifiers the administering one comes first. The third transaction
therefore gives up the authority that the fourth needs.

## Main results

* `Role.authorized_iff_of_prefix`, `Role.quietAfter_iff_of_prefix`: a part of a
  migration is authorized if the administering role stays or if the part ends
  with the third transaction at the latest; the same holds for the order of its
  transactions alone.
* `Role.migrate_authorized_iff`: so a migration that returns was authorized
  exactly if the administering role stays.
* `Role.migrate_outlives_authority`: a migration that was not.
-/

namespace Rollout

/-- The sender held the administering role whenever it granted or revoked a role. -/
def Holders.Authorized {Account : Type} (account : Value → Account) (h : Holders Account)
    (sender : Account) (adminId : Value) (es : List LogEntry) : Prop :=
  ∀ done e rest, es = done ++ e :: rest → e.movesRole = true →
    sender ∈ h.after account done adminId

/-- No role is granted or revoked after the entry. -/
def QuietAfter (e : LogEntry) (es : List LogEntry) : Prop :=
  ∀ done rest, es = done ++ e :: rest → ∀ e' ∈ rest, e'.movesRole = false

namespace Role

/-- The transaction by which the holder gives up the authority over roles. -/
def surrender (core : String) (adminId holder : Value) : LogEntry :=
  .transact core "revokeRole" [adminId, holder]

/-! ## The administering role stays -/

section Stays

variable (core : String) (idOf : String → Value) (holder : Value) {ps : List (Role × Value)}
  {adminId : Value} (hi : ∀ p ∈ ps, adminId ∉ p.1.getters.map idOf) {es : List LogEntry}
  (hes : es <+: handovers core idOf holder ps)

include hi hes

theorem authorized_of_not_mem {Account : Type} (account : Value → Account) (h : Holders Account)
    (hadmin : account holder ∈ h adminId) :
    h.Authorized account (account holder) adminId es := by
  intro done e rest hsplit _
  have hdone : done <+: handovers core idOf holder ps :=
    (hsplit ▸ List.prefix_append done (e :: rest) : done <+: es).trans hes
  rw [after_prefix_handovers_of_not_mem account h core idOf holder hi hdone]
  exact hadmin

theorem quietAfter_of_not_mem : QuietAfter (surrender core adminId holder) es := by
  intro done rest hsplit
  have hmem : surrender core adminId holder ∈ es := by
    rw [hsplit]
    exact List.mem_append_right done List.mem_cons_self
  obtain ⟨p, hp, i, hip, he⟩ := mem_handovers.mp (hes.subset hmem)
  rcases he with he | he
  · simp [surrender, LogEntry.transact] at he
  · have hsame : adminId = i := by
      simpa [surrender, LogEntry.transact] using he
    exact absurd (hsame ▸ hip) (hi p hp)

end Stays

/-! ## The administering role moves -/

/-- The first three transactions where the administering role moves: the authority is given up with
the last of them. -/
def opening (core : String) (idOf : String → Value) (recipient holder : Value) :
    List LogEntry :=
  calls core "grantRole" (admin.getters.map idOf) recipient ++
    [surrender core (idOf adminGetter) holder]

@[simp] theorem length_opening (core : String) (idOf : String → Value)
    (recipient holder : Value) : (opening core idOf recipient holder).length = 3 := rfl

/-- After these transactions comes another revocation. -/
theorem migration_eq_opening_append (core : String) (idOf : String → Value)
    {recipients : Recipients} (hmove : recipients.admin.isEmpty = false) (holder : Value) :
    ∃ e rest, e.movesRole = true ∧
      migration core idOf recipients holder =
        opening core idOf recipients.admin holder ++ e :: rest := by
  have hmoving : ∃ ps, moving recipients = (admin, recipients.admin) :: ps :=
    ⟨_, List.filter_cons_of_pos (by simp [hmove])⟩
  obtain ⟨ps, hps⟩ := hmoving
  refine ⟨.transact core "revokeRole" [idOf "UPGRADER_ROLE", holder],
    handovers core idOf holder ps, rfl, ?_⟩
  rw [migration, hps, handovers_cons]
  rfl

/-- A list is cut short of its last item where something follows the cut. -/
private theorem prefix_of_snoc {α : Type} {done rest xs : List α} {e x : α}
    (h : done ++ e :: rest <+: xs ++ [x]) : done <+: xs := by
  have hlen : done.length ≤ xs.length := by
    have hle := h.length_le
    simp only [List.length_append, List.length_cons, List.length_nil] at hle
    omega
  exact List.prefix_of_prefix_length_le ((List.prefix_append done _).trans h)
    (List.prefix_append xs [x]) hlen

section Moves

variable {core : String} {idOf : String → Value} {recipient holder : Value}

theorem authorized_of_prefix_opening {Account : Type} (account : Value → Account)
    (h : Holders Account) (hadmin : account holder ∈ h (idOf adminGetter)) {es : List LogEntry}
    (hes : es <+: opening core idOf recipient holder) :
    h.Authorized account (account holder) (idOf adminGetter) es := by
  intro done e rest hsplit _
  rw [hsplit] at hes
  obtain ⟨part, _, rfl⟩ := List.prefix_map_iff.mp (prefix_of_snoc hes)
  show account holder ∈ h.after account (calls core "grantRole" part recipient) _
  rw [Holders.after_grants]
  exact .inl hadmin

theorem quietAfter_of_prefix_opening {es : List LogEntry}
    (hes : es <+: opening core idOf recipient holder) :
    QuietAfter (surrender core (idOf adminGetter) holder) es := by
  intro done rest hsplit e' he'
  cases rest with
  | nil => cases he'
  | cons e rest =>
      -- With another entry behind it, the surrender itself would have to be a grant.
      rw [hsplit, List.append_cons] at hes
      have hmem := (prefix_of_snoc hes).subset (List.mem_append_right done List.mem_cons_self)
      obtain ⟨i, _, hi⟩ := List.mem_map.mp hmem
      simp [surrender, LogEntry.transact] at hi

variable {e : LogEntry} (he : e.movesRole = true) (rest : List LogEntry)

include he

theorem not_authorized_beyond {Account : Type} (account : Value → Account)
    (h : Holders Account) :
    ¬h.Authorized account (account holder) (idOf adminGetter)
      (opening core idOf recipient holder ++ e :: rest) := by
  intro hall
  have hheld := hall _ e rest rfl he
  have hlast : [surrender core (idOf adminGetter) holder] =
      calls core "revokeRole" [idOf adminGetter] holder := rfl
  rw [opening, hlast, Holders.after_append, Holders.after_revocations] at hheld
  exact hheld.2 ⟨List.mem_cons_self, rfl⟩

theorem not_quietAfter_beyond :
    ¬QuietAfter (surrender core (idOf adminGetter) holder)
      (opening core idOf recipient holder ++ e :: rest) := by
  intro hquiet
  have hsplit : opening core idOf recipient holder ++ e :: rest =
      calls core "grantRole" (admin.getters.map idOf) recipient ++
        surrender core (idOf adminGetter) holder :: e :: rest := by
    rw [opening, List.append_assoc, List.singleton_append]
  have hfalse := hquiet _ _ hsplit e List.mem_cons_self
  rw [he] at hfalse
  cases hfalse

end Moves

/-- A part of a migration in which the administering role moves lies within its opening or reaches
beyond it. -/
theorem prefix_migration_cases {core : String} {idOf : String → Value} {recipients : Recipients}
    {holder : Value} (hmove : recipients.admin.isEmpty = false) {es : List LogEntry}
    (hes : es <+: migration core idOf recipients holder) :
    es.length ≤ 3 ∧ es <+: opening core idOf recipients.admin holder ∨
      3 < es.length ∧ ∃ e rest, e.movesRole = true ∧
        es = opening core idOf recipients.admin holder ++ e :: rest := by
  obtain ⟨e, rest, he, hsplit⟩ := migration_eq_opening_append core idOf hmove holder
  rw [hsplit] at hes
  by_cases hlen : es.length ≤ 3
  · exact .inl ⟨hlen, List.prefix_of_prefix_length_le hes (List.prefix_append _ _)
      (by rw [length_opening]; exact hlen)⟩
  · have hbeyond : opening core idOf recipients.admin holder ++ [e] <+: es := by
      refine List.prefix_of_prefix_length_le ⟨rest, by simp⟩ hes ?_
      rw [List.length_append, length_opening, List.length_singleton]
      omega
    obtain ⟨rest', rfl⟩ := hbeyond
    exact .inr ⟨by omega, e, rest', he, by simp⟩

/-! ## Any migration -/

/-- What holds while the administering role stays and within the opening, and fails beyond it, holds
exactly of these parts of a migration. -/
private theorem iff_of_prefix_cases {core : String} {idOf : String → Value}
    {recipients : Recipients} {holder : Value} {es : List LogEntry}
    (hes : es <+: migration core idOf recipients holder) {P : Prop}
    (hstays : recipients.admin.isEmpty = true → P)
    (hwithin : es <+: opening core idOf recipients.admin holder → P)
    (hbeyond : ∀ e rest, e.movesRole = true →
      es = opening core idOf recipients.admin holder ++ e :: rest → ¬P) :
    P ↔ recipients.admin.isEmpty = true ∨ es.length ≤ 3 := by
  by_cases hmove : recipients.admin.isEmpty = true
  · exact iff_of_true (hstays hmove) (.inl hmove)
  · rcases prefix_migration_cases (eq_false_of_ne_true hmove) hes with
      ⟨hlen, hes⟩ | ⟨hlen, e, rest, he, hsplit⟩
    · exact iff_of_true (hwithin hes) (.inr hlen)
    · refine iff_of_false (hbeyond e rest he hsplit) ?_
      rintro (hempty | hle)
      · exact hmove hempty
      · omega

section

variable {c : Chain} (hc : c.TellsRolesApart) (core : String) (recipients : Recipients)
  (holder : Value) {es : List LogEntry} (hes : es <+: migration core c.idOf recipients holder)

include hc hes

/-- A part of a migration is authorized if the administering role stays, or if it ends with the
third transaction. -/
theorem authorized_iff_of_prefix {Account : Type} (account : Value → Account)
    (h : Holders Account) (hadmin : account holder ∈ h (c.idOf adminGetter)) :
    h.Authorized account (account holder) (c.idOf adminGetter) es ↔
      recipients.admin.isEmpty = true ∨ es.length ≤ 3 := by
  refine iff_of_prefix_cases hes (fun hempty => ?_)
    (fun hwithin => authorized_of_prefix_opening account h hadmin hwithin) ?_
  · have hstays := idOf_not_mem_moving hc List.mem_cons_self hempty List.mem_cons_self
    exact authorized_of_not_mem core c.idOf holder hstays hes account h hadmin
  · rintro e rest he rfl
    exact not_authorized_beyond he rest account h

/-- The same of the order of the transactions: nothing follows the surrender of authority. -/
theorem quietAfter_iff_of_prefix :
    QuietAfter (surrender core (c.idOf adminGetter) holder) es ↔
      recipients.admin.isEmpty = true ∨ es.length ≤ 3 := by
  refine iff_of_prefix_cases hes (fun hempty => ?_)
    (fun hwithin => quietAfter_of_prefix_opening hwithin) ?_
  · have hstays := idOf_not_mem_moving hc List.mem_cons_self hempty List.mem_cons_self
    exact quietAfter_of_not_mem core c.idOf holder hstays hes
  · rintro e rest he rfl
    exact not_quietAfter_beyond he rest

end

/-- A whole migration in which the administering role moves has more than three transactions. -/
theorem three_lt_length_migration (core : String) (idOf : String → Value)
    {recipients : Recipients} (hmove : recipients.admin.isEmpty = false) (holder : Value) :
    3 < (migration core idOf recipients holder).length := by
  obtain ⟨e, rest, _, hsplit⟩ := migration_eq_opening_append core idOf hmove holder
  rw [hsplit, List.length_append, length_opening, List.length_cons]
  omega

/-- **The holder's authority, and when it lasts.** Let the holder have the administering role at
first. Whatever becomes of a migration, every grant and every revocation it has sent was sent with
authority, and none was sent after the authority had been given up, exactly if the administering
role has no recipient or no more than three transactions have been sent. For a migration that
returns this means: exactly if the administering role has no recipient. -/
theorem migrate_authorized_iff (d : Deployer) (core : Contract) (recipients : Recipients)
    (holder : Value) (w : World) (hc : w.chain.TellsRolesApart) {Account : Type}
    (account : Value → Account) (h : Holders Account)
    (hadmin : account holder ∈ h (w.chain.idOf adminGetter)) :
    ∃ es, ((migrate d core recipients holder).perform w).2.chain.log = w.chain.log ++ es ∧
      (h.Authorized account (account holder) (w.chain.idOf adminGetter) es ↔
        recipients.admin.isEmpty = true ∨ es.length ≤ 3) ∧
      (QuietAfter (surrender core.type.name (w.chain.idOf adminGetter) holder) es ↔
        recipients.admin.isEmpty = true ∨ es.length ≤ 3) ∧
      ∀ names, ((migrate d core recipients holder).perform w).1 = .ok names →
        (h.Authorized account (account holder) (w.chain.idOf adminGetter) es ↔
          recipients.admin.isEmpty = true) ∧
        (QuietAfter (surrender core.type.name (w.chain.idOf adminGetter) holder) es ↔
          recipients.admin.isEmpty = true) := by
  obtain ⟨es, hes, hacc, hall⟩ := (migrate_follows d core recipients holder w).exists_part
  have hauthorized :=
    authorized_iff_of_prefix hc core.type.name recipients holder hes account h hadmin
  have hquiet := quietAfter_iff_of_prefix hc core.type.name recipients holder hes
  refine ⟨es, hacc.log, hauthorized, hquiet, fun names hret => ?_⟩
  have hwhole : recipients.admin.isEmpty = true ∨ es.length ≤ 3 ↔
      recipients.admin.isEmpty = true := by
    refine ⟨?_, .inl⟩
    rintro (hempty | hle)
    · exact hempty
    · by_contra hmove
      have hlong := three_lt_length_migration core.type.name w.chain.idOf
        (eq_false_of_ne_true hmove) holder
      rw [hall names hret] at hle
      omega
  exact ⟨hauthorized.trans hwhole, hquiet.trans hwhole⟩

/-- A migration of the other two roles, with authority to its end. -/
theorem migrate_others_authorized :
    World.fresh.chain.TellsRolesApart ∧
    id Deployer.standardAccount ∈
      Holders.only Deployer.standardAccount (World.fresh.chain.idOf adminGetter) ∧
    ∃ es, ((migrate .standard .standardCore
          ⟨.null, Deployer.otherAccount, Deployer.otherAccount⟩
          Deployer.standardAccount).perform World.fresh).2.chain.log =
        World.fresh.chain.log ++ es ∧
      (Holders.only Deployer.standardAccount).Authorized id (id Deployer.standardAccount)
        (World.fresh.chain.idOf adminGetter) es := by
  have hadmin : id Deployer.standardAccount ∈
      Holders.only Deployer.standardAccount (World.fresh.chain.idOf adminGetter) :=
    Holders.mem_only _ _
  obtain ⟨es, hlog, hauth, -⟩ := migrate_authorized_iff .standard .standardCore
    ⟨.null, Deployer.otherAccount, Deployer.otherAccount⟩ Deployer.standardAccount .fresh
    Chain.fresh_tellsRolesApart id _ hadmin
  exact ⟨Chain.fresh_tellsRolesApart, hadmin, es, hlog, hauth.mpr (.inl rfl)⟩

/-! ## A migration without authority -/

/-- A migration that returns has outlived its authority if the administering role moves. -/
theorem not_authorized_of_isOk (d : Deployer) (core : Contract) (recipients : Recipients)
    (holder : Value) (w : World) {Account : Type} (account : Value → Account)
    (h : Holders Account) (hmove : recipients.admin.isEmpty = false)
    (hok : ((migrate d core recipients holder).perform w).1.isOk = true) :
    ∃ es, ((migrate d core recipients holder).perform w).2.chain.log = w.chain.log ++ es ∧
      ¬h.Authorized account (account holder) (w.chain.idOf adminGetter) es ∧
      ¬QuietAfter (surrender core.type.name (w.chain.idOf adminGetter) holder) es := by
  have hacc := (migrate_follows d core recipients holder w).of_isOk hok
  obtain ⟨e, rest, he, hsplit⟩ :=
    migration_eq_opening_append core.type.name w.chain.idOf hmove holder
  refine ⟨_, hacc.log, ?_⟩
  rw [hsplit]
  exact ⟨not_authorized_beyond he rest account h, not_quietAfter_beyond he rest⟩

/-- A migration of the administering role to somebody else. It returns, and yet its fourth
transaction came after it had given up the authority for it. -/
theorem migrate_outlives_authority :
    ((migrate .standard .standardCore ⟨Deployer.otherAccount, .null, .null⟩
      Deployer.standardAccount).perform World.fresh).1.isOk = true ∧
    (∀ g ∈ roleGetters, id Deployer.standardAccount ∈
      Holders.only Deployer.standardAccount (World.fresh.chain.idOf g)) ∧
    Deployer.otherAccount ≠ Deployer.standardAccount ∧
    ∃ es, ((migrate .standard .standardCore ⟨Deployer.otherAccount, .null, .null⟩
          Deployer.standardAccount).perform World.fresh).2.chain.log =
        World.fresh.chain.log ++ es ∧
      ¬(Holders.only Deployer.standardAccount).Authorized id (id Deployer.standardAccount)
        (World.fresh.chain.idOf adminGetter) es ∧
      ¬QuietAfter (surrender Contract.standardCore.type.name
        (World.fresh.chain.idOf adminGetter) Deployer.standardAccount) es := by
  have hok : ((migrate .standard .standardCore ⟨Deployer.otherAccount, .null, .null⟩
      Deployer.standardAccount).perform World.fresh).1.isOk = true := by
    decide +kernel
  have hmove : Deployer.otherAccount.isEmpty = false := by decide +kernel
  exact ⟨hok, fun _ _ => Holders.mem_only _ _, Deployer.otherAccount_ne,
    not_authorized_of_isOk _ _ _ _ _ id _ hmove hok⟩

end Role

end Rollout
