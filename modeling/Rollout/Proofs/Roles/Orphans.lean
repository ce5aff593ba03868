import Rollout.Proofs.Roles.Holders
import Rollout.Proofs.Standard

/-!
# Roles that always have a holder

A migration starts with one account holding every role. It grants before it
revokes, so that each role should have a holder all the time. That is so for
every role whose recipient is somebody else, and for every role that somebody
else holds as well. Where the recipient is the account that gives the role away,
the revocation takes back what was granted just before, and if nobody else holds
the role it is lost.

## Main results

* `Role.migrate_neverOrphaned_iff`: this is the exact condition, and what each
  role's holders are when the migration returns.
* `Role.migrate_orphans_own_recipient`: a migration that loses the role that
  administers all others.
-/

namespace Rollout.Role

/-- Where a role is handed over to the account that gives it away, somebody else holds it as well. -/
def SparesHolders {Account : Type} (account : Value → Account) (h : Holders Account)
    (idOf : String → Value) (recipients : Recipients) (holder : Value) : Prop :=
  ∀ p ∈ moving recipients, ∀ g ∈ p.1.getters, account p.2 = account holder →
    ∃ a ∈ h (idOf g), a ≠ account holder

section

variable {Account : Type} (account : Value → Account) (h : Holders Account) {c : Chain}
  (hc : c.TellsRolesApart) (core : String) (recipients : Recipients) (holder : Value)

include hc

/-- A role with a recipient ends up with the recipient in the holder's place. -/
theorem after_migration_of_mem_moving {p : Role × Value} (hp : p ∈ moving recipients)
    {g : String} (hg : g ∈ p.1.getters) :
    h.after account (migration core c.idOf recipients holder) (c.idOf g) =
      insert (account p.2) (h (c.idOf g)) \ {account holder} :=
  after_handovers account h core c.idOf holder (pairwise_moving hc recipients) hp
    (List.mem_map_of_mem hg)

/-- A role without a recipient keeps its holders. -/
theorem after_migration_of_isEmpty {p : Role × Value} (hp : p ∈ withRecipients recipients)
    (he : p.2.isEmpty = true) {g : String} (hg : g ∈ p.1.getters) :
    h.after account (migration core c.idOf recipients holder) (c.idOf g) = h (c.idOf g) :=
  after_prefix_handovers_of_not_mem account h core c.idOf holder
    (idOf_not_mem_moving hc hp he hg) (List.prefix_refl _)

/-- As long as holders are spared, every part of the migration leaves every role held. -/
theorem neverOrphaned_of_sparesHolders
    (hheld : ∀ g ∈ roleGetters, account holder ∈ h (c.idOf g))
    (hspare : SparesHolders account h c.idOf recipients holder) {es : List LogEntry}
    (hes : es <+: migration core c.idOf recipients holder) :
    h.NeverOrphaned account (roleGetters.map c.idOf) es := by
  intro done hdone id hid
  obtain ⟨g, hg, rfl⟩ := List.mem_map.mp hid
  have hpre : done <+: migration core c.idOf recipients holder := hdone.trans hes
  by_cases hmove : ∃ p ∈ moving recipients, c.idOf g ∈ p.1.getters.map c.idOf
  · obtain ⟨p, hp, hi⟩ := hmove
    have hstage := stage_of_prefix_handovers account h core c.idOf holder
      (pairwise_moving hc recipients) hp hi hpre
    generalize h.after account done (c.idOf g) = now at hstage ⊢
    -- In the first two stages nobody has lost the role; the last needs somebody besides the holder.
    cases hstage with
    | untouched => exact ⟨account holder, hheld g hg⟩
    | granted => exact Set.insert_nonempty _ _
    | moved =>
        by_cases hsame : account p.2 = account holder
        · obtain ⟨g', hg', hgg⟩ := List.mem_map.mp hi
          obtain ⟨a, ha, hne⟩ := hspare p hp g' hg' hsame
          rw [hgg] at ha
          exact ⟨a, Set.mem_insert_of_mem _ ha, hne⟩
        · exact ⟨account p.2, Set.mem_insert _ _, hsame⟩
  · have hnot : ∀ p ∈ moving recipients, c.idOf g ∉ p.1.getters.map c.idOf :=
      fun p hp hi => hmove ⟨p, hp, hi⟩
    rw [after_prefix_handovers_of_not_mem account h core c.idOf holder hnot hpre]
    exact ⟨account holder, hheld g hg⟩

/-- A whole migration that leaves every role held spares holders. -/
theorem sparesHolders_of_neverOrphaned
    (hnever : h.NeverOrphaned account (roleGetters.map c.idOf)
      (migration core c.idOf recipients holder)) :
    SparesHolders account h c.idOf recipients holder := by
  intro p hp g hg hsame
  have hmem : g ∈ roleGetters := getters_subset (List.mem_filter.mp hp).1 g hg
  obtain ⟨a, ha⟩ := hnever _ (List.prefix_refl _) _ (List.mem_map_of_mem hmem)
  rw [after_migration_of_mem_moving account h hc core recipients holder hp hg, hsame] at ha
  rcases ha.1 with rfl | hb
  · exact absurd rfl ha.2
  · exact ⟨a, hb, ha.2⟩

end

/-- **Roles are not orphaned, and when exactly.** Let one account hold all roles. Whatever becomes of
a migration, every role has a holder at every moment if holders are spared; a migration that returns
leaves every role with a holder at every moment only then. When it returns, a role with a recipient
is held by the recipient exactly if that is not the former holder, and a role without one is held as
before. -/
theorem migrate_neverOrphaned_iff (d : Deployer) (core : Contract) (recipients : Recipients)
    (holder : Value) (w : World) (hc : w.chain.TellsRolesApart) {Account : Type}
    (account : Value → Account) (h : Holders Account)
    (hheld : ∀ g ∈ roleGetters, account holder ∈ h (w.chain.idOf g)) :
    ∃ es, ((migrate d core recipients holder).perform w).2.chain.log = w.chain.log ++ es ∧
      (SparesHolders account h w.chain.idOf recipients holder →
        h.NeverOrphaned account (roleGetters.map w.chain.idOf) es) ∧
      ∀ names, ((migrate d core recipients holder).perform w).1 = .ok names →
        (h.NeverOrphaned account (roleGetters.map w.chain.idOf) es ↔
          SparesHolders account h w.chain.idOf recipients holder) ∧
        ∀ p ∈ withRecipients recipients, ∀ g ∈ p.1.getters,
          (p.2.isEmpty = true →
            h.after account es (w.chain.idOf g) = h (w.chain.idOf g)) ∧
          (p.2.isEmpty = false →
            (account p.2 ∈ h.after account es (w.chain.idOf g) ↔
              account p.2 ≠ account holder)) := by
  obtain ⟨es, hes, hacc, hall⟩ := (migrate_follows d core recipients holder w).exists_part
  have hspared : SparesHolders account h w.chain.idOf recipients holder →
      h.NeverOrphaned account (roleGetters.map w.chain.idOf) es := fun hspare =>
    neverOrphaned_of_sparesHolders account h hc core.type.name recipients holder hheld hspare hes
  refine ⟨es, hacc.log, hspared, fun names hret => ?_⟩
  obtain rfl := hall names hret
  refine ⟨⟨sparesHolders_of_neverOrphaned account h hc _ recipients holder, hspared⟩, ?_⟩
  intro p hp g hg
  refine ⟨fun he => ?_, fun hne => ?_⟩
  · exact after_migration_of_isEmpty account h hc _ recipients holder hp he hg
  · have hmove : p ∈ moving recipients := List.mem_filter.mpr ⟨hp, by simp [hne]⟩
    rw [after_migration_of_mem_moving account h hc _ recipients holder hmove hg]
    constructor
    · exact fun hm => hm.2
    · exact fun hm => ⟨Set.mem_insert _ _, hm⟩

/-- A migration of two roles to somebody else, in which every role has a holder at every moment. -/
theorem migrate_to_other_neverOrphaned :
    World.fresh.chain.TellsRolesApart ∧
    (∀ g ∈ roleGetters, id Deployer.standardAccount ∈
      Holders.only Deployer.standardAccount (World.fresh.chain.idOf g)) ∧
    ∃ es, ((migrate .standard .standardCore
          ⟨Deployer.otherAccount, .null, Deployer.otherAccount⟩
          Deployer.standardAccount).perform World.fresh).2.chain.log =
        World.fresh.chain.log ++ es ∧
      (Holders.only Deployer.standardAccount).NeverOrphaned id
        (roleGetters.map World.fresh.chain.idOf) es := by
  have hheld : ∀ g ∈ roleGetters, id Deployer.standardAccount ∈
      Holders.only Deployer.standardAccount (World.fresh.chain.idOf g) :=
    fun _ _ => Holders.mem_only _ _
  obtain ⟨es, hlog, hspared, -⟩ := migrate_neverOrphaned_iff .standard .standardCore
    ⟨Deployer.otherAccount, .null, Deployer.otherAccount⟩ Deployer.standardAccount .fresh
    Chain.fresh_tellsRolesApart id _ hheld
  refine ⟨Chain.fresh_tellsRolesApart, hheld, es, hlog, hspared fun p hp g hg hsame => ?_⟩
  have hother : p.2 = Deployer.otherAccount := by
    obtain ⟨hp, hne⟩ := List.mem_filter.mp hp
    simp only [withRecipients, List.mem_cons, List.not_mem_nil, or_false] at hp
    rcases hp with rfl | rfl | rfl
    · rfl
    · cases hne
    · rfl
  exact absurd (hother.symm.trans hsame) Deployer.otherAccount_ne

/-! ## A role that is lost -/

/-- Let nobody but the holder hold a role, and let the holder be its recipient. A migration that
returns leaves the role to nobody. -/
theorem migrate_loses_role (d : Deployer) (core : Contract) (recipients : Recipients)
    (holder : Value) (w : World) (hc : w.chain.TellsRolesApart) {Account : Type}
    (account : Value → Account) {p : Role × Value} (hp : p ∈ moving recipients) {g : String}
    (hg : g ∈ p.1.getters) (hsame : account p.2 = account holder)
    (hok : ((migrate d core recipients holder).perform w).1.isOk = true) :
    ∃ es, ((migrate d core recipients holder).perform w).2.chain.log = w.chain.log ++ es ∧
      (Holders.only (account holder)).after account es (w.chain.idOf g) = ∅ ∧
      ¬(Holders.only (account holder)).NeverOrphaned account
        (roleGetters.map w.chain.idOf) es := by
  have hacc := (migrate_follows d core recipients holder w).of_isOk hok
  have hlost : (Holders.only (account holder)).after account
      (migration core.type.name w.chain.idOf recipients holder) (w.chain.idOf g) = ∅ := by
    rw [after_migration_of_mem_moving account _ hc core.type.name recipients holder hp hg, hsame]
    ext a
    simp
  refine ⟨_, hacc.log, hlost, fun hnever => ?_⟩
  have hmem : g ∈ roleGetters := getters_subset (List.mem_filter.mp hp).1 g hg
  have hsomebody := hnever _ (List.prefix_refl _) _ (List.mem_map_of_mem hmem)
  rw [hlost] at hsomebody
  exact Set.not_nonempty_empty hsomebody

/-- A migration of the role that administers all others to the account that gives it away. It
returns, and then nobody holds the role. -/
theorem migrate_orphans_own_recipient :
    ((migrate .standard .standardCore ⟨Deployer.standardAccount, .null, .null⟩
      Deployer.standardAccount).perform World.fresh).1.isOk = true ∧
    (∀ g ∈ roleGetters, id Deployer.standardAccount ∈
      Holders.only (id Deployer.standardAccount) (World.fresh.chain.idOf g)) ∧
    ∃ es, ((migrate .standard .standardCore ⟨Deployer.standardAccount, .null, .null⟩
          Deployer.standardAccount).perform World.fresh).2.chain.log =
        World.fresh.chain.log ++ es ∧
      (Holders.only (id Deployer.standardAccount)).after id es
        (World.fresh.chain.idOf adminGetter) = ∅ ∧
      ¬(Holders.only (id Deployer.standardAccount)).NeverOrphaned id
        (roleGetters.map World.fresh.chain.idOf) es := by
  have hok : ((migrate .standard .standardCore ⟨Deployer.standardAccount, .null, .null⟩
      Deployer.standardAccount).perform World.fresh).1.isOk = true := by
    decide +kernel
  have hmoving : (admin, Deployer.standardAccount) ∈
      moving ⟨Deployer.standardAccount, .null, .null⟩ :=
    List.mem_filter.mpr ⟨List.mem_cons_self, by decide +kernel⟩
  exact ⟨hok, fun _ _ => Holders.mem_only _ _,
    migrate_loses_role _ _ _ _ _ Chain.fresh_tellsRolesApart id hmoving List.mem_cons_self rfl hok⟩

end Rollout.Role
