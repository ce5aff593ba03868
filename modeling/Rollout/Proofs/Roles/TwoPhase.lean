import Mathlib.Data.List.TakeWhile
import Rollout.Proofs.Action.Passage
import Rollout.Proofs.Operation.Admitted

/-!
# The two phases of a handover

Handing over a role goes through its names three times. First every name is
called as a getter, and its answer is the identifier; then every identifier is
granted to the recipient; then every one is revoked from the holder. A name that
does not answer ends it all before the first grant.

A getter is only read, so that usually nothing but grants and revocations is
sent. But a name that is a method of the contract and no getter answers as well,
and calling it is a transaction without arguments.

`Role.TwoPhase` says this of any role, any world and any fault, whatever comes of
the handover.

## Main results

* `Role.readNames_follows`: what is sent while the names are called.
* `Role.transfer_needs`: what a handover needs in order to return.
* `Role.transfer_twoPhase`: what is sent, and in which order.
* `Role.transfer_calls_before_missing`: a name that is a method, before one that
  does not answer.
-/

namespace Rollout

/-! ## What a transaction needs -/

namespace Deployer

/-- The contract has an address to show and takes the arguments. -/
def CanSend (d : Deployer) (c : Contract) (method : String) (args : List Value) : Prop :=
  c.shortAddress?.isSome = true ∧ c.type.Takes d.admits method args

/-- How many questions there are about a transaction. -/
def questionsEach (d : Deployer) : Nat := if !d.autosign then 1 else 0

variable {d : Deployer} {w : World}

theorem methodOf_needs (t : ContractType) (method : String) :
    (methodOf t method).Needs w (∃ overloads, t.method? method = some overloads) 0 [] := by
  unfold methodOf
  cases t.method? method with
  | none => exact (Action.Needs.throw _).congr (by simp)
  | some overloads => exact (Action.Needs.pure _).congr (by simp)

theorem methodArgs_needs {t : ContractType} {method : String} {overloads : List Overload}
    (hm : t.method? method = some overloads) (args : List Value) :
    (d.methodArgs overloads args).Needs w (t.Takes d.admits method args) 0 [] := by
  refine (Action.Needs.ofExcept _).congr ?_
  constructor
  · rintro ⟨named, h⟩
    exact ⟨overloads, named, hm, Outcome.mapError_eq_ok.mp h⟩
  · rintro ⟨overloads', named, hm', h⟩
    rw [hm] at hm'
    cases hm'
    exact ⟨named, Outcome.mapError_eq_ok.mpr h⟩

theorem shortAddress_needs (c : Contract) :
    (shortAddress c).Needs w (c.shortAddress?.isSome = true) 0 [] := by
  unfold shortAddress
  cases c.shortAddress? with
  | none => exact (Action.Needs.throw _).congr (by simp)
  | some address => exact (Action.Needs.pure _).congr (by simp)

/-- Once it has been shown, a transaction needs an answer, unless the deployer signs on its own, and
its entry. -/
theorem sending_needs (c : Contract) (method : String) (args : List Value) :
    (d.sending c method args).Needs w True d.questionsEach
      [.transact c.type.name method args] := by
  have hask : Action.askContinue.Needs w True 1 [] := (Action.Puts.ask "Continue").needs w
  show Action.Needs _ w True ((if !d.autosign then 1 else 0) + 0) _
  unfold sending
  refine .askIf_bind hask fun w₁ => ?_
  exact ((Action.Needs.submit _).bind fun _ w₂ _ =>
    .get_bind (.pure w₂.chain.receipt)).congr and_self_iff

/-- A transaction that can be sent needs no more. -/
theorem transact_needs (c : Contract) (method : String) (args : List Value) :
    (d.transact c method args).Needs w (d.CanSend c method args) d.questionsEach
      [.transact c.type.name method args] := by
  have h := (methodOf_needs (w := w) c.type method).quiet_bind fun overloads w₁ hm =>
    (methodArgs_needs (d := d) (w := w₁) ((methodOf_follows c.type method).of_ok hm).2
      args).quiet_bind fun named w₂ _ =>
    (shortAddress_needs (w := w₂) c).quiet_bind fun address w₃ _ =>
    (Action.Needs.say (w := w₃)
      (.transacting c.type.name address (methodName method overloads) named)).quiet_bind
        fun _ w₄ _ => sending_needs (d := d) (w := w₄) c method args
  rw [transact_eq_sending]
  refine h.congr ?_
  constructor
  · rintro ⟨-, htakes, hshort, -⟩
    exact ⟨hshort, htakes⟩
  · rintro ⟨hshort, overloads, named, hm, hnamed⟩
    exact ⟨⟨overloads, hm⟩, ⟨overloads, named, hm, hnamed⟩, hshort, trivial, trivial⟩

end Deployer

namespace Role

variable (d : Deployer) (core : Contract)

/-! ## Calling names -/

/-- A name answers when it is called as a getter: the chain knows it as one, or the contract has it
as a method. -/
def Answers (c : Chain) (t : ContractType) (getter : String) : Prop :=
  (c.roleId? getter).isSome = true ∨ (t.method? getter).isSome = true

instance (c : Chain) (t : ContractType) (getter : String) : Decidable (Answers c t getter) :=
  inferInstanceAs (Decidable (_ ∨ _))

/-- The names before the first that does not answer. -/
def answering (c : Chain) (t : ContractType) (getters : List String) : List String :=
  getters.takeWhile (Answers c t ·)

theorem answering_subset (c : Chain) (t : ContractType) (getters : List String) :
    answering c t getters ⊆ getters :=
  (List.takeWhile_prefix _).subset

theorem answering_eq_self {c : Chain} {t : ContractType} {getters : List String}
    (h : ∀ g ∈ getters, Answers c t g) : answering c t getters = getters :=
  List.takeWhile_eq_self_iff.mpr fun g hg => decide_eq_true (h g hg)

/-- What is sent when names are called as getters: a transaction without arguments for each that is
a method and no getter. -/
def nameCalls (c : Chain) (t : ContractType) (getters : List String) : List LogEntry :=
  getters.flatMap fun g => (getterSubmissions c t g).map Submission.entry

theorem answers_accepts {w w' : World} {es : List LogEntry} (h : w.Accepts es w') :
    Answers w'.chain = Answers w.chain := by
  funext t getter
  rw [Answers, Answers, h.roleId?]

theorem nameCalls_accepts {w w' : World} {es : List LogEntry} (h : w.Accepts es w') :
    nameCalls w'.chain = nameCalls w.chain := by
  funext t getters
  rw [nameCalls, nameCalls, getterSubmissions_accepts h]

theorem nameCalls_cons (c : Chain) (t : ContractType) (g : String) (gs : List String) :
    nameCalls c t (g :: gs) =
      (getterSubmissions c t g).map Submission.entry ++ nameCalls c t gs :=
  List.flatMap_cons

/-- Nothing is sent where no name is a method without being a getter. -/
theorem nameCalls_eq_nil {c : Chain} {t : ContractType} {getters : List String}
    (h : ∀ g ∈ getters, c.roleId? g = none → t.method? g = none) : nameCalls c t getters = [] := by
  refine List.flatMap_eq_nil_iff.mpr fun g hg => ?_
  unfold getterSubmissions
  cases hid : c.roleId? g with
  | some id => rfl
  | none =>
      rw [h g hg hid]
      rfl

/-- A name that answers needs no more than what calling it sends. -/
theorem identifier_needs (getter : String) (w : World) :
    (identifier core getter).Needs w (Answers w.chain core.type getter) 0
      ((getterSubmissions w.chain core.type getter).map Submission.entry) := by
  unfold identifier getterSubmissions Answers
  apply Action.Needs.get_bind
  cases w.chain.roleId? getter with
  | some id => exact (Action.Needs.pure _).congr (by simp)
  | none =>
      cases core.type.method? getter with
      | none => exact (Action.Needs.throw _).congr (by simp)
      | some overloads => exact ((Action.Needs.submit _).bind_pure).congr (by simp)

/-- A name that does not answer sends nothing and gives nothing. -/
theorem identifier_follows_of_not_answers {getter : String} {w : World}
    (h : ¬Answers w.chain core.type getter) (Q : Value → Prop) :
    (identifier core getter).Follows w [] Q := by
  unfold Answers at h
  unfold identifier
  apply Action.Follows.get_bind
  cases hid : w.chain.roleId? getter with
  | some id => simp [hid] at h
  | none =>
      cases hm : core.type.method? getter with
      | some overloads => simp [hm] at h
      | none => exact .throw _

/-- The names are called up to the first that does not answer, and only if all of them answer does
one come to their identifiers. -/
theorem readNames_follows (getters : List String) (w : World) :
    (getters.mapM (identifier core)).Follows w
      (nameCalls w.chain core.type (answering w.chain core.type getters))
      (fun ids => (∀ g ∈ getters, Answers w.chain core.type g) ∧
        ids = getters.map w.chain.idOf) := by
  induction getters generalizing w with
  | nil => exact .pure ⟨nofun, rfl⟩
  | cons g gs ih =>
      rw [List.mapM_cons, answering, List.takeWhile_cons]
      by_cases hg : Answers w.chain core.type g
      · rw [if_pos (decide_eq_true hg), nameCalls_cons]
        refine .bind (identifier_follows_submissions core g w) fun id w₁ h₁ hid => ?_
        have hrest := ih w₁
        rw [nameCalls_accepts h₁, answering, h₁.idOf] at hrest
        simp only [answers_accepts h₁] at hrest
        refine .bind_quiet hrest fun ids _ _ hids => .pure ?_
        rw [hid, hids.2]
        exact ⟨List.forall_mem_cons.mpr ⟨hg, hids.1⟩, rfl⟩
      · rw [if_neg (by simpa using hg)]
        exact .quiet_bind (identifier_follows_of_not_answers core hg fun _ => False)
          fun _ _ _ hno => hno.elim

theorem readNames_needs (getters : List String) (w : World) :
    (getters.mapM (identifier core)).Needs w (∀ g ∈ getters, Answers w.chain core.type g) 0
      (nameCalls w.chain core.type getters) := by
  rw [nameCalls, ← Nat.mul_zero getters.length]
  refine .mapM getters w (fun g _ done w' hw' => ?_) fun g _ done w' hw' => ?_
  · rw [← getterSubmissions_accepts hw']
    exact ⟨_, identifier_follows_submissions core g w'⟩
  · rw [← getterSubmissions_accepts hw', ← answers_accepts hw']
    exact identifier_needs core g w'

/-! ## Both phases -/

theorem callEach_needs (method : String) (ids : List Value) (account : Value) (w : World) :
    (callEach d core method ids account).Needs w
      (∀ id ∈ ids, d.CanSend core method [id, account]) (ids.length * d.questionsEach)
      (calls core.type.name method ids account) := by
  rw [calls, List.map_eq_flatMap]
  refine .forM ids w (fun id _ _ w' _ => ⟨_, call_follows d core method id account w'⟩) ?_
  exact fun id _ _ w' _ => (d.transact_needs core method [id, account]).bind_pure

theorem grantThenRevoke_needs (ids : List Value) (recipient holder : Value) (w : World) :
    (grantThenRevoke d core ids recipient holder).Needs w
      ((∀ id ∈ ids, d.CanSend core "grantRole" [id, recipient]) ∧
        ∀ id ∈ ids, d.CanSend core "revokeRole" [id, holder])
      ((handover core.type.name ids recipient holder).length * d.questionsEach)
      (handover core.type.name ids recipient holder) := by
  rw [handover, List.length_append, calls, List.length_map, calls, List.length_map, Nat.add_mul]
  exact (callEach_needs d core "grantRole" ids recipient w).bind fun _ w₁ _ =>
    callEach_needs d core "revokeRole" ids holder w₁

/-- What a handover needs in order to return: all names answer, all grants and all revocations can
be sent, each of them is let pass by the operator, and the chain refuses nothing. -/
theorem transfer_needs (role : Role) (recipient holder : Value) (w : World) :
    (transfer d core role recipient holder).Needs w
      ((∀ g ∈ role.getters, Answers w.chain core.type g) ∧
        (∀ id ∈ role.getters.map w.chain.idOf, d.CanSend core "grantRole" [id, recipient]) ∧
        ∀ id ∈ role.getters.map w.chain.idOf, d.CanSend core "revokeRole" [id, holder])
      ((handover core.type.name (role.getters.map w.chain.idOf) recipient holder).length *
        d.questionsEach)
      (nameCalls w.chain core.type role.getters ++
        handover core.type.name (role.getters.map w.chain.idOf) recipient holder) := by
  rw [transfer_eq]
  have hsay := Action.Needs.say (w := w) (.transferringRole role.name recipient)
  refine (hsay.quiet_bind fun _ w₁ hw₁ => ?_).congr (and_iff_right trivial)
  have hchain : w₁.chain = w.chain := by
    cases hw₁
    rfl
  rw [← hchain, ← Nat.zero_add (_ * _)]
  refine (readNames_needs core role.getters w₁).bind fun ids w₂ hids => ?_
  rw [((readNames_follows core role.getters w₁).of_ok hids).2.2]
  exact grantThenRevoke_needs d core _ recipient holder w₂

/-! ## What a handover sends -/

/-- A revocation comes after all grants. -/
theorem grants_prefix_of_revocation {name : String} {ids : List Value} {recipient holder id : Value}
    {done rest : List LogEntry}
    (h : done ++ .transact name "revokeRole" [id, holder] :: rest <+:
      handover name ids recipient holder) :
    calls name "grantRole" ids recipient <+: done ∧
      .transact name "grantRole" [id, recipient] ∈ done := by
  have hno : .transact name "revokeRole" [id, holder] ∉
      calls name "grantRole" ids recipient := by
    intro hmem
    obtain ⟨i, -, hi⟩ := List.mem_map.mp hmem
    simp [LogEntry.transact] at hi
  rcases prefix_append_cases h with hp | ⟨part, hpart, hp⟩
  · exact (hno (hp.subset (List.mem_append_right done List.mem_cons_self))).elim
  · have hrevoked : .transact name "revokeRole" [id, holder] ∈ part := by
      have hmem : .transact name "revokeRole" [id, holder] ∈
          calls name "grantRole" ids recipient ++ part :=
        hpart ▸ List.mem_append_right done List.mem_cons_self
      exact (List.mem_append.mp hmem).resolve_left hno
    obtain ⟨i, hi, he⟩ := List.mem_map.mp (hp.subset hrevoked)
    cases he
    have hall : calls name "grantRole" ids recipient <+: done := by
      rcases List.append_eq_append_iff.mp hpart with ⟨more, hmore, hrest⟩ | ⟨more, rfl, -⟩
      · -- The grants do not reach as far as the revocation.
        cases more with
        | nil =>
            rw [List.append_nil] at hmore
            exact hmore ▸ List.prefix_refl _
        | cons e more =>
            cases hrest
            exact (hno (hmore ▸ List.mem_append_right done List.mem_cons_self)).elim
      · exact List.prefix_append _ more
    exact ⟨hall, hall.subset (List.mem_map_of_mem hi)⟩

/-- What has been sent when a handover has ended: the calls of names, and then the grants and the
revocations. -/
structure TwoPhase (role : Role) (recipient holder : Value) (w : World)
    (called sent : List LogEntry) : Prop where
  log : ((transfer d core role recipient holder).perform w).2.chain.log =
    w.chain.log ++ (called ++ sent)
  /-- The names that are methods and no getters are called in their order, up to the first name that
  does not answer. -/
  called_prefix : called <+:
    nameCalls w.chain core.type (answering w.chain core.type role.getters)
  /-- If there are none, nothing is sent but grants and revocations. -/
  uncalled : (∀ g ∈ role.getters, w.chain.roleId? g = none → core.type.method? g = none) →
    called = []
  /-- Every identifier is granted to the recipient, and then every one is revoked from the holder. -/
  sent_prefix : sent <+:
    handover core.type.name (role.getters.map w.chain.idOf) recipient holder
  /-- A name that does not answer ends it all before the first grant. -/
  unanswered : (∃ g ∈ role.getters, ¬Answers w.chain core.type g) →
    sent = [] ∧ ∃ f, ((transfer d core role recipient holder).perform w).1 = .error f
  /-- All of them are called before the first grant. -/
  all_called : sent ≠ [] → called = nameCalls w.chain core.type role.getters
  /-- A revocation comes after all grants, and so after that of the same identifier. -/
  granted : ∀ done id rest,
    sent = done ++ .transact core.type.name "revokeRole" [id, holder] :: rest →
      calls core.type.name "grantRole" (role.getters.map w.chain.idOf) recipient <+: done ∧
        .transact core.type.name "grantRole" [id, recipient] ∈ done
  /-- A handover that returns has sent everything. -/
  complete : ((transfer d core role recipient holder).perform w).1 = .ok () →
    called = nameCalls w.chain core.type role.getters ∧
      sent = handover core.type.name (role.getters.map w.chain.idOf) recipient holder
  /-- It returns exactly if all names answer, all grants and revocations can be sent, the operator lets
  each of these pass, and the chain refuses nothing. -/
  returns_iff : (∃ w', (transfer d core role recipient holder).perform w = (.ok (), w')) ↔
    (∀ g ∈ role.getters, Answers w.chain core.type g) ∧
      (∀ id ∈ role.getters.map w.chain.idOf, d.CanSend core "grantRole" [id, recipient] ∧
        d.CanSend core "revokeRole" [id, holder]) ∧
      w.Grants
        ((handover core.type.name (role.getters.map w.chain.idOf) recipient holder).length *
          d.questionsEach)
        (nameCalls w.chain core.type role.getters ++
          handover core.type.name (role.getters.map w.chain.idOf) recipient holder)

/-- The names are called up to the first that does not answer, and the transactions come after all
of them. -/
theorem exists_called_sent (role : Role) (recipient holder : Value) (w : World) :
    ∃ called sent,
      called <+: nameCalls w.chain core.type (answering w.chain core.type role.getters) ∧
      sent <+: handover core.type.name (role.getters.map w.chain.idOf) recipient holder ∧
      w.Accepts (called ++ sent) ((transfer d core role recipient holder).perform w).2 ∧
      (sent ≠ [] →
        called = nameCalls w.chain core.type (answering w.chain core.type role.getters) ∧
          ∀ g ∈ role.getters, Answers w.chain core.type g) ∧
      (((transfer d core role recipient holder).perform w).1 = .ok () →
        called = nameCalls w.chain core.type (answering w.chain core.type role.getters) ∧
          sent = handover core.type.name (role.getters.map w.chain.idOf) recipient holder ∧
          ∀ g ∈ role.getters, Answers w.chain core.type g) := by
  -- The line that is shown first changes nothing but what has been shown.
  let w₁ : World := { w with notices := w.notices ++ [.transferringRole role.name recipient] }
  have hrun : (transfer d core role recipient holder).perform w =
      (role.getters.mapM (identifier core) >>= fun ids =>
        grantThenRevoke d core ids recipient holder).perform w₁ := rfl
  have hshown : w.Accepts [] w₁ := .of_eq rfl rfl
  have hsend : ∀ ids, ids = role.getters.map w.chain.idOf → ∀ w₂,
      (grantThenRevoke d core ids recipient holder).Follows w₂
        (handover core.type.name (role.getters.map w.chain.idOf) recipient holder)
        (fun _ => True) := by
    rintro ids rfl w₂
    exact grantThenRevoke_follows d core _ recipient holder w₂
  obtain ⟨called, sent, hcalled, hsent, hacc, hafter, hok⟩ :=
    (readNames_follows core role.getters w₁).exists_parts fun ids w₂ _ hids =>
      hsend ids hids.2 w₂
  rw [hrun]
  refine ⟨called, sent, hcalled, hsent, hshown.trans hacc, ?_, ?_⟩
  · intro hne
    obtain ⟨hall, ids, hanswer, -⟩ := hafter hne
    exact ⟨hall, hanswer⟩
  · intro hreturns
    obtain ⟨hall, hall', ids, hanswer, -⟩ := hok ⟨⟩ hreturns
    exact ⟨hall, hall', hanswer⟩

/-- **Two phases.** Let any role be handed over, by whatever names it is known, in whatever world
and with whatever fault. Then this is what has been sent. -/
theorem transfer_twoPhase (role : Role) (recipient holder : Value) (w : World) :
    ∃ called sent, TwoPhase d core role recipient holder w called sent := by
  obtain ⟨called, sent, hcalled, hsent, hacc, hafter, hok⟩ :=
    exists_called_sent d core role recipient holder w
  refine ⟨called, sent, ?_⟩
  constructor
  case log => exact hacc.log
  case called_prefix => exact hcalled
  case uncalled =>
    intro hnone
    rw [nameCalls_eq_nil fun g hg => hnone g (answering_subset _ _ _ hg)] at hcalled
    exact List.prefix_nil.mp hcalled
  case sent_prefix => exact hsent
  case unanswered =>
    rintro ⟨g, hg, hno⟩
    constructor
    · by_contra hne
      exact hno ((hafter hne).2 g hg)
    · cases hr : ((transfer d core role recipient holder).perform w).1 with
      | error f => exact ⟨f, rfl⟩
      | ok x => exact (hno ((hok hr).2.2 g hg)).elim
  case all_called =>
    intro hne
    obtain ⟨hcalls, hall⟩ := hafter hne
    rw [hcalls, answering_eq_self hall]
  case granted =>
    rintro done id rest rfl
    exact grants_prefix_of_revocation hsent
  case complete =>
    intro hreturns
    obtain ⟨hcalls, hall, hanswer⟩ := hok hreturns
    exact ⟨by rw [hcalls, answering_eq_self hanswer], hall⟩
  case returns_iff =>
    have h := (transfer_needs d core role recipient holder w).returns_iff
    rw [and_assoc, ← forall₂_and] at h
    refine Iff.trans ?_ h
    constructor
    · rintro ⟨w', hr⟩
      exact ⟨⟨⟩, w', hr⟩
    · rintro ⟨x, w', hr⟩
      exact ⟨w', hr⟩

/-- A role with a name that is a method and a name that does not answer. It is handed over between
two accounts that the methods take, but the method is called before the other name ends it all. -/
theorem transfer_calls_before_missing :
    ¬Answers World.fresh.chain Contract.standardCore.type "MISSING_ROLE" ∧
    (∀ account ∈ [Deployer.otherAccount, Deployer.standardAccount],
      Deployer.standard.CanSend .standardCore "grantRole"
          [World.fresh.chain.idOf adminGetter, account] ∧
        Deployer.standard.CanSend .standardCore "revokeRole"
          [World.fresh.chain.idOf adminGetter, account]) ∧
    ((transfer .standard .standardCore ⟨"r", ["initialize", "MISSING_ROLE"]⟩
      Deployer.otherAccount Deployer.standardAccount).perform .fresh).2.chain.log =
        [.transact Contract.standardCore.type.name "initialize" []] := by
  refine ⟨by decide, ?_, rfl⟩
  intro account haccount
  rcases List.mem_pair.mp haccount with rfl | rfl
  all_goals exact ⟨⟨rfl, _, _, rfl, rfl⟩, rfl, _, _, rfl, rfl⟩

end Role

end Rollout
