import Rollout.Proofs.Abi.Resolution
import Rollout.Proofs.Action.Reporting
import Rollout.Proofs.Standard

/-!
# What is shown of a transaction before it is sent

The operator is shown a transaction before being asked about it and before it is
sent. The arguments are sent by position but shown by name, and here an input
without a name has no name of its own: two of them, like two inputs of one name,
share an entry, and of their arguments only the last is shown, in the place of
the first.

So all arguments are shown, in their order, exactly if the overload that was
taken has different names for its inputs.

## Main results

* `Deployer.transact_describes`: what has been told and logged when a transaction
  has ended.
* `Deployer.discloses_iff`: exactly when the values shown are the values sent.
-/

namespace Rollout

namespace Deployer

variable {d : Deployer} {c : Contract} {method : String} {args : List Value}
  {overloads : List Overload} {named : NamedArgs}

/-- Once the arguments have been matched the transaction is shown, and then it is sent. -/
theorem transact_eq (hm : c.type.method? method = some overloads)
    (hnamed : Arguments.forMethod d.admits overloads args = .ok named) :
    d.transact c method args = shortAddress c >>= fun address =>
      Action.say (.transacting c.type.name address (methodName method overloads) named) >>=
        fun _ => d.sending c method args := by
  rw [transact_eq_sending, methodOf, hm, pure_bind, methodArgs, hnamed]
  rfl

/-- While it is sent nothing is told but the question and its refusal. -/
theorem sending_tellsOnly {P : Notice → Prop} (hquestion : P (.question "Continue"))
    (habort : P .aborting) (d : Deployer) (c : Contract) (method : String) (args : List Value)
    (w : World) : (d.sending c method args).TellsOnly P w := by
  have hsubmit : ∀ w, (do
      Action.submit (.transact c.type.name method args)
      return (← get).chain.receipt : Action String).TellsOnly P w :=
    fun w => .bind (.of_keeps (.submit (fun _ _ => rfl) _ w)) fun _ _ =>
      .get_bind (.of_keeps (.pure _))
  unfold sending
  by_cases hasks : (!d.autosign) = true
  · rw [if_pos hasks]
    exact .bind (.ask hquestion habort) fun _ w' => hsubmit w'
  · rw [if_neg hasks]
    exact hsubmit w

/-- Whatever comes of it, the transaction is shown before anything else is told, if the contract has
an address to show, and before it is sent. -/
theorem transact_describes (hm : c.type.method? method = some overloads)
    (hnamed : Arguments.forMethod d.admits overloads args = .ok named) {address : String}
    (haddress : c.shortAddress? = some address) (w : World) :
    ∃ rest, ((d.transact c method args).perform w).2.notices = w.notices ++
      .transacting c.type.name address (methodName method overloads) named :: rest := by
  obtain ⟨rest, hrest, -⟩ := sending_tellsOnly (P := fun _ => True) trivial trivial d c method args
    { w with notices := w.notices ++
      [.transacting c.type.name address (methodName method overloads) named] }
  refine ⟨rest, ?_⟩
  have hshort : shortAddress c = pure address := by rw [shortAddress, haddress]
  rw [transact_eq hm hnamed, hshort]
  refine hrest.trans ?_
  rw [List.append_assoc]
  rfl

/-- The transaction is shown with its arguments in their order, before anything else is told. Without
an address to show there is nothing, neither told nor logged. What is logged is the transaction. -/
structure Discloses (d : Deployer) (c : Contract) (method : String) (args : List Value)
    (w : World) : Prop where
  described : ∀ address, c.shortAddress? = some address → ∃ name shown rest,
    ((d.transact c method args).perform w).2.notices =
      w.notices ++ .transacting c.type.name address name shown :: rest ∧
    shown.values = args
  silent : c.shortAddress? = none →
    ((d.transact c method args).perform w).2.notices = w.notices ∧
      ((d.transact c method args).perform w).2.chain.log = w.chain.log
  submitted : ((d.transact c method args).perform w).2.chain.log = w.chain.log ∨
    ((d.transact c method args).perform w).2.chain.log =
      w.chain.log ++ [.transact c.type.name method args]

/-- The values that are shown are those that are sent, on whatever contract of the type and in
whatever world, exactly if the first overload that accepts the arguments has different names for its
inputs. -/
theorem discloses_iff {t : ContractType} (hm : t.method? method = some overloads)
    (hnamed : Arguments.forMethod d.admits overloads args = .ok named) :
    (∀ address w, d.Discloses ⟨t, address⟩ method args w) ↔
      ∃ o, Overload.IsFirst d.admits overloads args o ∧ (o.inputs.map Input.name).Nodup := by
  obtain ⟨o, hfirst, rfl⟩ := Arguments.exists_isFirst_of_forMethod hnamed
  have hall := Overload.values_named_iff hfirst.accepts.1
  constructor
  · intro h
    refine ⟨o, hfirst, hall.mp ?_⟩
    -- Any address with a beginning will do, in any world.
    have hd := h (.text "0x") .fresh
    obtain ⟨name, shown, rest, htold, hshown⟩ := hd.described _ rfl
    obtain ⟨rest', htold'⟩ :=
      transact_describes (c := ⟨t, .text "0x"⟩) hm hnamed rfl World.fresh
    rw [htold] at htold'
    cases List.append_cancel_left htold'
    exact hshown
  · rintro ⟨o', hfirst', hnodup⟩ address w
    obtain rfl := hfirst.eq hfirst'
    exact
      { described := fun address haddress => by
          obtain ⟨rest, htold⟩ := transact_describes hm hnamed haddress w
          exact ⟨_, _, rest, htold, hall.mpr hnodup⟩
        silent := fun hnone => by
          have hshort : shortAddress ⟨t, address⟩ = throw .wrongKind := by
            rw [shortAddress, hnone]
          rw [transact_eq hm hnamed, hshort]
          exact ⟨rfl, rfl⟩
        submitted := (d.transact_follows ⟨t, address⟩ method args).log_of_singleton }

/-- Overloads of a method. One input of the second has no name, and it is the only one. -/
def moveOverloads : List Overload :=
  [⟨"move", [⟨some "owner", "address"⟩]⟩,
    ⟨"move", [⟨none, "address"⟩, ⟨some "amount", "uint256"⟩]⟩]

/-- Both arguments are shown, the first under no name. -/
theorem discloses_one_unnamed :
    (Arguments.forMethod encodable moveOverloads [otherAccount, .int 7] =
      .ok [(none, otherAccount), (some "amount", .int 7)]) ∧
    ∀ address w, standard.Discloses ⟨⟨"Vault", [], [("move", moveOverloads)]⟩, address⟩ "move"
      [otherAccount, .int 7] w := by
  refine ⟨rfl, (discloses_iff rfl rfl).mpr ⟨_, ⟨⟨rfl, ?_⟩, ⟨[_], [], rfl, ?_⟩⟩, ?_⟩⟩
  · intro p hp
    rcases List.mem_cons.mp hp with rfl | hp
    · rfl
    · rw [List.mem_singleton.mp hp]
      rfl
  · refine List.forall_mem_singleton.mpr ?_
    rintro ⟨hlength, -⟩
    cases hlength
  · decide

/-- Two inputs without a name share an entry. Both arguments are sent, and one is shown. -/
theorem transact_hides_unnamed :
    ((standard.transact ⟨⟨"Vault", [],
        [("move", [⟨"move", [⟨none, "address"⟩, ⟨none, "uint256"⟩]⟩])]⟩, otherAccount⟩ "move"
        [otherAccount, .int 7]).perform .fresh).2.notices =
      [.transacting "Vault" "0x00000000" "move" [(none, .int 7)]] ∧
    ((standard.transact ⟨⟨"Vault", [],
        [("move", [⟨"move", [⟨none, "address"⟩, ⟨none, "uint256"⟩]⟩])]⟩, otherAccount⟩ "move"
        [otherAccount, .int 7]).perform .fresh).2.chain.log =
      [.transact "Vault" "move" [otherAccount, .int 7]] ∧
    ¬standard.Discloses ⟨⟨"Vault", [],
        [("move", [⟨"move", [⟨none, "address"⟩, ⟨none, "uint256"⟩]⟩])]⟩, otherAccount⟩ "move"
        [otherAccount, .int 7] .fresh := by
  refine ⟨rfl, rfl, fun h => ?_⟩
  obtain ⟨name, shown, rest, htold, hshown⟩ := h.described "0x00000000" rfl
  cases htold
  cases hshown

end Deployer

end Rollout
