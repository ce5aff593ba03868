import Rollout.Deployer
import Rollout.Proofs.Action.Effect

/-!
# What the deployer submits

Each of the deployer's operations has a plan that is known before it starts: one
entry for a transaction, one for a deployment, one for call data, and two for a
proxy. A question to the operator or a refusal of the interface comes before the
entry it is about, so in a failed operation it only cuts the plan short.

An operation that returns also tells that the interface takes the arguments
(`ContractType.Takes`), and a deployment tells which address the contract got.

## Main results

* `Deployer.transact_follows`, `Deployer.deploy_follows`, `Deployer.encode_follows`,
  `Deployer.deployProxy_follows`: the plan and the result of each operation.
-/

namespace Rollout

/-- A contract type takes arguments for a method: it has the method, and one of the overloads admits
the arguments. -/
def ContractType.Takes (t : ContractType) (admits : Admission) (method : String)
    (args : List Value) : Prop :=
  ∃ overloads named, t.method? method = some overloads ∧
    Arguments.forMethod admits overloads args = .ok named

/-- The address that the `n`-th contract from now on will have, counted from zero. -/
def Chain.nextAddress (c : Chain) (n : Nat) : Value := .text (c.addressOf (c.contracts + n))

/-- What has been deployed moves the addresses that are still to come. -/
theorem World.Accepts.nextAddress {w w' : World} {es : List LogEntry} (h : w.Accepts es w')
    (n : Nat) :
    w'.chain.nextAddress n = w.chain.nextAddress (es.countP LogEntry.isDeployment + n) := by
  rw [Chain.nextAddress, Chain.nextAddress, h.addressOf, h.contracts, Nat.add_assoc]

namespace Deployer

open Rollout.Action (Follows)

variable (d : Deployer) {w : World}

theorem methodOf_follows (t : ContractType) (method : String) :
    (methodOf t method).Follows w [] (fun overloads => t.method? method = some overloads) := by
  unfold methodOf
  split
  · exact .pure ‹_›
  · exact .throw _

theorem methodArgs_follows (overloads : List Overload) (args : List Value) :
    (d.methodArgs overloads args).Follows w []
      (fun named => Arguments.forMethod d.admits overloads args = .ok named) := by
  exact (Follows.ofExcept _).imp fun named h => Outcome.mapError_eq_ok.mp h

theorem shortAddress_follows (c : Contract) :
    (shortAddress c).Follows w [] (fun _ => True) := by
  unfold shortAddress
  split
  · exact .pure trivial
  · exact .throw _

/-- What is left of a transaction when it has been shown. -/
def sending (c : Contract) (method : String) (args : List Value) : Action String := do
  if !d.autosign then Action.askContinue
  Action.submit (.transact c.type.name method args)
  return (← get).chain.receipt

/-- The arguments are matched, the transaction is shown, and then it is sent. -/
theorem transact_eq_sending (c : Contract) (method : String) (args : List Value) :
    d.transact c method args = (do
      let overloads ← methodOf c.type method
      let named ← d.methodArgs overloads args
      let address ← shortAddress c
      Action.say (.transacting c.type.name address (methodName method overloads) named)
      d.sending c method args) := rfl

theorem sending_follows (c : Contract) (method : String) (args : List Value) :
    (d.sending c method args).Follows w [.transact c.type.name method args] (fun _ => True) := by
  unfold sending
  refine .askIf_bind (.ask _) fun _ _ => ?_
  exact .bind_quiet (.submit rfl) fun _ _ _ _ => .get_bind (.pure trivial)

/-- A transaction is one entry, which the contract's interface takes. -/
theorem transact_follows (c : Contract) (method : String) (args : List Value) :
    (d.transact c method args).Follows w [.transact c.type.name method args]
      (fun _ => c.type.Takes d.admits method args) := by
  rw [transact_eq_sending]
  refine .quiet_bind (methodOf_follows _ _) fun overloads _ _ hm => ?_
  refine .quiet_bind (d.methodArgs_follows _ _) fun named _ _ hn => ?_
  have htakes : c.type.Takes d.admits method args := ⟨overloads, named, hm, hn⟩
  refine .quiet_bind (shortAddress_follows c) fun _ _ _ _ => ?_
  refine .quiet_bind (.say _) fun _ _ _ _ => ?_
  exact (d.sending_follows c method args).imp fun _ _ => htakes

/-- A deployment is one entry, and the contract is at the chain's next address. -/
theorem deploy_follows (t : ContractType) (args : List Value) :
    (d.deploy t args).Follows w [.deploy t.name args]
      (fun c => c = { type := t, address := w.chain.nextAddress 0 }) := by
  unfold deploy
  refine .quiet_bind (.ofExcept _) fun named w₁ h₁ _ => ?_
  refine .askIf_bind (.askDeployment _ _) fun w₂ h₂ => ?_
  refine .bind_quiet (.submitDeployment rfl) fun address w₃ _ haddr => ?_
  refine .quiet_bind (.say _) fun _ _ _ _ => .pure ?_
  have h : w₂.chain.nextAddress 0 = w.chain.nextAddress 0 := (h₁.trans h₂).nextAddress 0
  rw [haddr, ← h]
  rfl

/-- Call data is one entry, which the contract's interface takes; its bytes are what the chain gives
for the entry. -/
theorem encode_follows (c : Contract) (method : String) (args : List Value) :
    (d.encode c method args).Follows w [.encode c.type.name method args]
      (fun data => data = w.chain.callData (.encode c.type.name method args) ∧
        c.type.Takes d.admits method args) := by
  unfold encode
  refine .quiet_bind (methodOf_follows _ _) fun overloads w₁ h₁ hm => ?_
  refine .quiet_bind (d.methodArgs_follows _ _) fun named w₂ h₂ hn => ?_
  refine .bind_quiet (.submit rfl) fun _ w₃ h₃ _ => .get_bind (.pure ⟨?_, overloads, named, hm, hn⟩)
  rw [h₃.callData, h₂.callData, h₁.callData]

/-- A proxy is two entries: the call data, and the deployment that carries it. -/
theorem deployProxy_follows (proxy target : ContractType) (implementation : Contract)
    (method : String) (args : List Value) :
    (d.deployProxy proxy target implementation method args).Follows w
      [.encode implementation.type.name method args,
       .deploy proxy.name
        [implementation.address,
         .bytes (w.chain.callData (.encode implementation.type.name method args))]]
      (fun c => c = { type := target, address := w.chain.nextAddress 0 } ∧
        implementation.type.Takes d.admits method args) := by
  unfold deployProxy
  refine .bind (d.encode_follows implementation method args) fun data w₁ h₁ hd => ?_
  obtain ⟨rfl, htakes⟩ := hd
  refine .quiet_bind (.say _) fun _ w₂ h₂ _ => ?_
  refine .bind_quiet (d.deploy_follows proxy _) fun c w₃ _ hc => ?_
  refine .quiet_bind (.say _) fun _ _ _ _ => .pure ⟨?_, htakes⟩
  have h : w₂.chain.nextAddress 0 = w.chain.nextAddress 0 := (h₁.trans h₂).nextAddress 0
  rw [hc, ← h]

end Deployer

end Rollout
