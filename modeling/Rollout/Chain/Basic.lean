import Rollout.Value.Basic

/-!
# The chain

The chain is what it has accepted: an ordered log of deployments, transactions
and encodings of call data. Everything else that a deployment learns from a
chain is given by functions: the address of the `n`-th contract deployed, the
identifier of a role by the name of its getter, and the call data that an
encoding gives.

A `Fault` makes the chain refuse: of the submissions that match it, the first
`skip` go through and every further one is refused and leaves no entry.
`submit` is the only way into the log.
-/

namespace Rollout

/-- What can be submitted to the chain. -/
inductive EntryKind where
  | deploy
  | transact
  | encode
  deriving DecidableEq, Repr

/-- The word for a kind of entry. -/
def EntryKind.text : EntryKind → String
  | .deploy => "deploy"
  | .transact => "transact"
  | .encode => "encode"

/-- An entry of the log: what was done, with which contract, under which name. -/
structure LogEntry where
  kind : EntryKind
  contract : String
  name : String
  args : List Value

namespace LogEntry

def deploy (contract : String) (args : List Value) : LogEntry :=
  ⟨.deploy, contract, "constructor", args⟩

def transact (contract method : String) (args : List Value) : LogEntry :=
  ⟨.transact, contract, method, args⟩

/-- Call data made for a method. -/
def encode (contract method : String) (args : List Value) : LogEntry :=
  ⟨.encode, contract, method, args⟩

/-- Call data that says of an encoding how many arguments it has, behind a selector. -/
def countedData (e : LogEntry) : Bytes :=
  [0x8f, 0x15, 0xb6, 0xb5, UInt8.ofNat e.args.length]

end LogEntry

/-- Submissions that the chain refuses; a field left out matches everything. -/
structure Fault where
  kind : EntryKind
  contract : Option String
  name : Option String
  /-- How many matching submissions still go through. -/
  skip : Nat
  deriving DecidableEq, Repr

/-- Whether a fault is about an entry. -/
def Fault.covers (f : Fault) (e : LogEntry) : Bool :=
  f.kind == e.kind && f.contract.all (· == e.contract) && f.name.all (· == e.name)

structure Chain where
  log : List LogEntry
  /-- How many contracts have been deployed. -/
  contracts : Nat
  fault : Option Fault
  /-- The address of the `n`-th contract, counted from zero. -/
  addressOf : Nat → String
  /-- What the getter of a role answers. -/
  roleId? : String → Option Bytes
  /-- The call data that an encoding gives. -/
  callData : LogEntry → Bytes := LogEntry.countedData

namespace Chain

/-- The chain without a fault, or with one that has let one more submission through; nothing if
the fault refuses it. -/
def passFault? (c : Chain) (e : LogEntry) : Option Chain :=
  match c.fault with
  | none => some c
  | some f =>
      if f.covers e then
        match f.skip with
        | 0 => none
        | n + 1 => some { c with fault := some { f with skip := n } }
      else some c

/-- The chain with one more entry, unless it refuses. -/
def submit? (c : Chain) (e : LogEntry) : Option Chain :=
  (c.passFault? e).map fun c => { c with log := c.log ++ [e] }

/-- The chain with one more contract, and its address. -/
def deploy? (c : Chain) (e : LogEntry) : Option (String × Chain) :=
  (c.submit? e).map fun c => (c.addressOf c.contracts, { c with contracts := c.contracts + 1 })

/-- The identifier of the last transaction: the length of the log. -/
def receipt (c : Chain) : String :=
  String.ofList ('0' :: 'x' :: Hex.ofNat 64 c.log.length)

end Chain

end Rollout
