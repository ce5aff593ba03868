import Rollout.Notice
import Rollout.Proofs.Text.Lines

/-!
# What can be read off a transcript

All that an operator keeps of a deployment is what it printed. Two kinds of
things in it are about the chain: a line for every contract that was deployed,
and a block for every transaction that was about to be sent. Both are found by
how their first line starts; the arguments of a transaction stand behind tabs on
the lines below.

A notice is clear if nothing that is put into it has a line end. The lines of
clear notices can be told apart, so what is read off their transcript is exactly
what they told.

## Main results

* `Transcript.deployments_transcript`: the lines about deployments.
* `Transcript.transactions_transcript`: the blocks about transactions.
-/

namespace Rollout

open Text (IsLine)

/-! ## Reading a transcript -/

namespace Transcript

/-- Whether a line says that a contract was deployed. -/
def isDeployment (line : String) : Bool := "Deployed ".toList.isPrefixOf line.toList

/-- Whether a line says that a transaction is about to be sent. -/
def isTransaction (line : String) : Bool := "Transacting ".toList.isPrefixOf line.toList

/-- Whether a line shows an argument. -/
def isArgument (line : String) : Bool := "\t".toList.isPrefixOf line.toList

/-- The blocks about transactions, each a line and the arguments below it. -/
def blocks : List String → List (List String)
  | [] => []
  | line :: rest =>
      if isTransaction line then (line :: rest.takeWhile isArgument) :: blocks rest
      else blocks rest

/-- The lines of a transcript about deployments. -/
def deployments (transcript : String) : List String :=
  (Text.lines transcript).filter isDeployment

/-- The blocks of a transcript about transactions. -/
def transactions (transcript : String) : List (List String) := blocks (Text.lines transcript)

/-- The line about a deployment. -/
def deploymentLine (contract address : String) : String :=
  "Deployed " ++ contract ++ " at " ++ address

/-- The line about an argument. -/
def argumentLine (a : Option String × Value) : String :=
  "\t" ++ NamedArgs.shownName a.1 ++ "=" ++ a.2.shown

/-- The block about a transaction with a contract, whose address is given in short. -/
def transactionBlock (contract address method : String) (args : NamedArgs) : List String :=
  ("Transacting " ++ contract ++ "[" ++ address ++ "]." ++ method ++
      (if args.isEmpty then " with no arguments" else " with arguments:")) ::
    args.map argumentLine

theorem isArgument_argumentLine (a : Option String × Value) :
    isArgument (argumentLine a) = true := by
  simp [isArgument, argumentLine]

theorem isDeployment_argumentLine (a : Option String × Value) :
    isDeployment (argumentLine a) = false := by
  simp [isDeployment, argumentLine, List.isPrefixOf]

theorem isTransaction_argumentLine (a : Option String × Value) :
    isTransaction (argumentLine a) = false := by
  simp [isTransaction, argumentLine, List.isPrefixOf]

theorem takeWhile_argumentLines (args : NamedArgs) :
    (args.map argumentLine).takeWhile isArgument = args.map argumentLine := by
  induction args with
  | nil => rfl
  | cons a args ih =>
      rw [List.map_cons, List.takeWhile_cons_of_pos (isArgument_argumentLine a), ih]

theorem blocks_eq_nil {ls : List String} (h : ∀ line ∈ ls, isTransaction line = false) :
    blocks ls = [] := by
  induction ls with
  | nil => rfl
  | cons line ls ih =>
      obtain ⟨hline, hls⟩ := List.forall_mem_cons.mp h
      rw [blocks, hline, if_neg Bool.false_ne_true, ih hls]

/-- Blocks end where a line is no argument. -/
theorem blocks_append {rest : List String} (hrest : rest.takeWhile isArgument = [])
    (ls : List String) : blocks (ls ++ rest) = blocks ls ++ blocks rest := by
  induction ls with
  | nil => rfl
  | cons line ls ih =>
      rw [List.cons_append, blocks, blocks, ih]
      split
      · have htake : (ls ++ rest).takeWhile isArgument = ls.takeWhile isArgument := by
          rw [List.takeWhile_append, hrest, List.append_nil]
          split
          · exact ((List.takeWhile_prefix isArgument).eq_of_length ‹_›).symm
          · rfl
        rw [htake, List.cons_append]
      · rfl

end Transcript

/-! ## The lines of a notice -/

namespace Notice

open Transcript

/-- The contract and the address of a deployment that a notice is about. -/
def deployment? : Notice → Option (String × String)
  | .deployed contract address => some (contract, address)
  | _ => none

/-- Whether a notice is about a transaction. -/
def isTransaction : Notice → Bool
  | .transacting .. => true
  | _ => false

/-- Nothing that is put into a notice of a running deployment has a line end. -/
def IsClear : Notice → Prop
  | .deployed contract address => IsLine contract ∧ IsLine address
  | .deployingProxy proxy target => IsLine proxy ∧ IsLine target
  | .wrapped target proxy address => IsLine target ∧ IsLine proxy ∧ IsLine address
  | .transacting contract address method args =>
      IsLine contract ∧ IsLine address ∧ IsLine method ∧
        ∀ a ∈ args, IsLine (NamedArgs.shownName a.1) ∧ IsLine a.2.shown
  | .transferringRole role recipient => IsLine role ∧ IsLine recipient.shown
  | .noRecipient role => IsLine role
  | .settingVerifier => True
  | .overwritingManifest path => IsLine path
  | .manifestWritten path => IsLine path
  | _ => False

/-- The lines of a notice of a running deployment. -/
def rows : Notice → List String
  | .deployed contract address => [deploymentLine contract address]
  | .deployingProxy proxy target =>
      ["", "Deploying " ++ proxy ++ " contract to proxy " ++ target ++ "."]
  | .wrapped target proxy address =>
      ["", "Wrapping " ++ target ++ " into " ++ proxy ++ " (as type " ++ target ++ ") at " ++
        address ++ "."]
  | .transacting contract address method args =>
      "" :: transactionBlock contract address method args
  | .transferringRole role recipient =>
      ["", "Transferring " ++ role ++ " role to " ++ recipient.shown]
  | .noRecipient role =>
      ["(i) No recipient for " ++ role ++ " role; it stays with the deployer."]
  | .settingVerifier => ["", "Setting SP1 verifier and verification key on UntronCore"]
  | .overwritingManifest path => ["Overwriting existing manifest at " ++ path ++ "."]
  | .manifestWritten path => ["(i) Manifest written to " ++ path ++ "!"]
  | _ => []

theorem lines_cons (line : String) (ls : List String) :
    lines (line :: ls) = line ++ "\n" ++ lines ls := by
  rw [lines, List.map_cons, String.join_cons, lines]

theorem lines_single (line : String) : lines [line] = line ++ "\n" := by
  rw [lines_cons]
  exact String.append_empty

/-- A line below an empty one. -/
theorem lines_pair (line : String) : lines ["", line] = "\n" ++ line ++ "\n" := by
  rw [lines_cons, lines_single, String.empty_append, String.append_assoc]

/-- Arguments with tabs between them are lines that start with a tab. -/
theorem argLines_cons (a : Option String × Value) (args : NamedArgs) :
    "\t" ++ argLines (a :: args) ++ "\n" =
      lines ((a :: args).map argumentLine) := by
  have htab : "\n\t" = "\n" ++ "\t" := rfl
  induction args generalizing a with
  | nil => simp [argLines, argumentLine, lines_single, String.append_assoc]
  | cons b args ih =>
      have hjoin : argLines (a :: b :: args) =
          NamedArgs.shownName a.1 ++ "=" ++ a.2.shown ++ "\n\t" ++ argLines (b :: args) := by
        simp [argLines, String.intercalate_cons_cons, String.append_assoc]
      rw [List.map_cons, lines_cons, ← ih b, hjoin, htab, argumentLine]
      simp only [String.append_assoc]

/-- A clear notice consists of its rows. -/
theorem text_eq_lines {n : Notice} (h : n.IsClear) : n.text = lines n.rows := by
  cases n with
  | deployed contract address => exact (lines_single _).symm
  | deployingProxy proxy target =>
      have hstart : "\nDeploying " = "\n" ++ "Deploying " := rfl
      have hend : ".\n" = "." ++ "\n" := rfl
      show "\nDeploying " ++ proxy ++ " contract to proxy " ++ target ++ ".\n" = _
      rw [rows, lines_pair, hstart, hend]
      simp only [String.append_assoc]
  | wrapped target proxy address =>
      have hstart : "\nWrapping " = "\n" ++ "Wrapping " := rfl
      have hend : ".\n" = "." ++ "\n" := rfl
      show "\nWrapping " ++ target ++ " into " ++ proxy ++ " (as type " ++ target ++ ") at " ++
        address ++ ".\n" = _
      rw [rows, lines_pair, hstart, hend]
      simp only [String.append_assoc]
  | transacting contract address method args =>
      have hstart : "\nTransacting " = "\n" ++ "Transacting " := rfl
      have hargs : " with arguments:\n\t" = " with arguments:" ++ "\n" ++ "\t" := rfl
      show "\nTransacting " ++ contract ++ "[" ++ address ++ "]." ++ method ++
        (if args.isEmpty then " with no arguments" else " with arguments:\n\t" ++ argLines args) ++
        "\n" = _
      cases args with
      | nil =>
          rw [rows, transactionBlock, List.map_nil, lines_pair, hstart]
          simp only [List.isEmpty_nil, if_true, String.append_assoc]
      | cons a args =>
          rw [rows, transactionBlock, lines_cons, lines_cons, ← argLines_cons, hstart, hargs]
          simp only [List.isEmpty_cons, Bool.false_eq_true, if_false, String.empty_append,
            String.append_assoc]
  | transferringRole role recipient =>
      have hstart : "\nTransferring " = "\n" ++ "Transferring " := rfl
      show "\nTransferring " ++ role ++ " role to " ++ recipient.shown ++ "\n" = _
      rw [rows, lines_pair, hstart]
      simp only [String.append_assoc]
  | noRecipient role =>
      have hend : " role; it stays with the deployer.\n" =
        " role; it stays with the deployer." ++ "\n" := rfl
      show "(i) No recipient for " ++ role ++ " role; it stays with the deployer.\n" = _
      rw [rows, lines_single, hend]
      simp only [String.append_assoc]
  | settingVerifier => decide
  | overwritingManifest path =>
      have hend : ".\n" = "." ++ "\n" := rfl
      show "Overwriting existing manifest at " ++ path ++ ".\n" = _
      rw [rows, lines_single, hend]
      simp only [String.append_assoc]
  | manifestWritten path =>
      have hend : "!\n" = "!" ++ "\n" := rfl
      show "(i) Manifest written to " ++ path ++ "!\n" = _
      rw [rows, lines_single, hend]
      simp only [String.append_assoc]
  | _ => exact False.elim h

/-! ## Rows -/

theorem isLine_of_mem_rows {n : Notice} (h : n.IsClear) : ∀ row ∈ n.rows, IsLine row := by
  have hempty : IsLine "" := by decide
  cases n with
  | deployed contract address =>
      obtain ⟨hcontract, haddress⟩ := h
      simp only [rows, deploymentLine, List.forall_mem_cons]
      exact ⟨.append (.append (.append (by decide) hcontract) (by decide)) haddress, by simp⟩
  | deployingProxy proxy target =>
      obtain ⟨hproxy, htarget⟩ := h
      simp only [rows, List.forall_mem_cons]
      refine ⟨hempty, ?_, by simp⟩
      exact .append (.append (.append (.append (by decide) hproxy) (by decide)) htarget) (by decide)
  | wrapped target proxy address =>
      obtain ⟨htarget, hproxy, haddress⟩ := h
      simp only [rows, List.forall_mem_cons]
      have hinto : IsLine ("Wrapping " ++ target ++ " into " ++ proxy) :=
        .append (.append (.append (by decide) htarget) (by decide)) hproxy
      have htype : IsLine
          ("Wrapping " ++ target ++ " into " ++ proxy ++ " (as type " ++ target ++ ") at ") :=
        .append (.append (.append hinto (by decide)) htarget) (by decide)
      exact ⟨hempty, .append (.append htype haddress) (by decide), by simp⟩
  | transacting contract address method args =>
      obtain ⟨hcontract, haddress, hmethod, hargs⟩ := h
      simp only [rows, transactionBlock, List.forall_mem_cons]
      refine ⟨hempty, ?_, ?_⟩
      · refine .append (.append (.append (.append (.append (.append (by decide) hcontract)
          (by decide)) haddress) (by decide)) hmethod) ?_
        split <;> decide
      · intro row hrow
        obtain ⟨a, ha, rfl⟩ := List.mem_map.mp hrow
        obtain ⟨hname, hvalue⟩ := hargs a ha
        exact .append (.append (.append (by decide) hname) (by decide)) hvalue
  | transferringRole role recipient =>
      obtain ⟨hrole, hrecipient⟩ := h
      simp only [rows, List.forall_mem_cons]
      exact ⟨hempty, .append (.append (.append (by decide) hrole) (by decide)) hrecipient, by simp⟩
  | noRecipient role =>
      simp only [rows, List.forall_mem_cons]
      exact ⟨.append (.append (by decide) h) (by decide), by simp⟩
  | settingVerifier => decide
  | overwritingManifest path =>
      simp only [rows, List.forall_mem_cons]
      exact ⟨.append (.append (by decide) h) (by decide), by simp⟩
  | manifestWritten path =>
      simp only [rows, List.forall_mem_cons]
      exact ⟨.append (.append (by decide) h) (by decide), by simp⟩
  | _ => exact False.elim h

/-- No notice starts with an argument of a transaction. -/
theorem takeWhile_rows (n : Notice) : n.rows.takeWhile isArgument = [] := by
  cases n <;> simp [rows, isArgument, deploymentLine]

/-- The rows about deployments are those that a notice about one has. -/
theorem filter_rows (n : Notice) :
    n.rows.filter isDeployment =
      (n.deployment?.map fun p => deploymentLine p.1 p.2).toList := by
  cases n with
  | transacting contract address method args =>
      have hargs : (args.map argumentLine).filter isDeployment = [] := by
        simp [List.filter_map, isDeployment_argumentLine, Function.comp_def]
      simp [rows, isDeployment, deployment?, transactionBlock, hargs]
  | _ => simp [rows, isDeployment, deployment?, deploymentLine]

/-- A notice about a transaction is one block, and other notices have none. -/
theorem blocks_rows (n : Notice) :
    blocks n.rows = if n.isTransaction then [n.rows.tail] else [] := by
  cases n with
  | transacting contract address method args =>
      have hargs := takeWhile_argumentLines args
      have hnone : blocks (args.map argumentLine) = [] := by
        refine blocks_eq_nil fun line hline => ?_
        obtain ⟨a, -, rfl⟩ := List.mem_map.mp hline
        exact isTransaction_argumentLine a
      simp [rows, blocks, isTransaction, Transcript.isTransaction, transactionBlock, hargs, hnone]
  | _ => simp [rows, blocks, isTransaction, Transcript.isTransaction, deploymentLine]

end Notice

/-! ## What a transcript says -/

namespace Transcript

theorem lines_append_of_rows {rows : List String} (h : ∀ row ∈ rows, IsLine row) (rest : String) :
    Text.lines (Notice.lines rows ++ rest) = rows ++ Text.lines rest := by
  induction rows with
  | nil => rw [Notice.lines, List.map_nil, String.join_nil, String.empty_append, List.nil_append]
  | cons row rows ih =>
      obtain ⟨hrow, hrows⟩ := List.forall_mem_cons.mp h
      rw [Notice.lines_cons, String.append_assoc, Text.lines_append hrow, ih hrows,
        List.cons_append]

/-- The lines of a transcript are those of its notices, one after the other. -/
theorem lines_transcript {told : List Notice} (h : ∀ n ∈ told, n.IsClear) :
    Text.lines (transcript told) = told.flatMap Notice.rows ++ [""] := by
  induction told with
  | nil => exact Text.lines_empty
  | cons n told ih =>
      obtain ⟨hn, htold⟩ := List.forall_mem_cons.mp h
      have hcons : transcript (n :: told) = Notice.lines n.rows ++ transcript told := by
        rw [transcript, List.map_cons, String.join_cons, Notice.text_eq_lines hn, transcript]
      rw [hcons, lines_append_of_rows (Notice.isLine_of_mem_rows hn), ih htold,
        List.flatMap_cons, List.append_assoc]

/-- The lines about deployments are those of the notices about deployments. -/
theorem deployments_transcript {told : List Notice} (h : ∀ n ∈ told, n.IsClear) :
    deployments (transcript told) =
      (told.filterMap Notice.deployment?).map fun p => deploymentLine p.1 p.2 := by
  have hrows : (told.flatMap Notice.rows).filter isDeployment =
      (told.filterMap Notice.deployment?).map fun p => deploymentLine p.1 p.2 := by
    induction told with
    | nil => rfl
    | cons n told ih =>
        obtain ⟨-, htold⟩ := List.forall_mem_cons.mp h
        rw [List.flatMap_cons, List.filter_append, Notice.filter_rows, ih htold,
          List.filterMap_cons]
        cases n.deployment? <;> rfl
  have hlast : [""].filter isDeployment = [] := by decide
  rw [deployments, lines_transcript h, List.filter_append, hrows, hlast, List.append_nil]

/-- What comes after a notice, be it another one or the end, is no argument. -/
theorem takeWhile_flatMap_rows (told : List Notice) :
    (told.flatMap Notice.rows ++ [""]).takeWhile isArgument = [] := by
  induction told with
  | nil => decide
  | cons n told ih =>
      rw [List.flatMap_cons, List.append_assoc]
      have hstart := Notice.takeWhile_rows n
      cases hrows : n.rows with
      | nil => exact ih
      | cons row rows =>
          rw [hrows] at hstart
          have hrow : ¬isArgument row = true := by
            intro hrow
            rw [List.takeWhile_cons_of_pos hrow] at hstart
            cases hstart
          rw [List.cons_append, List.takeWhile_cons_of_neg hrow]

/-- The blocks about transactions are those of the notices about transactions. -/
theorem transactions_transcript {told : List Notice} (h : ∀ n ∈ told, n.IsClear) :
    transactions (transcript told) =
      (told.filter Notice.isTransaction).map fun n => n.rows.tail := by
  rw [transactions, lines_transcript h]
  induction told with
  | nil => decide
  | cons n told ih =>
      obtain ⟨-, htold⟩ := List.forall_mem_cons.mp h
      rw [List.flatMap_cons, List.append_assoc, blocks_append (takeWhile_flatMap_rows told),
        ih htold, Notice.blocks_rows]
      cases hn : n.isTransaction with
      | true =>
          rw [if_pos rfl, List.filter_cons_of_pos hn]
          rfl
      | false =>
          have hneg : ¬n.isTransaction = true := by simp [hn]
          rw [if_neg Bool.false_ne_true, List.filter_cons_of_neg hneg, List.nil_append]

end Transcript

end Rollout
