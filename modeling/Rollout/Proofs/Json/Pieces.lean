import Rollout.Json.Writer
import Rollout.Proofs.Outcome

/-!
# JSON written piece by piece

A long text is not put together before it is written: brackets, keys and values
go into the file one after the other, and the first value that cannot be written
stops the writer with everything before it already written. `piecesAt` lists the
pieces in this order; where the writer stops there is an error for a piece.

## Main results

* `Json.join_piecesAt`: the pieces of a value make its text, and a value without
  a text has a piece at which the writer stops, for the same reason.
-/

namespace Rollout.Json

/-- A part of a text, or why the writer stops. -/
abbrev Piece := Except WriteError (List Char)

/-- The text of some pieces, if the writer does not stop at any. -/
def join : List Piece → Except WriteError (List Char)
  | [] => .ok []
  | .error e :: _ => .error e
  | .ok piece :: pieces => (join pieces).map (piece ++ ·)

@[simp] theorem join_nil : join [] = .ok [] := rfl

@[simp] theorem join_error_cons (e : WriteError) (pieces : List Piece) :
    join (.error e :: pieces) = .error e := rfl

@[simp] theorem join_ok_cons (piece : List Char) (pieces : List Piece) :
    join (.ok piece :: pieces) = (join pieces).map (piece ++ ·) := rfl

theorem join_append (pieces pieces' : List Piece) :
    join (pieces ++ pieces') =
      (join pieces).bind fun text => (join pieces').map (text ++ ·) := by
  induction pieces with
  | nil =>
      rw [List.nil_append, join_nil]
      show _ = (join pieces').map ([] ++ ·)
      cases join pieces' <;> rfl
  | cons piece pieces ih =>
      cases piece with
      | error e => rfl
      | ok piece =>
          rw [List.cons_append, join_ok_cons, join_ok_cons, ih]
          cases join pieces with
          | error e => rfl
          | ok text =>
              cases join pieces' with
              | error e => rfl
              | ok text' => exact congrArg Except.ok (List.append_assoc _ _ _).symm

theorem join_singleton (piece : Piece) : join [piece] = piece := by
  cases piece with
  | error e => rfl
  | ok piece => exact congrArg Except.ok (List.append_nil _)

/-! ## Pieces of a value -/

/-- The pieces of parts on lines of their own between two brackets. -/
def enclosePieces (opening closing : Char) (level : Nat) (parts : List (List Piece)) :
    List Piece :=
  if ¬level < maxDepth then [.error .tooDeep]
  else if parts.isEmpty then [.ok [opening, closing]]
  else
    .ok (opening :: lineAt (level + 1)) ::
      ((List.intersperse [.ok (',' :: lineAt (level + 1))] parts).flatten ++
        [.ok (lineAt level ++ [closing])])

mutual

/-- The pieces of a value at a level; all values but lists, tuples and mappings are written at
once. -/
def piecesAt (level : Nat) : Value → List Piece
  | .list items => enclosePieces '[' ']' level (pieceItems (level + 1) items)
  | .tuple items => enclosePieces '[' ']' level (pieceItems (level + 1) items)
  | .mapping entries => enclosePieces '\x7b' '\x7d' level (pieceEntries (level + 1) entries)
  | v => [writeAt level v]

def pieceItems (level : Nat) : List Value → List (List Piece)
  | [] => []
  | v :: vs => piecesAt level v :: pieceItems level vs

def pieceEntries (level : Nat) : List (Value × Value) → List (List Piece)
  | [] => []
  | (k, v) :: es =>
      ((keyText k).map (fun key => quote key ++ [':', ' ']) :: piecesAt level v) ::
        pieceEntries level es

end

theorem exists_cons_of_mapM_cons {part : List Piece} {parts : List (List Piece)}
    {texts : List (List Char)} (h : (part :: parts).mapM join = .ok texts) :
    ∃ text rest, texts = text :: rest := by
  rw [List.mapM_cons] at h
  obtain ⟨text, -, h⟩ := Outcome.bind_eq_ok.mp h
  obtain ⟨rest, -, h⟩ := Outcome.bind_eq_ok.mp h
  exact ⟨text, rest, (Except.ok.inj h).symm⟩

/-- Separated parts make a text exactly if each of them does. -/
theorem join_flatten_intersperse (separator : List Char) (parts : List (List Piece)) :
    join (List.intersperse [.ok separator] parts).flatten =
      (parts.mapM join).map fun texts => (List.intersperse separator texts).flatten := by
  induction parts with
  | nil => rfl
  | cons part parts ih =>
      cases parts with
      | nil =>
          rw [List.intersperse_singleton, List.flatten_singleton, List.mapM_cons, List.mapM_nil]
          cases join part with
          | error e => rfl
          | ok text => exact congrArg Except.ok (List.append_nil _).symm
      | cons next parts =>
          rw [List.mapM_cons, List.intersperse_cons_cons, List.flatten_cons, List.flatten_cons,
            join_append, List.singleton_append, join_ok_cons, ih]
          cases join part with
          | error e => rfl
          | ok text =>
              cases htexts : (next :: parts).mapM join with
              | error e => rfl
              | ok texts =>
                  obtain ⟨second, rest, rfl⟩ := exists_cons_of_mapM_cons htexts
                  rfl

theorem join_enclosePieces (opening closing : Char) (level : Nat) (parts : List (List Piece)) :
    join (enclosePieces opening closing level parts) =
      within level ((parts.mapM join).map (enclose opening closing level)) := by
  unfold enclosePieces within
  by_cases hlevel : level < maxDepth
  · rw [if_neg (not_not_intro hlevel), if_pos hlevel]
    cases parts with
    | nil => rfl
    | cons part parts =>
        have hparts : ¬(part :: parts).isEmpty = true := by simp
        rw [if_neg hparts, join_ok_cons, join_append, join_flatten_intersperse]
        cases htexts : (part :: parts).mapM join with
        | error e => rfl
        | ok texts =>
            obtain ⟨text, rest, rfl⟩ := exists_cons_of_mapM_cons htexts
            simp [enclose, Except.map, Except.bind]
  · rw [if_pos hlevel, if_neg hlevel, join_error_cons]

/-! ## The text of a value -/

mutual

/-- The pieces of a value make its text, if it has one. -/
theorem join_piecesAt (level : Nat) : ∀ v : Value, join (piecesAt level v) = writeAt level v
  | .list items | .tuple items => by
      rw [piecesAt, join_enclosePieces, mapM_join_pieceItems, writeAt]
  | .mapping entries => by
      rw [piecesAt, join_enclosePieces, mapM_join_pieceEntries, writeAt]
  | .null | .bool _ | .int _ | .float _ | .text _ | .bytes _ | .date _ | .moment _ | .set _
  | .recurrence _ => by
      rw [piecesAt, join_singleton] <;> nofun

theorem mapM_join_pieceItems (level : Nat) :
    ∀ vs : List Value, (pieceItems level vs).mapM join = writeItems level vs
  | [] => rfl
  | v :: vs => by
      rw [pieceItems, List.mapM_cons, join_piecesAt level v, mapM_join_pieceItems level vs,
        writeItems]

theorem mapM_join_pieceEntries (level : Nat) :
    ∀ es : List (Value × Value), (pieceEntries level es).mapM join = writeEntries level es
  | [] => rfl
  | (k, v) :: es => by
      rw [pieceEntries, List.mapM_cons, mapM_join_pieceEntries level es, writeEntries]
      cases hkey : keyText k with
      | error e => rfl
      | ok key =>
          have hpiece (part : List Char) :
              quote key ++ [':', ' '] ++ part = quote key ++ ':' :: ' ' :: part :=
            List.append_assoc _ _ _
          show (join (.ok (quote key ++ [':', ' ']) :: piecesAt level v) >>= _) = _
          rw [join_ok_cons, join_piecesAt level v]
          cases writeAt level v with
          | error e => rfl
          | ok part =>
              rw [Except.map, hpiece]
              rfl

end

end Rollout.Json
