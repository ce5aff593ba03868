import Rollout.Proofs.Artifact.Reported
import Rollout.Proofs.Text.Spelling

/-!
# The layouts of creation code

Compilers write creation code in four layouts: as a text or as the text inside
an object, and with or without the mark `0x` in front of the digits. Reading
brings all of them to one form (`Layout.codeOf?_text`), so that artifacts that
differ in the layout only are loaded alike.

They are alike as long as there is code. Whether there is any is asked before the
mark is put in front, so that a text without digits is no code where the layout
has no mark, and is code of no bytes where it has one: a contract without
creation code is refused in two layouts and loaded in the other two
(`load_eq_of_digits`, `load_unmarked_nil`, `load_marked`).

## Main results

* `Artifact.load_agrees_iff`: the four artifacts of one contract fare alike exactly
  if its interface can be read, and there is code or the artifact is malformed
  anyway.
-/

namespace Rollout

open Failure (IsOfArtifact)
open Address (lower)

namespace Artifact

/-! ## Layouts -/

/-- How creation code is written. -/
structure Layout where
  /-- The text stands inside an object. -/
  nested : Bool
  /-- The digits stand behind the mark. -/
  marked : Bool
  deriving DecidableEq, Repr

namespace Layout

/-- The text of the code. -/
def text (l : Layout) (ds : List Char) : String :=
  String.ofList ((if l.marked then ['0', 'x'] else []) ++ ds)

/-- The values that carry the code: the text, or an object in which it is found. -/
inductive Writes (l : Layout) (ds : List Char) : Value → Prop
  | plain (layout : l.nested = false) : Writes l ds (.text (l.text ds))
  | object {entries : List (Value × Value)} (layout : l.nested = true)
      (found : Value.find? entries "object" = some (.text (l.text ds))) :
      Writes l ds (.mapping entries)

/-- The text is empty exactly if there are neither digits nor a mark. -/
theorem isEmpty_text (l : Layout) (ds : List Char) :
    (l.text ds).isEmpty = (!l.marked && ds.isEmpty) := by
  rw [Bool.eq_iff_iff, String.isEmpty_iff, text, ← String.toList_inj, String.toList_ofList]
  cases l.marked <;> simp

theorem codeText?_of_writes {l : Layout} {ds : List Char} {code : Value} (h : l.Writes ds code) :
    codeText? (some code) = if !l.marked && ds.isEmpty then none else some (l.text ds) := by
  rw [← isEmpty_text]
  cases h with
  | plain _ => rfl
  | object _ found =>
      unfold codeText?
      dsimp only
      rw [found]

/-- Behind the mark the text is the same in every layout: a letter of the mark is no digit, so that
digits never start with the mark. -/
theorem marked_text (l : Layout) {ds : List Char} (hds : ∀ c ∈ ds, Hex.isDigit c = true) :
    (if "0x".toList.isPrefixOf (l.text ds).toList then l.text ds else "0x" ++ l.text ds) =
      String.ofList ('0' :: 'x' :: ds) := by
  have htext : (l.text ds).toList = (if l.marked then ['0', 'x'] else []) ++ ds :=
    String.toList_ofList
  have hmark : "0x".toList = ['0', 'x'] := rfl
  rw [htext, hmark]
  cases hmarked : l.marked with
  | true =>
      rw [if_pos rfl]
      show (if true = true then l.text ds else _) = _
      rw [if_pos rfl, text, hmarked]
      rfl
  | false =>
      have hbare : ¬['0', 'x'].isPrefixOf ds = true := by
        intro hprefix
        obtain ⟨rest, rfl⟩ := List.isPrefixOf_iff_prefix.mp hprefix
        exact absurd (hds 'x' (by simp)) (by decide)
      rw [if_neg Bool.false_ne_true, List.nil_append, if_neg hbare, ← String.toList_inj,
        String.toList_append, htext, hmarked, hmark, String.toList_ofList]
      rfl

/-- An even number of digits is read in every layout as the bytes of the digits. -/
theorem codeOf?_text (l : Layout) {ds : List Char} (hds : ∀ c ∈ ds, Hex.isDigit c = true)
    (heven : ds.length % 2 = 0) :
    codeOf? (l.text ds) = (Hex.decode? ds).map fun bytes => "0x" ++ Hex.text bytes := by
  have hpad : Hex.padEven ds = ds := if_neg (by omega)
  have hread : Hex.read? (String.ofList ('0' :: 'x' :: ds)) = Hex.decode? ds := by
    rw [Hex.read?, String.toList_ofList]
    show Hex.decode? (Hex.padEven ds) = _
    rw [hpad]
  unfold codeOf?
  dsimp only
  rw [marked_text l hds, hread]

end Layout

/-! ## What is made of an interface and code -/

/-- The artifact is malformed: its name is no text, or an entry of its interface is of no kind. -/
def Malformed (abi : List Value) (named : Option Value) : Prop :=
  (∃ v, named = some v ∧ v.isEmpty = false ∧ ∀ s, v ≠ .text s) ∨
    ∃ entry ∈ abi, Interface.entry? entry = none

/-- What is loaded of an artifact that has code, by the code's bytes. -/
def make (contract : String) (abi : List Value) (named : Option Value) (bytes : Bytes) :
    Except Failure Artifact := do
  let interface? ← Interface.entries? abi
  match nameOf? contract named, interface? with
  | some name, some es =>
      return {
        name
        code := "0x" ++ Hex.text bytes
        constructor := Interface.constructorInputs es
        functions := Interface.functions es }
  | _, _ => .error (.artifact (.malformed contract))

theorem nameOf?_eq_none_iff {contract : String} {named : Option Value} :
    nameOf? contract named = none ↔
      ∃ v, named = some v ∧ v.isEmpty = false ∧ ∀ s, v ≠ .text s := by
  cases named with
  | none => exact ⟨nofun, nofun⟩
  | some v =>
      cases hempty : v.isEmpty with
      | true => simp [nameOf?, hempty]
      | false => cases v <;> simp_all [nameOf?]

theorem mapM_eq_none_iff {α β : Type} {f : α → Option β} {xs : List α} :
    xs.mapM f = none ↔ ∃ x ∈ xs, f x = none := by
  induction xs with
  | nil => simp
  | cons x xs ih =>
      rw [List.mapM_cons]
      cases hx : f x with
      | none => simp [hx]
      | some y =>
          cases hxs : xs.mapM f with
          | none => simpa [hx, hxs] using ih.mp hxs
          | some ys =>
              have hnone : ¬∃ x ∈ xs, f x = none := by rw [← ih, hxs]; exact nofun
              simpa [hx] using hnone

theorem malformed_iff (contract : String) {abi : List Value} {named : Option Value} :
    Malformed abi named ↔
      nameOf? contract named = none ∨ abi.mapM Interface.entry? = none := by
  rw [Malformed, nameOf?_eq_none_iff, mapM_eq_none_iff]

/-- What comes of an artifact that has code: an interface that cannot be read is not reported as its
fault, but everything else that is wrong is. -/
inductive Made (contract : String) (abi : List Value) (named : Option Value) (bytes : Bytes) : Prop
  | unreadable {f : Failure} (entry : ∃ entry ∈ abi, Interface.Unreadable entry)
      (result : make contract abi named bytes = .error f) (cause : ¬IsOfArtifact contract f)
  | malformed (readable : ¬∃ entry ∈ abi, Interface.Unreadable entry)
      (ill : Malformed abi named)
      (result : make contract abi named bytes = .error (.artifact (.malformed contract)))
  | loaded {a : Artifact} (readable : ¬∃ entry ∈ abi, Interface.Unreadable entry)
      (well : ¬Malformed abi named) (result : make contract abi named bytes = .ok a)
      (code : a.code = "0x" ++ Hex.text bytes)

theorem made (contract : String) (abi : List Value) (named : Option Value) (bytes : Bytes) :
    Made contract abi named bytes := by
  have hmake : make contract abi named bytes = (abi.forM Interface.probeEntry >>= fun _ =>
      match nameOf? contract named, abi.mapM Interface.entry? with
      | some name, some es => .ok {
          name
          code := "0x" ++ Hex.text bytes
          constructor := Interface.constructorInputs es
          functions := Interface.functions es }
      | _, _ => .error (.artifact (.malformed contract))) := by
    unfold make
    rw [Interface.entries?_eq]
    cases abi.forM Interface.probeEntry <;> rfl
  cases Interface.probeEntries_spec abi with
  | @refuses f result cause holds =>
      rw [result] at hmake
      refine .unreadable holds hmake ?_
      rintro ⟨fault, rfl, -⟩
      rcases cause with h | h <;> cases h
  | passes result holds =>
      rw [result] at hmake
      cases hname : nameOf? contract named with
      | none =>
          rw [hname] at hmake
          exact .malformed holds ((malformed_iff contract).mpr (.inl hname)) hmake
      | some name =>
          cases hentries : abi.mapM Interface.entry? with
          | none =>
              rw [hname, hentries] at hmake
              exact .malformed holds ((malformed_iff contract).mpr (.inr hentries)) hmake
          | some es =>
              rw [hname, hentries] at hmake
              refine .loaded holds (fun hill => ?_) hmake rfl
              rcases (malformed_iff contract).mp hill with h | h
              · rw [hname] at h
                cases h
              · rw [hentries] at h
                cases h

/-! ## The artifacts of one contract -/

/-- There is a file at the path which says of a contract what its interface is, how it is named, if
it is, and what its code is, in a layout; it may say more. -/
def Describes (files : Store) (path : Path) (l : Layout) (abi : List Value) (named : Option Value)
    (ds : List Char) : Prop :=
  ∃ entries code, HoldsObject files path entries ∧
    Value.find? entries "abi" = some (.list abi) ∧
    Value.find? entries "contractName" = named ∧
    Value.find? entries "bytecode" = some code ∧ l.Writes ds code

/-- What is loaded of such a file. -/
theorem load_described {contract : String} {w : World} {path : Path} {l : Layout}
    {abi : List Value} {named : Option Value} {ds : List Char} {bytes : Bytes}
    (h : Describes w.files path l abi named ds) (hdecode : Hex.decode? ds = some bytes)
    (hds : ∀ c ∈ ds, Hex.isDigit c = true) (heven : ds.length % 2 = 0) :
    ((load path contract).perform w).1 =
      if !l.marked && ds.isEmpty then .error (.artifact (.noBytecode contract))
      else make contract abi named bytes := by
  obtain ⟨entries, code, ⟨content, cs, hlook, htext, hread⟩, habi, hnamed, hcode, hwrites⟩ := h
  rw [load_result hlook, htext]
  dsimp only
  rw [hread]
  dsimp only
  unfold ofValue
  dsimp only
  rw [habi, hcode, hnamed, Layout.codeText?_of_writes hwrites]
  cases hblank : (!l.marked && ds.isEmpty) with
  | true => rfl
  | false =>
      dsimp only
      rw [if_neg Bool.false_ne_true, if_neg Bool.false_ne_true]
      dsimp only
      rw [Layout.codeOf?_text l hds heven, hdecode]
      unfold make
      cases Interface.entries? abi with
      | error f => rfl
      | ok interface? =>
          cases nameOf? contract named with
          | none => rfl
          | some name => cases interface? <;> rfl

/-- Four results of one contract that do not depend on the layout: the same artifact with the code
that the digits denote, which is not empty, or a refusal of each. -/
inductive Agrees (contract : String) (ds : List Char)
    (result : Layout → Except Failure Artifact) : Prop
  | loaded {a : Artifact} {bytes : Bytes} (results : ∀ l, result l = .ok a)
      (code : a.code = "0x" ++ Hex.text bytes) (denoted : ds.map lower = Hex.encode bytes)
      (nonempty : bytes ≠ [])
  | refused (results : ∀ l, ∃ f, result l = .error f ∧ IsOfArtifact contract f)

namespace Agrees

variable {contract : String} {ds : List Char} {result : Layout → Except Failure Artifact}
  {l : Layout} {f : Failure}

/-- Where one layout is refused, all of them are, as a fault of the artifact. -/
theorem refusals (h : Agrees contract ds result) (herror : result l = .error f) :
    IsOfArtifact contract f ∧ ∀ l', ∃ f, result l' = .error f := by
  cases h with
  | loaded results =>
      rw [results l] at herror
      cases herror
  | refused results =>
      obtain ⟨g, hg, hof⟩ := results l
      rw [hg] at herror
      cases herror
      refine ⟨hof, fun l' => ?_⟩
      obtain ⟨f', hf', -⟩ := results l'
      exact ⟨f', hf'⟩

end Agrees

section

variable (contract : String) {abi : List Value} {named : Option Value} {ds : List Char}
  {w : Layout → World} {path : Layout → Path}

/-- The layout of code that is there does not matter. -/
theorem load_eq_of_digits (hds : ∀ c ∈ ds, Hex.isDigit c = true) (heven : ds.length % 2 = 0)
    (h : ∀ l, Describes (w l).files (path l) l abi named ds) (hsome : ds ≠ []) :
    ∃ bytes, ds.map lower = Hex.encode bytes ∧ bytes ≠ [] ∧
      ∀ l, ((load (path l) contract).perform (w l)).1 = make contract abi named bytes := by
  obtain ⟨bytes, hdecode⟩ := Hex.exists_decode? heven hds
  have hdenoted := Hex.decode?_eq_some_iff.mp hdecode
  refine ⟨bytes, hdenoted, ?_, fun l => ?_⟩
  · rintro rfl
    exact hsome (List.map_eq_nil_iff.mp hdenoted)
  · rw [load_described (h l) hdecode hds heven, List.isEmpty_eq_false_iff.mpr hsome,
      Bool.and_false, if_neg Bool.false_ne_true]

/-- Without digits there is no code where the layout has no mark, and code of no bytes where it has
one. -/
theorem load_nil (h : ∀ l, Describes (w l).files (path l) l abi named []) (l : Layout) :
    ((load (path l) contract).perform (w l)).1 =
      if l.marked then make contract abi named []
      else .error (.artifact (.noBytecode contract)) := by
  have hdecode : Hex.decode? [] = some [] := rfl
  rw [load_described (h l) hdecode nofun rfl]
  cases l.marked <;> rfl

/-- The four artifacts of a contract without code fare alike only if the mark in front of no digits
is not enough, because the artifact is malformed. -/
theorem agrees_nil_iff (h : ∀ l, Describes (w l).files (path l) l abi named []) :
    Agrees contract [] (fun l => ((load (path l) contract).perform (w l)).1) ↔
      (¬∃ entry ∈ abi, Interface.Unreadable entry) ∧ Malformed abi named := by
  have hload := load_nil contract h
  have hbare := (hload ⟨false, false⟩).trans (if_neg Bool.false_ne_true)
  have hmarked := (hload ⟨false, true⟩).trans (if_pos rfl)
  cases made contract abi named [] with
  | unreadable entry result cause =>
      refine iff_of_false (fun hagrees => ?_) fun hread => hread.1 entry
      exact cause (hagrees.refusals (hmarked.trans result)).1
  | malformed readable ill result =>
      refine iff_of_true (.refused fun l => ?_) ⟨readable, ill⟩
      rw [hload l, result]
      cases l.marked with
      | true => exact ⟨_, rfl, isOfArtifact rfl⟩
      | false => exact ⟨_, rfl, isOfArtifact rfl⟩
  | loaded _ well result _ =>
      refine iff_of_false (fun hagrees => ?_) fun hill => well hill.2
      obtain ⟨f, hf⟩ := (hagrees.refusals hbare).2 ⟨false, true⟩
      cases (hmarked.trans result).symm.trans hf

/-- The four artifacts of a contract with code fare alike if its interface can be read. -/
theorem agrees_of_digits_iff (hds : ∀ c ∈ ds, Hex.isDigit c = true) (heven : ds.length % 2 = 0)
    (h : ∀ l, Describes (w l).files (path l) l abi named ds) (hsome : ds ≠ []) :
    Agrees contract ds (fun l => ((load (path l) contract).perform (w l)).1) ↔
      ¬∃ entry ∈ abi, Interface.Unreadable entry := by
  obtain ⟨bytes, hdenoted, hbytes, hload⟩ := load_eq_of_digits contract hds heven h hsome
  cases made contract abi named bytes with
  | unreadable entry result cause =>
      refine iff_of_false (fun hagrees => ?_) fun hread => hread entry
      exact cause (hagrees.refusals ((hload ⟨false, false⟩).trans result)).1
  | malformed readable _ result =>
      exact iff_of_true (.refused fun l => ⟨_, (hload l).trans result, isOfArtifact rfl⟩) readable
  | loaded readable _ result code =>
      exact iff_of_true (.loaded (fun l => (hload l).trans result) code hdenoted hbytes) readable

/-- The layout does not matter where there is code. The four artifacts of a contract, whose code is an
even number of digits, fare alike exactly if the interface can be read, and there is code or the
artifact is malformed. -/
theorem load_agrees_iff (hds : ∀ c ∈ ds, Hex.isDigit c = true) (heven : ds.length % 2 = 0)
    (h : ∀ l, Describes (w l).files (path l) l abi named ds) :
    (ds ≠ [] → ∀ l l', ((load (path l) contract).perform (w l)).1 =
      ((load (path l') contract).perform (w l')).1) ∧
    (Agrees contract ds (fun l => ((load (path l) contract).perform (w l)).1) ↔
      (¬∃ entry ∈ abi, Interface.Unreadable entry) ∧ (ds ≠ [] ∨ Malformed abi named)) := by
  by_cases hsome : ds = []
  · subst hsome
    refine ⟨fun hne => absurd rfl hne, (agrees_nil_iff contract h).trans ?_⟩
    rw [or_iff_right (not_not_intro rfl)]
  · refine ⟨fun _ l l' => ?_, (agrees_of_digits_iff contract hds heven h hsome).trans ?_⟩
    · obtain ⟨bytes, _, _, hload⟩ := load_eq_of_digits contract hds heven h hsome
      exact (hload l).trans (hload l').symm
    · exact (and_iff_left (.inl hsome)).symm

end

/-! ## A contract without methods -/

/-- The value that is the code in a layout, with nothing else beside it. -/
def Layout.value (l : Layout) (ds : List Char) : Value :=
  if l.nested then .mapping [(.text "object", .text (l.text ds))] else .text (l.text ds)

theorem Layout.writes_value (l : Layout) (ds : List Char) : l.Writes ds (l.value ds) := by
  unfold value
  cases hnested : l.nested with
  | true => exact .object hnested rfl
  | false => exact .plain hnested

/-- An artifact with an empty interface and without a name, with its code in a layout. -/
def Layout.sample (l : Layout) (ds : List Char) : List Char :=
  let code := quoted (l.text ds)
  objectText [("abi", arrayText []),
    ("bytecode", if l.nested then objectText [("object", code)] else code)]

/-- A world with that artifact. -/
def Layout.sampleWorld (ds : List Char) (l : Layout) : World :=
  .holding (Text.encode (l.sample ds))

theorem describes_sample {l : Layout} {ds : List Char}
    (htext : Text.ofFile? (Text.encode (l.sample ds)) = some (l.sample ds))
    (hread : Json.read (l.sample ds) =
      .ok (.mapping [(.text "abi", .list []), (.text "bytecode", l.value ds)])) :
    Describes (Layout.sampleWorld ds l).files .given l [] none ds :=
  ⟨_, _, ⟨_, _, World.look_holding _, htext, hread⟩, rfl, rfl, rfl, l.writes_value ds⟩

/-- Two bytes of code, in digits of both cases. -/
theorem load_agrees_sample :
    Agrees "UntronCore" ['6', '0', 'f', 'F'] fun l =>
      ((load .given "UntronCore").perform (Layout.sampleWorld ['6', '0', 'f', 'F'] l)).1 := by
  have hdescribes : ∀ l, Describes (Layout.sampleWorld ['6', '0', 'f', 'F'] l).files .given l [] none
      ['6', '0', 'f', 'F'] := by
    rintro ⟨nested, marked⟩
    cases nested <;> cases marked <;> exact describes_sample (by decide +kernel) rfl
  have hdigits : ∀ c ∈ ['6', '0', 'f', 'F'], Hex.isDigit c = true :=
    List.all_eq_true.mp (by decide)
  have hagrees := (load_agrees_iff "UntronCore" hdigits rfl hdescribes).2
  exact hagrees.mpr ⟨nofun, .inl nofun⟩

/-- A contract without code is refused where its code is written without the mark, and loaded where it
is written with the mark. -/
theorem load_disagrees_without_code :
    (∀ l, Describes (Layout.sampleWorld [] l).files .given l [] none []) ∧
    ((load .given "UntronCore").perform (Layout.sampleWorld [] ⟨false, false⟩)).1 =
      .error (.artifact (.noBytecode "UntronCore")) ∧
    ((load .given "UntronCore").perform (Layout.sampleWorld [] ⟨false, true⟩)).1 =
      .ok ⟨"UntronCore", "0x", [], []⟩ ∧
    ¬Agrees "UntronCore" [] fun l =>
      ((load .given "UntronCore").perform (Layout.sampleWorld [] l)).1 := by
  have hdescribes : ∀ l, Describes (Layout.sampleWorld [] l).files .given l [] none [] := by
    rintro ⟨nested, marked⟩
    cases nested <;> cases marked <;> exact describes_sample (by decide +kernel) rfl
  have hload := load_nil "UntronCore" hdescribes
  have hbare := hload ⟨false, false⟩
  have hmarked := hload ⟨false, true⟩
  refine ⟨hdescribes, hbare, hmarked, fun hagrees => ?_⟩
  obtain ⟨f, hf⟩ := (hagrees.refusals hbare).2 ⟨false, true⟩
  cases hmarked.symm.trans hf

end Artifact

end Rollout
