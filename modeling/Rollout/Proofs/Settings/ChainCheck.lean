import Mathlib.Algebra.Group.Nat.Defs
import Rollout.Proofs.Settings.Reported
import Rollout.Proofs.Text.Numeral

/-!
# The chain that is checked for

The parameters name the chain of each network, and before anything is deployed
the chain that was connected to is compared with it. What the parameters say is
made an integer on the way, and more than an integer can be made one: a truth
value is zero or one, a floating point number loses its fraction, and bytes are
read as a text (`Converts`). So the comparison is with the integer that was made
and not with what was written, which need not be a chain at all.

Where the chains differ, both are shown, and a number too long for that fails of
itself.

## Main results

* `Settings.integerOf_converts`: the integer that is made of a value.
* `Settings.checksNamed_iff`: the check passes exactly on the chain that the
  parameters name if what they name is an integer or a text.
-/

namespace Rollout

open Yaml (Document Item)

/-! ## Parameters that were loaded -/

/-- The text of parameters: that of the file, or of what comes with the program. -/
inductive Params.Source.Holds (files : Store) : Params.Source → List Char → Prop
  | packaged : Holds files .packaged Params.packaged.toList
  | file {path : Path} {bytes : Bytes} {cs : List Char} (read : files.read path = .ok bytes)
      (text : Text.ofFile? bytes = some cs) : Holds files (.file path) cs

/-- A source has one text. -/
theorem Params.Source.Holds.eq {files : Store} {source : Params.Source} {cs cs' : List Char}
    (h : source.Holds files cs) (h' : source.Holds files cs') : cs = cs' := by
  cases h with
  | packaged =>
      cases h' with
      | packaged => rfl
  | file read text =>
      cases h' with
      | file read' text' =>
          rw [read] at read'
          cases read'
          rw [text] at text'
          exact Option.some.inj text'

namespace Params

theorem readSource_eq_ok {source : Source} {w w' : World} {cs : List Char}
    (h : (readSource source).perform w = (.ok cs, w')) : source.Holds w.files cs := by
  cases source with
  | packaged =>
      have hread : ((.ok packaged.toList : Except Failure (List Char)), w) = (.ok cs, w') := h
      rw [← Except.ok.inj (Prod.mk.inj hread).1]
      exact .packaged
  | file path =>
      unfold readSource at h
      dsimp only at h
      rw [Action.perform_get_bind] at h
      have hread : (Action.readText path).perform w = (.ok cs, w') := by
        split at h
        · cases (Prod.mk.inj h).1
        · exact h
      rw [Action.perform_readText] at hread
      have htext := (Prod.mk.inj hread).1
      split at htext
      · cases htext
      · rename_i bytes hbytes
        split at htext
        · cases htext
        · rename_i cs' hcs
          cases htext
          exact .file hbytes hcs

/-- Parameters that were loaded are those of a document that says all that is looked for. -/
theorem load_eq_ok [Address.CaseRule] {source : Source} {w w' : World} {params : Document}
    (h : (load source).perform w = (.ok params, w')) :
    ∃ cs d, source.Holds w.files cs ∧ Document.ofText cs = .ok d ∧ checkNetworks d = .ok () ∧
      canonical d = .ok params := by
  unfold load at h
  obtain ⟨_, w₁, hsaid, h⟩ := Action.perform_bind_eq_ok.mp h
  obtain ⟨cs, w₂, hread, h⟩ := Action.perform_bind_eq_ok.mp h
  have hfiles : w₁.files = w.files := by
    rw [← (Prod.mk.inj hsaid).2]
  have hholds := readSource_eq_ok hread
  rw [hfiles] at hholds
  split at h
  · cases (Prod.mk.inj h).1
  · rename_i d hd
    have hdocument := Outcome.mapError_eq_ok.mp (Action.eq_ok_of_perform_ofExcept h)
    unfold ofDocument at hdocument
    cases hroot : isMapping d d.root with
    | false =>
        rw [hroot] at hdocument
        cases hdocument
    | true =>
        rw [hroot] at hdocument
        obtain ⟨⟨⟩, hnetworks, hcanonical⟩ := Outcome.bind_eq_ok.mp hdocument
        exact ⟨cs, d, hholds, hd, hnetworks, hcanonical⟩

end Params

namespace Settings

/-! ## Integers that are made of values -/

/-- The integer that a value is or, if it is a text, denotes. -/
inductive Names : Value → Int → Prop
  | integer (n : Int) : Names (.int n) n
  | text {s : String} {n : Int} (denoted : Integer.Denotes s.toList n) : Names (.text s) n

/-- The integer that is made of a value: the one it names, or else zero or one for a truth value, the
integer that bytes denote as a text, and the integer part of a floating point number, whose absolute
value is the greatest integer not above that of the number. -/
inductive Converts : Value → Int → Prop
  | named {v : Value} {n : Int} (named : Names v n) : Converts v n
  | bool (b : Bool) : Converts (.bool b) (if b then 1 else 0)
  | bytes {bs : Bytes} {n : Int} (ascii : ∀ b ∈ bs, b < 128)
      (denoted : Integer.Denotes (bs.map fun b => Char.ofNat b.toNat) n) : Converts (.bytes bs) n
  | float {negative : Bool} {significand q : Nat} {exponent : Int}
      (low : q * 2 ^ (-exponent).toNat ≤ significand * 2 ^ exponent.toNat)
      (high : significand * 2 ^ exponent.toNat < (q + 1) * 2 ^ (-exponent).toNat) :
      Converts (.float (.finite negative significand exponent)) (Integer.signed negative q)

/-- The quotient of a number by a power of two is the greatest integer not above it. -/
theorem eq_of_bounds {a b q q' : Nat} (hlow : q * b ≤ a) (hhigh : a < (q + 1) * b)
    (hlow' : q' * b ≤ a) (hhigh' : a < (q' + 1) * b) : q = q' := by
  have hle : q < q' + 1 := Nat.lt_of_mul_lt_mul_right (Nat.lt_of_le_of_lt hlow hhigh')
  have hle' : q' < q + 1 := Nat.lt_of_mul_lt_mul_right (Nat.lt_of_le_of_lt hlow' hhigh)
  omega

/-- One integer at most is made of a value. -/
theorem Converts.eq {v : Value} {n n' : Int} (h : Converts v n) (h' : Converts v n') : n = n' := by
  cases h with
  | named hnamed =>
      cases hnamed with
      | integer =>
          cases h' with
          | named hnamed' =>
              cases hnamed'
              rfl
      | text denoted =>
          cases h' with
          | named hnamed' =>
              cases hnamed' with
              | text denoted' => exact denoted.eq denoted'
  | bool b =>
      cases h' with
      | named hnamed' => cases hnamed'
      | bool _ => rfl
  | bytes _ denoted =>
      cases h' with
      | named hnamed' => cases hnamed'
      | bytes _ denoted' => exact denoted.eq denoted'
  | float low high =>
      cases h' with
      | named hnamed' => cases hnamed'
      | float low' high' => rw [eq_of_bounds low high low' high']

/-- The integer part of a finite number. -/
theorem converts_truncated (negative : Bool) (significand : Nat) (exponent : Int) :
    Converts (.float (.finite negative significand exponent))
      (((Binary64.finite negative significand exponent).truncate?).getD 0) := by
  have hscaled : (Binary64.finite negative significand exponent).truncate? =
      some (Integer.signed negative
        ((Binary64.scaled significand exponent).1 / (Binary64.scaled significand exponent).2)) := rfl
  rw [hscaled, Option.getD_some]
  unfold Binary64.scaled
  -- One of the two powers is one, depending on the sign of the exponent.
  split
  · rename_i hexponent
    have hpower : (-exponent).toNat = 0 := by omega
    refine .float ?_ ?_
    · rw [hpower, Nat.pow_zero, Nat.mul_one, Nat.div_one]
      exact Nat.le_refl _
    · rw [hpower, Nat.pow_zero, Nat.mul_one, Nat.div_one]
      exact Nat.lt_succ_self _
  · rename_i hexponent
    have hpower : exponent.toNat = 0 := by omega
    have hpos : 0 < 2 ^ (-exponent).toNat := Nat.two_pow_pos _
    refine .float ?_ ?_
    · rw [hpower, Nat.pow_zero, Nat.mul_one]
      exact Nat.div_mul_le_self _ _
    · rw [hpower, Nat.pow_zero, Nat.mul_one]
      exact Nat.lt_mul_of_div_lt (Nat.lt_succ_self _) hpos

/-- What a value is made an integer of. -/
theorem integerOf_converts {v : Value} {n : Int} (h : integerOf v = .ok n) : Converts v n := by
  have htext : ∀ {cs : List Char}, integerOfText cs = .ok n → Integer.Denotes cs n := by
    intro cs htext
    unfold integerOfText at htext
    split at htext
    · rename_i m hread
      cases htext
      exact Integer.denotes_of_readDecimal? hread
    · cases htext
  unfold integerOf at h
  split at h
  · cases h
    exact .named (.integer n)
  · cases h
    exact .bool _
  · exact .named (.text (htext h))
  · split at h
    · rename_i bs hascii
      refine .bytes (fun b hb => ?_) (htext h)
      exact of_decide_eq_true (List.all_eq_true.mp hascii b hb)
    · cases h
  · split at h
    · cases h
    · cases h
    · rw [← Except.ok.inj h]
      exact converts_truncated _ _ _
  · cases h

/-! ## The check -/

/-- What is expected of the check: it passes exactly on the chain that the value names, and is
refused as a mismatch on every other. -/
structure ChecksNamed (s : Settings) (v : Value) (c : Int) : Prop where
  passes : s.checkChain c = .ok () ↔ Names v c
  refuses : ¬Names v c → s.checkChain c = .error (.chainMismatch s.chainId c)

/-- The number of the chain in settings is made of what the parameters give for it. -/
theorem Finds.integerOfItem_eq [Address.CaseRule] {flags : Flags} {env : Environ} {key : String}
    {params : Document} {chain : Item} {s : Settings} (h : Finds flags params chain)
    (hs : ofParams flags env key params = .ok s) : integerOfItem chain = .ok s.chainId := by
  obtain ⟨networks, network, uri, hnetworks, hnetwork, huri, hchain⟩ := h.network
  unfold ofParams at hs
  obtain ⟨_, hfound, hs⟩ := Outcome.bind_eq_ok.mp hs
  cases hnetworks.symm.trans hfound
  obtain ⟨_, hfound, hs⟩ := Outcome.bind_eq_ok.mp hs
  cases hnetwork.symm.trans hfound
  obtain ⟨_, _, hs⟩ := Outcome.bind_eq_ok.mp hs
  obtain ⟨_, _, hs⟩ := Outcome.bind_eq_ok.mp hs
  obtain ⟨_, _, hs⟩ := Outcome.bind_eq_ok.mp hs
  obtain ⟨_, _, hs⟩ := Outcome.bind_eq_ok.mp hs
  obtain ⟨_, hfound, hs⟩ := Outcome.bind_eq_ok.mp hs
  cases hchain.symm.trans hfound
  obtain ⟨n, hn, hs⟩ := Outcome.bind_eq_ok.mp hs
  obtain ⟨_, _, hs⟩ := Outcome.bind_eq_ok.mp hs
  obtain ⟨_, _, hs⟩ := Outcome.bind_eq_ok.mp hs
  cases hs
  exact hn

/-- The value that stands for the chain in parameters whose settings could be put together. -/
theorem exists_chain_of_resolve [Address.CaseRule] {flags : Flags} {env : Environ}
    {source : Params.Source} {w w' : World} {s : Settings}
    (h : (resolve flags env none source).perform w = (.ok s, w')) :
    ∃ cs d v, source.Holds w.files cs ∧ Document.ofText cs = .ok d ∧
      chainItem? flags d = some (.leaf v) ∧ integerOf v = .ok s.chainId := by
  obtain ⟨key, params, -, hload, hparams⟩ := resolve_eq_ok h
  obtain ⟨w₁, hload⟩ := hload rfl
  obtain ⟨cs, d, hholds, hd, hnetworks, hcanonical⟩ := Params.load_eq_ok hload
  obtain ⟨chain, hchain, hfinds⟩ := exists_finds flags hnetworks hcanonical
  have hinteger := hfinds.integerOfItem_eq hparams
  cases chain with
  | leaf v => exact ⟨cs, d, v, hholds, hd, hchain, hinteger⟩
  | shared id => cases hinteger

/-- The check of a chain passes exactly on the integer that is made of what the parameters give for
it. That is what they name, and every other chain is refused as a mismatch, exactly if they give an
integer or a text, and the numbers of the two chains are not too long to be shown. -/
theorem checksNamed_iff [Address.CaseRule] {flags : Flags} {env : Environ} {source : Params.Source}
    {w w' : World} {s : Settings} (h : (resolve flags env none source).perform w = (.ok s, w')) :
    ∃ cs d v, source.Holds w.files cs ∧ Document.ofText cs = .ok d ∧
      chainItem? flags d = some (.leaf v) ∧
      (∀ c, s.checkChain c = .ok () ↔ Converts v c) ∧
      ∀ c, ChecksNamed s v c ↔
        (c = s.chainId → (∃ n, v = .int n) ∨ ∃ t, v = .text t) ∧
        (c ≠ s.chainId → Integer.isWritable s.chainId = true ∧ Integer.isWritable c = true) := by
  obtain ⟨cs, d, v, hholds, hd, hchain, hinteger⟩ := exists_chain_of_resolve h
  have hconverts := integerOf_converts hinteger
  have hnames : ∀ {c}, Names v c → c = s.chainId := fun hc => (Converts.named hc).eq hconverts
  refine ⟨cs, d, v, hholds, hd, hchain, fun c => ?_, fun c => ?_⟩
  · rw [checkChain_eq_ok_iff]
    exact ⟨fun hc => hc ▸ hconverts, fun hc => hc.eq hconverts⟩
  · by_cases hc : c = s.chainId
    · -- The check passes, so the value has to name the chain.
      subst hc
      have hpass : s.checkChain s.chainId = .ok () := checkChain_eq_ok_iff.mpr rfl
      constructor
      · intro hchecks
        refine ⟨fun _ => ?_, fun hne => absurd rfl hne⟩
        cases hchecks.passes.mp hpass with
        | integer => exact .inl ⟨_, rfl⟩
        | text _ => exact .inr ⟨_, rfl⟩
      · intro hgood
        have hnamed : Names v s.chainId := by
          rcases hgood.1 rfl with ⟨n, rfl⟩ | ⟨t, rfl⟩
          · cases hconverts with
            | named hnamed => exact hnamed
          · cases hconverts with
            | named hnamed => exact hnamed
        exact ⟨iff_of_true hpass hnamed, fun hnot => absurd hnamed hnot⟩
    · -- The check fails, so both numbers have to be shown.
      have hnot : ¬Names v c := fun hnamed => hc (hnames hnamed)
      have hfail : ¬s.checkChain c = .ok () := fun hpass => hc (checkChain_eq_ok_iff.mp hpass)
      constructor
      · intro hchecks
        exact ⟨fun heq => absurd heq hc,
          fun _ => (checkChain_eq_mismatch_iff hc).mp (hchecks.refuses hnot)⟩
      · intro hgood
        exact ⟨iff_of_false hfail hnot,
          fun _ => (checkChain_eq_mismatch_iff hc).mpr (hgood.2 hc)⟩

/-! ## Parameters with a fraction for the chain -/

/-- What is put together and found in parameters with a number for the test network's chain. -/
theorem exists_of_textWithChain [Address.CaseRule] (chain : String) (n : Int)
    (isExpected : Value → Bool)
    (hresolved : (resolvedWithChain chain).toOption.map (fun s => s.chainId) = some n)
    (hfound : ((Document.ofText (textWithChain chain)).toOption.bind
      (chainItem? ⟨false, false⟩)).any (fun item => match item with
        | .leaf v => isExpected v
        | .shared _ => false) = true) :
    ∃ s w' d v, (resolve ⟨false, false⟩ environWithKey none (.file .given)).perform
        (worldWithChain chain) = (.ok s, w') ∧ s.chainId = n ∧
      Document.ofText (textWithChain chain) = .ok d ∧
      chainItem? ⟨false, false⟩ d = some (.leaf v) ∧ isExpected v = true := by
  obtain ⟨s, hs, hn⟩ := Option.map_eq_some_iff.mp hresolved
  obtain ⟨item, hitem, hexpected⟩ := (Option.any_eq_true _ _).mp hfound
  obtain ⟨d, hd, hchain⟩ := Option.bind_eq_some_iff.mp hitem
  have hok := Outcome.eq_ok_of_toOption hs
  unfold resolvedWithChain at hok
  rcases hresult : (resolve ⟨false, false⟩ environWithKey none (.file .given)).perform
    (worldWithChain chain) with ⟨r, w'⟩
  rw [hresult] at hok
  cases hok
  cases item with
  | leaf v => exact ⟨s, w', d, v, rfl, hn, Outcome.eq_ok_of_toOption hd, hchain, hexpected⟩
  | shared id => cases hexpected

/-- Whether a value is an integer. -/
def isInt (n : Int) : Value → Bool
  | .int m => m == n
  | _ => false

/-- Whether a value is a floating point number other than an integer. -/
def isFloatBut (n : Int) : Value → Bool
  | .float x => !x.isInteger n
  | _ => false

/-- An integer is checked for as it should be. -/
theorem checksNamed_integer : ∃ s w' d,
    (resolve ⟨false, false⟩ environWithKey none (.file .given)).perform (worldWithChain "280") =
      (.ok s, w') ∧
    Document.ofText (textWithChain "280") = .ok d ∧
    chainItem? ⟨false, false⟩ d = some (.leaf (.int 280)) ∧
    s.checkChain 280 = .ok () ∧ s.checkChain 324 = .error (.chainMismatch 280 324) := by
  have htext : Text.ofFile? (Text.encode (textWithChain "280")) = some (textWithChain "280") := by
    decide +kernel
  obtain ⟨s, w', d, v, hs, hn, hd, hchain, hv⟩ :=
    exists_of_textWithChain "280" 280 (isInt 280) (by decide +kernel) (by decide +kernel)
  have hvalue : v = .int 280 := by
    cases v with
    | int m => rw [eq_of_beq hv]
    | _ => cases hv
  subst hvalue
  -- The text that the theorem speaks of is the one in the file.
  obtain ⟨cs, d', v', hholds, hd', hchain', -, hchecks⟩ := checksNamed_iff hs
  rw [hholds.eq (.file (read_worldWithChain "280") htext), hd] at hd'
  cases hd'
  cases hchain.symm.trans hchain'
  have hgood : ∀ c, Integer.isWritable c = true → ChecksNamed s (.int 280) c := fun c hc =>
    (hchecks c).mpr ⟨fun _ => .inl ⟨_, rfl⟩, fun _ => ⟨by rw [hn]; decide +kernel, hc⟩⟩
  have hother : ¬Names (.int 280) 324 := fun hnamed =>
    absurd ((Converts.named hnamed).eq (.named (.integer 280))) (by decide)
  refine ⟨s, w', d, hs, hd, hchain, (hgood 280 (by decide +kernel)).passes.mpr (.integer 280), ?_⟩
  rw [(hgood 324 (by decide +kernel)).refuses hother, hn]

/-- The chain 280 passes for one that is written with a fraction. -/
theorem not_checksNamed_fraction : ∃ s w' d x,
    (resolve ⟨false, false⟩ environWithKey none (.file .given)).perform
      (worldWithChain "280.9") = (.ok s, w') ∧
    Document.ofText (textWithChain "280.9") = .ok d ∧
    chainItem? ⟨false, false⟩ d = some (.leaf (.float x)) ∧ x.isInteger 280 = false ∧
    s.checkChain 280 = .ok () ∧ ¬Names (.float x) 280 ∧ ¬ChecksNamed s (.float x) 280 := by
  obtain ⟨s, w', d, v, hs, hn, hd, hchain, hv⟩ :=
    exists_of_textWithChain "280.9" 280 (isFloatBut 280) (by decide +kernel) (by decide +kernel)
  have hpass : s.checkChain 280 = .ok () := checkChain_eq_ok_iff.mpr hn.symm
  cases v with
  | float x =>
      have hfraction : x.isInteger 280 = false := (Bool.not_eq_true' _).mp hv
      refine ⟨s, w', d, x, hs, hd, hchain, hfraction, hpass, nofun, fun hchecks => ?_⟩
      cases hchecks.passes.mp hpass
  | _ => cases hv

end Settings

end Rollout
