import Rollout.Proofs.Text.Spelling
import Rollout.Settings.Resolve

/-!
# Verification keys

A verification key is thirty-two bytes, given as sixty-four hexadecimal digits.
When its length is checked it has been read already, and reading fills up an odd
number of digits with a zero in front. So a text of any other number of digits is
refused, but for one: where a single digit has been lost, what is read is another
key, whose digits are those that are left, shifted by one place.

## Main results

* `Settings.verificationKeyOf_eq_ok_iff`: the texts that are taken for a key, and
  the key of each.
* `Settings.readsKey_iff`: keys are read as they should be from all texts but
  those that spell sixty-three digits.
-/

namespace Rollout.Settings

open Address (lower)
open Hex (Spells)

variable {s : String}

/-- A key is the bytes that a text denotes, if there are thirty-two. -/
theorem verificationKeyOf_eq_ok_iff_read? {key : Bytes} (hs : s ≠ "") :
    verificationKeyOf (some s) = .ok key ↔
      Hex.read? (Text.trim s) = some key ∧ key.length = 32 := by
  have hsome : ¬s.isEmpty = true := by rwa [String.isEmpty_iff]
  unfold verificationKeyOf
  dsimp only
  rw [if_neg hsome]
  cases Hex.read? (Text.trim s) with
  | none => simp
  | some bytes =>
      dsimp only
      split
      · rename_i hlen
        rw [Except.ok.injEq, Option.some.injEq]
        exact ⟨fun h => ⟨h, h ▸ hlen⟩, And.left⟩
      · rename_i hlen
        rw [Option.some.injEq]
        exact ⟨nofun, fun ⟨h, hkey⟩ => absurd (h ▸ hkey) hlen⟩

/-- The texts that are taken for a key spell the digits of its bytes, all of them or all but a zero
that comes first. -/
theorem verificationKeyOf_eq_ok_iff {key : Bytes} (hs : s ≠ "") :
    verificationKeyOf (some s) = .ok key ↔ ∃ ds, Spells s ds ∧
      (ds.length = 64 ∧ Hex.encode key = ds.map lower ∨
        ds.length = 63 ∧ Hex.encode key = '0' :: ds.map lower) := by
  rw [verificationKeyOf_eq_ok_iff_read? hs, Hex.read?, Text.toList_trim, Hex.decode?_eq_some_iff]
  constructor
  · rintro ⟨hread, hkey⟩
    have hlen : (Hex.padEven (Hex.dropMark (Text.trimChars s.toList))).length = 64 := by
      rw [Hex.length_of_map_lower hread, hkey]
    have hdigits := Hex.isDigit_of_map_lower hread
    -- There are sixty-four digits after filling up, of which the first may be the one put there.
    unfold Hex.padEven at hread hlen hdigits
    split at hread
    · rename_i hodd
      rw [if_pos hodd] at hlen hdigits
      exact ⟨_, Hex.spells_iff.mpr ⟨rfl, fun c hc => hdigits c (List.mem_cons_of_mem _ hc)⟩,
        .inr ⟨Nat.succ.inj hlen, hread.symm⟩⟩
    · rename_i heven
      rw [if_neg heven] at hlen hdigits
      exact ⟨_, Hex.spells_iff.mpr ⟨rfl, hdigits⟩, .inl ⟨hlen, hread.symm⟩⟩
  · rintro ⟨ds, hspells, hds⟩
    have hpad : (Hex.padEven ds).map lower = Hex.encode key := by
      unfold Hex.padEven
      rcases hds with ⟨hlen, hkey⟩ | ⟨hlen, hkey⟩
      · rw [if_neg (by rw [hlen]; decide), hkey]
      · rw [if_pos (by rw [hlen]), hkey]
        rfl
    refine ⟨by rw [(Hex.spells_iff.mp hspells).1, hpad], ?_⟩
    have hkey := Hex.length_encode key
    rcases hds with ⟨hlen, hencode⟩ | ⟨hlen, hencode⟩
    · rw [hencode, List.length_map, hlen] at hkey
      omega
    · rw [hencode, List.length_cons, List.length_map, hlen] at hkey
      omega

/-- Every other text is reported as a fault of the configuration. -/
theorem title?_of_verificationKeyOf {v : Option String} {f : ConfigFault}
    (h : verificationKeyOf v = .error f) :
    (Failure.configuration f).title? = some "ConfigurationError" := by
  unfold verificationKeyOf at h
  split at h
  · cases h
  split at h
  · cases h
  split at h
  · cases h
    rfl
  split at h
  · cases h
  · cases h
    rfl

/-- What is expected of a text in the place of a verification key: it is taken exactly if it spells
sixty-four digits, for the bytes that are written with these digits, and refused as a fault of the
configuration if it does not spell as many. -/
structure ReadsKey (s : String) : Prop where
  taken : ∀ key, verificationKeyOf (some s) = .ok key ↔
    ∃ ds, Spells s ds ∧ ds.length = 64 ∧ Hex.encode key = ds.map lower
  refused : (¬∃ ds, Spells s ds ∧ ds.length = 64) → ∃ f, verificationKeyOf (some s) = .error f ∧
    (Failure.configuration f).title? = some "ConfigurationError"

/-- A digit that was lost is made up for by a zero in front of the others. -/
theorem exists_key_of_lostDigit {ds : List Char} (hs : s ≠ "") (hspells : Spells s ds)
    (hlen : ds.length = 63) :
    ∃ key, verificationKeyOf (some s) = .ok key ∧ Hex.encode key = '0' :: ds.map lower := by
  have hdigits : ∀ c ∈ '0' :: ds, Hex.isDigit c = true :=
    List.forall_mem_cons.mpr ⟨by decide, hspells.digits⟩
  obtain ⟨key, hkey⟩ := Hex.exists_decode? (by rw [List.length_cons, hlen]) hdigits
  have hencode : Hex.encode key = '0' :: ds.map lower :=
    (Hex.decode?_eq_some_iff.mp hkey).symm
  exact ⟨key, (verificationKeyOf_eq_ok_iff hs).mpr ⟨ds, hspells, .inr ⟨hlen, hencode⟩⟩, hencode⟩

/-- Such a text is taken though it does not spell sixty-four digits. -/
theorem not_readsKey_of_lostDigit {ds : List Char} (hs : s ≠ "") (hspells : Spells s ds)
    (hlen : ds.length = 63) : ¬ReadsKey s := by
  intro h
  obtain ⟨key, hkey, -⟩ := exists_key_of_lostDigit hs hspells hlen
  obtain ⟨ds', hspells', hlen', -⟩ := (h.taken key).mp hkey
  rw [hspells'.eq hspells, hlen] at hlen'
  cases hlen'

/-- Keys are read as they should be from every text that does not spell sixty-three digits, and from
no other: there a zero is put in front of the digits. -/
theorem readsKey_iff (hs : s ≠ "") :
    (ReadsKey s ↔ ∀ ds, Spells s ds → ds.length ≠ 63) ∧
      ∀ ds, Spells s ds → ds.length = 63 →
        ∃ key, verificationKeyOf (some s) = .ok key ∧ Hex.encode key = '0' :: ds.map lower := by
  refine ⟨⟨fun h ds hspells hlen => not_readsKey_of_lostDigit hs hspells hlen h, fun h => ?_⟩,
    fun ds => exists_key_of_lostDigit hs⟩
  have htaken : ∀ key, verificationKeyOf (some s) = .ok key ↔
      ∃ ds, Spells s ds ∧ ds.length = 64 ∧ Hex.encode key = ds.map lower := by
    intro key
    rw [verificationKeyOf_eq_ok_iff hs]
    refine exists_congr fun ds => and_congr_right fun hspells => or_iff_left ?_
    exact fun hshort => h ds hspells hshort.1
  refine ⟨htaken, fun hnone => ?_⟩
  cases hread : verificationKeyOf (some s) with
  | ok key =>
      obtain ⟨ds, hspells, hlen, -⟩ := (htaken key).mp hread
      exact absurd ⟨ds, hspells, hlen⟩ hnone
  | error f => exact ⟨f, rfl, title?_of_verificationKeyOf hread⟩

/-- Thirty-two times the byte 171, in digits of both cases, with blanks and a mark. -/
def keyText : String :=
  String.ofList ("\t0X".toList ++ (List.replicate 32 ['a', 'B']).flatten ++ " \n".toList)

theorem readsKey_keyText :
    keyText ≠ "" ∧ ReadsKey keyText ∧
      verificationKeyOf (some keyText) = .ok (List.replicate 32 171) := by
  have hs : keyText ≠ "" := by decide +kernel
  have hspells : Spells keyText (List.replicate 32 ['a', 'B']).flatten :=
    Hex.spells_iff.mpr ⟨by decide +kernel, List.all_eq_true.mp (by decide +kernel)⟩
  have hreads : ReadsKey keyText := by
    refine (readsKey_iff hs).1.mpr fun ds hds => ?_
    rw [hds.eq hspells]
    decide +kernel
  exact ⟨hs, hreads, (hreads.taken _).mpr ⟨_, hspells, by decide +kernel, by decide +kernel⟩⟩

/-- A key of ones that has lost a digit is read as a key that starts with a zero. -/
theorem verificationKeyOf_lostDigit :
    verificationKeyOf (some (String.ofList ('0' :: 'x' :: List.replicate 63 '1'))) =
      .ok (1 :: List.replicate 31 17) ∧
    ¬ReadsKey (String.ofList ('0' :: 'x' :: List.replicate 63 '1')) := by
  have hs : String.ofList ('0' :: 'x' :: List.replicate 63 '1') ≠ "" := by decide +kernel
  have hspells : Spells (String.ofList ('0' :: 'x' :: List.replicate 63 '1'))
      (List.replicate 63 '1') :=
    Hex.spells_iff.mpr ⟨by decide +kernel, List.all_eq_true.mp (by decide +kernel)⟩
  exact ⟨(verificationKeyOf_eq_ok_iff hs).mpr ⟨_, hspells, .inr (by decide +kernel)⟩,
    not_readsKey_of_lostDigit hs hspells (by decide +kernel)⟩

end Rollout.Settings
