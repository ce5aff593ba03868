import Rollout.Proofs.Files.Replace
import Rollout.Proofs.Json.Record
import Rollout.Proofs.Manifest.Written

/-!
# A manifest is read as it was written

A manifest is a record of eleven fields with different names. Where each field
is a text or nothing, its text is one that a file keeps, the file is at the path
it was written to, and its fields are found under their names.

## Main results

* `Manifest.ofValue?_toValue`: a manifest is found again in its value.
* `Manifest.read_of_write`: a manifest that was written is read, whatever was at
  the path before.
-/

namespace Rollout.Manifest

theorem toValue_eq_record (m : Manifest) : m.toValue = Json.record m.fields := rfl

theorem nodup_fieldNames : fieldNames.Nodup := by decide

theorem map_fst_fields (m : Manifest) : m.fields.map Prod.fst = fieldNames := rfl

/-- A manifest is found again in its value. -/
theorem ofValue?_toValue (m : Manifest) : ofValue? m.toValue = some m := by
  rfl

/-- A manifest that has a text has one for each of its fields. -/
theorem exists_writeAt_of_text {m : Manifest} {text : List Char} (h : m.text = .ok text) :
    ∀ f ∈ m.fields, ∃ part, Json.writeAt 1 f.2 = .ok part := by
  obtain ⟨cs, hwrite, _⟩ := Outcome.map_eq_ok.mp h
  obtain ⟨parts, hparts, _⟩ := Outcome.map_eq_ok.mp hwrite
  exact Json.exists_writeAt_of_writeEntries hparts

/-- A manifest of texts and empty fields has a text, and the text is read as its value. -/
theorem exists_text {m : Manifest} (hplain : ∀ f ∈ m.fields, Json.isPlain f.2 = true) :
    ∃ text, m.text = .ok text ∧ (∀ c ∈ text, Text.IsPortable c) ∧
      Json.read text = .ok m.toValue := by
  have hsome : m.fields ≠ [] := by simp [fields, fieldNames, values]
  have hnames : (m.fields.map Prod.fst).Nodup := by
    rw [map_fst_fields]
    exact nodup_fieldNames
  obtain ⟨cs, hwrite, hkept, hread⟩ := Json.read_write hsome hplain hnames
  refine ⟨cs ++ ['\n'], ?_, hkept, hread⟩
  rw [Manifest.text, toValue_eq_record, hwrite]
  rfl

/-- Reading leaves the world as it is and gives what the file at the path says. -/
theorem read_of_file {m : Manifest} {path : Path} {w : World} {cs : List Char}
    (hread : w.files.read path = .ok (Text.encode cs)) (hkept : ∀ c ∈ cs, Text.IsPortable c)
    (hvalue : Json.read cs = .ok m.toValue) : (read path).perform w = (.ok m, w) := by
  have htext : (Action.readText path).perform w = (.ok cs, w) := by
    unfold Action.readText
    rw [Action.perform_get_bind, hread]
    dsimp only
    rw [Text.ofFile?_encode hkept]
    rfl
  have hjson : (Action.readJson path).perform w = (.ok m.toValue, w) := by
    unfold Action.readJson
    rw [Action.perform_bind, htext]
    dsimp only
    rw [hvalue]
    rfl
  unfold read
  rw [Action.perform_bind, hjson]
  dsimp only
  rw [ofValue?_toValue]
  rfl

/-- **A manifest is read back.** A manifest of texts and empty fields that was written to a path is
what is read from there. -/
theorem read_of_write {m : Manifest} {path : Path} {w w' : World}
    (hplain : ∀ f ∈ m.fields, Json.isPlain f.2 = true)
    (h : (m.write path).perform w = (.ok (), w')) : (read path).perform w' = (.ok m, w') := by
  obtain ⟨text, htext, hreplace⟩ := write_eq_ok h
  obtain ⟨text', htext', hkept, hread⟩ := exists_text hplain
  obtain rfl : text' = text := Except.ok.inj (htext'.symm.trans htext)
  exact read_of_file (Store.read_of_replace hreplace) hkept hread

end Rollout.Manifest
