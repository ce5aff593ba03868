import Rollout.Proofs.Files.Destination
import Rollout.Proofs.Manifest.ReadBack
import Rollout.Proofs.Standard

/-!
# The text of a manifest

The text of a manifest has one line for each field, in the order of the fields,
between two braces. It depends on nothing but the manifest: what was at the path
before leaves no trace in it. From the text the manifest is found again, so two
manifests never have the same text.

All of this is about manifests whose fields are texts or nothing, whatever
characters are in the texts.

## Main results

* `Manifest.text_eq_layout`: the text, line by line.
* `Manifest.write_round_trip`: what was written is in the file, is read back, and
  says which manifest it was.
-/

namespace Rollout.Manifest

/-- All fields are texts or nothing. -/
def IsPlain (m : Manifest) : Prop := ∀ f ∈ m.fields, Json.isPlain f.2 = true

instance (m : Manifest) : Decidable m.IsPlain :=
  inferInstanceAs (Decidable (∀ f ∈ m.fields, Json.isPlain f.2 = true))

/-! ## Lines -/

/-- A field on its line, two blanks further in than the braces. -/
def line (f : Json.Field) : List Char := ' ' :: ' ' :: f.spell

/-- A brace, a line for each field with commas between them, and a brace. -/
def layout (m : Manifest) : List Char :=
  '\x7b' :: '\n' :: ([',', '\n'].intercalate (m.fields.map line) ++ ['\n', '\x7d', '\n'])

/-- The fields of a record and its closing brace, by lines. -/
theorem lineAt_append_spellFields (f : Json.Field) (fields : List Json.Field)
    (rest : List Char) :
    Json.lineAt 1 ++ Json.spellFields (f :: fields) rest =
      '\n' :: ([',', '\n'].intercalate ((f :: fields).map line) ++ '\n' :: '\x7d' :: rest) := by
  have hfirst : ∀ cs, Json.lineAt 1 ++ (f.spell ++ cs) = '\n' :: (line f ++ cs) := fun _ => rfl
  induction fields generalizing f with
  | nil =>
      have hspell : Json.spellFields [f] rest = f.spell ++ '\n' :: '\x7d' :: rest := by
        simp [Json.spellFields, Json.lineAt]
      have hjoin : [',', '\n'].intercalate ([f].map line) = line f := by
        simp [List.intercalate]
      rw [hspell, hjoin]
      rfl
  | cons g fields ih =>
      have hjoin : [',', '\n'].intercalate ((f :: g :: fields).map line) =
          line f ++ ',' :: '\n' :: [',', '\n'].intercalate ((g :: fields).map line) := by
        simp [List.intercalate]
      rw [Json.spellFields_cons_cons, hfirst, ih g fun _ => rfl, hjoin, List.append_assoc]
      rfl

/-- The text of a manifest, line by line. -/
theorem text_eq_layout {m : Manifest} (hplain : m.IsPlain) : m.text = .ok m.layout := by
  obtain ⟨f, fields, hfields⟩ : ∃ f fields, m.fields = f :: fields := ⟨_, _, rfl⟩
  unfold IsPlain at hplain
  rw [hfields] at hplain
  rw [text, toValue_eq_record, layout, hfields, Json.write_record hplain,
    lineAt_append_spellFields, Except.map]
  simp only [List.cons_append, List.append_assoc, List.nil_append]

/-- The text of a manifest is read as its value. -/
theorem read_layout {m : Manifest} (hplain : m.IsPlain) : Json.read m.layout = .ok m.toValue := by
  obtain ⟨text, htext, -, hread⟩ := exists_text hplain
  rw [text_eq_layout hplain] at htext
  rw [Except.ok.inj htext, hread]

/-- Different manifests have different texts. -/
theorem layout_injective {m m' : Manifest} (hplain : m.IsPlain) (hplain' : m'.IsPlain)
    (h : m.layout = m'.layout) : m = m' := by
  have hvalue : (Except.ok m.toValue : Except Json.Error Value) = .ok m'.toValue := by
    rw [← read_layout hplain, ← read_layout hplain', h]
  have hsome : some m = some m' := by
    rw [← ofValue?_toValue m, ← ofValue?_toValue m', Except.ok.inj hvalue]
  exact Option.some.inj hsome

/-! ## The round trip -/

/-- **The round trip of a manifest.** A manifest of texts and empty fields has one text, which lists
all fields in their order. Wherever it is written and whatever was there before, the file then holds
this text and is read as the manifest. And no other such manifest has the same text. -/
theorem write_round_trip {m : Manifest} (hplain : m.IsPlain) :
    m.text = .ok m.layout ∧
    (∀ path w w', (m.write path).perform w = (.ok (), w') →
      w'.files.read path = .ok (Text.encode m.layout) ∧
      (read path).perform w' = (.ok m, w')) ∧
    ∀ m' : Manifest, m'.IsPlain → m'.text = m.text → m' = m := by
  refine ⟨text_eq_layout hplain, fun path w w' hwrite => ?_, fun m' hplain' hsame => ?_⟩
  · obtain ⟨text, htext, hreplace⟩ := write_eq_ok hwrite
    rw [text_eq_layout hplain] at htext
    cases htext
    exact ⟨Store.read_of_replace hreplace, read_of_write hplain hwrite⟩
  · rw [text_eq_layout hplain, text_eq_layout hplain'] at hsame
    exact layout_injective hplain' hplain (Except.ok.inj hsame)

/-- A manifest with all that has to be escaped: quotation marks, backslashes, control characters and
characters beyond the first 65536. -/
def intricate : Manifest :=
  { network := .text "\"main\"\\net\r\n"
    core := .text "\x00\x08\x0c\x1f\x7f"
    coreImplementation := .text "😀𝄞"
    spokePool := .text "\ud7ff\ue000\uffff"
    aggregationRouter := .text ""
    usdt := .text "\x7b\"untron\": null\x7d"
    sp1Verifier := .text "\\u0041"
    admin := .null
    unlimitedCreator := .text "null"
    registrar := .null
    deployer := .text "\t/" }

/-- This manifest makes the round trip where a longer file was before. -/
theorem intricate_round_trip :
    intricate.IsPlain ∧ intricate.text = .ok intricate.layout ∧
    ∃ w', (intricate.write .standard).perform
        { World.fresh with files := World.fresh.files.install .standard (.file [0x7b, 0x22]) } =
          (.ok (), w') ∧
      w'.files.read .standard = .ok (Text.encode intricate.layout) ∧
      (read .standard).perform w' = (.ok intricate, w') := by
  have hplain : intricate.IsPlain := by decide
  obtain ⟨htext, hwritten, -⟩ := write_round_trip hplain
  obtain ⟨⟨⟩, w', hwrite⟩ := Action.exists_perform_eq_ok (a := intricate.write .standard)
    (w := { World.fresh with files := World.fresh.files.install .standard (.file [0x7b, 0x22]) })
    (by decide +kernel)
  exact ⟨hplain, htext, w', hwrite, hwritten _ _ _ hwrite⟩

end Rollout.Manifest
