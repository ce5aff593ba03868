import Rollout.Proofs.Json.Text
import Rollout.Proofs.Outcome
import Rollout.Proofs.Text.Portable

/-!
# Records in JSON are read as they were written

A record is a mapping from different names to values that are texts or nothing.
It is written with one line for each field; the reader takes a field and the
comma behind it in one step, and at the end it puts the fields together again.
As no name comes twice, nothing is lost.

## Main results

* `Json.readEntries_spell`: one step of the reader takes one field.
* `Json.read_write`: a record has a text, a file keeps the text, and reading the
  text gives the record.
-/

namespace Rollout.Json

open Text (IsPortable)

/-! ## Plain values -/

/-- Whether a value is a text or nothing. -/
def isPlain : Value → Bool
  | .null => true
  | .text _ => true
  | _ => false

/-- The spelling of such a value. -/
def spell : Value → List Char
  | .text s => quote s
  | _ => "null".toList

theorem writeAt_of_isPlain {v : Value} (h : isPlain v = true) (level : Nat) :
    writeAt level v = .ok (spell v) := by
  cases v with
  | null => rfl
  | text s => rfl
  | _ => cases h

/-- A text behind its opening quotation mark. -/
theorem quote_append (s : String) (rest : List Char) :
    quote s ++ rest = '"' :: (s.toList.flatMap escapeChar ++ '"' :: rest) := by
  rw [quote, List.cons_append, List.append_assoc, List.singleton_append]

theorem readValue_spell {v : Value} (h : isPlain v = true) (fuel depth : Nat)
    (rest : List Char) : readValue (fuel + 1) depth (spell v ++ rest) = .ok (v, rest) := by
  cases v with
  | null => rfl
  | text s =>
      rw [spell, quote_append, readValue, readText_quote]
      show Except.ok (Value.text (String.ofList s.toList), rest) = _
      rw [String.ofList_toList]
  | _ => cases h

theorem skipBlanks_spell (v : Value) (rest : List Char) :
    skipBlanks (spell v ++ rest) = spell v ++ rest := by
  cases v <;> rfl

theorem skipBlanks_lineAt (level : Nat) (rest : List Char) :
    skipBlanks (lineAt level ++ rest) = skipBlanks rest := by
  refine List.dropWhile_append_of_pos fun c hc => ?_
  rcases List.mem_cons.mp hc with rfl | hc
  · rfl
  · rw [List.eq_of_mem_replicate hc]
    rfl

/-! ## Fields -/

/-- A name and a value. -/
abbrev Field := String × Value

/-- A field as an entry of a mapping. -/
def Field.entry (f : Field) : Value × Value := (.text f.1, f.2)

/-- The spelling of a field. -/
def Field.spell (f : Field) : List Char := quote f.1 ++ ':' :: ' ' :: Json.spell f.2

theorem writeEntries_of_isPlain {fields : List Field} (h : ∀ f ∈ fields, isPlain f.2 = true)
    (level : Nat) :
    writeEntries level (fields.map Field.entry) = .ok (fields.map Field.spell) := by
  induction fields with
  | nil => rfl
  | cons f fields ih =>
      obtain ⟨hf, hfields⟩ := List.forall_mem_cons.mp h
      rw [List.map_cons, Field.entry, writeEntries, writeAt_of_isPlain hf, ih hfields]
      rfl

/-- A mapping that has a text has one for each of its values. -/
theorem exists_writeAt_of_writeEntries {level : Nat} {fields : List Field}
    {parts : List (List Char)} (h : writeEntries level (fields.map Field.entry) = .ok parts) :
    ∀ f ∈ fields, ∃ part, writeAt level f.2 = .ok part := by
  induction fields generalizing parts with
  | nil => simp
  | cons f fields ih =>
      rw [List.map_cons, Field.entry, writeEntries] at h
      obtain ⟨_, _, h⟩ := Outcome.bind_eq_ok.mp h
      obtain ⟨part, hpart, h⟩ := Outcome.bind_eq_ok.mp h
      obtain ⟨parts, hparts, _⟩ := Outcome.bind_eq_ok.mp h
      intro g hg
      rcases List.mem_cons.mp hg with rfl | hg
      · exact ⟨part, hpart⟩
      · exact ih hparts g hg

/-- The reader takes a field in one step and then looks at what stands behind it. -/
theorem readEntries_spell {f : Field} (h : isPlain f.2 = true) (fuel depth : Nat)
    (rest : List Char) :
    readEntries (fuel + 2) depth (f.spell ++ rest) =
      match skipBlanks rest with
      | '\x7d' :: rest => .ok ([f.entry], rest)
      | ',' :: rest => do
          let (entries, rest) ← readEntries (fuel + 1) depth (skipBlanks rest)
          return (f.entry :: entries, rest)
      | _ => .error .malformed := by
  have hspell : f.spell ++ rest =
      '"' :: (f.1.toList.flatMap escapeChar ++ '"' :: ':' :: ' ' :: (spell f.2 ++ rest)) := by
    rw [Field.spell, List.append_assoc, quote_append]
    rfl
  have hblank : skipBlanks (' ' :: (spell f.2 ++ rest)) = spell f.2 ++ rest :=
    skipBlanks_spell f.2 rest
  have hcolon : skipBlanks (':' :: ' ' :: (spell f.2 ++ rest)) =
      ':' :: ' ' :: (spell f.2 ++ rest) := rfl
  rw [hspell, readEntries, readText_quote]
  simp only [bind, Except.bind, hcolon, hblank, readValue_spell h, String.ofList_toList]
  rfl

/-- Fields on lines of their own, and what closes the record. -/
def spellFields (fields : List Field) (rest : List Char) : List Char :=
  (List.intersperse (',' :: lineAt 1) (fields.map Field.spell)).flatten ++
    (lineAt 0 ++ '\x7d' :: rest)

theorem spellFields_cons_cons (f g : Field) (fields : List Field) (rest : List Char) :
    spellFields (f :: g :: fields) rest =
      f.spell ++ ',' :: (lineAt 1 ++ spellFields (g :: fields) rest) := by
  simp [spellFields, List.intersperse_cons_cons]

/-- A field starts with a quotation mark, so no blanks are skipped in front of it. -/
theorem skipBlanks_spellFields (f : Field) (fields : List Field) (rest : List Char) :
    skipBlanks (spellFields (f :: fields) rest) = spellFields (f :: fields) rest := by
  cases fields with
  | nil => rfl
  | cons g fields =>
      rw [spellFields_cons_cons]
      rfl

/-- The reader takes all fields of a record and its closing brace. -/
theorem readEntries_spellFields (f : Field) (fields : List Field) (fuel depth : Nat)
    (h : ∀ g ∈ f :: fields, isPlain g.2 = true) (rest : List Char) :
    readEntries (fuel + 2 + fields.length) depth (spellFields (f :: fields) rest) =
      .ok ((f :: fields).map Field.entry, rest) := by
  induction fields generalizing f with
  | nil =>
      have hspell : spellFields [f] rest = f.spell ++ (lineAt 0 ++ '\x7d' :: rest) := by
        simp [spellFields]
      rw [hspell, List.length_nil, Nat.add_zero, readEntries_spell (h f List.mem_cons_self),
        skipBlanks_lineAt]
      rfl
  | cons g fields ih =>
      have hfuel : fuel + 2 + (g :: fields).length = fuel + 1 + fields.length + 2 := by
        rw [List.length_cons]
        omega
      have hfields : readEntries (fuel + 1 + fields.length + 1) depth
          (spellFields (g :: fields) rest) = .ok ((g :: fields).map Field.entry, rest) := by
        have hsame : fuel + 1 + fields.length + 1 = fuel + 2 + fields.length := by omega
        rw [hsame]
        exact ih g fun f' hf' => h f' (List.mem_cons_of_mem f hf')
      have hcomma : skipBlanks (',' :: (lineAt 1 ++ spellFields (g :: fields) rest)) =
          ',' :: (lineAt 1 ++ spellFields (g :: fields) rest) := rfl
      rw [hfuel, spellFields_cons_cons, readEntries_spell (h f List.mem_cons_self), hcomma]
      show (do
        let (entries, rest) ← readEntries (fuel + 1 + fields.length + 1) depth
          (skipBlanks (lineAt 1 ++ spellFields (g :: fields) rest))
        return (f.entry :: entries, rest)) = _
      rw [skipBlanks_lineAt, skipBlanks_spellFields, hfields]
      rfl

/-! ## Names -/

/-- A new name goes to the end of a mapping. -/
theorem put_of_forall_ne {entries : List (Value × Value)} {key : String} {v : Value}
    (h : ∀ e ∈ entries, Value.sameKey e.1 (.text key) = false) :
    Value.put entries (.text key) v = entries ++ [(.text key, v)] := by
  induction entries with
  | nil => rfl
  | cons e entries ih =>
      obtain ⟨he, hentries⟩ := List.forall_mem_cons.mp h
      rw [Value.put, he, ih hentries]
      rfl

/-- Fields of different names are put together as they are. -/
theorem putAll_entries {fields : List Field} (h : (fields.map Prod.fst).Nodup) :
    Value.putAll (fields.map Field.entry) = fields.map Field.entry := by
  have hput : ∀ (fields done : List Field), ((done ++ fields).map Prod.fst).Nodup →
      (fields.map Field.entry).foldl (fun m e => Value.put m e.1 e.2) (done.map Field.entry) =
        (done ++ fields).map Field.entry := by
    intro fields
    induction fields with
    | nil => simp
    | cons f fields ih =>
        intro done hnodup
        have hnew : ∀ e ∈ done.map Field.entry, Value.sameKey e.1 (.text f.1) = false := by
          intro e he
          obtain ⟨g, hg, rfl⟩ := List.mem_map.mp he
          rw [List.map_append, List.map_cons] at hnodup
          have hne := (List.nodup_append.mp hnodup).2.2 g.1 (List.mem_map_of_mem hg) f.1
            List.mem_cons_self
          exact beq_false_of_ne hne
        have hstep : Value.put (done.map Field.entry) (.text f.1) f.2 =
            (done ++ [f]).map Field.entry := by
          rw [put_of_forall_ne hnew, List.map_append]
          rfl
        have hrest := ih (done ++ [f]) (by rwa [List.append_assoc, List.singleton_append])
        rw [List.map_cons, List.foldl_cons]
        show (fields.map Field.entry).foldl _ (Value.put _ (.text f.1) f.2) = _
        rw [hstep, hrest, List.append_assoc, List.singleton_append]
  exact hput fields [] h

/-! ## Records -/

/-- A record as a value. -/
def record (fields : List Field) : Value := .mapping (fields.map Field.entry)

/-- The text of a record. -/
theorem write_record {f : Field} {fields : List Field}
    (h : ∀ g ∈ f :: fields, isPlain g.2 = true) :
    write (record (f :: fields)) = .ok ('\x7b' :: (lineAt 1 ++ spellFields (f :: fields) [])) := by
  have hlevel : 0 < maxDepth := by decide
  rw [write, record, writeAt, writeEntries_of_isPlain h, within, if_pos hlevel]
  simp [enclose, spellFields, Except.map]

/-- The reader takes a record off the front. -/
theorem readValue_record {f : Field} {fields : List Field}
    (h : ∀ g ∈ f :: fields, isPlain g.2 = true) (hnames : ((f :: fields).map Prod.fst).Nodup)
    (fuel depth : Nat) (rest : List Char) :
    readValue (fuel + 2 + fields.length + 1) (depth + 1)
        ('\x7b' :: (lineAt 1 ++ spellFields (f :: fields) rest)) =
      .ok (record (f :: fields), rest) := by
  have hquote : ∃ cs, spellFields (f :: fields) rest = '"' :: cs := by
    cases fields with
    | nil => exact ⟨_, rfl⟩
    | cons g fields =>
        rw [spellFields_cons_cons]
        exact ⟨_, rfl⟩
  have hentries := readEntries_spellFields f fields fuel depth h rest
  rw [readValue, skipBlanks_lineAt, skipBlanks_spellFields]
  obtain ⟨cs, hcs⟩ := hquote
  rw [hcs] at hentries ⊢
  show (do
    let (entries, rest) ← readEntries (fuel + 2 + fields.length) depth ('"' :: cs)
    return (Value.mapping (Value.putAll entries), rest)) = _
  rw [hentries]
  show Except.ok (Value.mapping (Value.putAll ((f :: fields).map Field.entry)), rest) = _
  rw [putAll_entries hnames, record]

/-- The spelling of fields is at least as long as there are fields. -/
theorem length_le_length_spellFields (f : Field) (fields : List Field) (rest : List Char) :
    fields.length ≤ (spellFields (f :: fields) rest).length := by
  induction fields generalizing f with
  | nil => exact Nat.zero_le _
  | cons g fields ih =>
      have hrest := ih g
      rw [spellFields_cons_cons]
      simp only [List.length_append, List.length_cons]
      omega

/-- A record of different names is read as it was written, with a line end behind it. -/
theorem read_record {f : Field} {fields : List Field}
    (h : ∀ g ∈ f :: fields, isPlain g.2 = true) (hnames : ((f :: fields).map Prod.fst).Nodup) :
    read ('\x7b' :: (lineAt 1 ++ spellFields (f :: fields) ['\n'])) =
      .ok (record (f :: fields)) := by
  have hlen := length_le_length_spellFields f fields ['\n']
  obtain ⟨fuel, hfuel⟩ : ∃ fuel, 2 * ('\x7b' :: (lineAt 1 ++
      spellFields (f :: fields) ['\n'])).length + 2 = fuel + 2 + fields.length + 1 := by
    refine ⟨2 * ('\x7b' :: (lineAt 1 ++
      spellFields (f :: fields) ['\n'])).length + 2 - (fields.length + 3), ?_⟩
    simp only [List.length_append, List.length_cons]
    omega
  have hbrace : skipBlanks ('\x7b' :: (lineAt 1 ++ spellFields (f :: fields) ['\n'])) =
      '\x7b' :: (lineAt 1 ++ spellFields (f :: fields) ['\n']) := rfl
  have hvalue := readValue_record h hnames fuel 985 ['\n']
  rw [read, hfuel, hbrace]
  show (readValue (fuel + 2 + fields.length + 1) (985 + 1) _ >>= _) = _
  rw [hvalue]
  rfl

/-! ## What is written -/

theorem isPortable_digit (n : Nat) : IsPortable (Hex.digit (n % 16)) := by
  have hall : ∀ k : Fin 16, IsPortable (Hex.digit k.val) := by decide +kernel
  exact hall ⟨n % 16, Nat.mod_lt n (by omega)⟩

theorem isPortable_of_mem_unitEscape {n : Nat} {c : Char} (h : c ∈ unitEscape n) :
    IsPortable c := by
  rw [unitEscape, Hex.ofNat_four] at h
  simp only [List.mem_cons, List.not_mem_nil, or_false] at h
  rcases h with rfl | rfl | rfl | rfl | rfl | rfl
  · decide
  · decide
  all_goals exact isPortable_digit _

theorem isPortable_of_mem_escapeChar {c e : Char} (h : e ∈ escapeChar c) : IsPortable e := by
  unfold escapeChar at h
  iterate 7
    split at h
    · simp only [List.mem_cons, List.not_mem_nil, or_false] at h
      rcases h with rfl | rfl <;> decide
  dsimp only at h
  split at h
  · rename_i hplain
    rw [List.mem_singleton.mp h]
    refine ⟨by omega, ?_⟩
    rintro rfl
    exact absurd hplain.1 (by decide)
  split at h
  · exact isPortable_of_mem_unitEscape h
  · rcases List.mem_append.mp h with h | h
    · exact isPortable_of_mem_unitEscape h
    · exact isPortable_of_mem_unitEscape h

theorem isPortable_of_mem_quote {s : String} {c : Char} (h : c ∈ quote s) : IsPortable c := by
  rcases List.mem_cons.mp h with rfl | h
  · decide
  rcases List.mem_append.mp h with h | h
  · obtain ⟨_, _, h⟩ := List.mem_flatMap.mp h
    exact isPortable_of_mem_escapeChar h
  · rw [List.mem_singleton.mp h]
    decide

theorem isPortable_of_mem_spell {v : Value} {c : Char} (h : c ∈ spell v) : IsPortable c := by
  have hword : "null".toList = ['n', 'u', 'l', 'l'] := rfl
  have hnull : c ∈ "null".toList → IsPortable c := by
    intro h
    simp only [hword, List.mem_cons, List.not_mem_nil, or_false] at h
    rcases h with rfl | rfl | rfl | rfl <;> decide
  cases v with
  | text s => exact isPortable_of_mem_quote h
  | _ => exact hnull h

theorem isPortable_of_mem_lineAt {level : Nat} {c : Char} (h : c ∈ lineAt level) :
    IsPortable c := by
  rcases List.mem_cons.mp h with rfl | h
  · decide
  · rw [List.eq_of_mem_replicate h]
    decide

theorem Field.isPortable_of_mem_spell {f : Field} {c : Char} (h : c ∈ f.spell) :
    IsPortable c := by
  rcases List.mem_append.mp h with h | h
  · exact isPortable_of_mem_quote h
  rcases List.mem_cons.mp h with rfl | h
  · decide
  rcases List.mem_cons.mp h with rfl | h
  · decide
  · exact Json.isPortable_of_mem_spell h

theorem isPortable_of_mem_spellFields {f : Field} {fields : List Field} {rest : List Char}
    (hrest : ∀ c ∈ rest, IsPortable c) {c : Char} (h : c ∈ spellFields (f :: fields) rest) :
    IsPortable c := by
  induction fields generalizing f with
  | nil =>
      simp only [spellFields, List.map_cons, List.map_nil, List.intersperse_singleton,
        List.flatten_cons, List.flatten_nil, List.append_nil] at h
      rcases List.mem_append.mp h with h | h
      · exact Field.isPortable_of_mem_spell h
      rcases List.mem_append.mp h with h | h
      · exact isPortable_of_mem_lineAt h
      rcases List.mem_cons.mp h with rfl | h
      · decide
      · exact hrest c h
  | cons g fields ih =>
      rw [spellFields_cons_cons] at h
      rcases List.mem_append.mp h with h | h
      · exact Field.isPortable_of_mem_spell h
      rcases List.mem_cons.mp h with rfl | h
      · decide
      rcases List.mem_append.mp h with h | h
      · exact isPortable_of_mem_lineAt h
      · exact ih h

theorem spellFields_append (fields : List Field) (rest : List Char) :
    spellFields fields [] ++ rest = spellFields fields rest := by
  simp [spellFields]

/-- **Records survive.** A record of different names and plain values has a text. With a line end
behind it, the text has only characters that a file keeps, and it is read as the record. -/
theorem read_write {fields : List Field} (hsome : fields ≠ [])
    (hplain : ∀ f ∈ fields, isPlain f.2 = true) (hnames : (fields.map Prod.fst).Nodup) :
    ∃ cs, write (record fields) = .ok cs ∧ (∀ c ∈ cs ++ ['\n'], IsPortable c) ∧
      read (cs ++ ['\n']) = .ok (record fields) := by
  cases fields with
  | nil => exact absurd rfl hsome
  | cons f fields =>
      have hjoin : '\x7b' :: (lineAt 1 ++ spellFields (f :: fields) []) ++ ['\n'] =
          '\x7b' :: (lineAt 1 ++ spellFields (f :: fields) ['\n']) := by
        rw [List.cons_append, List.append_assoc, spellFields_append]
      refine ⟨_, write_record hplain, ?_, ?_⟩
      · rw [hjoin]
        intro c hc
        rcases List.mem_cons.mp hc with rfl | hc
        · decide
        rcases List.mem_append.mp hc with hc | hc
        · exact isPortable_of_mem_lineAt hc
        · exact isPortable_of_mem_spellFields (List.forall_mem_singleton.mpr (by decide)) hc
      · rw [hjoin]
        exact read_record hplain hnames

end Rollout.Json
