import Rollout.Proofs.Files.Destination
import Rollout.Proofs.Files.Directories

/-!
# Drafts of a file

A file is put in place in one step because its content is written somewhere else
before. The draft is a file beside the place of the file, under a name with a
mark that no other file has. It can be filled, moved to the path of the file, or
taken away again, and after either of the last two nothing is left of it.

Whether a draft finds a place does not depend on its mark: all marks are equally
long and hold no character that a name cannot hold.

## Main results

* `Store.draftPlaceWith_isOk`: a draft finds a place with one mark exactly if it
  does with another.
* `Store.remove_set`, `Store.move_set`: what is left of a draft that was taken
  away or moved.
* `Store.ne_of_draftPlaceWith`: a draft is not where its file is to be.
-/

namespace Rollout

/-! ## Marks -/

namespace Draft

/-- The characters of a mark. -/
def alphabet : List Char := "abcdefghijklmnopqrstuvwxyz0123456789_".toList

/-- What tells the draft of a file from other files: eight letters, digits or underscores. -/
structure Mark where
  chars : List Char
  length_eq : chars.length = 8
  mem_alphabet : ∀ c ∈ chars, c ∈ alphabet

/-- The mark of eight underscores. -/
def Mark.blank : Mark :=
  ⟨List.replicate 8 '_', rfl, fun _ hc => List.eq_of_mem_replicate hc ▸ by decide⟩

/-- The name of a draft of the file at a path. -/
def name (p : Path) (mark : Mark) : String :=
  "." ++ p.name ++ "." ++ String.ofList mark.chars ++ ".tmp"

theorem utf8Size_of_mem_alphabet : ∀ c ∈ alphabet, c.utf8Size = 1 := by
  have hall : alphabet.all (·.utf8Size == 1) = true := by decide
  exact fun c hc => eq_of_beq (List.all_eq_true.mp hall c hc)

theorem ne_nul_of_mem_alphabet : ∀ c ∈ alphabet, c ≠ '\x00' := by
  have hall : alphabet.all (· != '\x00') = true := by decide
  exact fun c hc => bne_iff_ne.mp (List.all_eq_true.mp hall c hc)

/-- The length of a text in bytes, if each of its characters takes one. -/
theorem utf8ByteSize_ofList {cs : List Char} (h : ∀ c ∈ cs, c.utf8Size = 1) :
    (String.ofList cs).utf8ByteSize = cs.length := by
  induction cs with
  | nil => rfl
  | cons c cs ih =>
      obtain ⟨hc, hcs⟩ := List.forall_mem_cons.mp h
      have hsplit : String.ofList (c :: cs) = String.singleton c ++ String.ofList cs := by
        rw [String.singleton_eq_ofList, ← String.ofList_append, List.singleton_append]
      rw [hsplit, String.utf8ByteSize_append, String.utf8ByteSize_singleton, hc, ih hcs,
        List.length_cons, Nat.add_comm]

/-- The name of a draft has fourteen characters more than the name of its file. -/
theorem utf8ByteSize_name (p : Path) (mark : Mark) :
    (name p mark).utf8ByteSize = p.name.utf8ByteSize + 14 := by
  have hmark : (String.ofList mark.chars).utf8ByteSize = 8 := by
    rw [utf8ByteSize_ofList fun c hc => utf8Size_of_mem_alphabet c (mark.mem_alphabet c hc),
      mark.length_eq]
  have hdot : ".".utf8ByteSize = 1 := rfl
  have htmp : ".tmp".utf8ByteSize = 4 := rfl
  simp only [name, String.utf8ByteSize_append, hmark, hdot, htmp]
  omega

theorem hasNul_append (s t : String) :
    Store.hasNul (s ++ t) = (Store.hasNul s || Store.hasNul t) := by
  simp [Store.hasNul]

/-- A mark has no character that a name cannot have. -/
theorem hasNul_name (p : Path) (mark : Mark) :
    Store.hasNul (name p mark) = Store.hasNul p.name := by
  have hmark : Store.hasNul (String.ofList mark.chars) = false := by
    rw [Store.hasNul, String.toList_ofList, Bool.eq_false_iff]
    intro h
    have hmem := List.contains_iff_mem.mp h
    exact ne_nul_of_mem_alphabet _ (mark.mem_alphabet _ hmem) rfl
  have hdot : Store.hasNul "." = false := by decide
  have htmp : Store.hasNul ".tmp" = false := by decide
  simp only [name, hasNul_append, hmark, hdot, htmp, Bool.false_or, Bool.or_false]

end Draft

namespace Store

variable {s : Store} {p : Path} {place : Place} {mark : Draft.Mark}

/-! ## The place of a draft -/

/-- The place of a draft of the file at a path: in the same directory, and named after the file with
a mark. -/
def draftPlaceWith (s : Store) (mark : Draft.Mark) (p : Path) : Except FileError Place := do
  let directory ← s.locate p.parent
  let draft := Draft.name p mark
  let place := directory ++ [draft]
  if hasNul draft then .error .holdsNul
  else if nameLimit < draft.utf8ByteSize then .error .nameTooLong
  else if pathLimit < (Path.mk .root place).text.utf8ByteSize then .error .nameTooLong
  else .ok place

theorem draftPlace_eq (s : Store) (p : Path) : s.draftPlace p = s.draftPlaceWith .blank p := rfl

/-- The length of a path is known from the directory and the length of the last name. -/
theorem utf8ByteSize_text_snoc (directory : Place) {name name' : String}
    (h : name.utf8ByteSize = name'.utf8ByteSize) :
    (Path.mk .root (directory ++ [name])).text.utf8ByteSize =
      (Path.mk .root (directory ++ [name'])).text.utf8ByteSize := by
  have hroot : ∀ names, (Path.mk .root names).text = "/" ++ "/".intercalate names := fun _ => rfl
  rw [hroot, hroot, String.utf8ByteSize_append, String.utf8ByteSize_append]
  cases directory with
  | nil => simp [h]
  | cons first directory =>
      rw [String.intercalate_append_of_ne_nil (List.cons_ne_nil _ _) (List.cons_ne_nil _ _),
        String.intercalate_append_of_ne_nil (List.cons_ne_nil _ _) (List.cons_ne_nil _ _)]
      simp [String.utf8ByteSize_append, h]

/-- A draft finds a place with one mark exactly if it does with another, and else there is the same
reason. -/
theorem draftPlaceWith_isOk (s : Store) (p : Path) (mark mark' : Draft.Mark) :
    (s.draftPlaceWith mark p).map (fun _ => ()) =
      (s.draftPlaceWith mark' p).map fun _ => () := by
  have hsize : (Draft.name p mark).utf8ByteSize = (Draft.name p mark').utf8ByteSize := by
    rw [Draft.utf8ByteSize_name, Draft.utf8ByteSize_name]
  unfold draftPlaceWith
  cases s.locate p.parent with
  | error e => rfl
  | ok directory =>
      dsimp only [bind, Except.bind]
      rw [Draft.hasNul_name, Draft.hasNul_name, hsize, utf8ByteSize_text_snoc directory hsize]
      split
      · rfl
      split
      · rfl
      split <;> rfl

theorem draftPlaceWith_eq_ok (h : s.draftPlaceWith mark p = .ok place) :
    ∃ directory, s.locate p.parent = .ok directory ∧
      place = directory ++ [Draft.name p mark] := by
  obtain ⟨directory, hdirectory, h⟩ := Outcome.bind_eq_ok.mp h
  refine ⟨directory, hdirectory, ?_⟩
  dsimp only at h
  split at h
  · cases h
  split at h
  · cases h
  split at h
  · cases h
  · exact (Except.ok.inj h).symm

/-- To follow one more name is to enter it from where the names before it led. -/
theorem follow_snoc {names : List String} {name : String} :
    ∀ {start : Place}, s.follow start (names ++ [name]) = .ok place →
      ∃ directory, s.follow start names = .ok directory ∧ place = enter directory name := by
  induction names with
  | nil =>
      intro start h
      refine ⟨start, rfl, ?_⟩
      rw [List.nil_append, follow] at h
      split at h
      · split at h
        · cases h
        · exact (Except.ok.inj h).symm
      · cases h
      · cases h
  | cons first names ih =>
      intro start h
      rw [List.cons_append, follow] at h
      rw [follow]
      split at h
      · split at h
        · cases h
        · rename_i hshort
          rw [if_neg hshort]
          exact ih h
      · cases h
      · cases h

theorem locate_eq_ok (h : s.locate p = .ok place) :
    s.follow (s.origin p) p.names = .ok place := by
  unfold locate at h
  split at h
  · cases h
  split at h
  · cases h
  · exact h

/-- A draft is not where its file is to be. -/
theorem ne_of_draftPlaceWith {draft : Place} (hnamed : EndsWithName p)
    (hplace : s.locate p = .ok place) (hdraft : s.draftPlaceWith mark p = .ok draft) :
    draft ≠ place := by
  obtain ⟨directory, hdirectory, rfl⟩ := draftPlaceWith_eq_ok hdraft
  have hnames : p.names = p.names.dropLast ++ [p.name] := by
    rw [Path.name, List.getLast?_eq_some_getLast hnamed.1, Option.getD_some,
      List.dropLast_concat_getLast]
  have hlast : p.name ≠ ".." := by
    intro hup
    refine hnamed.2 ?_
    rw [hnames, List.getLast?_concat, hup]
  have hfollow := locate_eq_ok hplace
  rw [hnames] at hfollow
  obtain ⟨above, habove, rfl⟩ := follow_snoc hfollow
  have hsame : s.follow (s.origin p) p.names.dropLast = .ok directory := locate_eq_ok hdirectory
  rw [hsame] at habove
  cases habove
  -- Both are in one directory, and the name of the draft is longer.
  rw [enter, if_neg hlast]
  intro heq
  have hname := List.singleton_inj.mp (List.append_cancel_left heq)
  have hlength := Draft.utf8ByteSize_name p mark
  rw [hname] at hlength
  omega

/-! ## The life of a draft -/

/-- The store without what is at a place. -/
def remove (s : Store) (place : Place) : Store :=
  { s with entries := s.entries.filter (·.1 != place) }

/-- The store after the file at a place has been moved to a path, in place of whatever file is
there. -/
def move (s : Store) (source : Place) (p : Path) : Except FileError Store :=
  match s.find? source with
  | some (.file content) => (s.remove source).replace p content
  | some .directory => .error .isDirectory
  | none => .error .notFound

theorem ne_of_mem_entries (hfree : s.find? place = none) :
    ∀ e ∈ s.entries, (e.1 == place) = false := by
  have hroot : ¬place.isEmpty = true := by
    simpa using ne_nil_of_find?_eq_none hfree
  rw [find?, if_neg hroot, Option.map_eq_none_iff, List.find?_eq_none] at hfree
  intro e he
  exact Bool.eq_false_iff.mpr (hfree e he)

/-- What is put at a free place comes last. -/
theorem set_of_free (hfree : s.find? place = none) (e : Entry) :
    s.set place e = { s with entries := s.entries ++ [(place, e)] } := by
  have hnone : ¬s.entries.any (·.1 == place) = true := by
    rw [Bool.not_eq_true, List.any_eq_false]
    exact fun e he => Bool.eq_false_iff.mp (ne_of_mem_entries hfree e he)
  rw [set, if_neg hnone]

/-- Of two things put at a free place the second one stays. -/
theorem set_set (hfree : s.find? place = none) (e e' : Entry) :
    (s.set place e).set place e' = s.set place e' := by
  have hkept : s.entries.map (fun old => if old.1 == place then (place, e') else old) =
      s.entries := by
    have hsame : ∀ old ∈ s.entries,
        (if old.1 == place then (place, e') else old) = id old := by
      intro old hold
      rw [ne_of_mem_entries hfree old hold]
      rfl
    rw [List.map_congr_left hsame, List.map_id]
  have hthere : (s.entries ++ [(place, e)]).any (·.1 == place) = true := by simp
  rw [set_of_free hfree, set_of_free hfree, set, if_pos hthere, List.map_append, hkept]
  simp

/-- What was put at a free place is taken away again. -/
theorem remove_set (hfree : s.find? place = none) (e : Entry) :
    (s.set place e).remove place = s := by
  have hkept : s.entries.filter (·.1 != place) = s.entries := by
    refine List.filter_eq_self.mpr fun old hold => ?_
    rw [bne, ne_of_mem_entries hfree old hold]
    rfl
  rw [set_of_free hfree, remove]
  simp [hkept]

/-- A draft is moved as its file is put in place, and the draft is gone. -/
theorem move_set (hfree : s.find? place = none) (content : Bytes) (p : Path) :
    (s.set place (.file content)).move place p = s.replace p content := by
  rw [move, find?_set_self _ s (ne_nil_of_find?_eq_none hfree)]
  dsimp only
  rw [remove_set hfree]

end Store

end Rollout
