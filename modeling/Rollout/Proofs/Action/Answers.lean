import Rollout.Proofs.Action.Failing

/-!
# Runs that an operator cuts short

The same action can be run by a deployer that signs on its own and by one that
asks. The two runs go in step until a question is refused or finds no answer.
There the asking run ends, and the other goes on with the very entry that the
question was about.

What becomes of questions depends on what has been typed and on nothing else.
`Action.hear` puts them one after the other: each takes a line, a refusal stops
them, and so does the end of what was typed. With `questions` for the questions
about an entry, a run that is to submit the entries `es` puts the questions
`es.flatMap questions`, and `hear` says how far it comes.

`Action.Truncates` says this of two runs, and `Action.Attends` of two actions in
all worlds that have the same chain and the same files. What has been told by
then differs, and so does what is left of the input.

## Main results

* `Action.Puts.askDeployment`: the questions about a deployment.
* `Action.Attends.consult`: a submission with questions before it, the only step
  in which the runs can part.
* `Action.Attends.bind`, `Action.Attends.forM`, `Action.Attends.mapM`: actions one
  after the other.
-/

namespace Rollout

/-- The wording of a question. -/
def Notice.question? : Notice → Option String
  | .question text => some text
  | _ => none

/-- What the operator has been asked. -/
def World.asked (w : World) : List String := w.notices.filterMap Notice.question?

/-- Two worlds with the same chain and the same files. -/
structure World.Alike (u w : World) : Prop where
  chain : u.chain = w.chain
  files : u.files = w.files

theorem World.Alike.refl (w : World) : w.Alike w := ⟨rfl, rfl⟩

theorem World.asked_of_notices {w w' : World} {told : List Notice}
    (h : w'.notices = w.notices ++ told) :
    w'.asked = w.asked ++ told.filterMap Notice.question? := by
  rw [asked, h, List.filterMap_append]
  rfl

/-! ## Refusals -/

/-- Whether the operator said no. -/
def Failure.isAborted : Failure → Bool
  | .aborted => true
  | _ => false

theorem Failure.eq_aborted {f : Failure} (h : f.isAborted = true) : f = .aborted := by
  unfold isAborted at h
  split at h
  · rfl
  · cases h

namespace Text

theorem toLower_of_le {c : Char} (h : 128 ≤ c.toNat) : c.toLower = c := by
  unfold Char.toLower
  split
  · rename_i hupper
    have hle : c.toNat ≤ 90 := hupper.2
    omega
  · rfl

/-- Characters of ASCII can be gone through one by one; the others have no other case here. -/
theorem forall_char {P : Char → Prop} (hlow : ∀ n < 128, P (Char.ofNat n))
    (hhigh : ∀ c : Char, 128 ≤ c.toNat → P c) (c : Char) : P c := by
  by_cases h : c.toNat < 128
  · rw [← Char.ofNat_toNat c]
    exact hlow c.toNat h
  · exact hhigh c (Nat.le_of_not_lt h)

theorem isBlank_toLower (c : Char) : isBlank c.toLower = isBlank c := by
  refine forall_char (P := fun c => isBlank c.toLower = isBlank c) (by decide) ?_ c
  intro c h
  rw [toLower_of_le h]

theorem toLower_eq_n_iff (c : Char) : c.toLower = 'n' ↔ c = 'n' ∨ c = 'N' := by
  refine forall_char (P := fun c => c.toLower = 'n' ↔ c = 'n' ∨ c = 'N') (by decide) ?_ c
  intro c h
  have hne : c ≠ 'N' := by
    rintro rfl
    exact absurd h (by decide)
  rw [toLower_of_le h]
  simp [hne]

/-- Blanks have no case. -/
theorem trimChars_map_toLower (cs : List Char) :
    trimChars (cs.map Char.toLower) = (trimChars cs).map Char.toLower := by
  have hblank : isBlank ∘ Char.toLower = isBlank := funext isBlank_toLower
  unfold trimChars
  rw [List.dropWhile_map, hblank, ← List.map_reverse, List.dropWhile_map, hblank,
    ← List.map_reverse]

end Text

namespace Action

/-- An answer is a refusal if it is the letter `n` when it is put in lower case and the blanks around
it are taken away. -/
def Refuses (answer : List Char) : Prop := Text.trimChars (answer.map Char.toLower) = ['n']

instance (answer : List Char) : Decidable (Refuses answer) :=
  inferInstanceAs (Decidable (Text.trimChars (answer.map Char.toLower) = ['n']))

theorem isRefusal_iff (answer : List Char) : isRefusal answer = true ↔ Refuses answer := by
  unfold Refuses isRefusal
  rw [Text.trimChars_map_toLower]
  dsimp only
  match Text.trimChars answer with
  | [] => simp
  | [c] => simp [Text.toLower_eq_n_iff]
  | c :: c' :: cs => simp

end Action

/-! ## Questions and answers -/

/-- What becomes of questions: those that were asked, what is left of the input, and what stopped
them, if anything did. -/
structure Hearing where
  asked : List String
  left : List Char
  stop? : Option Failure

/-- What an action ends with that does nothing but put questions. -/
def Hearing.verdict (h : Hearing) : Except Failure PUnit :=
  match h.stop? with
  | none => .ok ⟨⟩
  | some f => .error f

namespace Action

/-- Puts questions one after the other. Each takes a line; a refusal is the last answer, and at the
end of the input there is none. -/
def hear (input : List Char) : List String → Hearing
  | [] => { asked := [], left := input, stop? := none }
  | q :: qs =>
      match nextLine? input with
      | none => { asked := [q], left := input, stop? := some .inputEnded }
      | some (answer, rest) =>
          if Refuses answer then { asked := [q], left := rest, stop? := some .aborted }
          else { hear rest qs with asked := q :: (hear rest qs).asked }

@[simp] theorem hear_nil (input : List Char) : hear input [] = ⟨[], input, none⟩ := rfl

/-- Questions that are not stopped leave the rest of the input to those after them. -/
theorem hear_append {input : List Char} {qs : List String} (h : (hear input qs).stop? = none)
    (qs' : List String) :
    hear input (qs ++ qs') =
      { hear (hear input qs).left qs' with
        asked := (hear input qs).asked ++ (hear (hear input qs).left qs').asked } := by
  induction qs generalizing input with
  | nil => rfl
  | cons q qs ih =>
      rw [List.cons_append]
      cases hline : nextLine? input with
      | none => simp [hear, hline] at h
      | some line =>
          by_cases hno : Refuses line.1
          · simp [hear, hline, hno] at h
          · simp only [hear, hline, hno, if_false] at h ⊢
            rw [ih h]
            rfl

/-- Questions that are stopped are stopped with others behind them. -/
theorem hear_append_of_stop {input : List Char} {qs : List String} {f : Failure}
    (h : (hear input qs).stop? = some f) (qs' : List String) :
    hear input (qs ++ qs') = hear input qs := by
  induction qs generalizing input with
  | nil => cases h
  | cons q qs ih =>
      rw [List.cons_append]
      cases hline : nextLine? input with
      | none => simp [hear, hline]
      | some line =>
          by_cases hno : Refuses line.1
          · simp [hear, hline, hno]
          · simp only [hear, hline, hno, if_false] at h ⊢
            rw [ih h]

/-- Entries after the one at whose questions it stops make no difference. -/
theorem hear_flatMap_of_stop {questions : LogEntry → List String} {input : List Char}
    {done : List LogEntry} {e : LogEntry} {f : Failure}
    (h : (hear input ((done ++ [e]).flatMap questions)).stop? = some f) (rest : List LogEntry) :
    hear input ((done ++ e :: rest).flatMap questions) =
      hear input ((done ++ [e]).flatMap questions) := by
  have hsplit : done ++ e :: rest = (done ++ [e]) ++ rest := by simp
  rw [hsplit, List.flatMap_append, hear_append_of_stop h]

/-! ## Actions that put questions -/

variable {α β : Type}

/-- The operator has been asked and has typed as the hearing has it. -/
structure Told (w w' : World) (h : Hearing) : Prop where
  asked : w'.asked = w.asked ++ h.asked
  input : w'.input = h.left

theorem Told.trans {w w₁ w₂ : World} {qs qs' : List String} (h : Told w w₁ (hear w.input qs))
    (hagreed : (hear w.input qs).stop? = none) (h' : Told w₁ w₂ (hear w₁.input qs')) :
    Told w w₂ (hear w.input (qs ++ qs')) := by
  rw [h.input] at h'
  rw [hear_append hagreed]
  exact
    { asked := by rw [h'.asked, h.asked, List.append_assoc]
      input := h'.input }

/-- A run that did nothing but put questions. -/
structure Heard (w : World) (h : Hearing) (out : Except Failure PUnit × World) : Prop where
  result : out.1 = h.verdict
  alike : out.2.Alike w
  told : Told w out.2 h

/-- The action puts questions and does nothing else. -/
def Puts (a : Action PUnit) (qs : List String) : Prop :=
  ∀ w : World, Heard w (hear w.input qs) (a.perform w)

namespace Puts

variable {qs qs' : List String}

theorem pure : (Pure.pure ⟨⟩ : Action PUnit).Puts [] := by
  intro w
  exact ⟨rfl, .refl w, (List.append_nil _).symm, rfl⟩

/-- What is no question is told without an answer. -/
theorem say {n : Notice} (hn : n.question? = none) : (say n).Puts [] := by
  intro w
  refine ⟨rfl, ⟨rfl, rfl⟩, ?_, rfl⟩
  rw [World.asked_of_notices (w := w) rfl, List.filterMap_cons_none hn]
  rfl

theorem ask (text : String) : (ask text).Puts [text] := by
  intro w
  have hperform : (Action.ask text).perform w =
      (match nextLine? w.input with
        | none => throw .inputEnded
        | some (answer, rest) => do
            set { w with notices := w.notices ++ [Notice.question text], input := rest }
            if isRefusal answer then
              Action.say .aborting
              throw .aborted : Action PUnit).perform
        { w with notices := w.notices ++ [Notice.question text] } := rfl
  have hasked : ∀ (w' : World) (more : List Notice),
      w'.notices = w.notices ++ .question text :: more → more.filterMap Notice.question? = [] →
      w'.asked = w.asked ++ [text] := by
    intro w' more hw' hmore
    have hquestion : (Notice.question text).question? = some text := rfl
    rw [World.asked_of_notices hw', List.filterMap_cons_some hquestion, hmore]
  rw [hperform]
  cases hline : nextLine? w.input with
  | none =>
      simp only [hear, hline]
      exact ⟨rfl, ⟨rfl, rfl⟩, hasked _ [] rfl rfl, rfl⟩
  | some line =>
      obtain ⟨answer, rest⟩ := line
      by_cases hno : isRefusal answer = true
      · simp only [hear, hline, (isRefusal_iff answer).mp hno, hno, if_true]
        exact ⟨rfl, ⟨rfl, rfl⟩, hasked _ [.aborting] (List.append_assoc _ _ _) rfl, rfl⟩
      · have hyes : ¬Refuses answer := fun h => hno ((isRefusal_iff answer).mpr h)
        simp only [hear, hline, hyes, hno, if_false]
        exact ⟨rfl, ⟨rfl, rfl⟩, hasked _ [] rfl rfl, rfl⟩

theorem bind {a b : Action PUnit} (ha : a.Puts qs) (hb : b.Puts qs') :
    (a >>= fun _ => b).Puts (qs ++ qs') := by
  intro w
  have hfirst := ha w
  rw [perform_bind]
  generalize a.perform w = out at hfirst ⊢
  obtain ⟨r, w₁⟩ := out
  have hresult : r = (hear w.input qs).verdict := hfirst.result
  unfold Hearing.verdict at hresult
  cases hstop : (hear w.input qs).stop? with
  | none =>
      rw [hstop] at hresult
      subst hresult
      have hsecond := hb w₁
      refine ⟨?_, ?_, hfirst.told.trans hstop hsecond.told⟩
      · rw [hear_append hstop, ← hfirst.told.input]
        exact hsecond.result
      · exact ⟨hsecond.alike.chain.trans hfirst.alike.chain,
          hsecond.alike.files.trans hfirst.alike.files⟩
  | some f =>
      rw [hstop] at hresult
      subst hresult
      rw [hear_append_of_stop hstop]
      refine ⟨?_, hfirst.alike, hfirst.told⟩
      rw [Hearing.verdict, hstop]

/-- The question about a deployment, and the one about an address of zeros if there is one. -/
theorem askDeployment (contract : String) (args : NamedArgs) :
    (askDeployment contract args).Puts
      (("Deploy " ++ contract) ::
        if hasZeroAddress args then ["Zero Address detected for deployment parameter; Continue?"]
        else []) := by
  unfold Action.askDeployment
  by_cases hargs : args.isEmpty = true
  · have hnone : args = [] := List.isEmpty_iff.mp hargs
    subst hnone
    exact (say rfl).bind (ask _)
  · rw [if_neg hargs]
    by_cases hzero : hasZeroAddress args = true
    · rw [if_pos hzero]
      simp only [hzero, if_true]
      exact (say rfl).bind ((ask _).bind (ask _))
    · rw [if_neg hzero]
      simp only [hzero]
      exact (say rfl).bind ((ask _).bind pure)

end Puts

/-! ## Steps that look at the files only -/

/-- The action puts no question, and nothing but the files matters to it. -/
structure Deaf (a : Action α) : Prop where
  result : ∀ u w : World, u.files = w.files → (a.perform u).1 = (a.perform w).1
  files : ∀ u w : World, u.files = w.files → (a.perform u).2.files = (a.perform w).2.files
  told : ∀ w : World, Told w (a.perform w).2 (hear w.input [])

namespace Deaf

theorem pure (x : α) : (Pure.pure x : Action α).Deaf where
  result _ _ _ := rfl
  files _ _ h := h
  told _ := ⟨(List.append_nil _).symm, rfl⟩

theorem throw (f : Failure) : (throw f : Action α).Deaf where
  result _ _ _ := rfl
  files _ _ h := h
  told _ := ⟨(List.append_nil _).symm, rfl⟩

theorem say {n : Notice} (hn : n.question? = none) : (say n).Deaf where
  result _ _ _ := rfl
  files _ _ h := h
  told w := (Puts.say hn w).told

/-- A step on the files that tells nothing. -/
theorem of_perform {a : Action α} (r : Store → Except Failure α) (next : Store → Store)
    (h : ∀ w : World, a.perform w = (r w.files, { w with files := next w.files })) : a.Deaf where
  result u w hfiles := by rw [h, h, hfiles]
  files u w hfiles := by rw [h, h, hfiles]
  told w := by
    rw [h]
    exact ⟨(List.append_nil _).symm, rfl⟩

theorem bind {a : Action α} {g : α → Action β} (ha : a.Deaf) (hg : ∀ x, (g x).Deaf) :
    (a >>= g).Deaf := by
  have hpair : ∀ u w : World, u.files = w.files →
      ((a >>= g).perform u).1 = ((a >>= g).perform w).1 ∧
        ((a >>= g).perform u).2.files = ((a >>= g).perform w).2.files := by
    intro u w hfiles
    have hresult := ha.result u w hfiles
    have hfiles₁ := ha.files u w hfiles
    rw [perform_bind, perform_bind]
    generalize a.perform u = out at hresult hfiles₁ ⊢
    generalize a.perform w = out' at hresult hfiles₁ ⊢
    obtain ⟨r, u₁⟩ := out
    obtain ⟨r', w₁⟩ := out'
    obtain rfl : r = r' := hresult
    cases r with
    | ok x => exact ⟨(hg x).result u₁ w₁ hfiles₁, (hg x).files u₁ w₁ hfiles₁⟩
    | error f => exact ⟨rfl, hfiles₁⟩
  refine ⟨fun u w h => (hpair u w h).1, fun u w h => (hpair u w h).2, ?_⟩
  intro w
  have htold := ha.told w
  rw [perform_bind]
  generalize a.perform w = out at htold ⊢
  obtain ⟨r, w₁⟩ := out
  cases r with
  | ok x => exact htold.trans rfl ((hg x).told w₁)
  | error f => exact htold

end Deaf

/-! ## Submissions -/

/-- The action submits an entry where the chain refuses nothing, and that is all it does. -/
def Submits (a : Action α) (e : LogEntry) : Prop :=
  ∀ c : Chain, c.fault = none → ∃ x c', c'.log = c.log ++ [e] ∧ c'.fault = none ∧
    ∀ w : World, w.chain = c → a.perform w = (.ok x, { w with chain := c' })

theorem submit_submits (e : LogEntry) : (submit e).Submits e := by
  intro c hnone
  refine ⟨⟨⟩, { c with log := c.log ++ [e] }, rfl, hnone, ?_⟩
  rintro w rfl
  unfold submit
  rw [perform_get_bind, Chain.submit?_of_unfaulted hnone]
  rfl

theorem submitDeployment_submits (e : LogEntry) : (submitDeployment e).Submits e := by
  intro c hnone
  refine ⟨c.addressOf c.contracts,
    { c with log := c.log ++ [e], contracts := c.contracts + 1 }, rfl, hnone, ?_⟩
  rintro w rfl
  unfold submitDeployment
  rw [perform_get_bind, Chain.deploy?, Chain.submit?_of_unfaulted hnone]
  rfl

/-! ## Two runs in step -/

section

variable (questions : LogEntry → List String)

/-- A run that asks goes like a run that signs, up to a question that is refused or finds no answer.
Both start with the chain and the files of the world `w`, where the asking run starts. -/
inductive Truncates (w : World) (signing asking : Except Failure α × World) : Prop
  /-- All questions are answered, and the runs end alike. -/
  | agreed (es : List LogEntry)
      (result : asking.1 = signing.1)
      (chain : asking.2.chain = signing.2.chain)
      (log : signing.2.chain.log = w.chain.log ++ es)
      (unfaulted : signing.2.chain.fault = none)
      (signed : signing.2.files = w.files)
      (files : asking.2.files = w.files)
      (told : Told w asking.2 (hear w.input (es.flatMap questions)))
      (unstopped : (hear w.input (es.flatMap questions)).stop? = none)
  /-- A question about an entry stops the asking run, and the signing run submits the entry in its
  place. -/
  | stopped (done : List LogEntry) (e : LogEntry) (rest : List LogEntry) (f : Failure)
      (log : signing.2.chain.log = w.chain.log ++ (done ++ e :: rest))
      (unfaulted : signing.2.chain.fault = none)
      (result : asking.1 = .error f)
      (halted : asking.2.chain.log = w.chain.log ++ done)
      (files : asking.2.files = w.files)
      (told : Told w asking.2 (hear w.input ((done ++ [e]).flatMap questions)))
      (unstopped : (hear w.input (done.flatMap questions)).stop? = none)
      (stop : (hear w.input ((done ++ [e]).flatMap questions)).stop? = some f)

/-- The second action asks and otherwise does as the first, which signs. -/
def Attends (a b : Action α) : Prop :=
  ∀ u w : World, u.Alike w → w.chain.fault = none →
    Truncates questions w (a.perform u) (b.perform w)

end

variable {questions : LogEntry → List String}

namespace Truncates

variable {w : World} {signing asking : Except Failure α × World}

/-- The signing run only adds to the log. -/
theorem exists_log (h : Truncates questions w signing asking) :
    ∃ es, signing.2.chain.log = w.chain.log ++ es := by
  cases h with
  | agreed es _ _ log => exact ⟨es, log⟩
  | stopped done e rest _ log => exact ⟨done ++ e :: rest, log⟩

theorem fault_eq_none (h : Truncates questions w signing asking) :
    signing.2.chain.fault = none := by
  cases h with
  | agreed _ _ _ _ unfaulted => exact unfaulted
  | stopped _ _ _ _ _ unfaulted => exact unfaulted

end Truncates

namespace Attends

/-- A step that neither asks nor looks at the world. -/
theorem still {a : Action α} {r : Except Failure α}
    (h : ∀ w : World, (a.perform w).1 = r ∧ (a.perform w).2.Alike w ∧
      Told w (a.perform w).2 (hear w.input [])) : Attends questions a a := by
  intro u w hsame hnone
  obtain ⟨hru, hu, -⟩ := h u
  obtain ⟨hrw, hw, htold⟩ := h w
  have hchain : (a.perform u).2.chain = w.chain := hu.chain.trans hsame.chain
  exact .agreed [] (hrw.trans hru.symm) (hw.chain.trans hchain.symm)
    (by rw [hchain, List.append_nil]) (by rw [hchain, hnone]) (hu.files.trans hsame.files)
    hw.files htold rfl

theorem pure (x : α) : Attends questions (Pure.pure x) (Pure.pure x) :=
  still fun w => ⟨rfl, .refl w, (List.append_nil _).symm, rfl⟩

theorem throw (f : Failure) : Attends questions (throw f : Action α) (throw f) :=
  still fun w => ⟨rfl, .refl w, (List.append_nil _).symm, rfl⟩

theorem ofExcept (r : Except Failure α) : Attends questions (ofExcept r) (ofExcept r) := by
  cases r with
  | ok x => exact pure x
  | error f => exact throw f

theorem say {n : Notice} (hn : n.question? = none) : Attends questions (say n) (say n) :=
  still fun w => ⟨rfl, (Puts.say hn w).alike, (Puts.say hn w).told⟩

/-- One action after the other. Where the first asking run stops, the signing run goes on by
itself. -/
theorem bind {a b : Action α} {g g' : α → Action β} (ha : Attends questions a b)
    (hg : ∀ x, Attends questions (g x) (g' x)) : Attends questions (a >>= g) (b >>= g') := by
  intro u w hsame hnone
  have hfirst := ha u w hsame hnone
  rw [perform_bind, perform_bind]
  generalize a.perform u = signing at hfirst ⊢
  generalize b.perform w = asking at hfirst ⊢
  obtain ⟨r, u₁⟩ := signing
  obtain ⟨r', w₁⟩ := asking
  cases hfirst with
  | agreed es result chain log unfaulted signed files told unstopped =>
      obtain rfl : r' = r := result
      cases r' with
      | error f =>
          exact .agreed es rfl chain log unfaulted signed files told unstopped
      | ok x =>
          have hsame₁ : u₁.Alike w₁ := ⟨chain.symm, signed.trans files.symm⟩
          have hnone₁ : w₁.chain.fault = none := by rw [chain]; exact unfaulted
          have hlog₁ : w₁.chain.log = w.chain.log ++ es := by rw [chain]; exact log
          have hinput : w₁.input = (hear w.input (es.flatMap questions)).left := told.input
          cases hg x u₁ w₁ hsame₁ hnone₁ with
          | agreed es' result' chain' log' unfaulted' signed' files' told' unstopped' =>
              refine .agreed (es ++ es') result' chain' ?_ unfaulted' (signed'.trans files)
                (files'.trans files) ?_ ?_
              · rw [log', hlog₁, List.append_assoc]
              · rw [List.flatMap_append]
                exact told.trans unstopped told'
              · rw [List.flatMap_append, hear_append unstopped, ← hinput]
                exact unstopped'
          | stopped done e rest f log' unfaulted' result' halted files' told' unstopped' stop =>
              refine .stopped (es ++ done) e rest f ?_ unfaulted' result' ?_ (files'.trans files)
                ?_ ?_ ?_
              · rw [log', hlog₁, List.append_assoc, List.append_assoc]
              · rw [halted, hlog₁, List.append_assoc]
              · rw [List.append_assoc, List.flatMap_append]
                exact told.trans unstopped told'
              · rw [List.flatMap_append, hear_append unstopped, ← hinput]
                exact unstopped'
              · rw [List.append_assoc, List.flatMap_append, hear_append unstopped, ← hinput]
                exact stop
  | stopped done e rest f log unfaulted result halted files told unstopped stop =>
      obtain rfl : r' = .error f := result
      cases r with
      | error f' =>
          exact .stopped done e rest f log unfaulted rfl halted files told unstopped stop
      | ok x =>
          -- The signing run goes on, which only makes its log longer.
          have hrest := hg x u₁ u₁ (.refl u₁) unfaulted
          obtain ⟨more, hmore⟩ := hrest.exists_log
          refine .stopped done e (rest ++ more) f ?_ hrest.fault_eq_none rfl halted files told
            unstopped stop
          have hlog : u₁.chain.log = w.chain.log ++ (done ++ e :: rest) := log
          rw [hmore, hlog, List.append_assoc, List.append_assoc, List.cons_append]

/-- What comes after a result may depend on it. -/
theorem ofExcept_bind {r : Except Failure α} {g g' : α → Action β}
    (hg : ∀ x, r = .ok x → Attends questions (g x) (g' x)) :
    Attends questions (Action.ofExcept r >>= g) (Action.ofExcept r >>= g') := by
  cases r with
  | ok x => exact hg x rfl
  | error f => exact throw f

/-- What an action does may depend on the chain. -/
theorem get_bind {g g' : World → Action β}
    (h : ∀ u w : World, u.Alike w → Attends questions (g u) (g' w)) :
    Attends questions (get >>= g) (get >>= g') :=
  fun u w hsame hnone => h u w hsame u w hsame hnone

/-! ## Submissions -/

/-- A submission that the operator is not asked about. -/
theorem submit {a : Action α} {e : LogEntry} (ha : a.Submits e) (he : questions e = []) :
    Attends questions a a := by
  intro u w hsame hnone
  obtain ⟨x, c, hlog, hfault, hrun⟩ := ha w.chain hnone
  rw [hrun u hsame.chain, hrun w rfl]
  refine .agreed [e] rfl rfl hlog hfault hsame.files rfl ?_ ?_
  · rw [List.flatMap_singleton, he]
    exact ⟨(List.append_nil _).symm, rfl⟩
  · rw [List.flatMap_singleton, he]
    rfl

/-- A submission that the operator is asked about first. -/
theorem consult {a : Action α} {ask : Action PUnit} {e : LogEntry} (ha : a.Submits e)
    (hask : ask.Puts (questions e)) : Attends questions a (ask >>= fun _ => a) := by
  intro u w hsame hnone
  have hheard := hask w
  have hquestions : [e].flatMap questions = questions e := List.flatMap_singleton _ _
  rw [perform_bind]
  generalize ask.perform w = out at hheard ⊢
  obtain ⟨r, w₁⟩ := out
  have hresult : r = (hear w.input (questions e)).verdict := hheard.result
  have hchain : w₁.chain = w.chain := hheard.alike.chain
  have hfiles : w₁.files = w.files := hheard.alike.files
  obtain ⟨x, c, hlog, hfault, hrun⟩ := ha w.chain hnone
  rw [hrun u hsame.chain]
  unfold Hearing.verdict at hresult
  cases hstop : (hear w.input (questions e)).stop? with
  | none =>
      rw [hstop] at hresult
      subst hresult
      dsimp only
      rw [hrun w₁ hchain]
      refine .agreed [e] rfl rfl hlog hfault hsame.files hfiles ?_ ?_
      · rw [hquestions]
        exact ⟨hheard.told.asked, hheard.told.input⟩
      · rw [hquestions]
        exact hstop
  | some f =>
      rw [hstop] at hresult
      subst hresult
      refine .stopped [] e [] f hlog hfault rfl ?_ hfiles ?_ rfl ?_
      · show w₁.chain.log = _
        rw [hchain, List.append_nil]
      · rw [List.nil_append, hquestions]
        exact hheard.told
      · rw [List.nil_append, hquestions]
        exact hstop

theorem consult_bind {a : Action α} {ask : Action PUnit} {e : LogEntry} {g g' : α → Action β}
    (ha : a.Submits e) (hask : ask.Puts (questions e))
    (hg : ∀ x, Attends questions (g x) (g' x)) :
    Attends questions (a >>= g) (ask >>= fun _ => a >>= g') := by
  have h := (consult ha hask).bind hg
  rwa [bind_assoc] at h

/-! ## Lists of actions -/

theorem forM {f f' : α → Action PUnit} (xs : List α)
    (h : ∀ x ∈ xs, Attends questions (f x) (f' x)) :
    Attends questions (xs.forM f) (xs.forM f') := by
  induction xs with
  | nil => exact pure _
  | cons x xs ih =>
      refine bind (h x List.mem_cons_self) ?_
      intro _
      exact ih fun y hy => h y (List.mem_cons_of_mem x hy)

theorem mapM {f f' : α → Action β} (xs : List α)
    (h : ∀ x ∈ xs, Attends questions (f x) (f' x)) :
    Attends questions (xs.mapM f) (xs.mapM f') := by
  induction xs with
  | nil => exact pure _
  | cons x xs ih =>
      rw [List.mapM_cons, List.mapM_cons]
      refine bind (h x List.mem_cons_self) ?_
      intro _
      exact bind (ih fun y hy => h y (List.mem_cons_of_mem x hy)) fun _ => pure _

end Attends

end Action

end Rollout
