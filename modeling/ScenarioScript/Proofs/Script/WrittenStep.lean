import ScenarioScript.Proofs.Entry
import ScenarioScript.Proofs.Script.WrittenAction

namespace ScenarioScript

namespace Word

lemma exists_of_mem_place {n : ℤ} {i : ℕ} {ws : List Word} {t : Token} (ht : t ∈ place n i ws) :
    ∃ w ∈ ws, ∃ j, t = ⟨w.kind, w.text, n, j⟩ := by
  induction ws generalizing i with
  | nil => simp [place] at ht
  | cons w ws ih =>
    rcases List.mem_cons.mp ht with rfl | ht
    · exact ⟨w, by simp, i, rfl⟩
    · obtain ⟨v, hv, hj⟩ := ih ht
      exact ⟨v, by simp [hv], hj⟩

def Follows (w : Word) (head : Keyword) : Prop :=
  w.kind ∈ [.string, .number, .targetId] ∨ ∃ k, w = keyword k ∧ k.isAction = false ∧
    (k.isStepSetting = true → k = .timeout ∧ head = .wait)

lemma arguments_follow (a : Action) : ∀ w ∈ a.arguments, w.Follows a.keyword := by
  intro w hw
  cases argument_of_mem hw with
  | target | quoted | number => exact .inl (by simp [target, quoted, number])
  | keyword ha hs => exact .inr ⟨_, rfl, ha, hs⟩

lemma Follows.endsAt {w : Word} {head : Keyword} (hw : w.Follows head) (n : ℤ) (i j : ℕ) :
    Span.endsAt ⟨.keyword, head.spelling, n, i⟩ ⟨w.kind, w.text, n, j⟩ = false := by
  rcases hw with hk | ⟨k, rfl, ha, hs⟩
  · rw [Span.endsAt, Token.keyword_eq_none (by rintro (h : w.kind = .keyword); simp [h] at hk)]
  · simp only [Span.endsAt, keyword, Token.keyword_spelling, ha, Bool.false_or]
    cases hk : k.isStepSetting with
    | false => rfl
    | true =>
      obtain ⟨rfl, rfl⟩ := hs hk
      simp [Span.keeps, Token.is_spelling]

end Word

namespace Action

def headToken (a : Action) (n : ℤ) (i : ℕ) : Token :=
  ⟨.keyword, a.keyword.spelling, n, i⟩

lemma cut_arguments (a : Action) (n : ℤ) (i j : ℕ) {ts : List Token}
    (h : ∀ t ∈ ts.head?, Span.endsAt (a.headToken n i) t = true) :
    Span.cut (a.headToken n i) (Word.place n j a.arguments ++ ts) =
      (Word.place n j a.arguments, ts) := by
  refine Span.cut_append (fun t ht => ?_) h
  obtain ⟨w, hw, k, rfl⟩ := Word.exists_of_mem_place ht
  exact (Word.arguments_follow a w hw).endsAt n i k

lemma ofSpan_arguments (settings : Settings) {a : Action}
    (hn : ∀ m ∈ a.numbers, Decimal.isShort m = true) (ha : a.Coherent) (n : ℤ) (i j : ℕ) :
    ofSpan settings (a.headToken n i) (Word.place n j a.arguments) = .ok a := by
  rw [ofSpan, headToken, Token.keyword_spelling, Option.bind_some,
    ofArguments?_arguments settings n j hn ha]

end Action

namespace Entry

lemma all_action (a : Action) (n : ℤ) (i : ℕ) {ts : List Token}
    (h : ∀ t ∈ ts.head?, Span.endsAt (a.headToken n i) t = true) :
    ∃ j, all (Word.place n i a.words ++ ts) =
      .run (a.headToken n i) (Word.place n j a.arguments) :: all ts := by
  refine ⟨i + a.keyword.spelling.toList.length + 1, ?_⟩
  have hr : ∀ us, readAt (a.headToken n i) us =
      ([.run (a.headToken n i) (Span.cut (a.headToken n i) us).1],
        (Span.cut (a.headToken n i) us).2) := by
    intro us
    simp only [readAt, Action.headToken, Token.keyword_spelling]
    cases a <;> rfl
  rw [Action.words, Word.place, List.cons_append, all_cons]
  change (readAt (a.headToken n i) _).1 ++ all (readAt (a.headToken n i) _).2 = _
  rw [hr, Word.keyword, Action.cut_arguments a n i _ h]
  rfl

lemma all_expect (s : String) (n : ℤ) (i : ℕ) (ts : List Token) :
    all (Word.place n i [.keyword .expect, .quoted s] ++ ts) = .expect s :: all ts := by
  simp [Word.place, Word.keyword, Word.quoted, all_cons, readAt, Token.keyword_spelling, ofArgument]

lemma all_timeout {m : ℤ} (hm : Decimal.isShort m = true) (n : ℤ) (i : ℕ) (ts : List Token) :
    all (Word.place n i [.keyword .timeout, .number m] ++ ts) = .timeout (some m) :: all ts := by
  simp [Word.place, Word.keyword, Word.number, all_cons, readAt, Token.keyword_spelling, ofArgument,
    Decimal.read?_text hm]

lemma all_retry {m : ℤ} (hm : Decimal.isShort m = true) (n : ℤ) (i : ℕ) (ts : List Token) :
    all (Word.place n i [.keyword .retry, .number m] ++ ts) = .retry n m :: all ts := by
  simp [Word.place, Word.keyword, Word.number, all_cons, readAt, Token.keyword_spelling, ofArgument,
    retryOf, Decimal.read?_text hm]

lemma all_continueOnFailure (n : ℤ) (i : ℕ) (ts : List Token) :
    all (Word.place n i [.keyword .continueOnFailure] ++ ts) = .continueOnFailure :: all ts := by
  simp [Word.place, Word.keyword, all_cons, readAt, Token.keyword_spelling]

lemma all_expectLine (e : Option String) (n : ℤ) (ts : List Token) :
    all (Line.place n (e.toList.map fun s => ⟨8, [.keyword .expect, .quoted s]⟩) ++ ts) =
      e.toList.map .expect ++ all ts := by
  cases e <;> simp [Line.place, all_expect]

lemma all_timeoutLine {e : Option ℤ} (he : ∀ m ∈ e, Decimal.isShort m = true) (n : ℤ)
    (ts : List Token) :
    all (Line.place n (e.toList.map fun m => ⟨8, [.keyword .timeout, .number m]⟩) ++ ts) =
      e.toList.map (.timeout ∘ some) ++ all ts := by
  cases e with
  | none => rfl
  | some m => simp [Line.place, all_timeout (he m rfl)]

lemma all_continueLine (b : Bool) (n : ℤ) :
    all (Line.place n (if b then [⟨8, [.keyword .continueOnFailure]⟩] else [])) =
      if b then [.continueOnFailure] else [] := by
  cases b with
  | false => exact all_nil
  | true =>
    have h := all_continueOnFailure n 8 []
    simpa [Line.place, all_nil] using h

def ofSettings (s : Step) (line : ℤ) : List Entry :=
  s.expected.toList.map .expect ++ (s.timeout.toList.map (.timeout ∘ some) ++
    .retry line s.retries :: if s.continueOnFailure then [.continueOnFailure] else [])

lemma all_settingLines {s : Step} (hs : s.Writable) (n : ℤ) :
    ∃ line, all (Line.place n s.settingLines) = ofSettings s line := by
  refine ⟨n + s.expected.toList.length + s.timeout.toList.length, ?_⟩
  rw [Step.settingLines, List.append_assoc, List.append_assoc, Line.place_append, all_expectLine,
    Line.place_append, all_timeoutLine hs.timeout, List.singleton_append, Line.place]
  simp only [List.length_map]
  rw [all_retry hs.retries.2, all_continueLine, ofSettings]

end Entry

namespace StepDraft

variable (settings : Settings) (description : String)

lemma addAll_expect (e : Option String) (d : StepDraft) (es : List Entry) :
    addAll settings description d (e.toList.map .expect ++ es) =
      addAll settings description { d with expected := e.or d.expected } es := by
  cases e <;> simp [addAll, add]

lemma addAll_timeout (e : Option ℤ) (d : StepDraft) (es : List Entry) :
    addAll settings description d (e.toList.map (.timeout ∘ some) ++ es) =
      addAll settings description { d with timeout := e.or d.timeout } es := by
  cases e <;> simp [addAll, add]

lemma addAll_continue (b : Bool) (d : StepDraft) :
    addAll settings description d (if b then [.continueOnFailure] else []) =
      ({ d with continueOnFailure := b || d.continueOnFailure }, []) := by
  cases b <;> simp [addAll, add]

lemma addAll_ofSettings {s : Step} (hr : 0 ≤ s.retries) (a : Action) (line : ℤ) :
    addAll settings description { empty with action := some a } (Entry.ofSettings s line) =
      (⟨some a, s.expected, s.timeout, s.retries, s.continueOnFailure⟩, []) := by
  rw [Entry.ofSettings, addAll_expect, addAll_timeout, addAll, add, if_neg (by omega)]
  simp only [addAll_continue]
  simp [empty]

end StepDraft

namespace Step

lemma endsAt_setting {k : Keyword} (hk : k.isStepSetting = true) (a : Action) {n m : ℤ} (h : m ≠ n)
    (i j : ℕ) : Span.endsAt (a.headToken n i) ⟨.keyword, k.spelling, m, j⟩ = true := by
  simp [Span.endsAt, Token.keyword_spelling, hk, Span.keeps, Action.headToken, h]

lemma endsAt_settingLines (s : Step) (a : Action) (n : ℤ) (i : ℕ) :
    ∀ t ∈ (Line.place (n + 1) s.settingLines).head?, Span.endsAt (a.headToken n i) t = true := by
  have hn : n + 1 ≠ n := by omega
  intro t ht
  cases he : s.expected <;> cases hm : s.timeout <;>
    simp only [settingLines, he, hm, Option.toList_none, Option.toList_some, List.map_nil, List.map_cons,
      List.nil_append, List.cons_append, Line.place, Word.place, List.head?_cons, Option.mem_def,
      Option.some.injEq] at ht <;>
    subst ht <;> exact endsAt_setting rfl a hn i 8

lemma draft_bodyLines (settings : Settings) {s : Step} (hs : s.Writable) (n : ℤ) :
    StepDraft.empty.addAll settings s.description (Entry.all (Line.place n s.bodyLines)) =
      (⟨some s.action, s.expected, s.timeout, s.retries, s.continueOnFailure⟩, []) := by
  obtain ⟨j, hj⟩ := Entry.all_action s.action n 8 (endsAt_settingLines s s.action n 8)
  obtain ⟨line, hl⟩ := Entry.all_settingLines hs (n + 1)
  have hadd : StepDraft.empty.add settings s.description
      (.run (s.action.headToken n 8) (Word.place n j s.action.arguments)) =
        ({ StepDraft.empty with action := some s.action }, []) := by
    rw [StepDraft.add, Action.ofSpan_arguments settings hs.numbers hs.coherent n 8 j]
    rfl
  rw [bodyLines, Line.place, hj, hl, StepDraft.addAll, hadd]
  simp only [StepDraft.addAll_ofSettings settings s.description hs.retries.1]
  rfl

end Step

end ScenarioScript
