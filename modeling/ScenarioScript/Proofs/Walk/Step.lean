import ScenarioScript.Proofs.Block
import ScenarioScript.Proofs.Entry
import ScenarioScript.Proofs.Walk.Action
import ScenarioScript.Walk.Step

/-! A walk over a step stays inside of the tokens that are ahead, and settles the step as its block
does. -/

namespace ScenarioScript

namespace Walk

open Arguments

variable {settings : Settings} {description : String}

section Body

variable {b : BodyFound} {c : Cursor} {t : Token} {ts : List Token}

lemma on_bodyTurn_nil (h : c.pending = []) :
    (bodyTurn b).on c = (.ok (.done (b.tokens, false)), c) := by
  have hn : c.hasNext = false := by simp [Cursor.hasNext, h]
  rw [bodyTurn, on_bind (on_hasNext c), hn]
  rfl

lemma on_bodyTurn_step (h : c.pending = t :: ts) (hb : b.opened = false) (ht : t.is .step = true) :
    (bodyTurn b).on c = (.ok (.done (b.tokens, false)), c) := by
  have hn : c.hasNext = true := by simp [Cursor.hasNext, h]
  have hp : c.peek? = some t := by simp [Cursor.peek?, h]
  rw [bodyTurn, on_bind (on_hasNext c), hn, if_pos rfl, on_bind (on_peek? c), hp]
  change ((pure t : Walk Token) >>= _).on c = _
  rw [pure_bind, if_pos ⟨hb, ht⟩]
  rfl

def BodyFound.take (b : BodyFound) (t : Token) : Turn BodyFound (List Token × Bool) :=
  if t.kind = .braceOpen then .again { b with depth := b.depth + 1, opened := true }
  else if t.kind = .braceClose then
    if b.opened = false ∨ b.depth = 1 then .done (b.tokens, true)
    else .again { b with depth := b.depth - 1 }
  else .again { b with tokens := if b.opened then b.tokens ++ [t] else b.tokens }

lemma on_bodyTurn_cons (h : c.pending = t :: ts) (hb : b.opened = true ∨ t.is .step = false) :
    (bodyTurn b).on c = (.ok (b.take t), c.past t ts) := by
  have hn : c.hasNext = true := by simp [Cursor.hasNext, h]
  have hp : c.peek? = some t := by simp [Cursor.peek?, h]
  have hnot : ¬(b.opened = false ∧ t.is .step = true) := by
    rintro ⟨ho, ht⟩
    simp [ho, ht] at hb
  have hdepth : b.depth - 1 = 0 ↔ b.depth = 1 := by omega
  rw [bodyTurn, on_bind (on_hasNext c), hn, if_pos rfl, on_bind (on_peek? c), hp]
  change ((pure t : Walk Token) >>= _).on c = _
  rw [pure_bind, if_neg hnot, on_bind (on_next h), BodyFound.take]
  cases t.kind with
  | braceClose =>
    cases ho : b.opened with
    | false => rfl
    | true => by_cases hd : b.depth = 1 <;> simp [hd, hdepth, on_pure]
  | _ => rfl

def BodyFound.Of (whole : Block.Body) (b : BodyFound) (ahead : List Token) : Prop :=
  (b.opened = false ∧ b.depth = 0 ∧ b.tokens = [] ∧ Block.outer ahead = whole) ∨
  (b.opened = true ∧ ∃ n : ℕ, b.depth = n + 1 ∧
    whole = ⟨b.tokens ++ (Block.inner n ahead).tokens, (Block.inner n ahead).closed,
      (Block.inner n ahead).rest⟩)

lemma bodyTurn_ends {whole : Block.Body} (h : b.Of whole c.pending) :
    (bodyTurn b).Ends c fun turn d => d.faults = c.faults ∧ d.cautions = c.cautions ∧ match turn with
      | .again b' => b'.Of whole d.pending ∧ d.pending.length < c.pending.length
      | .done (tokens, closed) => whole = ⟨tokens, closed, d.pending⟩ := by
  -- Up to the opening brace the walk keeps to `Block.outer`, behind it to `Block.inner`.
  cases hc : c.pending with
  | nil =>
    rw [hc] at h
    refine ⟨_, c, on_bodyTurn_nil hc, rfl, rfl, ?_⟩
    rcases h with ⟨-, -, hts, hw⟩ | ⟨-, n, -, hw⟩
    · simp [← hw, hts, hc, Block.outer]
    · simp [hw, hc, Block.inner]
  | cons t ts =>
    rw [hc] at h
    rcases h with ⟨ho, hd, hts, hw⟩ | ⟨ho, n, hd, hw⟩
    · cases hs : t.is .step with
      | true =>
        refine ⟨_, c, on_bodyTurn_step hc ho hs, rfl, rfl, ?_⟩
        simp [← hw, hts, hc, Block.outer, hs]
      | false =>
        refine ⟨_, _, on_bodyTurn_cons hc (.inr hs), rfl, rfl, ?_⟩
        by_cases hk : t.kind = .braceOpen
        · rw [Block.outer_open ts hk] at hw
          simp only [BodyFound.take, hk, if_true]
          exact ⟨.inr ⟨rfl, 0, by simp [hd], by simp [← hw, hts, Cursor.past]⟩, by simp [Cursor.past]⟩
        by_cases hk' : t.kind = .braceClose
        · simp [BodyFound.take, hk', ho, ← hw, hts, Cursor.past, Block.outer_close ts hk']
        · rw [Block.outer_plain ts hs hk hk'] at hw
          simp only [BodyFound.take, hk, hk', if_false]
          exact ⟨.inl ⟨ho, hd, by simp [ho, hts], hw⟩, by simp [Cursor.past]⟩
    · refine ⟨_, _, on_bodyTurn_cons hc (.inl ho), rfl, rfl, ?_⟩
      by_cases hk : t.kind = .braceOpen
      · rw [Block.inner_open n ts hk] at hw
        simp only [BodyFound.take, hk, if_true]
        exact ⟨.inr ⟨rfl, n + 1, by simp [hd], hw⟩, by simp [Cursor.past]⟩
      by_cases hk' : t.kind = .braceClose
      · cases n with
        | zero =>
          simp [BodyFound.take, hk', hd, hw, Cursor.past, Block.inner_close_zero ts hk']
        | succ n =>
          have hne : ¬(b.opened = false ∨ b.depth = 1) := by
            rw [hd]
            simp [ho]
            omega
          rw [Block.inner_close_succ n ts hk'] at hw
          simp only [BodyFound.take, hk', if_neg hne]
          exact ⟨.inr ⟨ho, n, by simp [hd], hw⟩, by simp [Cursor.past]⟩
      · rw [Block.inner_plain n ts hk hk'] at hw
        simp only [BodyFound.take, hk, hk', if_false]
        exact ⟨.inr ⟨ho, n, hd, by simp [hw, ho, Cursor.past]⟩, by simp [Cursor.past]⟩

lemma body_ends (c : Cursor) :
    body.Ends c fun found d => d.faults = c.faults ∧ d.cautions = c.cautions ∧
      Block.outer c.pending = ⟨found.1, found.2, d.pending⟩ := by
  refine Ends.of_loop (fun b d => d.faults = c.faults ∧ d.cautions = c.cautions ∧
    b.Of (Block.outer c.pending) d.pending) ?_ ⟨rfl, rfl, .inl ⟨rfl, rfl, rfl, rfl⟩⟩
  rintro b d ⟨hf, hc, hb⟩
  refine (bodyTurn_ends hb).mono ?_
  rintro (b' | found) e ⟨hf', hc', h⟩
  · exact ⟨⟨hf'.trans hf, hc'.trans hc, h.1⟩, h.2⟩
  · exact ⟨hf'.trans hf, hc'.trans hc, h⟩

end Body

section Entries

variable {d d' : StepDraft} {c : Cursor} {pre rest : List Token} {t : Token}

lemma entries_past (taken : List Token) (es : List Entry) {cs : List Caution} (hne : taken ≠ [])
    (hall : Entry.all (taken ++ rest) = es ++ Entry.all rest)
    (hadd : StepDraft.addAll settings description d es = (d', cs))
    (hturn : (entryTurn settings description (pre ++ (taken ++ rest)) (d, pre.length)).on c =
      (.ok (.again (d', pre.length + taken.length)), c.noting cs))
    (ih : ∀ c, (along (pre ++ taken ++ rest) (entryTurn settings description (pre ++ taken ++ rest)) d'
        (pre ++ taken).length).on c =
      (.ok (StepDraft.addAll settings description d' (Entry.all rest)).1,
        c.noting (StepDraft.addAll settings description d' (Entry.all rest)).2)) :
    (along (pre ++ (taken ++ rest)) (entryTurn settings description (pre ++ (taken ++ rest))) d
        pre.length).on c =
      (.ok (StepDraft.addAll settings description d (Entry.all (taken ++ rest))).1,
        c.noting (StepDraft.addAll settings description d (Entry.all (taken ++ rest))).2) := by
  rw [hall, StepDraft.addAll_append, hadd, on_along_past taken hne hturn (ih _),
    Cursor.noting_noting]

lemma entryTurn_run (hkind : t.kind = .keyword)
    (h : ∀ k, t.keyword = some k → k.isStepSetting = false) :
    entryTurn settings description (pre ++ t :: rest) (d, pre.length) = do
      let (taken, stop) ← span (pre ++ t :: rest) pre.length
      if d.action.isNone then
        return .again ({ d with action := ← action settings taken }, stop)
      else
        caution (.furtherAction description t.text) t
        return .again (d, stop) := by
  rw [entryTurn]
  simp only [tokenAt_append, pure_bind]
  rw [if_pos (by simp), if_neg (by simp [hkind])]
  split
  · next hk => simpa [Keyword.isStepSetting] using h _ hk
  · next hk => simpa [Keyword.isStepSetting] using h _ hk
  · next hk => simpa [Keyword.isStepSetting] using h _ hk
  · next hk => simpa [Keyword.isStepSetting] using h _ hk
  · rfl

lemma on_entryTurn_run (settings : Settings) (description : String) (d : StepDraft)
    (pre rest : List Token) (hkind : t.kind = .keyword)
    (h : ∀ k, t.keyword = some k → k.isStepSetting = false) (c : Cursor) :
    (entryTurn settings description (pre ++ t :: rest) (d, pre.length)).on c =
      (.ok (.again ((StepDraft.add settings description d (.run t (Span.cut t rest).1)).1,
          pre.length + (t :: (Span.cut t rest).1).length)),
        c.noting (StepDraft.add settings description d (.run t (Span.cut t rest).1)).2) := by
  rw [entryTurn_run hkind h, span_append, pure_bind]
  cases ha : d.action with
  | some a =>
    simp only [Option.isNone_some, StepDraft.add, ha, Option.isSome_some, if_true]
    rw [if_neg (by simp), on_bind (on_caution _ _ c)]
    rfl
  | none =>
    simp only [Option.isNone_none, StepDraft.add, ha, Option.isSome_none, if_true]
    have haction := on_action settings t (Span.cut t rest).1 c
    rw [if_neg (by simp)]
    cases hs : Action.ofSpan settings t (Span.cut t rest).1 with
    | ok a =>
      rw [hs] at haction
      rw [on_bind haction, Cursor.noting_nil]
      rfl
    | error e =>
      have hd : { d with action := none } = d := by
        cases d
        cases ha
        rfl
      rw [hs] at haction
      rw [on_bind haction, hd]
      rfl

lemma ofArgument_eq (kind : TokenKind) (e : Token → Entry) (ts : List Token) :
    Entry.ofArgument kind e ts = ((ahead? kind ts).map e).toList := by
  cases ts with
  | nil => rfl
  | cons t ts => by_cases h : t.kind = kind <;> simp [Entry.ofArgument, ahead?, h]

lemma all_argument {kind : TokenKind} {e : Token → Entry} {rest : List Token} (hk : kind ≠ .keyword)
    (h : Entry.readAt t rest = (Entry.ofArgument kind e rest, rest)) :
    (ahead? kind rest = none ∧ Entry.all (t :: rest) = Entry.all rest) ∨
      ∃ u us, rest = u :: us ∧ ahead? kind rest = some u ∧
        Entry.all (t :: rest) = e u :: Entry.all us := by
  rw [Entry.all_cons, h, ofArgument_eq]
  cases hu : ahead? kind rest with
  | none => exact .inl ⟨rfl, rfl⟩
  | some u =>
    obtain ⟨us, rfl, rfl⟩ := of_ahead? hu
    refine .inr ⟨u, us, rfl, rfl, ?_⟩
    simp [Entry.all_of_kind_ne hk]

def Settles (settings : Settings) (description : String) (pre ts : List Token) : Prop :=
  ∀ d c, (along (pre ++ ts) (entryTurn settings description (pre ++ ts)) d pre.length).on c =
    (.ok (StepDraft.addAll settings description d (Entry.all ts)).1,
      c.noting (StepDraft.addAll settings description d (Entry.all ts)).2)

lemma settles_argument (kind : TokenKind) (e : Token → Entry) (hk : kind ≠ .keyword)
    (hread : Entry.readAt t rest = (Entry.ofArgument kind e rest, rest))
    (hnone : ahead? kind rest = none → ∀ d c,
      (entryTurn settings description (pre ++ t :: rest) (d, pre.length)).on c =
        (.ok (.again (d, pre.length + 1)), c))
    (hsome : ∀ u, ahead? kind rest = some u → ∀ d c,
      (entryTurn settings description (pre ++ t :: rest) (d, pre.length)).on c =
        (.ok (.again ((StepDraft.add settings description d (e u)).1, pre.length + 2)),
          c.noting (StepDraft.add settings description d (e u)).2))
    (ih : ∀ pre' ts, ts.length < rest.length + 1 → Settles settings description pre' ts) :
    Settles settings description pre (t :: rest) := by
  intro d c
  rcases all_argument hk hread with ⟨hu, hall⟩ | ⟨u, us, rfl, hu, hall⟩
  · refine entries_past [t] [] (by simp) hall rfl ?_
      (ih (pre ++ [t]) rest (Nat.lt_succ_self _) d)
    simpa using hnone hu d c
  · refine entries_past [t, u] [e u] (by simp) hall ?_ (hsome u hu d c)
      (ih (pre ++ [t, u]) us (by rw [List.length_cons]; omega) _)
    simp [StepDraft.addAll]

lemma settles_run (hkind : t.kind = .keyword)
    (hset : ∀ k, t.keyword = some k → k.isStepSetting = false)
    (ih : ∀ pre' ts, ts.length < rest.length + 1 → Settles settings description pre' ts) :
    Settles settings description pre (t :: rest) := by
  intro d c
  have hcut : t :: rest = (t :: (Span.cut t rest).1) ++ (Span.cut t rest).2 :=
    congrArg (t :: ·) List.takeWhile_append_dropWhile.symm
  have hall : Entry.all (t :: rest) = .run t (Span.cut t rest).1 :: Entry.all (Span.cut t rest).2 := by
    rw [Entry.all_cons, Entry.readAt_run hkind hset]
    rfl
  have hturn := on_entryTurn_run settings description d pre rest hkind hset c
  have hlt := Nat.lt_succ_of_le (Span.length_cut_le t rest)
  rw [hcut] at hall hturn ⊢
  refine entries_past (t :: (Span.cut t rest).1) [.run t (Span.cut t rest).1] (by simp) hall ?_ hturn
    (ih _ _ hlt _)
  simp [StepDraft.addAll]

lemma settles (settings : Settings) (description : String) (pre ts : List Token) :
    Settles settings description pre ts := by
  -- On the length, since an action takes its whole span along.
  induction hn : ts.length using Nat.strongRecOn generalizing pre ts with
  | _ n ih =>
    cases ts with
    | nil =>
      intro d c
      rw [along_done (b := d) (by simp [entryTurn]), Entry.all_nil]
      simp [StepDraft.addAll, on_pure]
    | cons t rest =>
      have ih (pre' ts' : List Token) (hlt : ts'.length < rest.length + 1) :
          Settles settings description pre' ts' :=
        ih ts'.length (by rwa [← hn]) pre' ts' rfl
      by_cases hkind : t.kind = .keyword
      · by_cases hset : ∃ k, t.keyword = some k ∧ k.isStepSetting = true
        · obtain ⟨k, hk, hs⟩ := hset
          cases k with
          | expect =>
            refine settles_argument .string (fun a => .expect a.text) (by simp)
              (by simp [Entry.readAt, hkind, hk]) ?_ ?_ ih
            · intro hu d c
              simp [entryTurn, hkind, hk, hu, on_pure]
            · intro u hu d c
              simp [entryTurn, hkind, hk, hu, on_pure, StepDraft.add]
          | timeout =>
            refine settles_argument .number (fun a => .timeout (Decimal.read? a.text)) (by simp)
              (by simp [Entry.readAt, hkind, hk]) ?_ ?_ ih
            · intro hu d c
              simp [entryTurn, hkind, hk, hu, on_pure]
            · intro u hu d c
              simp [entryTurn, hkind, hk, hu, on_pure, StepDraft.add]
          | retry =>
            refine settles_argument .number Entry.retryOf (by simp)
              (by simp [Entry.readAt, hkind, hk]) ?_ ?_ ih
            · intro hu d c
              simp [entryTurn, hkind, hk, hu, on_pure]
            · intro u hu d c
              by_cases hneg : (Decimal.read? u.text).getD 0 < 0
              · simp [entryTurn, hkind, hk, hu, StepDraft.add, Entry.retryOf, hneg]
                rfl
              · simp [entryTurn, hkind, hk, hu, StepDraft.add, Entry.retryOf, hneg, on_pure]
          | continueOnFailure =>
            intro d c
            have hall : Entry.all (t :: rest) = .continueOnFailure :: Entry.all rest := by
              simp [Entry.all_cons, Entry.readAt, hkind, hk]
            refine entries_past [t] [.continueOnFailure] (by simp) hall rfl ?_
              (ih (pre ++ [t]) rest (Nat.lt_succ_self _) _)
            simp [entryTurn, hkind, hk, on_pure]
          | _ => simp [Keyword.isStepSetting] at hs
        · exact settles_run hkind (fun k hk => by simpa using fun h => hset ⟨k, hk, h⟩) ih
      · intro d c
        refine entries_past [t] [] (by simp) (Entry.all_of_kind_ne hkind rest) rfl ?_
          (ih (pre ++ [t]) rest (Nat.lt_succ_self _) d)
        simp [entryTurn, hkind, on_pure]

end Entries

lemma describe_ends (head : Token) (c : Cursor) :
    describe.Ends c fun s d => d.faults = c.faults ∧ d.cautions = c.cautions ∧
      Block.read head c.pending =
        (⟨head, s, (Block.outer d.pending).tokens, (Block.outer d.pending).closed⟩,
          (Block.outer d.pending).rest) := by
  cases hc : c.pending with
  | nil =>
    have hp : c.peek? = none := by simp [Cursor.peek?, hc]
    refine ⟨"", c, ?_, rfl, rfl, ?_⟩
    · rw [describe, on_bind (on_peek? c), hp]
      rfl
    · rw [hc]
      rfl
  | cons t ts =>
    have hp : c.peek? = some t := by simp [Cursor.peek?, hc]
    by_cases hk : t.kind = .string
    · refine ⟨t.text, c.past t ts, ?_, rfl, rfl, ?_⟩
      · rw [describe, on_bind (on_peek? c), hp, if_pos (by simp [hk]), on_bind (on_next hc)]
        rfl
      · rw [Block.read, if_pos hk]
        rfl
    · refine ⟨"", c, ?_, rfl, rfl, ?_⟩
      · rw [describe, on_bind (on_peek? c), hp, if_neg (by simp [hk])]
        rfl
      · rw [Block.read, if_neg hk, hc]

def noted (settings : Settings) (b : Block) (id : String) (c : Cursor) : Cursor :=
  { c with
    faults := c.faults ++ if (b.step? settings id).isSome then [] else [b.fault]
    cautions := c.cautions ++ b.cautions settings }

lemma on_settle (settings : Settings) (b : Block) (index : ℕ) (c : Cursor) :
    (settle settings b.head index b.description b.body).on (c.noting b.unclosed) =
      (.ok (b.step? settings (Script.stepId index)),
        noted settings b (Script.stepId index) c) := by
  have hloop := settles settings b.description [] b.body StepDraft.empty
    (c.noting b.unclosed)
  rw [List.nil_append, List.length_nil] at hloop
  rw [settle, on_bind hloop, Cursor.noting_noting]
  unfold noted Block.step? Block.cautions Block.draft StepDraft.step?
  cases (StepDraft.addAll settings b.description StepDraft.empty (Entry.all b.body)).1.action with
  | none => rfl
  | some a => simp [on_pure, Cursor.noting]

lemma step_ends (head : Token) (index : ℕ) (c : Cursor) :
    (step settings head index).Ends c fun s d =>
      s = (Block.read head c.pending).1.step? settings (Script.stepId index) ∧
      d = { noted settings (Block.read head c.pending).1 (Script.stepId index) c with
        pending := (Block.read head c.pending).2, line := d.line, column := d.column } := by
  unfold step
  refine (describe_ends head c).bind fun description d ⟨hf, hc, hb⟩ => ?_
  refine (body_ends d).bind fun (tokens, closed) e ⟨hf', hc', ho⟩ => ?_
  rw [ho] at hb
  have he : e = { c with pending := e.pending, line := e.line, column := e.column } := by
    rw [← hf, ← hc, ← hf', ← hc']
  have hs := on_settle settings (Block.read head c.pending).1 index e
  rw [hb] at hs ⊢
  refine ⟨_, noted settings ⟨head, description, tokens, closed⟩ (Script.stepId index) e, ?_, rfl, ?_⟩
  · rw [← hs]
    cases closed with
    | true => simp [Block.unclosed]
    | false => exact on_bind (on_caution _ _ e)
  · rw [he]
    rfl

end Walk

end ScenarioScript
