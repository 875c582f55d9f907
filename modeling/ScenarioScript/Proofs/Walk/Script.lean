import ScenarioScript.Proofs.Draft
import ScenarioScript.Proofs.Walk.Lexeme
import ScenarioScript.Proofs.Walk.Step
import ScenarioScript.Walk.Script

/-! No text breaks the walk over a script down, and the walk reads what the outline of the script
says. -/

namespace ScenarioScript

namespace Walk

variable {settings : Settings} {c : Cursor} {t : Token}

lemma value?_ends (kind : TokenKind) (item : Token → Item) (c : Cursor) :
    (value? kind).Ends c fun v d => d.faults = c.faults ∧ d.cautions = c.cautions ∧
      Item.setting kind item c.pending = ((v.map item).toList, d.pending) := by
  cases hc : c.pending with
  | nil =>
    have hp : c.peek? = none := by simp [Cursor.peek?, hc]
    refine ⟨none, c, ?_, rfl, rfl, by simp [Item.setting, Item.value?, hc]⟩
    rw [value?, on_bind (on_peek? c), hp]
    rfl
  | cons t ts =>
    have hp : c.peek? = some t := by simp [Cursor.peek?, hc]
    by_cases hk : t.kind ≠ kind ∨ t.is .step = true
    · refine ⟨none, c, ?_, rfl, rfl, ?_⟩
      · rw [value?, on_bind (on_peek? c), hp]
        change (if t.kind ≠ kind ∨ t.is .step = true then _ else _ : Walk _).on c = _
        rw [if_pos hk]
        rfl
      · rcases hk with hk | hk <;> simp [Item.setting, Item.value?, hk, hc]
    · refine ⟨some t, c.past t ts, ?_, rfl, rfl, ?_⟩
      · rw [value?, on_bind (on_peek? c), hp]
        change (if t.kind ≠ kind ∨ t.is .step = true then _ else some <$> next : Walk _).on c = _
        rw [if_neg hk, map_eq_pure_bind, on_bind (on_next hc)]
        rfl
      · simp only [not_or, ne_eq, Decidable.not_not, Bool.not_eq_true] at hk
        simp [Item.setting, Item.value?, hk.1, hk.2, Cursor.past]

lemma on_priority (word : Token) (c : Cursor) :
    (priority word).on c = match word.keyword.bind Script.priority? with
      | some p => (.ok p, c)
      | none => (.ok .medium, c.noting [⟨word.line, .unknownPriority word.text⟩]) := by
  unfold priority
  cases word.keyword.bind Script.priority? <;> rfl

def ScriptFound.draft (s : ScriptFound) (c : Cursor) : Script.Draft :=
  ⟨s.name, s.description, s.startUrl, s.tags, s.priority, s.steps, s.index, c.faults, c.cautions⟩

lemma setting_ends {kind : TokenKind} (item : Token → Item) {s : ScriptFound}
    {take : Token → Walk ScriptFound}
    (hread : Item.readAt t c.pending = Item.setting kind item c.pending)
    (htake : ∀ v d, (take v).Ends d fun s' e =>
      e.pending = d.pending ∧ s'.draft e = (s.draft d).add settings (item v)) :
    (value? kind >>= fun v => match v with
      | none => pure s
      | some v => take v).Ends c fun s' d =>
        d.pending = (Item.readAt t c.pending).2 ∧
          s'.draft d = (s.draft c).addAll settings (Item.readAt t c.pending).1 := by
  refine (value?_ends kind item c).bind fun v d ⟨hf, hc, hs⟩ => ?_
  have hd : s.draft d = s.draft c := by rw [ScriptFound.draft, hf, hc, ScriptFound.draft]
  rw [hread, hs]
  cases v with
  | none => exact .of_pure ⟨rfl, hd⟩
  | some v => exact (htake v d).mono fun s' e ⟨hp, he⟩ => ⟨hp, by rw [he, hd]; rfl⟩

lemma name_ends (s : ScriptFound) (v : Token) (c : Cursor) :
    (if s.name.isEmpty then pure { s with name := v.text }
      else do
        caution (.furtherScenario v.text) t
        pure s : Walk ScriptFound).Ends c fun s' d =>
      d.pending = c.pending ∧ s'.draft d = (s.draft c).add settings (.name t v.text) := by
  by_cases hn : s.name.isEmpty = true
  · rw [if_pos hn]
    exact .of_pure ⟨rfl, (if_pos hn).symm⟩
  · rw [if_neg hn]
    exact ⟨s, _, on_bind (on_caution _ _ c), rfl, (if_neg hn).symm⟩

lemma priority_ends (s : ScriptFound) (v : Token) (c : Cursor) :
    (do return { s with priority := ← priority v } : Walk ScriptFound).Ends c fun s' d =>
      d.pending = c.pending ∧ s'.draft d = (s.draft c).add settings (.priority v) := by
  have hp := on_priority v c
  cases hw : v.keyword.bind Script.priority? with
  | some p =>
    rw [hw] at hp
    refine ⟨{ s with priority := p }, c, on_bind hp, rfl, ?_⟩
    simp only [Script.Draft.add, hw]
    rfl
  | none =>
    rw [hw] at hp
    refine ⟨{ s with priority := .medium }, _, on_bind hp, rfl, ?_⟩
    simp only [Script.Draft.add, hw]
    rfl

lemma block_ends (s : ScriptFound) (t : Token) (c : Cursor) :
    (do match ← step settings t s.index with
        | none => pure { s with index := s.index + 1 }
        | some step => pure { s with index := s.index + 1, steps := s.steps ++ [step] } :
      Walk ScriptFound).Ends c fun s' d =>
      d.pending = (Block.read t c.pending).2 ∧
        s'.draft d = (s.draft c).add settings (.step (Block.read t c.pending).1) := by
  refine (step_ends t s.index c).bind fun r d ⟨hr, hd⟩ => ?_
  have hadd : (s.draft c).add settings (.step (Block.read t c.pending).1) =
      (s.draft c).addBlock settings (Block.read t c.pending).1 := rfl
  rw [hadd, Script.Draft.addBlock]
  cases r with
  | none =>
    refine .of_pure ⟨by rw [hd], ?_⟩
    rw [hd]
    simp [ScriptFound.draft, noted, ← hr]
  | some step =>
    refine .of_pure ⟨by rw [hd], ?_⟩
    rw [hd]
    simp [ScriptFound.draft, noted, ← hr]

lemma itemTurn_ends (settings : Settings) (s : ScriptFound) (t : Token) (c : Cursor) :
    (itemTurn settings s t).Ends c fun s' d =>
      d.pending = (Item.readAt t c.pending).2 ∧
        s'.draft d = (s.draft c).addAll settings (Item.readAt t c.pending).1 := by
  unfold itemTurn
  split
  · next hk =>
    exact setting_ends (fun v => .name t v.text) (by simp [Item.readAt, hk]) (name_ends s)
  · next hk =>
    exact setting_ends (fun v => .description v.text) (by simp [Item.readAt, hk])
      fun v d => .of_pure ⟨rfl, rfl⟩
  · next hk =>
    exact setting_ends (fun v => .url v.text) (by simp [Item.readAt, hk])
      fun v d => .of_pure ⟨rfl, rfl⟩
  · next hk =>
    exact setting_ends (fun v => .tags (Tags.read v.text)) (by simp [Item.readAt, hk])
      fun v d => .of_pure ⟨rfl, rfl⟩
  · next hk =>
    exact setting_ends .priority (by simp [Item.readAt, hk]) (priority_ends s)
  · next hk =>
    have hread : Item.readAt t c.pending =
        ([.step (Block.read t c.pending).1], (Block.read t c.pending).2) := by
      simp [Item.readAt, hk]
    rw [hread]
    exact block_ends s t c
  · next h₁ h₂ h₃ h₄ h₅ h₆ =>
    have hread : Item.readAt t c.pending = ([], c.pending) := by
      unfold Item.readAt
      split <;> first | contradiction | rfl
    rw [hread]
    exact .of_pure ⟨rfl, rfl⟩

lemma items_ends (settings : Settings) (c : Cursor) :
    (items settings).Ends c fun s d =>
      s.draft d = (ScriptFound.empty.draft c).addAll settings (outline c.pending) := by
  refine Ends.of_loop (fun s d => (s.draft d).addAll settings (outline d.pending) =
    (ScriptFound.empty.draft c).addAll settings (outline c.pending)) ?_ rfl
  intro s d hinv
  cases hd : d.pending with
  | nil =>
    have hn : d.hasNext = false := by simp [Cursor.hasNext, hd]
    refine ⟨.done s, d, ?_, ?_⟩
    · rw [on_bind (on_hasNext d), hn]
      rfl
    · rw [← hinv, hd, outline_nil]
      rfl
  | cons t ts =>
    have hn : d.hasNext = true := by simp [Cursor.hasNext, hd]
    have hlt := Item.length_readAt_le t ts
    obtain ⟨s', e, he, hp, hs⟩ := itemTurn_ends settings s t (d.past t ts)
    refine ⟨.again s', e, ?_, ?_, ?_⟩
    · rw [on_bind (on_hasNext d), hn, if_pos rfl, on_bind (on_next hd), on_bind he]
      rfl
    · rw [← hinv, hd, outline_cons, Script.Draft.addAll_append, hs, hp]
      rfl
    · rw [hp]
      exact Nat.lt_succ_of_le hlt

lemma script_ends (settings : Settings) (text : String) :
    (script settings (.text text)).Ends (Cursor.ofTokens []) fun s d =>
      Script.ofTokens settings (Token.ofText text) = ⟨s, d.faults, d.cautions⟩ := by
  let start : Cursor := { Cursor.ofTokens [] with pending := Token.ofText text }
  have htokens : tokens (Text.lines text) = pure (Token.ofText text) := tokens_eq _
  have hstart : (modify fun c => { c with pending := Token.ofText text } : Walk Unit).on
      (Cursor.ofTokens []) = (.ok (), start) := rfl
  obtain ⟨found, d, hitems, hd⟩ := items_ends settings start
  have hread : Script.ofTokens settings (Token.ofText text) = (found.draft d).reading := by
    rw [hd]
    rfl
  rw [hread, script, htokens, pure_bind]
  by_cases hn : found.name.isEmpty = true
  · refine ⟨none, { d with faults := d.faults ++ [⟨1, 0, .nameMissing⟩] }, ?_, if_pos hn⟩
    rw [on_bind hstart, on_bind hitems, if_pos hn]
    rfl
  · refine ⟨some found.scenario, d, ?_, if_neg hn⟩
    rw [on_bind hstart, on_bind hitems, if_neg hn]
    rfl

end Walk

namespace Script

lemma read_eq (settings : Settings) (text : String) :
    read settings text = ofTokens settings (Token.ofText text) := by
  obtain ⟨s, d, hd, h⟩ := Walk.script_ends settings text
  rw [h, read, readSource, Walk.reading, hd]

/-- No text breaks the walk over it down: it never asks for a token, an index, a table's entry or a
member of a closed set that is not there, each text that is no integer is passed over, and every
loop comes to its end. So a reading has no other faults than those of a script. -/
theorem walk_unbroken (settings : Settings) (text : String) :
    ∃ s c, (Walk.script settings (.text text)).on (Cursor.ofTokens []) = (.ok s, c) ∧
      read settings text = ⟨s, c.faults, c.cautions⟩ ∧
      ∀ f ∈ (read settings text).faults,
        (f.line = 1 ∧ f.column = 0 ∧ f.cause.message = "Scenario name is required") ∨
        ∃ description, f.cause.message = "Step '" ++ description ++ "' has no action" := by
  obtain ⟨s, c, hs, hread⟩ := Walk.script_ends settings text
  refine ⟨s, c, hs, (read_eq settings text).trans hread, fun f hf => ?_⟩
  have hfaults := Draft.faults_addAll settings (d := Draft.empty) (by simp [Draft.empty])
    (outline (Token.ofText text))
  have hblock (b : Block) : b.fault.cause.message = "Step '" ++ b.description ++ "' has no action" :=
    rfl
  rw [read_eq, ofTokens, Draft.reading] at hf
  split at hf
  · rcases List.mem_append.mp hf with hf | hf
    · obtain ⟨b, rfl⟩ := hfaults f hf
      exact .inr ⟨_, hblock b⟩
    · rw [List.mem_singleton.mp hf]
      exact .inl ⟨rfl, rfl, rfl⟩
  · obtain ⟨b, rfl⟩ := hfaults f hf
    exact .inr ⟨_, hblock b⟩

end Script

end ScenarioScript
