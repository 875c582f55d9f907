import ScenarioScript.Proofs.Lexeme.Order
import ScenarioScript.Proofs.Script.Openings

/-! Diagnostics come in the order of the script: faults stand at step words, and the lines of cautions
are those of tokens that stand one behind the other. -/

namespace ScenarioScript

open scoped List

lemma Action.line_of_ofSpan {settings : Settings} {head : Token} {args : List Token} {c : Caution}
    (h : ofSpan settings head args = .error c) : c.line = head.line := by
  rw [ofSpan] at h
  split at h
  · exact Except.error.inj h ▸ rfl
  · exact Except.error.inj h ▸ rfl
  · simp at h

def Fault.place (f : Fault) : ℤ ×ₗ ℕ :=
  toLex (f.line, f.column)

namespace Entry

def lines : Entry → List ℤ
  | retry line _ => [line]
  | run head _ => [head.line]
  | _ => []

lemma sublist_lines_argument {k : Keyword} {kind : TokenKind} {e : Token → Entry}
    (h : argument? k = some (kind, e)) (u : Token) : (e u).lines <+ [u.line] := by
  cases k with
  | expect | timeout =>
    obtain ⟨-, rfl⟩ := Prod.mk.inj (Option.some.inj h)
    exact List.nil_sublist _
  | retry =>
    obtain ⟨-, rfl⟩ := Prod.mk.inj (Option.some.inj h)
    exact List.Sublist.refl _
  | _ => simp [argument?] at h

lemma sublist_lines (ts : List Token) : (all ts).flatMap lines <+ ts.map (·.line) := by
  induction ts using all_induction with
  | nil => simp [all_nil]
  | other t ts hkind ih =>
    rw [all_of_kind_ne hkind]
    exact ih.cons _
  | missing t ts k kind e hk ha hts ih =>
    rw [all_missing hk ha hts]
    exact ih.cons _
  | argument t u us k kind e hk ha hu ih =>
    rw [all_argument hk ha hu]
    exact ((sublist_lines_argument ha u).append ih).cons _
  | continues t ts hk ih =>
    rw [all_continues hk]
    exact ih.cons _
  | run t ts hkind hset ih =>
    have hrest : (Span.cut t ts).2 <+ ts := List.dropWhile_sublist _
    rw [all_run hkind hset]
    exact (ih.trans (hrest.map _)).cons_cons _

end Entry

namespace StepDraft

variable (settings : Settings) (description : String)

lemma sublist_add (d : StepDraft) (e : Entry) :
    (add settings description d e).2.map (·.line) <+ e.lines := by
  cases e with
  | expect _ | timeout _ | continueOnFailure => exact List.nil_sublist _
  | retry line count => by_cases hn : count < 0 <;> simp [add, Entry.lines, hn]
  | run head args =>
    by_cases ha : d.action.isSome = true
    · simp [add, Entry.lines, ha]
    · cases hs : Action.ofSpan settings head args with
      | ok a => simp [add, Entry.lines, ha, hs]
      | error c => simp [add, Entry.lines, ha, hs, Action.line_of_ofSpan hs]

lemma sublist_addAll (d : StepDraft) (es : List Entry) :
    (addAll settings description d es).2.map (·.line) <+ es.flatMap Entry.lines := by
  induction es generalizing d with
  | nil => exact List.nil_sublist _
  | cons e es ih =>
    rw [addAll_cons, List.map_append, List.flatMap_cons]
    exact (sublist_add settings description d e).append (ih _)

end StepDraft

variable {settings : Settings}

lemma Block.sublist_cautions (b : Block) :
    (b.cautions settings).map (·.line) <+ (b.head :: b.body).map (·.line) := by
  have hbody := (StepDraft.sublist_addAll settings b.description StepDraft.empty
    (Entry.all b.body)).trans (Entry.sublist_lines b.body)
  have hhead : b.unclosed.map (·.line) <+ [b.head.line] := by
    cases hc : b.closed <;> simp [unclosed, hc]
  rw [cautions, List.map_append, List.map_cons, ← List.singleton_append]
  exact hhead.append hbody

namespace Item

def lines : Item → List ℤ
  | name head _ => [head.line]
  | priority word => [word.line]
  | step b => (b.head :: b.body).map (·.line)
  | _ => []

lemma sublist_lines_setting {kind : TokenKind} {item : Token → Item} {t : Token}
    (h : ∀ v, (item v).lines <+ [t.line, v.line]) (ts : List Token) :
    (setting kind item ts).1.flatMap lines ++ (setting kind item ts).2.map (·.line) <+
      (t :: ts).map (·.line) := by
  rw [setting]
  split
  · next v hv =>
    cases ts with
    | nil => simp [value?] at hv
    | cons u us =>
      obtain rfl : u = v := by
        simp only [value?] at hv
        split at hv <;> simp_all
      simpa using (h u).append (List.Sublist.refl (us.map (·.line)))
  · exact List.sublist_cons_self _ _

lemma sublist_lines (t : Token) (ts : List Token) :
    (readAt t ts).1.flatMap lines ++ (readAt t ts).2.map (·.line) <+ (t :: ts).map (·.line) := by
  rw [readAt]
  split
  · exact sublist_lines_setting (fun v => by simp [lines]) ts
  · exact sublist_lines_setting (fun v => by simp [lines]) ts
  · exact sublist_lines_setting (fun v => by simp [lines]) ts
  · exact sublist_lines_setting (fun v => by simp [lines]) ts
  · exact sublist_lines_setting (fun v => by simp [lines]) ts
  · have hbody := (Block.sublist_read ts t).map (·.line)
    rw [List.map_append] at hbody
    simpa [lines, Block.head_read] using hbody
  · exact List.sublist_cons_self _ _

end Item

namespace Script

lemma sublist_lines_outline (ts : List Token) :
    (outline ts).flatMap Item.lines <+ ts.map (·.line) := by
  fun_induction outline ts with
  | case1 => simp
  | case2 t ts ih =>
    rw [List.flatMap_append]
    exact ((List.Sublist.refl _).append ih).trans (Item.sublist_lines t ts)

namespace Draft

lemma cautions_add (d : Draft) (i : Item) :
    ∃ cs, (d.add settings i).cautions = d.cautions ++ cs ∧ cs.map (·.line) <+ i.lines := by
  cases i with
  | name head text =>
    by_cases hn : d.name.isEmpty = true
    · exact ⟨[], by simp [add, hn], List.nil_sublist _⟩
    · exact ⟨[⟨head.line, .furtherScenario text⟩], by simp [add, hn, caution], by simp [Item.lines]⟩
  | priority word =>
    cases hp : word.keyword.bind priority? with
    | some p => exact ⟨[], by simp [add, hp], List.nil_sublist _⟩
    | none =>
      exact ⟨[⟨word.line, .unknownPriority word.text⟩], by simp [add, hp, caution],
        by simp [Item.lines]⟩
  | description _ | url _ | tags _ => exact ⟨[], by simp [add], List.nil_sublist _⟩
  | step b => exact ⟨b.cautions settings, by simp [add, addBlock_eq], b.sublist_cautions⟩

lemma cautions_addAll (d : Draft) (is : List Item) :
    ∃ cs, (d.addAll settings is).cautions = d.cautions ++ cs ∧
      cs.map (·.line) <+ is.flatMap Item.lines := by
  induction is generalizing d with
  | nil => exact ⟨[], by simp [addAll], List.nil_sublist _⟩
  | cons i is ih =>
    obtain ⟨cs, hcs, hsub⟩ := @cautions_add settings d i
    obtain ⟨cs', hcs', hsub'⟩ := ih (d.add settings i)
    refine ⟨cs ++ cs', ?_, ?_⟩
    · rw [addAll_cons, hcs', hcs, List.append_assoc]
    · rw [List.map_append, List.flatMap_cons]
      exact hsub.append hsub'

end Draft

lemma sublist_cautions (ts : List Token) :
    (ofTokens settings ts).cautions.map (·.line) <+ ts.map (·.line) := by
  obtain ⟨cs, hcs, hsub⟩ := @Draft.cautions_addAll settings Draft.empty (outline ts)
  rw [ofTokens, Draft.cautions_reading, hcs]
  exact hsub.trans (sublist_lines_outline ts)

lemma sublist_missed (ts : List Token) :
    (missed settings (blocks ts)).map Fault.place <+ ts.map Token.place := by
  have hblocks : (blocks ts).map (·.fault.place) = ((openings ts).map (·.1)).map Token.place := by
    rw [blocks_eq_map, List.map_map, List.map_map]
    refine List.map_congr_left fun p _ => ?_
    simp [Block.fault, Fault.place, Token.place, Block.head_read]
  have hmissed : (missed settings (blocks ts)).map Fault.place <+ (blocks ts).map (·.fault.place) := by
    rw [missed, List.map_map]
    exact List.filter_sublist.map _
  rw [hblocks] at hmissed
  exact hmissed.trans ((sublist_openings ts).map _)

/-- Faults stand at tokens, each behind the one before; only a missing name is told last, at the very
start. The lines of cautions are those of tokens too, and never fall. -/
theorem diagnostics_in_order (settings : Settings) (text : String) :
    (∃ fs : List Fault,
      ((read settings text).faults = fs ∨
        (read settings text).faults = fs ++ [⟨1, 0, .nameMissing⟩]) ∧
      (∀ f ∈ fs, f.cause ≠ .nameMissing) ∧
      (fs.map Fault.place).Pairwise (· < ·) ∧
      (∀ f ∈ fs, ∃ t ∈ Token.ofText text, t.place = f.place)) ∧
    ((read settings text).cautions.map (·.line)).Pairwise (· ≤ ·) ∧
    ∀ c ∈ (read settings text).cautions,
      c.message = "Line " ++ Decimal.text c.line ++ ": " ++ c.cause.message ∧
      ∃ t ∈ Token.ofText text, t.line = c.line := by
  set ts := Token.ofText text
  have hread : read settings text = ofTokens settings ts := read_eq settings text
  have horder : ts.Pairwise (·.place < ·.place) := Token.pairwise_ofText text
  have hplaces := @sublist_missed settings ts
  have hlines := @sublist_cautions settings ts
  rw [hread]
  refine ⟨⟨missed settings (blocks ts), ?_, fun f hf => ?_, ?_, fun f hf => ?_⟩,
    ?_, fun c hc => ⟨rfl, ?_⟩⟩
  · have hfaults := (Draft.addAll_blocks settings Draft.empty (outline ts)).2.2
    change _ = missed settings (blocks ts) at hfaults
    rw [ofTokens, Draft.faults_reading, hfaults]
    split
    · exact .inr rfl
    · exact .inl (List.append_nil _)
  · obtain ⟨b, -, rfl⟩ := List.mem_map.mp hf
    exact Fault.Cause.noConfusion
  · exact (List.pairwise_map.mpr horder).sublist hplaces
  · exact List.mem_map.mp (hplaces.subset (List.mem_map_of_mem hf))
  · exact (List.pairwise_map.mpr (horder.imp Token.line_le_of_place_lt)).sublist hlines
  · exact List.mem_map.mp (hlines.subset (List.mem_map_of_mem hc))

end Script

end ScenarioScript
