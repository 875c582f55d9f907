import ScenarioScript.Proofs.Block
import ScenarioScript.Proofs.Draft
import ScenarioScript.Proofs.Entry
import ScenarioScript.Proofs.Recasting

namespace ScenarioScript

namespace Span

variable {g : Recasting} (hg : g.line.Injective)

include hg

lemma endsAt_recast (head t : Token) : endsAt (head.respell g) (t.recast g) = endsAt head t := by
  have his : (head.respell g).is .wait = head.is .wait := by simp [Token.is]
  simp [endsAt, keeps, his, hg.eq_iff]

lemma cut_recast (head : Token) (ts : List Token) :
    cut (head.respell g) (ts.map (Token.recast g)) =
      ((cut head ts).1.map (Token.recast g), (cut head ts).2.map (Token.recast g)) := by
  simp [cut, List.takeWhile_map, List.dropWhile_map, Function.comp_def, endsAt_recast hg]

end Span

namespace Entry

def recast (g : Recasting) : Entry → Entry
  | retry line count => retry (g.line line) count
  | run head args => run (head.respell g) (args.map (Token.recast g))
  | e => e

lemma recast_argument {k : Keyword} {kind : TokenKind} {e : Token → Entry}
    (h : argument? k = some (kind, e)) (g : Recasting) {u : Token} (hu : u.kind = kind) :
    e (u.recast g) = (e u).recast g := by
  have hne : u.kind ≠ .keyword := hu ▸ kind_ne_of_argument? h
  have htext := Token.text_recast g hne
  cases k with
  | expect | timeout | retry =>
    obtain ⟨-, rfl⟩ := Prod.mk.inj (Option.some.inj h)
    simp [retryOf, recast, htext]
  | _ => simp [argument?] at h

lemma all_recast {g : Recasting} (hg : g.line.Injective) (ts : List Token) :
    all (ts.map (Token.recast g)) = (all ts).map (recast g) := by
  induction ts using all_induction with
  | nil => simp [all_nil]
  | other t ts hkind ih =>
    rw [List.map_cons, all_of_kind_ne (by simpa using hkind), all_of_kind_ne hkind, ih]
  | missing t ts k kind e hk ha hts ih =>
    have hts' : ∀ u ∈ (ts.map (Token.recast g)).head?, u.kind ≠ kind := by
      simpa [List.head?_map] using hts
    rw [List.map_cons, all_missing (by simpa using hk) ha hts', all_missing hk ha hts, ih]
  | argument t u us k kind e hk ha hu ih =>
    rw [List.map_cons, List.map_cons, all_argument (by simpa using hk) ha (by simpa using hu),
      all_argument hk ha hu, List.map_cons, recast_argument ha g hu, ih]
  | continues t ts hk ih =>
    rw [List.map_cons, all_continues (by simpa using hk), all_continues hk, List.map_cons, ih]
    rfl
  | run t ts hkind hset ih =>
    rw [List.map_cons, Token.recast_word g hkind, all_run (by simpa using hkind) (by simpa using hset),
      all_run hkind hset, Span.cut_recast hg, List.map_cons, ih]
    rfl

end Entry

namespace StepDraft

variable (g : Recasting) (settings : Settings) (description : String)

lemma add_recast (d : StepDraft) (e : Entry) :
    add settings description d (e.recast g) =
      ((add settings description d e).1,
        (add settings description d e).2.map (Caution.recast g)) := by
  cases e with
  | expect _ | timeout _ | continueOnFailure => rfl
  | retry line count =>
    simp only [Entry.recast, add]
    split <;> rfl
  | run head args =>
    simp only [Entry.recast, add, Action.ofSpan_recast]
    split
    · rfl
    · cases Action.ofSpan settings head args <;> rfl

lemma addAll_recast (d : StepDraft) (es : List Entry) :
    addAll settings description d (es.map (Entry.recast g)) =
      ((addAll settings description d es).1,
        (addAll settings description d es).2.map (Caution.recast g)) := by
  induction es generalizing d with
  | nil => rfl
  | cons e es ih => simp only [List.map_cons, addAll_cons, add_recast, ih, List.map_append]

end StepDraft

namespace Block

def recast (g : Recasting) (b : Block) : Block :=
  { b with head := b.head.recast g, body := b.body.map (Token.recast g) }

section Draft

variable {g : Recasting} (hg : g.line.Injective) (settings : Settings) (b : Block)

include hg

lemma draft_recast : (b.recast g).draft settings =
    ((b.draft settings).1, (b.draft settings).2.map (Caution.recast g)) := by
  rw [draft, recast, Entry.all_recast hg, StepDraft.addAll_recast, draft]

lemma step?_recast (id : String) : (b.recast g).step? settings id = b.step? settings id := by
  rw [step?, step?, draft_recast hg, recast]

lemma cautions_recast :
    (b.recast g).cautions settings = (b.cautions settings).map (Caution.recast g) := by
  have hunclosed : (b.recast g).unclosed = b.unclosed.map (Caution.recast g) := by
    cases hc : b.closed <;> simp [unclosed, recast, hc, Caution.recast, Caution.Cause.respell]
  rw [cautions, cautions, draft_recast hg, hunclosed, List.map_append]

omit hg

lemma fault_recast : (b.recast g).fault = b.fault.move g.toRelocation := by
  simp [fault, recast, Fault.move]

end Draft

lemma inner_recast (g : Recasting) (depth : ℕ) (ts : List Token) :
    inner depth (ts.map (Token.recast g)) =
      ⟨(inner depth ts).tokens.map (Token.recast g), (inner depth ts).closed,
        (inner depth ts).rest.map (Token.recast g)⟩ := by
  induction ts generalizing depth with
  | nil => rfl
  | cons t ts ih =>
    rw [List.map_cons]
    by_cases ho : t.kind = .braceOpen
    · rw [inner_open depth _ (by simpa using ho), inner_open depth ts ho, ih]
    by_cases hc : t.kind = .braceClose
    · cases depth with
      | zero => rw [inner_close_zero _ (by simpa using hc), inner_close_zero ts hc]; rfl
      | succ d => rw [inner_close_succ d _ (by simpa using hc), inner_close_succ d ts hc, ih]
    · rw [inner_plain depth _ (by simpa using ho) (by simpa using hc), inner_plain depth ts ho hc, ih]
      rfl

lemma outer_recast (g : Recasting) (ts : List Token) :
    outer (ts.map (Token.recast g)) =
      ⟨(outer ts).tokens.map (Token.recast g), (outer ts).closed,
        (outer ts).rest.map (Token.recast g)⟩ := by
  induction ts with
  | nil => rfl
  | cons t ts ih =>
    rw [List.map_cons]
    cases hs : t.is .step with
    | true => simp [outer, hs]
    | false =>
      by_cases ho : t.kind = .braceOpen
      · rw [outer_open _ (by simpa using ho), outer_open ts ho, inner_recast]
      by_cases hc : t.kind = .braceClose
      · rw [outer_close _ (by simpa using hc), outer_close ts hc]; rfl
      · rw [outer_plain _ (by simpa using hs) (by simpa using ho) (by simpa using hc),
          outer_plain ts hs ho hc, ih]

lemma read_recast (g : Recasting) (head : Token) (ts : List Token) :
    read (head.recast g) (ts.map (Token.recast g)) =
      ((read head ts).1.recast g, (read head ts).2.map (Token.recast g)) := by
  cases ts with
  | nil => rfl
  | cons t ts =>
    have ho := outer_recast g (t :: ts)
    rw [List.map_cons] at ho ⊢
    by_cases ht : t.kind = .string
    · have hne : t.kind ≠ .keyword := by simp [ht]
      simp [read, ht, Token.text_recast g hne, outer_recast, recast]
    · simp [read, ht, ho, recast]

end Block

namespace Item

variable (g : Recasting)

def recast : Item → Item
  | name head text => name (head.recast g) text
  | priority word => priority (word.respell g)
  | step b => step (b.recast g)
  | i => i

lemma value?_recast (kind : TokenKind) (ts : List Token) :
    value? kind (ts.map (Token.recast g)) = (value? kind ts).map (Token.recast g) := by
  cases ts with
  | nil => rfl
  | cons t ts =>
    rw [List.map_cons, value?, value?, Token.kind_recast, Token.is_recast]
    split <;> rfl

lemma kind_of_value? {kind : TokenKind} {ts : List Token} {v : Token} (h : value? kind ts = some v) :
    v.kind = kind := by
  cases ts with
  | nil => simp [value?] at h
  | cons t ts =>
    obtain ⟨⟨hk, -⟩, rfl⟩ : (t.kind = kind ∧ t.is .step = false) ∧ t = v := by
      simpa [value?] using h
    exact hk

lemma setting_recast {kind : TokenKind} {item item' : Token → Item}
    (h : ∀ v, v.kind = kind → item' (v.recast g) = (item v).recast g) (ts : List Token) :
    setting kind item' (ts.map (Token.recast g)) =
      ((setting kind item ts).1.map (recast g), (setting kind item ts).2.map (Token.recast g)) := by
  rw [setting, setting, value?_recast]
  cases hv : value? kind ts with
  | none => rfl
  | some v => simp [h v (kind_of_value? hv), List.map_tail]

lemma readAt_recast (t : Token) (ts : List Token) :
    readAt (t.recast g) (ts.map (Token.recast g)) =
      ((readAt t ts).1.map (recast g), (readAt t ts).2.map (Token.recast g)) := by
  have htext {kind : TokenKind} (hkind : kind ≠ .keyword) (v : Token) (hv : v.kind = kind) :
      (v.recast g).text = v.text := Token.text_recast g (hv ▸ hkind)
  rw [readAt, readAt, Token.keyword_recast]
  split
  · exact setting_recast g (fun v hv => by rw [htext (by decide) v hv]; rfl) ts
  · exact setting_recast g (fun v hv => by rw [htext (by decide) v hv]; rfl) ts
  · exact setting_recast g (fun v hv => by rw [htext (by decide) v hv]; rfl) ts
  · exact setting_recast g (fun v hv => by rw [htext (by decide) v hv]; rfl) ts
  · exact setting_recast g (fun v hv => by rw [Token.recast_word g hv]; rfl) ts
  · rw [Block.read_recast]
    rfl
  · rfl

end Item

lemma outline_recast (g : Recasting) (ts : List Token) :
    outline (ts.map (Token.recast g)) = (outline ts).map (Item.recast g) := by
  fun_induction outline ts with
  | case1 => simp [outline_nil]
  | case2 t ts ih =>
    rw [List.map_cons, outline_cons, Item.readAt_recast, List.map_append, ih]

namespace Script

namespace Draft

def recast (g : Recasting) (d : Draft) : Draft :=
  { d with faults := d.faults.map (Fault.move g.toRelocation)
           cautions := d.cautions.map (Caution.recast g) }

variable {g : Recasting} (hg : g.line.Injective) (settings : Settings)

include hg

lemma add_recast (d : Draft) (i : Item) :
    (d.recast g).add settings (i.recast g) = (d.add settings i).recast g := by
  cases i with
  | name head text =>
    by_cases hn : d.name.isEmpty = true
    · simp [add, recast, Item.recast, hn]
    · simp [add, recast, Item.recast, caution, hn, Caution.recast, Caution.Cause.respell]
  | priority word =>
    cases hp : word.keyword.bind priority? with
    | some p => simp [add, recast, Item.recast, hp]
    | none =>
      simp [add, recast, Item.recast, caution, hp, Caution.recast, Caution.Cause.respell]
  | description _ | url _ | tags _ => rfl
  | step b =>
    have hcautions := Block.cautions_recast hg settings b
    have hstep := Block.step?_recast hg settings b (stepId d.blocks)
    simp only [add, Item.recast, addBlock, recast, hcautions, hstep, Block.fault_recast]
    cases b.step? settings (stepId d.blocks) <;> simp

lemma addAll_recast (d : Draft) (is : List Item) :
    (d.recast g).addAll settings (is.map (Item.recast g)) = (d.addAll settings is).recast g := by
  induction is generalizing d with
  | nil => rfl
  | cons i is ih => rw [List.map_cons, addAll_cons, add_recast hg, ih, addAll_cons]

omit hg

lemma reading_recast (d : Draft) : (d.recast g).reading =
    ⟨d.reading.scenario, d.reading.faults.map (Fault.move g.toRelocation),
      d.reading.cautions.map (Caution.recast g)⟩ := by
  rw [reading, reading]
  by_cases hn : d.name.isEmpty = true <;> simp [recast, hn, Fault.move]

end Draft

lemma ofTokens_recast {g : Recasting} (hg : g.line.Injective) (settings : Settings)
    (ts : List Token) : ofTokens settings (ts.map (Token.recast g)) =
      ⟨(ofTokens settings ts).scenario,
        (ofTokens settings ts).faults.map (Fault.move g.toRelocation),
        (ofTokens settings ts).cautions.map (Caution.recast g)⟩ := by
  have hempty : Draft.empty.recast g = Draft.empty := rfl
  have haddAll := Draft.addAll_recast hg settings Draft.empty (outline ts)
  rw [hempty] at haddAll
  rw [ofTokens, outline_recast, haddAll, Draft.reading_recast, ofTokens]

end Script

end ScenarioScript
