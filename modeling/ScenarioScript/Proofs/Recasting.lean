import ScenarioScript.Proofs.Relocation
import ScenarioScript.Proofs.Walk.Action

/-! Tokens with other spellings of their words and at other places. What an action takes from tokens
depends on their kinds, on the keywords that they spell and on the texts of those that spell none. -/

namespace ScenarioScript

/-- Another spelling for every word, of the same keyword if it spells one. -/
structure Recasting extends Relocation where
  word : String → String
  keeps : ∀ s, Keyword.ofText? (word s) = Keyword.ofText? s

def Relocation.recasting (r : Relocation) : Recasting :=
  { r with word := id, keeps := fun _ => rfl }

namespace Token

def respell (g : Recasting) (t : Token) : Token :=
  { t.move g.toRelocation with text := g.word t.text }

def recast (g : Recasting) (t : Token) : Token :=
  if t.kind = .keyword then t.respell g else t.move g.toRelocation

variable (g : Recasting) (t : Token)

lemma recast_word {t : Token} (h : t.kind = .keyword) : t.recast g = t.respell g :=
  if_pos h

@[simp] lemma kind_respell : (t.respell g).kind = t.kind := rfl

@[simp] lemma text_respell : (t.respell g).text = g.word t.text := rfl

@[simp] lemma line_respell : (t.respell g).line = g.line t.line := rfl

@[simp] lemma keyword_respell : (t.respell g).keyword = t.keyword := by
  simp only [keyword, respell, kind_move, g.keeps]

@[simp] lemma kind_recast : (t.recast g).kind = t.kind := by
  rw [recast]
  split <;> rfl

@[simp] lemma line_recast : (t.recast g).line = g.line t.line := by
  rw [recast]
  split <;> rfl

@[simp] lemma column_recast : (t.recast g).column = g.column t.line t.column := by
  rw [recast]
  split <;> rfl

@[simp] lemma keyword_recast : (t.recast g).keyword = t.keyword := by
  rw [recast]
  split
  · exact keyword_respell g t
  · rfl

@[simp] lemma is_recast (k : Keyword) : (t.recast g).is k = t.is k := by
  simp [is]

lemma text_recast {t : Token} (h : t.kind ≠ .keyword) : (t.recast g).text = t.text := by
  rw [recast, if_neg h, text_move]

lemma recast_recasting (r : Relocation) : recast r.recasting = move r := by
  funext t
  rw [recast]
  split <;> rfl

end Token

namespace Arguments

variable (g : Recasting) (settings : Settings) {kind : TokenKind}

lemma firstText?_recast (h : kind ≠ .keyword) (args : List Token) :
    firstText? kind (args.map (Token.recast g)) = firstText? kind args := by
  induction args with
  | nil => rfl
  | cons t args ih =>
    by_cases ht : t.kind = kind
    · have hne : t.kind ≠ .keyword := ht ▸ h
      simp [firstText?, ht, Token.text_recast g hne]
    · simpa [firstText?, ht] using ih

lemma target?_recast (args : List Token) : target? (args.map (Token.recast g)) = target? args := by
  rw [target?, firstText?_recast g (by decide), target?]

lemma has_recast (k : Keyword) (args : List Token) :
    has k (args.map (Token.recast g)) = has k args := by
  simp [has, Function.comp_def]

lemma lastButton_recast (args : List Token) :
    lastButton (args.map (Token.recast g)) = lastButton args := by
  simp [lastButton, List.filterMap_map]

lemma modifiers_recast (args : List Token) :
    modifiers (args.map (Token.recast g)) = modifiers args := by
  simp [modifiers, List.filterMap_map]

lemma front?_recast (h : kind ≠ .keyword) (args : List Token) :
    front? kind (args.map (Token.recast g)) = front? kind args := by
  cases args with
  | nil => rfl
  | cons t args =>
    by_cases ht : t.kind = kind
    · have hne : t.kind ≠ .keyword := ht ▸ h
      simp [front?, ht, Token.text_recast g hne]
    · simp [front?, ht]

lemma foldl_readScroll_recast (d : ScrollDraft) (args : List Token) :
    (args.map (Token.recast g)).foldl (readScroll settings) d = args.foldl (readScroll settings) d := by
  have hread (d : ScrollDraft) (t : Token) :
      readScroll settings d (t.recast g) = readScroll settings d t := by
    cases hk : t.kind with
    | targetId | number =>
      have hne : t.kind ≠ .keyword := by simp [hk]
      simp [readScroll, hk, Token.text_recast g hne]
    | _ => simp [readScroll, hk]
  rw [List.foldl_map]
  simp only [hread]

lemma kind_ne_of_condition? {k : Keyword} {condition : String → WaitCondition}
    (h : condition? k = some (kind, condition)) : kind ≠ .keyword := by
  cases k <;> simp [condition?] at h <;> simp [← h.1]

lemma readWait_recast (d : WaitDraft) (args : List Token) :
    readWait settings d (args.map (Token.recast g)) = readWait settings d args := by
  have hnumber := front?_recast g (show TokenKind.number ≠ .keyword by decide)
  fun_induction readWait settings d args with
  | case2 d t rest hk ms ih =>
    have hne : t.kind ≠ .keyword := by simp [hk]
    simpa [readWait, hk, Token.text_recast g hne] using ih
  | case4 d t rest hn k hk kind condition hc text hf ih =>
    have hfront := front?_recast g (kind_ne_of_condition? hc) rest
    simpa [readWait, hn, hk, hc, hf, hfront, ← List.map_tail] using ih
  | case5 d t rest hn k hk kind condition hc hf ih =>
    have hfront := front?_recast g (kind_ne_of_condition? hc) rest
    simpa [readWait, hn, hk, hc, hf, hfront] using ih
  | _ => simp_all [readWait, ← List.map_tail]

lemma readAssertion_recast (found : Assertion) (args : List Token) :
    readAssertion found (args.map (Token.recast g)) = readAssertion found args := by
  have hstring := front?_recast g (show TokenKind.string ≠ .keyword by decide)
  fun_induction readAssertion found args <;> simp_all [readAssertion, ← List.map_tail]

lemma readChoice_recast (c : Choice) (args : List Token) :
    readChoice c (args.map (Token.recast g)) = readChoice c args := by
  have hstring := front?_recast g (show TokenKind.string ≠ .keyword by decide)
  have hnumber := front?_recast g (show TokenKind.number ≠ .keyword by decide)
  fun_induction readChoice c args <;> simp_all [readChoice, ← List.map_tail]

end Arguments

def Caution.Cause.respell (word : String → String) : Cause → Cause
  | unknownPriority w => unknownPriority (word w)
  | furtherAction description w => furtherAction description (word w)
  | unknownAction w => unknownAction (word w)
  | incompleteAction w => incompleteAction (word w)
  | c => c

def Caution.recast (g : Recasting) (c : Caution) : Caution :=
  ⟨g.line c.line, c.cause.respell g.word⟩

namespace Action

open Arguments

variable (g : Recasting) (settings : Settings)

lemma ofArguments?_recast (args : List Token) :
    ofArguments? settings (args.map (Token.recast g)) = ofArguments? settings args := by
  have hstring := firstText?_recast g (show TokenKind.string ≠ .keyword by decide)
  funext k
  cases k <;> simp [ofArguments?, target?_recast, hstring, has_recast, lastButton_recast,
    modifiers_recast, foldl_readScroll_recast, readWait_recast, readAssertion_recast,
    readChoice_recast]

lemma ofSpan_recast (head : Token) (args : List Token) :
    ofSpan settings (head.respell g) (args.map (Token.recast g)) =
      (ofSpan settings head args).mapError (Caution.recast g) := by
  rw [ofSpan, ofSpan, Token.keyword_respell, ofArguments?_recast]
  cases head.keyword.bind (ofArguments? settings args) with
  | none => rfl
  | some a => cases a <;> rfl

end Action

end ScenarioScript
