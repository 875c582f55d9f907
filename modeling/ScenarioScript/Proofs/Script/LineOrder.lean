import Mathlib.Algebra.Order.Group.Multiset
import ScenarioScript.Proofs.Lexeme.Order
import ScenarioScript.Proofs.Script.BracedBlock
import ScenarioScript.Proofs.Script.Relocated

/-! Lines of a body may change places: a line is one entry wherever it stands, and entries of different
kinds settle different things. -/

namespace ScenarioScript

namespace Entry

inductive Kind
  | expect | timeout | retry | continueOnFailure | run
  deriving DecidableEq

def kind : Entry → Kind
  | expect _ => .expect
  | timeout _ => .timeout
  | retry _ _ => .retry
  | continueOnFailure => .continueOnFailure
  | run _ _ => .run

lemma run?_eq_none {e : Entry} (h : e.kind ≠ .run) : e.run? = none := by
  cases e <;> first | rfl | exact absurd rfl h

end Entry

namespace StepDraft

variable {settings : Settings} {description : String}

def settle (settings : Settings) (d : StepDraft) : Entry → StepDraft
  | .expect text => { d with expected := some text }
  | .timeout ms => { d with timeout := ms }
  | .retry _ count => { d with retries := if count < 0 then 0 else count }
  | .continueOnFailure => { d with continueOnFailure := true }
  | .run head args => { d with action := d.action.or (Action.ofSpan settings head args).toOption }

lemma add_fst (d : StepDraft) (e : Entry) :
    (add settings description d e).1 = d.settle settings e := by
  cases e with
  | expect _ | timeout _ | continueOnFailure => rfl
  | retry line count =>
    simp only [add, settle]
    split <;> rfl
  | run head args =>
    obtain ⟨action, expected, timeout, retries, continues⟩ := d
    cases action with
    | some a => simp [add, settle]
    | none => cases hs : Action.ofSpan settings head args <;> simp [add, settle, hs, Except.toOption]

lemma settle_comm {e f : Entry} (h : e.kind ≠ f.kind) (d : StepDraft) :
    (d.settle settings e).settle settings f = (d.settle settings f).settle settings e := by
  cases e <;> cases f <;> first | rfl | exact absurd rfl h

lemma add_settle_snd {e f : Entry} (h : e.kind ≠ f.kind) (d : StepDraft) :
    (add settings description (d.settle settings e) f).2 = (add settings description d f).2 := by
  cases f with
  | expect _ | timeout _ | continueOnFailure => rfl
  | retry line count =>
    simp only [add]
    split <;> rfl
  | run head args =>
    have ha : (d.settle settings e).action = d.action := by
      rw [← @add_fst settings description, action_add_setting (Entry.run?_eq_none h)]
    simp only [add, ha]
    split
    · rfl
    · cases Action.ofSpan settings head args <;> rfl

def settleWith (settings : Settings) (description : String) (p : StepDraft × Multiset Caution)
    (e : Entry) : StepDraft × Multiset Caution :=
  (p.1.settle settings e, p.2 + (add settings description p.1 e).2)

lemma settleWith_comm {e f : Entry} (h : e.kind ≠ f.kind) (p : StepDraft × Multiset Caution) :
    settleWith settings description (settleWith settings description p e) f =
      settleWith settings description (settleWith settings description p f) e := by
  simp only [settleWith, add_settle_snd h, add_settle_snd h.symm, settle_comm h p.1]
  rw [add_right_comm]

lemma foldl_settleWith (p : StepDraft × Multiset Caution) (es : List Entry) :
    es.foldl (settleWith settings description) p =
      ((addAll settings description p.1 es).1, p.2 + (addAll settings description p.1 es).2) := by
  induction es generalizing p with
  | nil => simp [addAll]
  | cons e es ih =>
    rw [List.foldl_cons, ih, addAll_cons]
    simp [settleWith, add_fst, add_assoc]

lemma addAll_perm {es fs : List Entry} (h : es.Perm fs) (hn : (es.map Entry.kind).Nodup)
    (d : StepDraft) :
    (addAll settings description d es).1 = (addAll settings description d fs).1 ∧
      (addAll settings description d es).2.Perm (addAll settings description d fs).2 := by
  have hcomm (e : Entry) (he : e ∈ es) (f : Entry) (hf : f ∈ es) (p : StepDraft × Multiset Caution) :
      settleWith settings description (settleWith settings description p e) f =
        settleWith settings description (settleWith settings description p f) e := by
    by_cases hef : e = f
    · rw [hef]
    · exact settleWith_comm (fun hk => hef (List.inj_on_of_nodup_map hn he hf hk)) p
  -- Lists of cautions do not commute, but as multisets they do, and a fold may be permuted.
  have hfold := h.foldl_eq' hcomm (d, 0)
  simp only [foldl_settleWith, zero_add, Prod.mk.injEq, Multiset.coe_eq_coe] at hfold
  exact hfold

end StepDraft

namespace Token

def IsSetting (k : Keyword) (kind : TokenKind) : List Token → Prop
  | [head, value] => head.is k = true ∧ value.kind = kind
  | _ => False

instance (k : Keyword) (kind : TokenKind) : DecidablePred (IsSetting k kind)
  | [head, value] => inferInstanceAs (Decidable (head.is k = true ∧ value.kind = kind))
  | [] | [_] | _ :: _ :: _ :: _ => inferInstanceAs (Decidable False)

/-- An action as it is written in a line. Behind its head anything may stand but braces, heads of
actions and settings of the step, of which only a wait may have one: a timeout. -/
def IsAction : List Token → Prop
  | [] => False
  | head :: args => (∃ k ∈ head.keyword, k.isAction = true) ∧
      ∀ t ∈ args, Block.isPlain t = true ∧ ∀ k ∈ t.keyword,
        k.isAction = false ∧ (k.isStepSetting = true → head.is .wait = true ∧ k = .timeout)

instance : DecidablePred IsAction
  | [] => inferInstanceAs (Decidable False)
  | head :: args => inferInstanceAs (Decidable ((∃ k ∈ head.keyword, k.isAction = true) ∧
      ∀ t ∈ args, Block.isPlain t = true ∧ ∀ k ∈ t.keyword,
        k.isAction = false ∧ (k.isStepSetting = true → head.is .wait = true ∧ k = .timeout)))

variable {k : Keyword} {kind : TokenKind} {ts : List Token}

lemma IsSetting.split (h : IsSetting k kind ts) :
    ∃ head value, ts = [head, value] ∧ head.is k = true ∧ value.kind = kind := by
  match ts, h with
  | [head, value], h => exact ⟨head, value, rfl, h⟩

lemma IsSetting.move (h : IsSetting k kind ts) (r : Relocation) :
    IsSetting k kind (ts.map (Token.move r)) := by
  obtain ⟨head, value, rfl, h⟩ := h.split
  exact h

lemma IsAction.split (h : IsAction ts) :
    ∃ head args, ts = head :: args ∧ (∃ k, head.keyword = some k ∧ k.isAction = true) ∧
      ∀ t ∈ args, Block.isPlain t = true ∧ ∀ k, t.keyword = some k →
        k.isAction = false ∧ (k.isStepSetting = true → head.is .wait = true ∧ k = .timeout) := by
  match ts, h with
  | head :: args, h => exact ⟨head, args, rfl, h⟩

end Token

def Entry.Kind.Fits : Entry.Kind → List Token → Prop
  | .expect => Token.IsSetting .expect .string
  | .timeout => Token.IsSetting .timeout .number
  | .retry => Token.IsSetting .retry .number
  | .continueOnFailure => fun ts => ts.map (·.keyword) = [some .continueOnFailure]
  | .run => Token.IsAction

instance : ∀ kind : Entry.Kind, DecidablePred kind.Fits
  | .expect => inferInstanceAs (DecidablePred (Token.IsSetting .expect .string))
  | .timeout => inferInstanceAs (DecidablePred (Token.IsSetting .timeout .number))
  | .retry => inferInstanceAs (DecidablePred (Token.IsSetting .retry .number))
  | .continueOnFailure => fun ts =>
    inferInstanceAs (Decidable (ts.map (·.keyword) = [some .continueOnFailure]))
  | .run => inferInstanceAs (DecidablePred Token.IsAction)

structure BodyLine where
  text : String
  kind : Entry.Kind
  fits : kind.Fits (Token.ofLine 1 text)

namespace Span

variable {head t : Token}

lemma endsAt_eq_false (hline : t.line = head.line)
    (h : ∀ k, t.keyword = some k →
      k.isAction = false ∧ (k.isStepSetting = true → head.is .wait = true ∧ k = .timeout)) :
    endsAt head t = false := by
  rw [endsAt]
  cases hk : t.keyword with
  | none => rfl
  | some k =>
    obtain ⟨hna, hs⟩ := h k hk
    cases hset : k.isStepSetting with
    | false => simp [hna, hset]
    | true =>
      obtain ⟨hw, rfl⟩ := hs hset
      have ht : t.is .timeout = true := by simp [Token.is, hk]
      simp [hna, keeps, hw, ht, hline]

lemma endsAt_eq_true {k : Keyword} (hline : t.line ≠ head.line) (hk : t.keyword = some k)
    (h : k.isAction = true ∨ k.isStepSetting = true) : endsAt head t = true := by
  have hkeeps : keeps head t = false := by simp [keeps, hline]
  rw [endsAt, hk]
  simpa [hkeeps] using h

end Span

lemma Keyword.isStepSetting_of_isAction {k : Keyword} (h : k.isAction = true) :
    k.isStepSetting = false := by
  cases k <;> first | rfl | simp [isAction] at h

namespace Entry.Kind

variable {kind : Entry.Kind} {ts : List Token}

lemma Fits.move (h : kind.Fits ts) (r : Relocation) : kind.Fits (ts.map (Token.move r)) := by
  cases kind with
  | expect | timeout | retry => exact Token.IsSetting.move h r
  | continueOnFailure =>
    change (ts.map (Token.move r)).map (·.keyword) = _
    rw [List.map_map]
    exact h
  | run =>
    cases ts with
    | nil => exact h
    | cons head args =>
      refine ⟨h.1, fun t ht => ?_⟩
      obtain ⟨u, hu, rfl⟩ := List.mem_map.mp ht
      exact h.2 u hu

def Apart (line : ℤ) (ts : List Token) : Prop :=
  ∀ t ∈ ts.head?, t.line ≠ line ∧
    ∃ k, t.keyword = some k ∧ (k.isAction = true ∨ k.isStepSetting = true)

lemma Fits.head (h : kind.Fits ts) :
    ∃ head args, ts = head :: args ∧
      ∃ k, head.keyword = some k ∧ (k.isAction = true ∨ k.isStepSetting = true) := by
  cases kind with
  | expect | timeout | retry =>
    obtain ⟨head, value, rfl, hh, -⟩ := Token.IsSetting.split h
    exact ⟨head, [value], rfl, _, Token.keyword_of_is hh, .inr rfl⟩
  | continueOnFailure =>
    obtain ⟨head, rfl, hk⟩ := List.map_eq_singleton_iff.mp h
    exact ⟨head, [], rfl, _, hk, .inr rfl⟩
  | run =>
    obtain ⟨head, args, rfl, ⟨k, hk, ha⟩, -⟩ := Token.IsAction.split h
    exact ⟨head, args, rfl, k, hk, .inl ha⟩

lemma Fits.isPlain (h : kind.Fits ts) : ∀ t ∈ ts, Block.isPlain t = true := by
  cases kind with
  | expect | timeout | retry =>
    obtain ⟨head, value, rfl, hh, hv⟩ := Token.IsSetting.split h
    simp [Block.isPlain, Block.kind_of_is hh, hv]
  | continueOnFailure =>
    obtain ⟨head, rfl, hk⟩ := List.map_eq_singleton_iff.mp h
    simp [Block.isPlain, Token.kind_of_keyword hk]
  | run =>
    obtain ⟨head, args, rfl, ⟨k, hk, -⟩, hargs⟩ := Token.IsAction.split h
    have hplain : Block.isPlain head = true := by simp [Block.isPlain, Token.kind_of_keyword hk]
    exact List.forall_mem_cons.mpr ⟨hplain, fun t ht => (hargs t ht).1⟩

lemma Fits.entry {line : ℤ} (h : kind.Fits ts) (hline : ∀ t ∈ ts, t.line = line) :
    ∃ e : Entry, e.kind = kind ∧ ∀ rest, Apart line rest → all (ts ++ rest) = e :: all rest := by
  cases kind with
  | expect | timeout | retry =>
    obtain ⟨head, value, rfl, hh, hv⟩ := Token.IsSetting.split h
    exact ⟨_, rfl, fun rest _ => all_argument (Token.keyword_of_is hh) rfl hv rest⟩
  | continueOnFailure =>
    obtain ⟨head, rfl, hk⟩ := List.map_eq_singleton_iff.mp h
    exact ⟨_, rfl, fun rest _ => all_continues hk rest⟩
  | run =>
    obtain ⟨head, args, rfl, ⟨k, hk, ha⟩, hargs⟩ := Token.IsAction.split h
    obtain ⟨hhead, hline⟩ := List.forall_mem_cons.mp hline
    have hset : ∀ k', head.keyword = some k' → k'.isStepSetting = false := fun k' hk' =>
      Keyword.isStepSetting_of_isAction (Option.some.inj (hk.symm.trans hk') ▸ ha)
    have hpass : ∀ t ∈ args, Span.endsAt head t = false := fun t ht =>
      Span.endsAt_eq_false ((hline t ht).trans hhead.symm) (hargs t ht).2
    refine ⟨.run head args, rfl, fun rest hrest => ?_⟩
    have hstop : ∀ t ∈ rest.head?, Span.endsAt head t = true := by
      intro t ht
      obtain ⟨hne, k, hk, hs⟩ := hrest t ht
      exact Span.endsAt_eq_true (hhead ▸ hne) hk hs
    rw [List.cons_append, all_run (Token.kind_of_keyword hk) hset, Span.cut_append hpass hstop]

end Entry.Kind

lemma Entry.move_forget (r : Relocation) (e : Entry) :
    (e.move r).move Relocation.forget = e.move Relocation.forget := by
  cases e with
  | run head args => simp only [move, List.map_map]; rfl
  | _ => rfl

namespace BodyLine

open Relocation

lemma ofLine_eq_map (line : ℤ) (s : String) :
    Token.ofLine line s = (Token.ofLine 1 s).map (Token.move (shift (line - 1))) := by
  rw [← Token.ofLine_shift, add_sub_cancel]

lemma fits_at (l : BodyLine) (line : ℤ) : l.kind.Fits (Token.ofLine line l.text) :=
  ofLine_eq_map line l.text ▸ l.fits.move _

lemma entry_at (l : BodyLine) (line : ℤ) :
    ∃ e : Entry, e.kind = l.kind ∧ Entry.all (Token.ofLine line l.text) = [e] ∧
      ∀ rest, Entry.Kind.Apart line rest →
        Entry.all (Token.ofLine line l.text ++ rest) = e :: Entry.all rest := by
  have hline : ∀ t ∈ Token.ofLine line l.text, t.line = line := fun t ht => Token.mem_ofLine ht
  obtain ⟨e, he, hall⟩ := (l.fits_at line).entry hline
  have hone := hall [] (by simp [Entry.Kind.Apart])
  rw [List.append_nil, Entry.all_nil] at hone
  exact ⟨e, he, hone, hall⟩

def entries (l : BodyLine) : List Entry :=
  (Entry.all (Token.ofLine 1 l.text)).map (Entry.move forget)

lemma entries_at (l : BodyLine) (line : ℤ) :
    (Entry.all (Token.ofLine line l.text)).map (Entry.move forget) = l.entries := by
  rw [ofLine_eq_map, Entry.all_move (shift_injective _), List.map_map]
  exact List.map_congr_left fun e _ => Entry.move_forget _ e

lemma kind_entries (l : BodyLine) : l.entries.map Entry.kind = [l.kind] := by
  obtain ⟨e, he, hone, -⟩ := l.entry_at 1
  rw [entries, hone, List.map_map]
  cases e <;> exact congrArg (fun k => [k]) he

lemma apart_lines (line : ℤ) (ls : List BodyLine) :
    Entry.Kind.Apart line (Token.ofLinesFrom (line + 1) (ls.map text)) := by
  cases ls with
  | nil => simp [Token.ofLinesFrom, Entry.Kind.Apart]
  | cons l ls =>
    obtain ⟨head, args, hts, hk⟩ := (l.fits_at (line + 1)).head
    have hline : head.line = line + 1 := Token.mem_ofLine (hts ▸ List.mem_cons_self)
    rintro t ht
    rw [List.map_cons, Token.ofLinesFrom, hts] at ht
    obtain rfl := Option.some.inj ht
    exact ⟨by omega, hk⟩

lemma all_lines (line : ℤ) (ls : List BodyLine) :
    (Entry.all (Token.ofLinesFrom line (ls.map text))).map (Entry.move forget) =
      ls.flatMap entries := by
  induction ls generalizing line with
  | nil => simp [Token.ofLinesFrom, Entry.all_nil]
  | cons l ls ih =>
    obtain ⟨e, -, hone, hall⟩ := l.entry_at line
    have he := l.entries_at line
    rw [hone] at he
    rw [List.map_cons, Token.ofLinesFrom, hall _ (apart_lines line ls), List.map_cons, ih,
      List.flatMap_cons, ← he]
    rfl

lemma kind_flatMap (ls : List BodyLine) :
    (ls.flatMap entries).map Entry.kind = ls.map kind := by
  rw [List.map_flatMap]
  simp only [kind_entries]
  exact List.map_eq_flatMap.symm

lemma isPlain_lines (line : ℤ) (ls : List BodyLine) :
    ∀ t ∈ Token.ofLinesFrom line (ls.map text), Block.isPlain t = true := by
  induction ls generalizing line with
  | nil => simp [Token.ofLinesFrom]
  | cons l ls ih =>
    intro t ht
    rcases List.mem_append.mp ht with ht | ht
    · exact (l.fits_at line).isPlain t ht
    · exact ih (line + 1) t ht

lemma addAll_lines (settings : Settings) (description : String) (d : StepDraft) (line : ℤ)
    (ls : List BodyLine) :
    (d.addAll settings description (Entry.all (Token.ofLinesFrom line (ls.map text)))).1 =
        (d.addAll settings description (ls.flatMap entries)).1 ∧
      (d.addAll settings description
          (Entry.all (Token.ofLinesFrom line (ls.map text)))).2.map (·.cause) =
        (d.addAll settings description (ls.flatMap entries)).2.map (·.cause) := by
  have hmove := StepDraft.addAll_move forget settings description d
    (Entry.all (Token.ofLinesFrom line (ls.map text)))
  rw [all_lines] at hmove
  rw [hmove, List.map_map]
  exact ⟨rfl, rfl⟩

end BodyLine

lemma Block.Balanced.of_isPlain {ts : List Token} (h : ∀ t ∈ ts, Block.isPlain t = true) :
    Block.Balanced ts := by
  have hkind (t : Token) (ht : t ∈ ts) : t.kind ≠ .braceOpen ∧ t.kind ≠ .braceClose := by
    simpa [Block.isPlain] using h t ht
  have hopens : Block.opens ts = 0 := List.countP_eq_zero.mpr fun t ht => by simp [hkind t ht]
  have hcloses : Block.closes ts = 0 := List.countP_eq_zero.mpr fun t ht => by simp [hkind t ht]
  refine ⟨fun us hus => ?_, hcloses.trans hopens.symm⟩
  have hle : Block.closes us ≤ Block.closes ts := hus.sublist.countP_le
  omega

namespace BracedBlock

lemma reordered {ls ls' : List BodyLine} (h : ls.Perm ls') (hn : (ls.map BodyLine.kind).Nodup)
    {X X' : BracedBlock} {line line' : ℤ}
    (hX : X.inside = Token.ofLinesFrom line (ls.map BodyLine.text))
    (hX' : X'.inside = Token.ofLinesFrom line' (ls'.map BodyLine.text))
    (ht : X.title.map (·.text) = X'.title.map (·.text)) (settings : Settings) :
    (∀ id, X.block.step? settings id = X'.block.step? settings id) ∧
      ((X.block.cautions settings).map (·.cause)).Perm
        ((X'.block.cautions settings).map (·.cause)) := by
  have hplain : X.inside.filter Block.isPlain = X.inside :=
    List.filter_eq_self.mpr (hX ▸ BodyLine.isPlain_lines line ls)
  have hplain' : X'.inside.filter Block.isPlain = X'.inside :=
    List.filter_eq_self.mpr (hX' ▸ BodyLine.isPlain_lines line' ls')
  have hn' : ((ls.flatMap BodyLine.entries).map Entry.kind).Nodup := BodyLine.kind_flatMap ls ▸ hn
  rw [X.block_eq, X'.block_eq, hplain, hplain', hX, hX', ← ht]
  set description := (X.title.map (·.text)).getD ""
  obtain ⟨hd, hc⟩ := BodyLine.addAll_lines settings description StepDraft.empty line ls
  obtain ⟨hd', hc'⟩ := BodyLine.addAll_lines settings description StepDraft.empty line' ls'
  obtain ⟨hdraft, hcautions⟩ := @StepDraft.addAll_perm settings description _ _
    (h.flatMap_right BodyLine.entries) hn' StepDraft.empty
  constructor
  · intro id
    simp only [Block.step?, Block.draft, hd, hd', hdraft]
  · simp only [Block.cautions, Block.unclosed, Block.draft, if_true, List.nil_append, hc, hc']
    exact hcautions.map _

end BracedBlock

end ScenarioScript
