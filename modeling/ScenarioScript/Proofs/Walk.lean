import Mathlib.Data.Int.Notation
import Mathlib.Data.List.Basic
import ScenarioScript.Walk

/-! Walks that end without a breakdown. A walk that leaves the cursor alone is equal to what it
gives; for the others there is a rule for each way of putting walks together. -/

namespace ScenarioScript

namespace Cursor

def past (c : Cursor) (t : Token) (ts : List Token) : Cursor :=
  { c with pending := ts, line := t.line, column := t.column }

def noting (c : Cursor) (cs : List Caution) : Cursor :=
  { c with cautions := c.cautions ++ cs }

@[simp]
lemma noting_nil (c : Cursor) : c.noting [] = c := by
  simp [noting]

@[simp]
lemma noting_noting (c : Cursor) (cs ds : List Caution) :
    (c.noting cs).noting ds = c.noting (cs ++ ds) := by
  simp [noting]

end Cursor

namespace Walk

variable {α β σ : Type}

lemma on_pure (a : α) (c : Cursor) : (pure a : Walk α).on c = (.ok a, c) :=
  rfl

lemma on_bind {w : Walk α} {f : α → Walk β} {c d : Cursor} {a : α} (h : w.on c = (.ok a, d)) :
    (w >>= f).on c = (f a).on d := by
  have hw : (ExceptT.run w).run c = (.ok a, d) := h
  rw [on, ExceptT.run_bind, StateT.run_bind, hw]
  rfl

lemma eq_of_on {v w : Walk α} (h : ∀ c, v.on c = w.on c) : v = w :=
  funext h

def Ends (w : Walk α) (c : Cursor) (post : α → Cursor → Prop) : Prop :=
  ∃ a d, w.on c = (.ok a, d) ∧ post a d

namespace Ends

variable {c : Cursor} {w : Walk α} {post : α → Cursor → Prop}

lemma of_pure {a : α} (h : post a c) : (pure a : Walk α).Ends c post :=
  ⟨a, c, rfl, h⟩

lemma mono {post' : α → Cursor → Prop} (h : w.Ends c post) (hp : ∀ a d, post a d → post' a d) :
    w.Ends c post' := by
  obtain ⟨a, d, hw, ha⟩ := h
  exact ⟨a, d, hw, hp a d ha⟩

lemma bind {f : α → Walk β} {post' : β → Cursor → Prop} (h : w.Ends c post)
    (hf : ∀ a d, post a d → (f a).Ends d post') : (w >>= f).Ends c post' := by
  obtain ⟨a, d, hw, ha⟩ := h
  obtain ⟨b, e, hb, hp⟩ := hf a d ha
  exact ⟨b, e, by rw [on_bind hw, hb], hp⟩

end Ends

section Loop

variable {size : σ → Cursor → ℕ} {turn : σ → Walk (Turn σ β)} {s s' : σ} {b : β}

lemma on_loop_done {c d : Cursor} (h : (turn s).on c = (.ok (.done b), d)) :
    (loop size turn s).on c = (.ok b, d) := by
  change loopFrom size turn s c = _
  rw [loopFrom, h]

lemma on_loop_again {c d : Cursor} (h : (turn s).on c = (.ok (.again s'), d))
    (hlt : size s' d < size s c) :
    (loop size turn s).on c = (loop size turn s').on d := by
  change loopFrom size turn s c = loopFrom size turn s' d
  rw [loopFrom, h]
  exact if_pos hlt

lemma loop_done (h : turn s = pure (.done b)) : loop size turn s = pure b :=
  eq_of_on fun c => on_loop_done (by rw [h, on_pure])

/-- What every turn keeps holds when the loop ends, and it does end if every turn but the last
makes the size smaller. -/
lemma Ends.of_loop (inv : σ → Cursor → Prop) {post : β → Cursor → Prop}
    (hturn : ∀ s c, inv s c → (turn s).Ends c fun t d => match t with
      | .again s' => inv s' d ∧ size s' d < size s c
      | .done b => post b d)
    {s : σ} {c : Cursor} (h : inv s c) : (loop size turn s).Ends c post := by
  induction hn : size s c using Nat.strongRecOn generalizing s c with
  | _ n ih =>
    obtain ⟨t, d, ht, hp⟩ := hturn s c h
    cases t with
    | done b => exact ⟨b, d, on_loop_done ht, hp⟩
    | again s' =>
      obtain ⟨hi, hlt⟩ := hp
      obtain ⟨b, e, hb, hp⟩ := ih _ (hn ▸ hlt) hi rfl
      exact ⟨b, e, by rw [on_loop_again ht hlt, hb], hp⟩

end Loop

section Along

variable {l : List α} {turn : σ × ℕ → Walk (Turn (σ × ℕ) β)} {s s' : σ} {i : ℕ} {b : β}

lemma along_done (h : turn (s, i) = pure (.done b)) : along l turn s i = pure b :=
  loop_done h

lemma on_along_past {turn : List α → σ × ℕ → Walk (Turn (σ × ℕ) β)} {pre rest : List α}
    (taken : List α) {c d : Cursor} {r : Except Breakdown β × Cursor} (hne : taken ≠ [])
    (h : (turn (pre ++ (taken ++ rest)) (s, pre.length)).on c =
      (.ok (.again (s', pre.length + taken.length)), d))
    (hr : (along ((pre ++ taken) ++ rest) (turn ((pre ++ taken) ++ rest)) s'
      (pre ++ taken).length).on d = r) :
    (along (pre ++ (taken ++ rest)) (turn (pre ++ (taken ++ rest))) s pre.length).on c = r := by
  have hpos : 0 < taken.length := List.length_pos_iff.mpr hne
  rw [List.append_assoc, List.length_append] at hr
  rw [← hr]
  refine on_loop_again h ?_
  simp only [List.length_append]
  omega

lemma along_past {turn : List α → σ × ℕ → Walk (Turn (σ × ℕ) β)} {pre rest : List α}
    (taken : List α) {w : Walk β} (hne : taken ≠ [])
    (h : turn (pre ++ (taken ++ rest)) (s, pre.length) =
      pure (.again (s', pre.length + taken.length)))
    (hw : along ((pre ++ taken) ++ rest) (turn ((pre ++ taken) ++ rest)) s' (pre ++ taken).length =
      w) :
    along (pre ++ (taken ++ rest)) (turn (pre ++ (taken ++ rest))) s pre.length = w :=
  eq_of_on fun c => on_along_past taken hne (by rw [h, on_pure]) (by rw [hw])

end Along

lemma item_append (family : String) (pre : List α) (a : α) (l : List α) :
    item family (pre ++ a :: l) pre.length = pure a := by
  simp [item]

@[simp]
lemma charAt_append (pre : List Char) (c : Char) (cs : List Char) :
    charAt (pre ++ c :: cs) pre.length = pure c :=
  item_append _ _ _ _

@[simp]
lemma tokenAt_append (pre : List Token) (t : Token) (ts : List Token) :
    tokenAt (pre ++ t :: ts) pre.length = pure t :=
  item_append _ _ _ _

lemma entry_of {table : Keyword → Option α} {k : Option Keyword} {a : α}
    (h : k.bind table = some a) : entry table k = pure a := by
  rw [entry, h]

lemma named_of {set : String → Except Misnomer α} {s : String} {a : α} (h : set s = .ok a) :
    named set s = pure a := by
  rw [named, h]

@[simp]
lemma toInt?_eq (s : String) : toInt? s = pure (Decimal.read? s) := by
  unfold toInt? integer
  cases Decimal.read? s <;> rfl

lemma foldlM_eq {f : σ → α → Walk σ} {g : σ → α → σ} (h : ∀ s a, f s a = pure (g s a)) (s : σ)
    (l : List α) : l.foldlM f s = pure (l.foldl g s) := by
  induction l generalizing s with
  | nil => rfl
  | cons a l ih => rw [List.foldlM_cons, h, pure_bind, ih, List.foldl_cons]

lemma mapM_eq {f : α → Walk β} {g : α → Option β} {l : List α}
    (h : ∀ a b, g a = some b → f a = pure b) :
    (l.filter fun a => (g a).isSome).mapM f = pure (l.filterMap g) := by
  induction l with
  | nil => rfl
  | cons a l ih =>
    cases hg : g a with
    | none => rw [List.filter_cons_of_neg (by simp [hg]), List.filterMap_cons_none hg, ih]
    | some b =>
      rw [List.filter_cons_of_pos (by simp [hg]), List.filterMap_cons_some hg, List.mapM_cons,
        h a b hg, ih]
      rfl

section Cursor

variable {c : Cursor} {t : Token} {ts : List Token}

@[simp]
lemma on_hasNext (c : Cursor) : hasNext.on c = (.ok c.hasNext, c) :=
  rfl

@[simp]
lemma on_peek? (c : Cursor) : peek?.on c = (.ok c.peek?, c) :=
  rfl

lemma on_next (h : c.pending = t :: ts) : next.on c = (.ok t, c.past t ts) := by
  have hc : c.next? = some (t, c.past t ts) := by
    rw [Cursor.next?, h]
    rfl
  have hget : (get : Walk Cursor).on c = (.ok c, c) := rfl
  rw [next, on_bind hget, hc]
  rfl

@[simp]
lemma on_caution (cause : Caution.Cause) (anchor : Token) (c : Cursor) :
    (caution cause anchor).on c = (.ok (), c.noting [⟨anchor.line, cause⟩]) :=
  rfl

end Cursor

end Walk

end ScenarioScript
