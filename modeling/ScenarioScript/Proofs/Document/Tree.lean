import ScenarioScript.Proofs.Document.Yaml
import ScenarioScript.Yaml.Compose

namespace ScenarioScript.Document.Yaml

open ScenarioScript.Yaml (Point Symbol Tree plainKind Scalar.style Scalar.plainKind_of_style
  plainKind_chars)
open ScenarioScript.Yaml.Point (ofText)
open ScenarioScript.Yaml.Compose (Feed Context Handles node content nodeUnless valueUnless looseItems
  blockFields root document ends defaultHandles)

mutual

def tree : Document → Tree
  | .null => .scalar none (.plain .null) (ofText "null")
  | .bool b => .scalar none (.plain .bool) (ofText (if b then "true" else "false"))
  | .int n => .scalar none (.plain .int) (ofText (Decimal.text n))
  | .text s => .scalar none (.plain .text) (ofText s)
  | .list ds => .ofItems .sequence (trees ds)
  | .record fs => .ofFields .mapping (fieldTrees fs)

def trees : List Document → List Tree
  | [] => []
  | d :: ds => tree d :: trees ds

def fieldTrees : List (String × Document) → List (Tree × Tree)
  | [] => []
  | (k, d) :: fs => (.scalar none (.plain .text) (ofText k), tree d) :: fieldTrees fs

end

def feed (xs : List Symbol) : Feed :=
  ⟨⟨xs, none⟩, []⟩

inductive Starts : Symbol → Prop
  | scalar (ps plain) : Starts (.scalar ps plain)
  | listOpen : Starts .listOpen
  | mappingStart : Starts .mappingStart
  | entry : Starts .entry

variable {n : ℕ} {handles : Handles} {ctx : Context} {x : Symbol} {xs rest : List Symbol}

lemma node_eq (h : Starts x) : node (n + 1) handles ctx (feed (x :: xs)) =
    content n handles ctx ⟨none, none⟩ (feed (x :: xs)) := by
  cases h <;> rfl

lemma nodeUnless_eq {stops : List Symbol} (h : x ∉ stops) :
    nodeUnless (n + 1) handles ctx stops (feed (x :: xs)) = node n handles ctx (feed (x :: xs)) := by
  simp [nodeUnless, Feed.meets, Feed.peek, feed, h, bind, Except.bind, pure, Except.pure]

lemma content_scalar (s : String) (plain : Bool) :
    content (n + 1) handles ctx ⟨none, none⟩ (feed (.scalar (ofText s) plain :: xs)) =
      .ok (.scalar none (.plain (if plain then plainKind s.toList else .text)) (ofText s), feed xs) := by
  have hcontent : content (n + 1) handles ctx ⟨none, none⟩ (feed (.scalar (ofText s) plain :: xs)) =
      .ok (.scalar none (.plain (if plain then plainKind (Point.shapes (ofText s)) else .text))
        (ofText s), feed xs) := rfl
  rw [hcontent, ofText, Point.shapes_chars]

lemma content_mapping (hctx : ctx ≠ .flow) {fs : List (Tree × Tree)}
    (h : blockFields n handles (feed xs) = .ok (fs, feed rest)) :
    content (n + 1) handles ctx ⟨none, none⟩ (feed (.mappingStart :: xs)) =
      .ok (.ofFields .mapping fs, feed rest) := by
  have hcontent : content (n + 1) handles ctx ⟨none, none⟩ (feed (.mappingStart :: xs)) =
      (blockFields n handles (feed xs)).bind fun r => .ok (.ofFields .mapping r.1, r.2) := by
    cases ctx with
    | block | inMapping => rfl
    | flow => exact absurd rfl hctx
  rw [hcontent, h]
  rfl

lemma content_items {ts : List Tree}
    (h : looseItems n handles (feed (.entry :: xs)) = .ok (ts, feed rest)) :
    content (n + 1) handles .inMapping ⟨none, none⟩ (feed (.entry :: xs)) =
      .ok (.ofItems .sequence ts, feed rest) := by
  have hcontent : content (n + 1) handles .inMapping ⟨none, none⟩ (feed (.entry :: xs)) =
      (looseItems n handles (feed (.entry :: xs))).bind fun r =>
        .ok (.ofItems .sequence r.1, r.2) := rfl
  rw [hcontent, h]
  rfl

/-- A document's symbols are made into its tree, whatever symbols stand behind them. A list that is
no field needs a block of its own, and behind one that is, no further item may stand. -/
def Composed (d : Document) : Prop :=
  ∀ (n : ℕ) (handles : Handles) (ctx : Context) (rest : List Symbol),
    4 * (symbols d).length + 3 ≤ n → (ctx = .block ∨ ctx = .inMapping) →
    (IsItem d ∨ ctx = .inMapping ∧ rest.head? ≠ some .entry) →
      node n handles ctx (feed (symbols d ++ rest)) = .ok (tree d, feed rest)

lemma exists_symbols_eq_cons (d : Document) : ∃ x xs, symbols d = x :: xs ∧ Starts x ∧
    (IsItem d → x ≠ .entry) := by
  cases d with
  | list ds =>
    cases ds with
    | nil => exact ⟨_, _, by rw [symbols], .listOpen, fun h => h.elim⟩
    | cons d ds => exact ⟨_, _, by rw [symbols, itemSymbols, List.cons_append], .entry, fun h => h.elim⟩
  | record fs => exact ⟨_, _, by rw [symbols, List.cons_append], .mappingStart, by simp⟩
  | null | bool | int | text => exact ⟨_, _, by rw [symbols], .scalar _ _, by simp⟩

def fieldStops : List Symbol :=
  [.key, .value, .blockEnd]

lemma blockFields_cons {ts : List (Tree × Tree)} {t u : Tree} {ys zs : List Symbol}
    (hkey : nodeUnless (n + 1) handles .inMapping fieldStops (feed xs) =
      .ok (t, feed (.value :: ys)))
    (hvalue : nodeUnless n handles .inMapping fieldStops (feed ys) = .ok (u, feed zs))
    (hmore : blockFields (n + 1) handles (feed zs) = .ok (ts, feed rest)) :
    blockFields (n + 2) handles (feed (.key :: xs)) = .ok ((t, u) :: ts, feed rest) := by
  have hvalue : valueUnless (n + 1) handles .inMapping fieldStops (feed (.value :: ys)) =
      .ok (u, feed zs) := hvalue
  have hfields : blockFields (n + 2) handles (feed (.key :: xs)) =
      (nodeUnless (n + 1) handles .inMapping fieldStops (feed xs)).bind fun r =>
        (valueUnless (n + 1) handles .inMapping fieldStops r.2).bind fun s =>
          (blockFields (n + 1) handles s.2).bind fun t => .ok ((r.1, s.1) :: t.1, t.2) := rfl
  rw [hfields, hkey, Except.bind, hvalue, Except.bind, hmore]
  rfl

lemma Starts.notMem (h : Starts x) : x ∉ fieldStops := by
  cases h <;> simp [fieldStops]

lemma blockFields_fieldSymbols {fs : List (String × Document)}
    (htexts : ∀ f ∈ fs, plainKind f.1.toList = .text) (hparts : ∀ f ∈ fs, Composed f.2)
    (hn : 4 * (fieldSymbols fs).length + 1 ≤ n) :
    blockFields n handles (feed (fieldSymbols fs ++ .blockEnd :: rest)) =
      .ok (fieldTrees fs, feed rest) := by
  induction fs generalizing n with
  | nil =>
    obtain ⟨m, rfl⟩ : ∃ m, n = m + 1 := ⟨n - 1, by omega⟩
    simp only [fieldSymbols, fieldTrees]
    rfl
  | cons f fs ih =>
    obtain ⟨k, d⟩ := f
    simp only [fieldSymbols, List.length_append, List.length_cons] at hn
    obtain ⟨m, rfl⟩ : ∃ m, n = m + 5 := ⟨n - 5, by omega⟩
    obtain ⟨x, xs, hx, hstarts, -⟩ := exists_symbols_eq_cons d
    have hkey (ys : List Symbol) : nodeUnless (m + 4) handles .inMapping fieldStops
        (feed (.scalar (ofText k) true :: ys)) =
          .ok (.scalar none (.plain .text) (ofText k), feed ys) := by
      rw [nodeUnless_eq (Starts.scalar _ true).notMem, node_eq (.scalar _ true), content_scalar,
        if_pos rfl, htexts (k, d) (by simp)]
    have hbehind : (fieldSymbols fs ++ .blockEnd :: rest).head? ≠ some .entry := by
      cases fs <;> simp [fieldSymbols]
    have hd : Composed d := hparts (k, d) (by simp)
    have hvalue := hd (m + 2) handles .inMapping (fieldSymbols fs ++ .blockEnd :: rest) (by omega)
      (.inr rfl) (.inr ⟨rfl, hbehind⟩)
    rw [hx, List.cons_append, ← nodeUnless_eq hstarts.notMem, ← List.cons_append, ← hx] at hvalue
    have hmore := @ih (m + 4) (fun f hf => htexts f (by simp [hf])) (fun f hf => hparts f (by simp [hf]))
      (by omega)
    simpa [fieldSymbols, fieldTrees] using blockFields_cons (hkey _) hvalue hmore

lemma looseItems_cons {t : Tree} {ts : List Tree} {ys : List Symbol}
    (hitem : nodeUnless n handles .block [.entry, .key, .value, .blockEnd] (feed xs) =
      .ok (t, feed ys))
    (hmore : looseItems n handles (feed ys) = .ok (ts, feed rest)) :
    looseItems (n + 1) handles (feed (.entry :: xs)) = .ok (t :: ts, feed rest) := by
  have hitems : looseItems (n + 1) handles (feed (.entry :: xs)) =
      (nodeUnless n handles .block [.entry, .key, .value, .blockEnd] (feed xs)).bind fun r =>
        (looseItems n handles r.2).bind fun s => .ok (r.1 :: s.1, s.2) := rfl
  rw [hitems, hitem, Except.bind, hmore]
  rfl

lemma looseItems_nil (h : rest.head? ≠ some .entry) :
    looseItems (n + 1) handles (feed rest) = .ok ([], feed rest) := by
  cases rest with
  | nil => rfl
  | cons x xs =>
    have hx : x ≠ .entry := by simpa using h
    cases x <;> first | rfl | exact absurd rfl hx

lemma looseItems_itemSymbols {ds : List Document} (hitems : ∀ d ∈ ds, IsItem d)
    (hparts : ∀ d ∈ ds, Composed d) (hrest : rest.head? ≠ some .entry)
    (hn : 4 * (itemSymbols ds).length + 1 ≤ n) :
    looseItems n handles (feed (itemSymbols ds ++ rest)) = .ok (trees ds, feed rest) := by
  induction ds generalizing n with
  | nil =>
    obtain ⟨m, rfl⟩ : ∃ m, n = m + 1 := ⟨n - 1, by omega⟩
    rw [itemSymbols, trees, List.nil_append]
    exact looseItems_nil hrest
  | cons d ds ih =>
    simp only [itemSymbols, List.length_append, List.length_cons] at hn
    obtain ⟨m, rfl⟩ : ∃ m, n = m + 2 := ⟨n - 2, by omega⟩
    obtain ⟨x, xs, hx, hstarts, hentry⟩ := exists_symbols_eq_cons d
    have hx' : x ∉ [Symbol.entry, .key, .value, .blockEnd] :=
      List.not_mem_cons_of_ne_of_not_mem (hentry (hitems d (by simp))) hstarts.notMem
    have hitem := hparts d (by simp) m handles .block (itemSymbols ds ++ rest) (by omega)
      (.inl rfl) (.inl (hitems d (by simp)))
    rw [hx, List.cons_append, ← nodeUnless_eq hx', ← List.cons_append, ← hx] at hitem
    have hmore := @ih (m + 1) (fun e he => hitems e (by simp [he]))
      (fun e he => hparts e (by simp [he])) (by omega)
    simpa [itemSymbols, trees] using looseItems_cons hitem hmore

lemma composed_scalar {d : Document} {s : String} {plain : Bool}
    (hd : symbols d = [.scalar (ofText s) plain])
    (ht : tree d = .scalar none (.plain (if plain then plainKind s.toList else .text)) (ofText s)) :
    Composed d := by
  intro n handles ctx rest hn hctx hlist
  obtain ⟨m, rfl⟩ : ∃ m, n = m + 2 := ⟨n - 2, by omega⟩
  rw [hd, List.singleton_append, node_eq (.scalar _ plain), content_scalar, ht]

lemma Legible.composed {room : ℕ} {d : Document} (h : Legible room d) : Composed d := by
  induction h with
  | null => exact composed_scalar (by rw [symbols]) (by rw [tree]; rfl)
  | bool b => exact composed_scalar (by rw [symbols]) (by cases b <;> rw [tree] <;> rfl)
  | @int _ n short =>
    refine composed_scalar (by rw [symbols]) ?_
    rw [tree, if_pos rfl, Decimal.text, String.toList_ofList, plainKind_chars]
  | @text _ s feeds =>
    refine composed_scalar (by rw [symbols]) ?_
    rw [tree]
    split
    · next h => rw [Scalar.plainKind_of_style (by simpa using h)]
    · rfl
  | @list room ds items parts ih =>
    intro n handles ctx rest hn hctx hlist
    obtain ⟨rfl, hrest⟩ := hlist.resolve_left fun h => h.elim
    obtain ⟨m, rfl⟩ : ∃ m, n = m + 3 := ⟨n - 3, by omega⟩
    cases ds with
    | nil =>
      simp only [symbols, tree, trees]
      rfl
    | cons d ds =>
      rw [symbols] at hn ⊢
      have hitems := @looseItems_itemSymbols (m + 1) handles rest (d :: ds) items ih hrest (by omega)
      rw [itemSymbols] at hitems ⊢
      rw [tree]
      exact (node_eq .entry).trans (content_items hitems)
  | @record room fs ne keys texts distinct parts ih =>
    intro n handles ctx rest hn hctx hlist
    obtain ⟨m, rfl⟩ : ∃ m, n = m + 2 := ⟨n - 2, by omega⟩
    simp only [symbols, List.length_append, List.length_cons] at hn
    have hfields := @blockFields_fieldSymbols m handles rest fs texts ih (by omega)
    have hflow : ctx ≠ .flow := by
      rintro rfl
      simp at hctx
    rw [symbols, tree, List.append_assoc, List.cons_append]
    exact (node_eq .mappingStart).trans (content_mapping hflow hfields)

theorem document_symbols {room : ℕ} {fs : List (String × Document)}
    (h : Legible (room + 1) (record fs)) :
    document ⟨symbols (record fs), none⟩ =
      .ok (some (tree (record fs))) := by
  have hnode := h.composed (4 * (symbols (record fs)).length + 4) defaultHandles .block []
    (by omega) (.inl rfl) (.inl trivial)
  obtain ⟨xs, hxs⟩ : ∃ xs, symbols (record fs) = .mappingStart :: xs := ⟨_, by rw [symbols]; rfl⟩
  rw [List.append_nil, hxs] at hnode
  have hroot : root defaultHandles false (feed (.mappingStart :: xs)) =
      node (4 * (Symbol.mappingStart :: xs).length + 4) defaultHandles .block
        (feed (.mappingStart :: xs)) := rfl
  have hdocument : document ⟨.mappingStart :: xs, none⟩ =
      (root defaultHandles false (feed (.mappingStart :: xs))).bind fun r =>
        (ends r.2.symbols.fault r.2.symbols.list).bind fun _ => .ok (some r.1) := rfl
  rw [hxs, hdocument, hroot, hnode]
  rfl

end ScenarioScript.Document.Yaml
