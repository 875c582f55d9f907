import ScenarioScript.Document.Yaml
import ScenarioScript.Proofs.Yaml.Permitted
import ScenarioScript.Proofs.Yaml.Scalars

/-! The symbols of a document's YAML text are those that the document is told by: a mark for each
key and each item, and the ends of the records. -/

namespace ScenarioScript.Document.Yaml

open ScenarioScript.Yaml (Point Symbol Progress Place LineStart plainKind OnlyFeeds Scalar.isBreak
  Scalar.style Scalar.spaces Scalar.blankAhead Scalar.isBlank Scalar.unmarked_of_word
  Scalar.unmarked_chars)
open ScenarioScript.Yaml.Point (ofText)
open ScenarioScript.Yaml.Progress (Steps Arrives Mapping)

def IsItem : Document → Prop
  | list _ => False
  | _ => True

/-- Documents that are told apart in their YAML text: records are not empty, and their keys are plain
words; lists do not hold lists; line feeds alone break texts. At most `room` records stand in one
another. -/
inductive Legible : ℕ → Document → Prop
  | null {room} : Legible room null
  | bool {room} (b) : Legible room (bool b)
  | int {room n} (short : Decimal.isShort n = true) : Legible room (int n)
  | text {room s} (feeds : OnlyFeeds s) : Legible room (Document.text s)
  | list {room ds} (items : ∀ d ∈ ds, IsItem d) (parts : ∀ d ∈ ds, Legible room d) :
      Legible room (list ds)
  | record {room fs} (ne : fs ≠ []) (keys : ∀ f ∈ fs, Progress.IsKey f.1.toList)
      (texts : ∀ f ∈ fs, plainKind f.1.toList = .text) (distinct : (fs.map Prod.fst).Nodup)
      (parts : ∀ f ∈ fs, Legible room f.2) : Legible (room + 1) (record fs)

mutual

def symbols : Document → List Symbol
  | .null => [.scalar (ofText "null") true]
  | .bool b => [.scalar (ofText (if b then "true" else "false")) true]
  | .int n => [.scalar (ofText (Decimal.text n)) true]
  | .text s => [.scalar (ofText s) (Scalar.style s.toList = .plain)]
  | .list [] => [.listOpen, .listClose]
  | .list (d :: ds) => itemSymbols (d :: ds)
  | .record fs => .mappingStart :: fieldSymbols fs ++ [.blockEnd]

def itemSymbols : List Document → List Symbol
  | [] => []
  | d :: ds => .entry :: symbols d ++ itemSymbols ds

def fieldSymbols : List (String × Document) → List Symbol
  | [] => []
  | (k, d) :: fs => .key :: .scalar (ofText k) true :: .value :: symbols d ++ fieldSymbols fs

end

lemma blankAhead_value (indent column : ℕ) (d : Document) (cs : List Char) :
    Scalar.blankAhead (value ofText indent column d ++ cs) = true := by
  cases d with
  | bool b => cases b <;> simp [value, Scalar.blankAhead, Scalar.isBlank]
  | list ds =>
    cases ds <;> simp [value, Scalar.blankAhead, Scalar.isBlank, Scalar.isBreak]
  | record fs =>
    cases fs <;> simp [value, Scalar.blankAhead, Scalar.isBlank, Scalar.isBreak]
  | null | int n | text s => simp [value, Scalar.blankAhead, Scalar.isBlank]

lemma blankAhead_item (indent : ℕ) (d : Document) (cs : List Char) :
    Scalar.blankAhead (item ofText indent d ++ cs) = true := by
  cases d with
  | list ds =>
    cases ds with
    | nil => simpa [item] using blankAhead_value _ _ _ cs
    | cons d ds => simp [item, Scalar.blankAhead, Scalar.isBlank]
  | record fs =>
    cases fs with
    | nil => simpa [item] using blankAhead_value _ _ _ cs
    | cons f fs =>
      obtain ⟨k, d⟩ := f
      simp [item, Scalar.blankAhead, Scalar.isBlank]
  | null | bool b | int n | text s => simpa [item] using blankAhead_value _ _ _ cs

/-- What stands behind a key or a dash of a block at column `i` gives the symbols of a document, and
leads on to the next line. -/
def Told (i : ℕ) (d : Document) (written : List Char) (p : Place) (allowed : Bool) : Prop :=
  ∀ (k : ℕ) (rest : List Char) (is : List ℕ) (xs : List Symbol), k ≤ i → LineStart rest →
    ∃ t, Steps ⟨written ++ (Scalar.spaces k ++ rest), p, i :: is, none, [], allowed, xs⟩ t ∧
      Arrives t rest k (i :: is) ((symbols d).reverse ++ xs)

def ValueTold (i : ℕ) (d : Document) : Prop :=
  ∀ column p, i < p.column → Told i d (value ofText (i + 2) column d) p false

def ItemTold (i : ℕ) (d : Document) : Prop :=
  ∀ p, p.column = i + 1 → Told i d (item ofText i d) p true

section Blocks

variable {s : Progress} {i k : ℕ} {indents is : List ℕ} {rest : List Char}
  {opened xs : List Symbol}

def fieldLine (i : ℕ) (f : String × Document) (more : List Char) : List Char :=
  f.1.toList ++ ':' :: (value ofText (i + 2) (i + f.1.length + 1) f.2 ++ more)

lemma fields_cons (i : ℕ) (f : String × Document) (fs : List (String × Document)) (more : List Char) :
    fields ofText i (f :: fs) ++ more =
      Scalar.spaces i ++ fieldLine i f (fields ofText i fs ++ more) := by
  obtain ⟨k, d⟩ := f
  simp [fields, fieldLine]

lemma exists_steps_fields {f : String × Document} {fs : List (String × Document)}
    (hkeys : ∀ g ∈ f :: fs, Progress.IsKey g.1.toList)
    (htold : ∀ g ∈ f :: fs, ValueTold i g.2) (hk : k ≤ i) (hrest : LineStart rest)
    (h : Arrives s (fieldLine i f (fields ofText i fs ++ (Scalar.spaces k ++ rest))) i indents xs)
    (hmapping : Mapping i is opened indents xs) :
    ∃ t, Steps s t ∧ Arrives t rest k (i :: is) ((fieldSymbols (f :: fs)).reverse ++ opened) := by
  induction fs generalizing s f indents opened xs with
  | nil =>
    rw [fields, List.nil_append] at h
    obtain ⟨q, hq, hkey⟩ := h.steps_key (hkeys f (by simp)) (blankAhead_value ..) hmapping
    obtain ⟨t, hsteps, harrives⟩ := htold f (by simp) _ q hq k rest is _ hk hrest
    refine ⟨t, hkey.trans hsteps, ?_⟩
    simpa [fieldSymbols, ofText] using harrives
  | cons g fs ih =>
    rw [fields_cons] at h
    obtain ⟨q, hq, hkey⟩ := h.steps_key (hkeys f (by simp)) (blankAhead_value ..) hmapping
    have hline : LineStart (fieldLine i g (fields ofText i fs ++ (Scalar.spaces k ++ rest))) :=
      (hkeys g (by simp)).lineStart _
    obtain ⟨u, hvalue, hnext⟩ := htold f (by simp) _ q hq i _ is _ (Nat.le_refl i) hline
    obtain ⟨t, hsteps, harrives⟩ := ih (fun g hg => hkeys g (by simp_all))
      (fun g hg => htold g (by simp_all)) hnext (.inl ⟨rfl, rfl⟩)
    refine ⟨t, (hkey.trans hvalue).trans hsteps, ?_⟩
    simpa [fieldSymbols, ofText] using harrives

lemma items_cons (i : ℕ) (d : Document) (ds : List Document) (more : List Char) :
    items ofText i (d :: ds) ++ more =
      Scalar.spaces i ++ '-' :: (item ofText i d ++ (items ofText i ds ++ more)) := by
  simp [items]

lemma exists_steps_items {d : Document} {ds : List Document} (htold : ∀ e ∈ d :: ds, ItemTold i e)
    (hk : k ≤ i) (hrest : LineStart rest)
    (h : Arrives s ('-' :: (item ofText i d ++ (items ofText i ds ++ (Scalar.spaces k ++ rest)))) i
      (i :: is) xs) :
    ∃ t, Steps s t ∧ Arrives t rest k (i :: is) ((itemSymbols (d :: ds)).reverse ++ xs) := by
  induction ds generalizing s d xs with
  | nil =>
    rw [items, List.nil_append] at h
    obtain ⟨q, hq, hdash⟩ := h.steps_dash (blankAhead_item ..)
    obtain ⟨t, hsteps, harrives⟩ := htold d (by simp) q hq k rest is _ hk hrest
    refine ⟨t, hdash.trans hsteps, ?_⟩
    simpa [itemSymbols] using harrives
  | cons e ds ih =>
    rw [items_cons] at h
    obtain ⟨q, hq, hdash⟩ := h.steps_dash (blankAhead_item ..)
    have hline : LineStart
        ('-' :: (item ofText i e ++ (items ofText i ds ++ (Scalar.spaces k ++ rest)))) :=
      ⟨Progress.symbolStart_dash _, Progress.atSeparator_dash (blankAhead_item ..)⟩
    obtain ⟨u, hitem, hnext⟩ := htold d (by simp) q hq i _ is _ (Nat.le_refl i) hline
    obtain ⟨t, hsteps, harrives⟩ := ih (fun e he => htold e (by simp_all)) hnext
    refine ⟨t, (hdash.trans hitem).trans hsteps, ?_⟩
    simpa [itemSymbols] using harrives

end Blocks

section Parts

variable {i indent column room : ℕ} {p : Place} {allowed : Bool}

lemma told_word {w : List Char} {d : Document} (hw : ScenarioScript.Yaml.Scalar.Unmarked w)
    (hne : w ≠ []) (hspace : ' ' ∉ w) (hd : symbols d = [.scalar (Point.chars w) true])
    (hp : i < p.column) : Told i d (' ' :: w ++ ['\n']) p allowed := by
  intro k rest is xs hk hrest
  obtain ⟨t, hsteps, harrives⟩ := @Progress.steps_word rest p is xs i k allowed w hw hne hspace hrest
    hp hk
  refine ⟨t, by simpa using hsteps, ?_⟩
  simpa [hd] using harrives

lemma told_scalar {d : Document} (h : Legible room d) (hd : IsItem d)
    (hfs : ∀ fs, d ≠ record fs) (hp : i < p.column) (hindent : i < indent)
    (hwidth : indent < 80) : Told i d (value ofText indent column d) p allowed := by
  cases h with
  | null =>
    have hnull : Told i .null (' ' :: "null".toList ++ ['\n']) p allowed :=
      told_word (Scalar.unmarked_of_word (by decide) (by decide)) (by decide) (by decide)
        (by rw [symbols]; rfl) hp
    simpa [value] using hnull
  | bool b =>
    have hbool : Told i (.bool b) (' ' :: (if b then "true" else "false").toList ++ ['\n']) p
        allowed := by
      refine told_word (Scalar.unmarked_of_word ?_ ?_) ?_ ?_ (by rw [symbols]; rfl) hp <;>
        cases b <;> decide
    cases b <;> simpa [value] using hbool
  | @int _ n short =>
    have hint : Told i (.int n) (' ' :: Decimal.chars n ++ ['\n']) p allowed := by
      obtain ⟨c, cs, hcs, -⟩ := ScenarioScript.Yaml.exists_chars_eq_cons n
      refine told_word (Scalar.unmarked_chars n) (by simp [hcs]) (fun hspace => ?_)
        (by simp [symbols, ofText, Decimal.text]) hp
      exact absurd (ScenarioScript.Yaml.Scalar.isAlphanum_or_of_mem_chars hspace) (by decide)
    simpa [value] using hint
  | @text _ s feeds =>
    intro k rest is xs hk hrest
    obtain ⟨t, hsteps, harrives⟩ := @Progress.steps_text rest p is xs i k indent (column + 1) allowed
      s feeds hrest hp hk hindent hwidth
    refine ⟨t, by simpa [value] using hsteps, ?_⟩
    simpa [symbols] using harrives
  | list => exact hd.elim
  | record => exact absurd rfl (hfs _)

lemma valueTold_empty : ValueTold i (list []) := by
  intro column p hp k rest is xs hk hrest
  obtain ⟨t, hsteps, harrives⟩ := @Progress.steps_empty rest p is xs i k hrest hp
  refine ⟨t, by simpa [value] using hsteps, ?_⟩
  simpa [symbols] using harrives

lemma valueTold_list {d : Document} {ds : List Document} (h : ∀ e ∈ d :: ds, ItemTold i e) :
    ValueTold i (list (d :: ds)) := by
  intro column p hp k rest is xs hk hrest
  have hstart : Arrives ⟨'\n' :: (Scalar.spaces i ++
      '-' :: (item ofText i d ++ (items ofText i ds ++ (Scalar.spaces k ++ rest)))), p, i :: is, none,
      [], false, xs⟩ _ i (i :: is) xs := Progress.arrives_line (Progress.symbolStart_dash _) (by simp)
  obtain ⟨t, hsteps, harrives⟩ := exists_steps_items h hk hrest hstart
  refine ⟨t, ?_, ?_⟩
  · rw [value, Nat.add_sub_cancel, List.cons_append, items_cons]
    exact hsteps
  · rwa [symbols]

section Record

variable {f : String × Document} {fs : List (String × Document)}

lemma symbols_record (fs : List (String × Document)) (xs : List Symbol) :
    (symbols (record fs)).reverse ++ xs =
      .blockEnd :: ((fieldSymbols fs).reverse ++ .mappingStart :: xs) := by
  simp [symbols]

lemma mapping_of_record (is : List ℕ) (xs : List Symbol) :
    Mapping (i + 2) (i :: is) (.mappingStart :: xs) (i :: is) xs :=
  .inr ⟨rfl, by simp, rfl⟩

lemma valueTold_record (hkeys : ∀ g ∈ f :: fs, Progress.IsKey g.1.toList)
    (h : ∀ g ∈ f :: fs, ValueTold (i + 2) g.2) : ValueTold i (record (f :: fs)) := by
  intro column p hp k rest is xs hk hrest
  have hstart : Arrives ⟨'\n' :: (Scalar.spaces (i + 2) ++
      fieldLine (i + 2) f (fields ofText (i + 2) fs ++ (Scalar.spaces k ++ rest))), p, i :: is, none, [],
      false, xs⟩ _ (i + 2) (i :: is) xs :=
    Progress.arrives_line ((hkeys f (by simp)).lineStart _).toSymbolStart (by simp)
  obtain ⟨t, hsteps, harrives⟩ := exists_steps_fields hkeys h (by omega) hrest hstart
    (mapping_of_record is xs)
  refine ⟨t, ?_, ?_⟩
  · rw [value, List.cons_append, fields_cons]
    exact hsteps
  · rw [symbols_record]
    exact harrives.leave (by omega)

lemma item_record (i : ℕ) (f : String × Document) (fs : List (String × Document))
    (more : List Char) :
    item ofText i (record (f :: fs)) ++ more =
      ' ' :: fieldLine (i + 2) f (fields ofText (i + 2) fs ++ more) := by
  obtain ⟨k, d⟩ := f
  have hcolumn : i + 3 + k.length = i + 2 + k.length + 1 := by omega
  simp [item, fieldLine, hcolumn]

lemma itemTold_record (hkeys : ∀ g ∈ f :: fs, Progress.IsKey g.1.toList)
    (h : ∀ g ∈ f :: fs, ValueTold (i + 2) g.2) : ItemTold i (record (f :: fs)) := by
  intro p hp k rest is xs hk hrest
  have hstart : Arrives ⟨' ' :: fieldLine (i + 2) f
      (fields ofText (i + 2) fs ++ (Scalar.spaces k ++ rest)), p, i :: is, none, [], true, xs⟩ _
        (p.column + 1) (i :: is) xs :=
    Progress.arrives_space ((hkeys f (by simp)).lineStart _).toSymbolStart
  rw [hp] at hstart
  obtain ⟨t, hsteps, harrives⟩ := exists_steps_fields hkeys h (by omega) hrest hstart
    (mapping_of_record is xs)
  refine ⟨t, ?_, ?_⟩
  · rw [item_record]
    exact hsteps
  · rw [symbols_record]
    exact harrives.leave (by omega)

end Record

lemma Legible.told {d : Document} (h : Legible room d) (hi : i + 2 * room + 2 < 80) :
    ValueTold i d ∧ (IsItem d → ItemTold i d) := by
  have hscalar {d : Document} {i room : ℕ} (h : Legible room d) (hd : IsItem d)
      (hfs : ∀ fs, d ≠ .record fs) (hitem : item ofText i d = value ofText (i + 2) (i + 1) d)
      (hi : i + 2 * room + 2 < 80) : ValueTold i d ∧ (IsItem d → ItemTold i d) :=
    ⟨fun column p hp => told_scalar h hd hfs hp (by omega) (by omega),
      fun _ p hp => hitem ▸ told_scalar h hd hfs (by omega) (by omega) (by omega)⟩
  induction h generalizing i with
  | null => exact hscalar .null trivial (by simp) (by simp [item]) hi
  | bool b => exact hscalar (.bool b) trivial (by simp) (by simp [item]) hi
  | int short => exact hscalar (.int short) trivial (by simp) (by simp [item]) hi
  | text feeds => exact hscalar (.text feeds) trivial (by simp) (by simp [item]) hi
  | @list room ds items parts ih =>
    refine ⟨?_, fun h => h.elim⟩
    cases ds with
    | nil => exact valueTold_empty
    | cons d ds => exact valueTold_list fun e he => (ih e he hi).2 (items e he)
  | @record room fs ne keys texts distinct parts ih =>
    obtain ⟨f, fs, rfl⟩ := List.exists_cons_of_ne_nil ne
    have hparts : ∀ g ∈ f :: fs, ValueTold (i + 2) g.2 := fun g hg => (ih g hg (by omega)).1
    exact ⟨valueTold_record keys hparts, fun _ => itemTold_record keys hparts⟩

end Parts

section Permitted

open ScenarioScript.Yaml (isPermitted)

lemma forall_fields {fs : List (String × Document)} (hkeys : ∀ f ∈ fs, Progress.IsKey f.1.toList)
    (hvalues : ∀ f ∈ fs, ∀ indent column, ∀ c ∈ value ofText indent column f.2, isPermitted c = true)
    (indent : ℕ) : ∀ c ∈ fields ofText indent fs, isPermitted c = true := by
  induction fs with
  | nil => simp [fields]
  | cons f fs ih =>
    obtain ⟨k, d⟩ := f
    have hkey : ∀ c ∈ k.toList, isPermitted c = true := by
      intro c hc
      rcases (hkeys _ List.mem_cons_self).chars c hc with h | rfl
      · exact ScenarioScript.Yaml.isPermitted_of_isOrdinary
          (ScenarioScript.Yaml.Scalar.isOrdinary_of_isAlphanum (by simp [Char.isAlphanum, h]))
      · rfl
    simp only [fields, List.forall_mem_append, List.forall_mem_cons]
    exact ⟨⟨⟨ScenarioScript.Yaml.forall_spaces indent, hkey⟩, rfl, hvalues (k, d) (by simp) _ _⟩,
      ih (fun f hf => hkeys f (by simp [hf])) fun f hf => hvalues f (by simp [hf])⟩

lemma forall_items {ds : List Document}
    (hitems : ∀ d ∈ ds, ∀ indent, ∀ c ∈ item ofText indent d, isPermitted c = true) (indent : ℕ) :
    ∀ c ∈ items ofText indent ds, isPermitted c = true := by
  induction ds with
  | nil => simp [items]
  | cons d ds ih =>
    simp only [items, List.forall_mem_append, List.forall_mem_cons]
    exact ⟨⟨ScenarioScript.Yaml.forall_spaces indent, rfl, hitems d (by simp) indent⟩,
      ih fun e he => hitems e (by simp [he])⟩

lemma Legible.permitted {room : ℕ} {d : Document} (h : Legible room d) :
    (∀ indent column, ∀ c ∈ value ofText indent column d, isPermitted c = true) ∧
      ∀ indent, ∀ c ∈ item ofText indent d, isPermitted c = true := by
  have hfeed : isPermitted '\n' = true := rfl
  have hspace : isPermitted ' ' = true := rfl
  have hscalar {d : Document} (hitem : ∀ i, item ofText i d = value ofText (i + 2) (i + 1) d)
      (hvalue : ∀ indent column, ∀ c ∈ value ofText indent column d, isPermitted c = true) :
      (∀ indent column, ∀ c ∈ value ofText indent column d, isPermitted c = true) ∧
        ∀ indent, ∀ c ∈ item ofText indent d, isPermitted c = true :=
    ⟨hvalue, fun i => hitem i ▸ hvalue (i + 2) (i + 1)⟩
  induction h with
  | null => exact hscalar (by simp [item]) fun _ _ => by rw [value]; decide
  | bool b => exact hscalar (by simp [item]) fun _ _ => by cases b <;> rw [value] <;> decide
  | @int _ n short =>
    refine hscalar (by simp [item]) fun _ _ => ?_
    have hchars : ∀ c ∈ Decimal.chars n, isPermitted c = true := fun c hc =>
      ScenarioScript.Yaml.isPermitted_of_isOrdinary ((Scalar.unmarked_chars n).ordinary c hc)
    simp only [value, List.forall_mem_append, List.forall_mem_cons]
    exact ⟨⟨hspace, hchars⟩, hfeed, by simp⟩
  | text feeds =>
    refine hscalar (by simp [item]) fun _ _ => ?_
    simp only [value, List.forall_mem_append, List.forall_mem_cons]
    exact ⟨⟨hspace, ScenarioScript.Yaml.forall_chars _ _ _⟩, hfeed, by simp⟩
  | @list room ds items parts ih =>
    cases ds with
    | nil => exact hscalar (by simp [item]) fun _ _ => by rw [value]; decide
    | cons d ds =>
      refine ⟨fun _ _ => ?_, fun i => ?_⟩
      · rw [value]
        exact List.forall_mem_cons.mpr ⟨hfeed, forall_items (fun e he => (ih e he).2) _⟩
      · rw [item]
        simp only [List.forall_mem_append]
        exact ⟨⟨by decide, (ih d (by simp)).2 _⟩, forall_items (fun e he => (ih e (by simp [he])).2) _⟩
  | @record room fs ne keys texts distinct parts ih =>
    obtain ⟨f, fs, rfl⟩ := List.exists_cons_of_ne_nil ne
    have hfields := forall_fields keys fun g hg => (ih g hg).1
    refine ⟨fun _ _ => ?_, fun i => ?_⟩
    · rw [value]
      exact List.forall_mem_cons.mpr ⟨hfeed, hfields _⟩
    · have hline := hfields (i + 2)
      rw [← List.append_nil (fields ofText _ _), fields_cons, List.forall_mem_append] at hline
      rw [← List.append_nil (item ofText _ _), item_record]
      exact List.forall_mem_cons.mpr ⟨hspace, hline.2⟩

end Permitted

theorem symbols_ofText {room : ℕ} {fs : List (String × Document)}
    (h : Legible (room + 1) (record fs)) (hroom : 2 * room + 2 < 80) :
    (ScenarioScript.Yaml.Source.ofText (text fs).toList).symbols = ⟨symbols (record fs), none⟩ := by
  cases h with
  | record ne keys texts distinct parts =>
    obtain ⟨f, fs, rfl⟩ := List.exists_cons_of_ne_nil ne
    have hsource : ScenarioScript.Yaml.Source.ofText (text (f :: fs)).toList =
        ⟨fields ofText 0 (f :: fs), none⟩ := by
      have hall : (fields ofText 0 (f :: fs)).all ScenarioScript.Yaml.isPermitted = true :=
        List.all_eq_true.mpr (forall_fields keys (fun g hg => (parts g hg).permitted.1) 0)
      simp [ScenarioScript.Yaml.Source.ofText, ScenarioScript.Yaml.Source.ofPortion, text, spelled, hall]
    have htold : ∀ g ∈ f :: fs, ValueTold 0 g.2 := fun g hg => ((parts g hg).told (by omega)).1
    have hstart : Arrives (Progress.start (fields ofText 0 (f :: fs)))
        (fieldLine 0 f (fields ofText 0 fs ++ (Scalar.spaces 0 ++ []))) 0 [] [] := by
      have hline : fields ofText 0 (f :: fs) =
          fieldLine 0 f (fields ofText 0 fs ++ (Scalar.spaces 0 ++ [])) := by
        rw [← List.append_nil (fields ofText 0 (f :: fs)), fields_cons]
        rfl
      rw [hline]
      exact Progress.arrives_here ((keys f (by simp)).lineStart _).toSymbolStart rfl (by simp)
    obtain ⟨t, hsteps, harrives⟩ := exists_steps_fields keys htold (Nat.le_refl 0) LineStart.nil
      hstart (.inr ⟨rfl, by simp, rfl⟩)
    rw [hsource, ScenarioScript.Yaml.Source.symbols, Progress.run_eq_of_steps hsteps,
      harrives.run_eq]
    simp [symbols]

end ScenarioScript.Document.Yaml
