import ScenarioScript.Proofs.Script.StepCount

/-! The tokens at which the scan of a script stops, each with the tokens behind it, and the step words
among them, which begin its blocks. -/

namespace ScenarioScript

open scoped List

namespace Block

lemma head_read (head : Token) (ts : List Token) : (read head ts).1.head = head := by
  cases ts with
  | nil => rfl
  | cons t ts =>
    rw [read]
    split <;> rfl

lemma description_read_eq (head : Token) (ts : List Token) :
    (read head ts).1.description = (Arguments.front? .string ts).getD "" := by
  cases ts with
  | nil => rfl
  | cons t ts => by_cases ht : t.kind = .string <;> simp [read, Arguments.front?, ht]

lemma suffix_inner (depth : ℕ) (ts : List Token) : (inner depth ts).rest <:+ ts := by
  fun_induction inner depth ts with
  | case1 => exact List.suffix_rfl
  | case2 d t ts _ ih => exact ih.trans (List.suffix_cons t ts)
  | case3 t ts _ => exact List.suffix_cons t ts
  | case4 t ts d _ ih => exact ih.trans (List.suffix_cons t ts)
  | case5 d t ts _ _ _ ih => exact ih.trans (List.suffix_cons t ts)

lemma suffix_outer (ts : List Token) : (outer ts).rest <:+ ts := by
  fun_induction outer ts with
  | case1 => exact List.suffix_rfl
  | case2 t ts _ => exact List.suffix_rfl
  | case3 t ts _ _ => exact (suffix_inner 0 ts).trans (List.suffix_cons t ts)
  | case4 t ts _ _ => exact List.suffix_cons t ts
  | case5 t ts _ _ _ ih => exact ih.trans (List.suffix_cons t ts)

lemma suffix_read (head : Token) (ts : List Token) : (read head ts).2 <:+ ts := by
  cases ts with
  | nil => exact List.suffix_rfl
  | cons t ts =>
    rw [read]
    split
    · exact (suffix_outer ts).trans (List.suffix_cons t ts)
    · exact suffix_outer (t :: ts)

end Block

namespace Item

variable {t : Token}

lemma readAt_step (ht : t.is .step = true) (ts : List Token) :
    readAt t ts = ([.step (Block.read t ts).1], (Block.read t ts).2) := by
  have hk : t.keyword = some .step := by simpa [Token.is] using ht
  simp [readAt, hk]

lemma suffix_setting (kind : TokenKind) (item : Token → Item) (ts : List Token) :
    (setting kind item ts).2 <:+ ts := by
  rw [setting]
  split
  · exact List.tail_suffix ts
  · exact List.suffix_rfl

lemma suffix_readAt (t : Token) (ts : List Token) : (readAt t ts).2 <:+ ts := by
  rw [readAt]
  split <;> first
    | exact suffix_setting _ _ ts
    | exact Block.suffix_read t ts
    | exact List.suffix_rfl

lemma blocks_readAt (t : Token) (ts : List Token) :
    (readAt t ts).1.filterMap block? = if t.is .step then [(Block.read t ts).1] else [] := by
  cases ht : t.is .step with
  | true =>
    rw [readAt_step ht]
    rfl
  | false =>
    have hk : t.keyword ≠ some .step := by simpa [Token.is] using ht
    rw [readAt]
    split <;> first
      | exact filterMap_setting (fun _ => rfl) ts
      | contradiction
      | rfl

end Item

namespace Script

/-- The tokens that the scan hands over, in order, each with the tokens behind it. -/
def stations : List Token → List (Token × List Token)
  | [] => []
  | t :: ts => (t, ts) :: stations (Item.readAt t ts).2
termination_by ts => ts.length
decreasing_by
  have := Item.length_readAt_le t ts
  simp
  omega

lemma stations_nil : stations [] = [] := by
  rw [stations.eq_def]

lemma stations_cons (t : Token) (ts : List Token) :
    stations (t :: ts) = (t, ts) :: stations (Item.readAt t ts).2 := by
  rw [stations.eq_def]

lemma outline_eq_flatMap (ts : List Token) :
    outline ts = (stations ts).flatMap fun p => (Item.readAt p.1 p.2).1 := by
  fun_induction outline ts with
  | case1 => rw [stations_nil, List.flatMap_nil]
  | case2 t ts ih => rw [stations_cons, List.flatMap_cons, ih]

lemma suffix_of_mem_stations {ts : List Token} : ∀ p ∈ stations ts, p.1 :: p.2 <:+ ts := by
  fun_induction outline ts with
  | case1 => simp [stations_nil]
  | case2 t ts ih =>
    intro p hp
    rw [stations_cons, List.mem_cons] at hp
    rcases hp with rfl | hp
    · exact List.suffix_rfl
    · exact ((ih p hp).trans (Item.suffix_readAt t ts)).trans (List.suffix_cons t ts)

lemma sublist_stations (ts : List Token) : (stations ts).map (·.1) <+ ts := by
  fun_induction outline ts with
  | case1 => simp [stations_nil]
  | case2 t ts ih =>
    rw [stations_cons, List.map_cons]
    exact (ih.trans (Item.suffix_readAt t ts).sublist).cons_cons t

def openings : List Token → List (Token × List Token)
  | [] => []
  | t :: ts => (if t.is .step then [(t, ts)] else []) ++ openings (Item.readAt t ts).2
termination_by ts => ts.length
decreasing_by
  have := Item.length_readAt_le t ts
  simp
  omega

lemma openings_nil : openings [] = [] := by
  rw [openings.eq_def]

lemma openings_cons (t : Token) (ts : List Token) :
    openings (t :: ts) =
      (if t.is .step then [(t, ts)] else []) ++ openings (Item.readAt t ts).2 := by
  rw [openings.eq_def]

lemma blocks_eq_map (ts : List Token) :
    blocks ts = (openings ts).map fun p => (Block.read p.1 p.2).1 := by
  fun_induction outline ts with
  | case1 => simp [blocks, outline_nil, openings_nil]
  | case2 t ts ih =>
    rw [blocks_cons, openings_cons, List.map_append, ih, Item.blocks_readAt]
    cases t.is .step <;> rfl

lemma openings_eq_filter (ts : List Token) : openings ts = (stations ts).filter (·.1.is .step) := by
  fun_induction openings ts with
  | case1 => simp [stations_nil]
  | case2 t ts ih =>
    rw [stations_cons, List.filter_cons, ih]
    cases t.is .step <;> rfl

lemma of_mem_openings {ts : List Token} :
    ∀ p ∈ openings ts, p.1.is .step = true ∧ p.1 :: p.2 <:+ ts := by
  intro p hp
  rw [openings_eq_filter, List.mem_filter] at hp
  exact ⟨hp.2, suffix_of_mem_stations p hp.1⟩

lemma sublist_openings (ts : List Token) : (openings ts).map (·.1) <+ ts := by
  rw [openings_eq_filter]
  exact (List.filter_sublist.map _).trans (sublist_stations ts)

end Script

end ScenarioScript
