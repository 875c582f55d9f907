import ScenarioScript.Proofs.Script.BracedBlock

namespace ScenarioScript

namespace Block

def Quiet (ts : List Token) : Prop :=
  ∀ t ∈ ts, t.is .step = false ∧ t.kind ≠ .braceOpen ∧ t.kind ≠ .braceClose

def Closes (ts : List Token) : Prop :=
  ∃ inside closing rest, ts = inside ++ closing :: rest ∧ closing.kind = .braceClose ∧ Balanced inside

/-- The body behind a step word: what comes first of an opening brace, a closing brace and a further
step word settles how far it reaches. -/
inductive Extent : List Token → Body → Prop
  | matched {pre inside rest : List Token} {opening closing : Token} (hpre : Quiet pre)
      (hopening : opening.kind = .braceOpen) (hinside : Balanced inside)
      (hclosing : closing.kind = .braceClose) :
      Extent (pre ++ opening :: (inside ++ closing :: rest)) ⟨inside.filter isPlain, true, rest⟩
  | unmatched {pre later : List Token} {opening : Token} (hpre : Quiet pre)
      (hopening : opening.kind = .braceOpen) (hlater : ¬Closes later) :
      Extent (pre ++ opening :: later) ⟨later.filter isPlain, false, []⟩
  | unopened {pre rest : List Token} {closing : Token} (hpre : Quiet pre)
      (hclosing : closing.kind = .braceClose) : Extent (pre ++ closing :: rest) ⟨[], true, rest⟩
  | overtaken {pre rest : List Token} {word : Token} (hpre : Quiet pre)
      (hword : word.is .step = true) :
      Extent (pre ++ word :: rest) ⟨[], false, word :: rest⟩
  | absent {pre : List Token} (hpre : Quiet pre) : Extent pre ⟨[], false, []⟩

variable {t : Token} {depth : ℕ} {ts : List Token}

lemma outer_quiet {pre : List Token} (h : Quiet pre) (ts : List Token) :
    outer (pre ++ ts) = outer ts := by
  induction pre with
  | nil => rfl
  | cons t pre ih =>
    obtain ⟨hs, ho, hc⟩ := h t (by simp)
    rw [List.cons_append, outer_plain _ hs ho hc]
    exact ih fun u hu => h u (by simp [hu])

structure Descends (depth : ℕ) (ts : List Token) : Prop where
  sane : ∀ us, us <+: ts → closes us ≤ opens us + depth
  settled : closes ts = opens ts + depth

lemma descends_zero : Descends 0 ts ↔ Balanced ts :=
  ⟨fun h => ⟨h.sane, h.settled⟩, fun h => ⟨h.sane, h.settled⟩⟩

lemma descends_nil : Descends 0 [] where
  sane us hus := by simp [List.prefix_nil.mp hus, closes]
  settled := rfl

lemma Descends.cons {n : ℕ} (h : Descends n ts)
    (hlevel : opens [t] + depth = closes [t] + n) : Descends depth (t :: ts) := by
  have hopens (us : List Token) : opens (t :: us) = opens [t] + opens us := by
    simp [opens, List.countP_cons, Nat.add_comm]
  have hcloses (us : List Token) : closes (t :: us) = closes [t] + closes us := by
    simp [closes, List.countP_cons, Nat.add_comm]
  constructor
  · intro us hus
    rcases List.prefix_cons_iff.mp hus with rfl | ⟨vs, rfl, hvs⟩
    · simp [closes]
    · have hsane := h.sane vs hvs
      rw [hopens, hcloses]
      omega
  · have hsettled := h.settled
    rw [hopens, hcloses]
    omega

lemma exists_matching (h : (inner depth ts).closed = true) :
    ∃ inside closing, ts = inside ++ closing :: (inner depth ts).rest ∧
      closing.kind = .braceClose ∧ Descends depth inside := by
  induction ts generalizing depth with
  | nil => simp [inner] at h
  | cons t ts ih =>
    by_cases ho : t.kind = .braceOpen
    · rw [inner_open depth ts ho] at h ⊢
      obtain ⟨inside, closing, hts, hc, hd⟩ := ih h
      refine ⟨t :: inside, closing, by rw [List.cons_append, ← hts], hc, hd.cons ?_⟩
      simp [opens, closes, ho]
      omega
    by_cases hc : t.kind = .braceClose
    · cases depth with
      | zero =>
        rw [inner_close_zero ts hc]
        exact ⟨[], t, rfl, hc, descends_nil⟩
      | succ d =>
        rw [inner_close_succ d ts hc] at h ⊢
        obtain ⟨inside, closing, hts, hclosing, hd⟩ := ih h
        refine ⟨t :: inside, closing, by rw [List.cons_append, ← hts], hclosing, hd.cons ?_⟩
        simp [opens, closes, hc]
        omega
    · rw [inner_plain depth ts ho hc] at h ⊢
      obtain ⟨inside, closing, hts, hclosing, hd⟩ := ih h
      refine ⟨t :: inside, closing, by rw [List.cons_append, ← hts], hclosing, hd.cons ?_⟩
      simp [opens, closes, ho, hc]

lemma inner_of_not_closed (h : (inner depth ts).closed = false) :
    inner depth ts = ⟨ts.filter isPlain, false, []⟩ := by
  induction ts generalizing depth with
  | nil => rfl
  | cons t ts ih =>
    by_cases ho : t.kind = .braceOpen
    · rw [inner_open depth ts ho] at h ⊢
      rw [ih h]
      simp [isPlain, ho]
    by_cases hc : t.kind = .braceClose
    · cases depth with
      | zero => simp [inner_close_zero ts hc] at h
      | succ d =>
        rw [inner_close_succ d ts hc] at h ⊢
        rw [ih h]
        simp [isPlain, hc]
    · rw [inner_plain depth ts ho hc] at h ⊢
      rw [ih h]
      simp [isPlain, ho, hc]

lemma inner_of_not_closes (h : ¬Closes ts) : inner 0 ts = ⟨ts.filter isPlain, false, []⟩ := by
  apply inner_of_not_closed
  rw [Bool.eq_false_iff]
  intro hclosed
  obtain ⟨inside, closing, hts, hc, hd⟩ := exists_matching hclosed
  exact h ⟨inside, closing, _, hts, hc, descends_zero.mp hd⟩

lemma Extent.outer_eq {b : Body} (h : Extent ts b) : outer ts = b := by
  cases h with
  | matched hpre hopening hinside hclosing =>
    rw [outer_quiet hpre, outer_open _ hopening, hinside.inner hclosing]
  | unmatched hpre hopening hlater =>
    rw [outer_quiet hpre, outer_open _ hopening, inner_of_not_closes hlater]
  | unopened hpre hclosing => rw [outer_quiet hpre, outer_close _ hclosing]
  | overtaken hpre hword => rw [outer_quiet hpre, outer, if_pos hword]
  | absent hpre =>
    have h := outer_quiet hpre []
    rwa [List.append_nil] at h

lemma Extent.cons {b : Body} (ht : t.is .step = false ∧ t.kind ≠ .braceOpen ∧ t.kind ≠ .braceClose)
    (h : Extent ts b) : Extent (t :: ts) b := by
  have hquiet {pre : List Token} (hpre : Quiet pre) : Quiet (t :: pre) :=
    List.forall_mem_cons.mpr ⟨ht, hpre⟩
  cases h with
  | matched hpre hopening hinside hclosing =>
    exact .matched (hquiet hpre) hopening hinside hclosing
  | unmatched hpre hopening hlater => exact .unmatched (hquiet hpre) hopening hlater
  | unopened hpre hclosing => exact .unopened (hquiet hpre) hclosing
  | overtaken hpre hword => exact .overtaken (hquiet hpre) hword
  | absent hpre => exact .absent (hquiet hpre)

lemma exists_extent (ts : List Token) : ∃ b, Extent ts b := by
  have hnil : Quiet [] := List.forall_mem_nil _
  induction ts with
  | nil => exact ⟨_, .absent hnil⟩
  | cons t ts ih =>
    by_cases ho : t.kind = .braceOpen
    · by_cases hcloses : Closes ts
      · obtain ⟨inside, closing, rest, rfl, hclosing, hinside⟩ := hcloses
        exact ⟨_, .matched hnil ho hinside hclosing⟩
      · exact ⟨_, .unmatched hnil ho hcloses⟩
    by_cases hc : t.kind = .braceClose
    · exact ⟨_, .unopened hnil hc⟩
    cases hs : t.is .step with
    | true => exact ⟨_, .overtaken hnil hs⟩
    | false =>
      obtain ⟨b, hb⟩ := ih
      exact ⟨b, hb.cons ⟨hs, ho, hc⟩⟩

lemma extent_iff {b : Body} : Extent ts b ↔ b = outer ts := by
  constructor
  · intro h
    exact h.outer_eq.symm
  · rintro rfl
    obtain ⟨b, hb⟩ := exists_extent ts
    rwa [hb.outer_eq]

end Block

/-- A walk over a body always ends, with the one body that the braces and step words ahead make out:
it gives the tokens between its braces and whether it is closed, stops where the body ends, and notes
nothing. -/
theorem Walk.body_reads_extent (c : Cursor) :
    ∃ tokens closed d, body.on c = (.ok (tokens, closed), d) ∧
      d.faults = c.faults ∧ d.cautions = c.cautions ∧
      ∀ b, Block.Extent c.pending b ↔ b = ⟨tokens, closed, d.pending⟩ := by
  obtain ⟨⟨tokens, closed⟩, d, hbody, hfaults, hcautions, houter⟩ := body_ends c
  refine ⟨tokens, closed, d, hbody, hfaults, hcautions, fun b => ?_⟩
  rw [Block.extent_iff, houter]

end ScenarioScript
