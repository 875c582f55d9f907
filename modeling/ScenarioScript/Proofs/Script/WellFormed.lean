import Mathlib.Data.List.Nodup
import ScenarioScript.Proofs.Action
import ScenarioScript.Proofs.Block
import ScenarioScript.Proofs.Entry
import ScenarioScript.Proofs.Tags
import ScenarioScript.Proofs.Walk.Script
import ScenarioScript.Proofs.Walk.Settled

namespace ScenarioScript

lemma Text.unbroken_empty : Unbroken "" := by
  simp [Unbroken]

lemma Script.unbroken_stepId (k : ℕ) : Text.Unbroken (stepId k) := by
  intro c hc hbreak
  rw [stepId, String.toList_append, List.mem_append] at hc
  rcases hc with hc | hc
  · have hword : Text.Unbroken "step_" := by decide
    exact hword c hc hbreak
  · have hd : c ∈ Decimal.chars k := by simpa [Decimal.text] using hc
    simp [Decimal.isLineBreak_of_mem_chars hd] at hbreak

namespace Block

variable {settings : Settings}

structure Tidy (b : Block) : Prop where
  description : Text.Unbroken b.description
  body : ∀ t ∈ b.body, t.Tidy

lemma tidy_read {head : Token} {ts : List Token} (h : ∀ t ∈ ts, t.Tidy) :
    (read head ts).1.Tidy ∧ ∀ t ∈ (read head ts).2, t.Tidy := by
  have hsub := (sublist_read ts head).subset
  refine ⟨⟨?_, fun t ht => h t (hsub (by simp [ht]))⟩, fun t ht => h t (hsub (by simp [ht]))⟩
  rcases description_read ts head with hd | ⟨t, ht, hk, hd⟩
  · exact hd ▸ Text.unbroken_empty
  · exact hd ▸ (h t (List.mem_of_mem_head? ht)).string hk

lemma id_step {b : Block} {id : String} {s : Step} (h : b.step? settings id = some s) : s.id = id := by
  obtain ⟨a, -, rfl⟩ := Option.map_eq_some_iff.mp h
  rfl

lemma wellFormed_step {b : Block} (hb : b.Tidy) {k : ℕ} {s : Step}
    (h : b.step? settings (Script.stepId k) = some s) : s.WellFormed settings := by
  obtain ⟨⟨head, args, hargs, haction⟩, hexpected, -, hretries⟩ := settles_of_step? h
  have hwf := Action.wellFormed_of_ofSpan (fun t ht => hb.body t (hargs ht)) haction
  obtain ⟨a, -, rfl⟩ := Option.map_eq_some_iff.mp h
  refine ⟨⟨k, rfl⟩, Script.unbroken_stepId k, hb.description, fun e he => ?_, ?_, hwf⟩
  · obtain ⟨u, hu, hk, rfl⟩ := hexpected e he
    exact (hb.body u hu).string hk
  · rcases hretries with hzero | ⟨hnonneg, -⟩
    · exact hzero.ge
    · exact hnonneg

end Block

namespace Item

def Tidy : Item → Prop
  | name _ text | description text | url text => Text.Unbroken text
  | tags ts => ∀ t ∈ ts.toList, Tags.WellFormed t
  | priority _ => True
  | step b => b.Tidy

lemma tidy_setting {kind : TokenKind} {item : Token → Item} {ts : List Token}
    (hts : ∀ t ∈ ts, t.Tidy) (h : ∀ t, t.Tidy → t.kind = kind → (item t).Tidy) :
    (∀ i ∈ (setting kind item ts).1, i.Tidy) ∧ ∀ t ∈ (setting kind item ts).2, t.Tidy := by
  unfold setting
  split
  · next v hv =>
    refine ⟨?_, fun t ht => hts t (List.mem_of_mem_tail ht)⟩
    cases ts with
    | nil => simp [value?] at hv
    | cons t ts =>
      obtain ⟨⟨hk, -⟩, rfl⟩ : (t.kind = kind ∧ t.is .step = false) ∧ t = v := by
        simpa [value?] using hv
      simpa using h t (hts t (by simp)) hk
  · exact ⟨by simp, hts⟩

lemma tidy_readAt {t : Token} {ts : List Token} (h : ∀ u ∈ ts, u.Tidy) :
    (∀ i ∈ (readAt t ts).1, i.Tidy) ∧ ∀ u ∈ (readAt t ts).2, u.Tidy := by
  unfold readAt
  split
  · exact tidy_setting h fun u hu hk => hu.string hk
  · exact tidy_setting h fun u hu hk => hu.string hk
  · exact tidy_setting h fun u hu hk => hu.string hk
  · exact tidy_setting h fun u hu hk => Tags.read_wellFormed (hu.array hk)
  · exact tidy_setting h fun _ _ _ => trivial
  · obtain ⟨hb, hu⟩ := Block.tidy_read h
    exact ⟨by simpa [Tidy] using hb, hu⟩
  · exact ⟨by simp, h⟩

end Item

lemma tidy_outline {ts : List Token} (h : ∀ t ∈ ts, t.Tidy) : ∀ i ∈ outline ts, i.Tidy := by
  fun_induction outline ts with
  | case1 => simp
  | case2 t ts ih =>
    obtain ⟨hi, hu⟩ := Item.tidy_readAt (t := t) fun u hu => h u (List.mem_cons_of_mem _ hu)
    intro i hmem
    rcases List.mem_append.mp hmem with hmem | hmem
    · exact hi i hmem
    · exact ih hu i hmem

namespace Script.Draft

variable {settings : Settings}

structure WellFormed (settings : Settings) (d : Draft) : Prop where
  name : Text.Unbroken d.name
  description : Text.Unbroken d.description
  startUrl : Text.Unbroken d.startUrl
  tags : ∀ t ∈ d.tags.toList, Tags.WellFormed t
  ids : ∃ ks : List ℕ, d.steps.map (·.id) = ks.map stepId ∧ ks.Nodup ∧ ∀ k ∈ ks, k < d.blocks
  steps : ∀ s ∈ d.steps, s.WellFormed settings

lemma wellFormed_empty : empty.WellFormed settings where
  name := Text.unbroken_empty
  description := Text.unbroken_empty
  startUrl := Text.unbroken_empty
  tags := by simp [empty, SortedSet.empty]
  ids := ⟨[], rfl, List.nodup_nil, by simp⟩
  steps := by simp [empty]

lemma wellFormed_addBlock {d : Draft} (hd : d.WellFormed settings) {b : Block} (hb : b.Tidy) :
    (d.addBlock settings b).WellFormed settings := by
  obtain ⟨ks, hks, hnodup, hlt⟩ := hd.ids
  have hnext : ∀ k ∈ ks, k < d.blocks + 1 := fun k hk => Nat.lt_succ_of_lt (hlt k hk)
  unfold addBlock
  split
  · next s hs =>
    refine ⟨hd.name, hd.description, hd.startUrl, hd.tags, ⟨ks ++ [d.blocks], ?_, ?_, ?_⟩, ?_⟩
    · simp [hks, Block.id_step hs]
    · rw [List.nodup_append]
      refine ⟨hnodup, by simp, fun k hk j hj => ?_⟩
      rw [List.mem_singleton.mp hj]
      exact (hlt k hk).ne
    · intro k hk
      rcases List.mem_append.mp hk with hk | hk
      · exact hnext k hk
      · exact List.mem_singleton.mp hk ▸ Nat.lt_succ_self _
    · intro t ht
      rcases List.mem_append.mp ht with ht | ht
      · exact hd.steps t ht
      · exact List.mem_singleton.mp ht ▸ Block.wellFormed_step hb hs
  · exact ⟨hd.name, hd.description, hd.startUrl, hd.tags, ⟨ks, hks, hnodup, hnext⟩, hd.steps⟩

lemma wellFormed_add {d : Draft} (hd : d.WellFormed settings) {i : Item} (hi : i.Tidy) :
    (d.add settings i).WellFormed settings := by
  cases i with
  | name head text =>
    simp only [add]
    split
    · exact { hd with name := hi }
    · exact ⟨hd.name, hd.description, hd.startUrl, hd.tags, hd.ids, hd.steps⟩
  | description text => exact { hd with description := hi }
  | url text => exact { hd with startUrl := hi }
  | tags ts => exact { hd with tags := hi }
  | priority word =>
    simp only [add]
    split <;> exact ⟨hd.name, hd.description, hd.startUrl, hd.tags, hd.ids, hd.steps⟩
  | step b => exact wellFormed_addBlock hd hi

lemma wellFormed_addAll {d : Draft} (hd : d.WellFormed settings) {is : List Item}
    (his : ∀ i ∈ is, i.Tidy) : (d.addAll settings is).WellFormed settings := by
  induction is generalizing d with
  | nil => exact hd
  | cons i is ih =>
    exact ih (wellFormed_add hd (his i (by simp))) fun j hj => his j (by simp [hj])

end Script.Draft

namespace Script

lemma stepId_injective : Function.Injective stepId := by
  intro m n h
  exact Decimal.text_injective_natCast (String.append_right_inj _ |>.mp h)

/-- Whatever text a scenario is read from, and whether or not there are faults beside it, the
scenario is well formed. -/
theorem wellFormed_of_read {settings : Settings} {text : String} {s : Scenario}
    (h : (read settings text).scenario = some s) : s.WellFormed settings := by
  rw [read_eq, ofTokens] at h
  have hd := Draft.wellFormed_addAll (Draft.wellFormed_empty : Draft.empty.WellFormed settings)
    (tidy_outline (Token.tidy_ofText (s := text)))
  obtain ⟨ks, hks, hnodup, -⟩ := hd.ids
  rw [Draft.reading] at h
  split at h
  · simp at h
  · next hne =>
    obtain rfl := Option.some.inj h
    have hid : Text.Unbroken scenarioId := by decide
    exact ⟨hid, by simpa using hne, hd.name, hd.description, hd.startUrl, hd.tags,
      hks ▸ List.Nodup.map stepId_injective hnodup, hd.steps⟩

def lenient : String :=
  "url \"a\\nb\" tags [\"t\", , u\nscenario \"S\" step \"x\" \x7b hover \x7d\n" ++
    "step \"y\" \x7b wait pageLoaded timeout 7 retry -2 retry 1 \x7d step \x7b screenshot"

theorem wellFormed_of_read_lenient :
    ∃ s, (read {} lenient).scenario = some s ∧ s.steps.length = 2 ∧ s.WellFormed {} := by
  have h : (read {} lenient).scenario = some
      ⟨scenarioId, "S", "", "a\nb", [
        ⟨"step_1", "y", .wait (.pageLoaded 7) 7, none, none, 1, false⟩,
        ⟨"step_2", "", .screenshot "screenshot" false, none, none, 0, false⟩],
        .ofList ["t", "u"], .medium⟩ := by
    rw [read_eq]
    decide +kernel
  exact ⟨_, h, rfl, wellFormed_of_read h⟩

end Script

end ScenarioScript
