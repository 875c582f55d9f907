import ScenarioScript.Proofs.Script.BracedBlock

namespace ScenarioScript

namespace Script

namespace Draft

variable {settings : Settings}

def after (ss : List Step) (fs : List Fault) (cs : List Caution) (d : Draft) : Draft :=
  { d with steps := ss ++ d.steps, faults := fs ++ d.faults, cautions := cs ++ d.cautions }

variable (ss : List Step) (fs : List Fault) (cs : List Caution)

lemma add_after (d : Draft) (i : Item) :
    (d.after ss fs cs).add settings i = (d.add settings i).after ss fs cs := by
  cases i with
  | name head text =>
    by_cases hn : d.name.isEmpty = true <;> simp [add, after, caution, hn]
  | priority word =>
    cases hp : word.keyword.bind priority? <;> simp [add, after, caution, hp]
  | description _ | url _ | tags _ => rfl
  | step b => simp [add, addBlock_eq, after]

lemma addAll_after (d : Draft) (is : List Item) :
    (d.after ss fs cs).addAll settings is = (d.addAll settings is).after ss fs cs := by
  induction is generalizing d with
  | nil => rfl
  | cons i is ih => rw [addAll_cons, add_after, ih, addAll_cons]

lemma reading_after (d : Draft) :
    (d.after ss fs cs).reading =
      ⟨d.reading.scenario.map fun s => { s with steps := ss ++ s.steps },
        fs ++ d.reading.faults, cs ++ d.reading.cautions⟩ := by
  rw [reading, reading]
  by_cases hn : d.name.isEmpty = true <;> simp [after, hn]

def pastBlock (d : Draft) : Draft :=
  { d with steps := [], blocks := d.blocks + 1, faults := [], cautions := [] }

lemma addBlock_eq_after (d : Draft) (b : Block) :
    d.addBlock settings b =
      d.pastBlock.after (d.steps ++ (b.step? settings (stepId d.blocks)).toList)
        (d.faults ++ missed settings [b]) (d.cautions ++ b.cautions settings) := by
  rw [addBlock_eq, numbered_singleton]
  simp [after, pastBlock]

end Draft

/-- Of a script with a block between settled tokens and any others, the block decides its own step, its
own fault and its own cautions, and nothing else. -/
theorem block_isolated (settings : Settings) {A : List Token} (hA : Settled A) (B : List Token) :
    ∃ (k : ℕ) (ss : List Step) (fs : List Fault) (cs : List Caution) (frame : Reading),
      ∀ X : BracedBlock, ofTokens settings (A ++ X.tokens ++ B) =
        ⟨frame.scenario.map fun s =>
            { s with steps := ss ++ (X.block.step? settings (stepId k)).toList ++ s.steps },
          fs ++ missed settings [X.block] ++ frame.faults,
          cs ++ X.block.cautions settings ++ frame.cautions⟩ := by
  -- The items of `B` find the same draft but for what the block has added in front of theirs.
  let d := Draft.empty.addAll settings (outline A)
  refine ⟨d.blocks, d.steps, d.faults, d.cautions,
    (d.pastBlock.addAll settings (outline B)).reading, fun X => ?_⟩
  have hdraft : Draft.empty.addAll settings (outline (A ++ X.tokens ++ B)) =
      (d.addBlock settings X.block).addAll settings (outline B) := by
    rw [X.outline_between hA, Draft.addAll_append, Draft.addAll_cons]
    rfl
  rw [ofTokens, hdraft, Draft.addBlock_eq_after, Draft.addAll_after, Draft.reading_after]

def dangling : String :=
  "scenario \"S\" \x7b step \"a\" step \"b\" \x7b click #1 \x7d priority"

def following : String :=
  "description \"d\" step \"c\" \x7b refresh \x7d \x7d"

theorem block_isolated_dangling :
    Settled (Token.ofText dangling) ∧
      ∃ (k : ℕ) (ss : List Step) (fs : List Fault) (cs : List Caution) (frame : Reading),
        ∀ X : BracedBlock,
          ofTokens {} (Token.ofText dangling ++ X.tokens ++ Token.ofText following) =
            ⟨frame.scenario.map fun s =>
                { s with steps := ss ++ (X.block.step? {} (stepId k)).toList ++ s.steps },
              fs ++ missed {} [X.block] ++ frame.faults,
              cs ++ X.block.cautions {} ++ frame.cautions⟩ := by
  have hA : Settled (Token.ofText dangling) := by decide +kernel
  exact ⟨hA, block_isolated {} hA (Token.ofText following)⟩

end Script

end ScenarioScript
