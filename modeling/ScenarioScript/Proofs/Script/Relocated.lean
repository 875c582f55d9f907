import ScenarioScript.Proofs.Script.Recast

namespace ScenarioScript

namespace Entry

def move (r : Relocation) : Entry → Entry
  | retry line count => retry (r.line line) count
  | run head args => run (head.move r) (args.map (Token.move r))
  | e => e

lemma recast_recasting (r : Relocation) : recast r.recasting = move r := by
  funext e
  cases e with
  | run head args =>
    rw [recast, Token.recast_recasting]
    rfl
  | _ => rfl

lemma all_move {r : Relocation} (hr : r.line.Injective) (ts : List Token) :
    all (ts.map (Token.move r)) = (all ts).map (move r) := by
  rw [← Token.recast_recasting, all_recast (g := r.recasting) hr, recast_recasting]

end Entry

lemma Caution.recast_recasting (r : Relocation) : recast r.recasting = move r := by
  funext c
  obtain ⟨line, cause⟩ := c
  cases cause <;> rfl

lemma StepDraft.addAll_move (r : Relocation) (settings : Settings) (description : String)
    (d : StepDraft) (es : List Entry) :
    addAll settings description d (es.map (Entry.move r)) =
      ((addAll settings description d es).1,
        (addAll settings description d es).2.map (Caution.move r)) := by
  rw [← Entry.recast_recasting, addAll_recast, Caution.recast_recasting]

namespace Block

def move (r : Relocation) (b : Block) : Block :=
  { b with head := b.head.move r, body := b.body.map (Token.move r) }

lemma recast_recasting (r : Relocation) : recast r.recasting = move r := by
  funext b
  rw [recast, Token.recast_recasting, move]

lemma step?_move {r : Relocation} (hr : r.line.Injective) (settings : Settings) (id : String)
    (b : Block) : (b.move r).step? settings id = b.step? settings id := by
  rw [← recast_recasting, step?_recast (g := r.recasting) hr]

end Block

namespace Item

def move (r : Relocation) : Item → Item
  | name head text => name (head.move r) text
  | priority word => priority (word.move r)
  | step b => step (b.move r)
  | i => i

lemma recast_recasting (r : Relocation) : recast r.recasting = move r := by
  funext i
  cases i with
  | name head text => rw [recast, Token.recast_recasting, move]
  | step b => rw [recast, Block.recast_recasting, move]
  | _ => rfl

end Item

lemma outline_move (r : Relocation) (ts : List Token) :
    outline (ts.map (Token.move r)) = (outline ts).map (Item.move r) := by
  rw [← Token.recast_recasting, outline_recast, Item.recast_recasting]

lemma Script.ofTokens_move {r : Relocation} (hr : r.line.Injective) (settings : Settings)
    (ts : List Token) : ofTokens settings (ts.map (Token.move r)) =
      ⟨(ofTokens settings ts).scenario, (ofTokens settings ts).faults.map (Fault.move r),
        (ofTokens settings ts).cautions.map (Caution.move r)⟩ := by
  rw [← Token.recast_recasting, ofTokens_recast (g := r.recasting) hr, Caution.recast_recasting]
  rfl

end ScenarioScript
