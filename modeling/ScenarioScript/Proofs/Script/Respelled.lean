import Mathlib.Data.List.Forall2
import ScenarioScript.Proofs.Lexeme.Spelled
import ScenarioScript.Proofs.Script.Recast

namespace ScenarioScript

def Keyword.standard (word : String) : String :=
  ((ofText? word).map spelling).getD ""

lemma Keyword.ofText?_standard (word : String) : ofText? (standard word) = ofText? word := by
  have hempty : ofText? "" = none := by decide +kernel
  rw [standard]
  cases h : ofText? word with
  | none => exact hempty
  | some k => exact ofText?_spelling k

def Recasting.standard : Recasting where
  line := id
  column := fun _ column => column
  word := Keyword.standard
  keeps := Keyword.ofText?_standard

namespace Token

/-- Tokens at one place that are the same but for the spelling of a keyword or of a word that is
none. -/
structure SameWord (t u : Token) : Prop where
  kind : t.kind = u.kind
  line : t.line = u.line
  column : t.column = u.column
  text : t.kind ≠ .keyword → t.text = u.text
  word : t.kind = .keyword → Keyword.ofText? t.text = Keyword.ofText? u.text

instance : DecidableRel SameWord := fun t u =>
  decidable_of_iff (t.kind = u.kind ∧ t.line = u.line ∧ t.column = u.column ∧
      (t.kind ≠ .keyword → t.text = u.text) ∧
      (t.kind = .keyword → Keyword.ofText? t.text = Keyword.ofText? u.text))
    ⟨fun ⟨hk, hl, hc, ht, hw⟩ => ⟨hk, hl, hc, ht, hw⟩,
      fun h => ⟨h.kind, h.line, h.column, h.text, h.word⟩⟩

lemma SameWord.recast_eq {t u : Token} (h : t.SameWord u) :
    t.recast .standard = u.recast .standard := by
  obtain ⟨kind, text, line, column⟩ := t
  obtain ⟨kind', text', line', column'⟩ := u
  obtain rfl : kind = kind' := h.kind
  obtain rfl : line = line' := h.line
  obtain rfl : column = column' := h.column
  by_cases hk : kind = .keyword
  · have hword : Keyword.standard text = Keyword.standard text' := by
      rw [Keyword.standard, h.word hk, Keyword.standard]
    rw [recast_word _ hk, recast_word _ hk]
    simp [respell, move, Recasting.standard, hword]
  · obtain rfl : text = text' := h.text hk
    rfl

lemma map_recast_eq {ts us : List Token} (h : List.Forall₂ SameWord ts us) :
    ts.map (recast .standard) = us.map (recast .standard) := by
  induction h with
  | nil => rfl
  | cons htu _ ih => rw [List.map_cons, List.map_cons, htu.recast_eq, ih]

end Token

namespace Script

lemma map_move_standard (fs : List Fault) :
    fs.map (Fault.move Recasting.standard.toRelocation) = fs := by
  have hmove : Fault.move Recasting.standard.toRelocation = id := by
    funext f
    rw [Fault.move]
    split <;> rfl
  rw [hmove, List.map_id]

/-- Two scripts whose words spell the same keywords, or none, say the same with the same faults; and
their cautions stand in the same lines and differ in no more than the spelling of a word that they
quote. -/
theorem spelling_immaterial (settings : Settings) {ts us : List Token}
    (h : List.Forall₂ Token.SameWord ts us) :
    (ofTokens settings ts).success = (ofTokens settings us).success ∧
    (ofTokens settings ts).scenario = (ofTokens settings us).scenario ∧
    (ofTokens settings ts).faults = (ofTokens settings us).faults ∧
    (ofTokens settings ts).cautions.map (fun c => (c.line, c.cause.respell Keyword.standard)) =
      (ofTokens settings us).cautions.map (fun c => (c.line, c.cause.respell Keyword.standard)) := by
  have hts := ofTokens_recast (g := .standard) Function.injective_id settings ts
  have hus := ofTokens_recast (g := .standard) Function.injective_id settings us
  rw [Token.map_recast_eq h, hus, map_move_standard, map_move_standard] at hts
  obtain ⟨hscenario, hfaults, hcautions⟩ := Reading.mk.inj hts
  refine ⟨?_, hscenario.symm, hfaults.symm, ?_⟩
  · rw [Reading.success, Reading.success, hscenario, hfaults]
  · have hpairs := congrArg (List.map fun c : Caution => (c.line, c.cause)) hcautions
    rw [List.map_map, List.map_map] at hpairs
    exact hpairs.symm

def mixedCase : List Token :=
  Token.ofText "Scenario \"S\" PRIORITY glide STEP \x7b GoBack \x7d"

def lowerCase : List Token :=
  Token.ofText "scenario \"S\" priority slide step \x7b goback \x7d"

theorem spelling_immaterial_lowerCase :
    List.Forall₂ Token.SameWord mixedCase lowerCase ∧
    (ofTokens {} mixedCase).scenario = (ofTokens {} lowerCase).scenario ∧
    (ofTokens {} mixedCase).cautions ≠ (ofTokens {} lowerCase).cautions := by
  have h : List.Forall₂ Token.SameWord mixedCase lowerCase := by decide +kernel
  exact ⟨h, (spelling_immaterial {} h).2.1, by decide +kernel⟩

end Script

end ScenarioScript
