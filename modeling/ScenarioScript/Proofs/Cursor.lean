import Mathlib.Data.Int.Notation
import Mathlib.Data.List.Basic
import Mathlib.Data.List.Induction
import ScenarioScript.Cursor.Call

namespace ScenarioScript.Cursor

variable {c d : Cursor} {ts given : List Token} {t : Token} {r : Request} {rs : List Request}
  {a : Answer} {answers : List Answer} {α : Type}

namespace Request

def moves : Request → Bool
  | next | iterate | drain => true
  | _ => false

def fault? (place : ℤ × ℕ) : Request → Option Fault
  | fault cause none => some ⟨place.1, place.2, cause⟩
  | fault cause (some t) => some ⟨t.line, t.column, cause⟩
  | _ => none

def caution? (place : ℤ × ℕ) : Request → Option Caution
  | caution cause none => some ⟨place.1, cause⟩
  | caution cause (some t) => some ⟨t.line, cause⟩
  | _ => none

end Request

def handed (answers : List Answer) : List Token :=
  answers.flatMap Answer.tokens

def standing (given : List Token) : ℤ × ℕ :=
  match given.getLast? with
  | some t => (t.line, t.column)
  | none => (0, 0)

def noted (note : ℤ × ℕ → Request → Option α) (rs : List Request) (answers : List Answer) :
    List α :=
  rs.zipIdx.filterMap fun p => note (standing (handed (answers.take p.2))) p.1

/-- A cursor stands where another one does, and has the same tokens to come. -/
structure Unmoved (c d : Cursor) : Prop where
  pending : d.pending = c.pending
  line : d.line = c.line
  column : d.column = c.column

structure Past (ts given : List Token) (c : Cursor) : Prop where
  parts : given ++ c.pending = ts
  place : (c.line, c.column) = standing given

structure Account (ts : List Token) (rs : List Request) (answers : List Answer) (c : Cursor) :
    Prop where
  answered : answers.length = rs.length
  past : Past ts (handed answers) c
  faults : c.faults = noted Request.fault? rs answers
  cautions : c.cautions = noted Request.caution? rs answers

lemma Unmoved.refl (c : Cursor) : Unmoved c c :=
  ⟨rfl, rfl, rfl⟩

lemma Unmoved.trans {e : Cursor} (h : Unmoved c d) (h' : Unmoved d e) : Unmoved c e :=
  ⟨h'.pending.trans h.pending, h'.line.trans h.line, h'.column.trans h.column⟩

lemma standing_concat (given : List Token) (t : Token) :
    standing (given ++ [t]) = (t.line, t.column) := by
  rw [standing, List.getLast?_concat]

lemma handed_concat (answers : List Answer) (a : Answer) :
    handed (answers ++ [a]) = handed answers ++ a.tokens := by
  rw [handed, List.flatMap_append, List.flatMap_singleton, ← handed]

lemma advance_of_pending {rest : List Token} (h : c.pending = t :: rest) (atEnd : Answer) :
    c.advance atEnd =
      (.token t, { c with pending := rest, line := t.line, column := t.column }) := by
  rw [advance, next?, h]

lemma advance_at_end (h : c.pending = []) (atEnd : Answer) : c.advance atEnd = (atEnd, c) := by
  rw [advance, next?, h]

lemma Past.advance (h : Past ts given c) {atEnd : Answer} (hend : atEnd.tokens = []) :
    Past ts (given ++ (c.advance atEnd).1.tokens) (c.advance atEnd).2 := by
  cases hp : c.pending with
  | nil => rwa [advance_at_end hp, hend, List.append_nil]
  | cons t rest =>
    rw [advance_of_pending hp]
    refine ⟨?_, (standing_concat given t).symm⟩
    rw [← h.parts, hp, Answer.tokens, List.append_assoc, List.singleton_append]

lemma Past.drain (h : Past ts given c) : Past ts (given ++ c.drain.1) c.drain.2 := by
  cases hp : c.pending.getLast? with
  | none =>
    rw [Cursor.drain, hp]
    rwa [List.append_nil]
  | some t =>
    rw [Cursor.drain, hp]
    refine ⟨by rw [List.append_nil, h.parts], ?_⟩
    rw [standing, List.getLast?_append, hp]
    rfl

lemma Past.ask (h : Past ts given c) (r : Request) :
    Past ts (given ++ (c.ask r).1.tokens) (c.ask r).2 := by
  cases r with
  | next | iterate => exact h.advance rfl
  | drain => exact h.drain
  | hasNext | peek | fault | caution =>
    rw [← List.append_nil given] at h
    exact ⟨h.parts, h.place⟩

lemma advance_notes (c : Cursor) (atEnd : Answer) : (c.advance atEnd).2.faults = c.faults ∧
    (c.advance atEnd).2.cautions = c.cautions := by
  cases hp : c.pending with
  | nil => simp [advance_at_end hp]
  | cons t rest => simp [advance_of_pending hp]

lemma drain_notes (c : Cursor) : c.drain.2.faults = c.faults ∧ c.drain.2.cautions = c.cautions := by
  unfold drain
  split <;> exact ⟨rfl, rfl⟩

lemma ask_notes (c : Cursor) (r : Request) :
    (c.ask r).2.faults = c.faults ++ (r.fault? (c.line, c.column)).toList ∧
    (c.ask r).2.cautions = c.cautions ++ (r.caution? (c.line, c.column)).toList := by
  cases r with
  | next | iterate => simpa [ask, Request.fault?, Request.caution?] using c.advance_notes _
  | drain => simpa [ask, Request.fault?, Request.caution?] using c.drain_notes
  | hasNext | peek => simp [ask, Request.fault?, Request.caution?]
  | fault cause anchor =>
    cases anchor <;> simp [ask, addFault, Request.fault?, Request.caution?]
  | caution cause anchor =>
    cases anchor <;> simp [ask, addCaution, Request.fault?, Request.caution?]

lemma unmoved_ask (h : r.moves = false) (c : Cursor) : Unmoved c (c.ask r).2 := by
  cases r with
  | next | iterate | drain => simp [Request.moves] at h
  | hasNext | peek | fault | caution => exact ⟨rfl, rfl, rfl⟩

lemma unmoved_askAll (h : ∀ r ∈ rs, r.moves = false) (c : Cursor) : Unmoved c (c.askAll rs).2 := by
  induction rs generalizing c with
  | nil => exact .refl c
  | cons r rs ih =>
    obtain ⟨hr, hrs⟩ := List.forall_mem_cons.mp h
    exact (unmoved_ask hr c).trans (ih hrs (c.ask r).2)

lemma hasNext_eq (c : Cursor) : c.hasNext = c.peek?.isSome := by
  rw [hasNext, peek?]
  cases c.pending <;> rfl

lemma askAll_concat (c : Cursor) (rs : List Request) (r : Request) :
    c.askAll (rs ++ [r]) = ((c.askAll rs).1 ++ [((c.askAll rs).2.ask r).1],
      ((c.askAll rs).2.ask r).2) := by
  induction rs generalizing c with
  | nil => rfl
  | cons s rs ih => rw [List.cons_append, askAll, ih, askAll, List.cons_append]

lemma noted_concat (note : ℤ × ℕ → Request → Option α) (h : answers.length = rs.length)
    (r : Request) (a : Answer) : noted note (rs ++ [r]) (answers ++ [a]) =
      noted note rs answers ++ (note (standing (handed answers)) r).toList := by
  have hbefore : ∀ p ∈ rs.zipIdx, (answers ++ [a]).take p.2 = answers.take p.2 := by
    intro p hp
    obtain ⟨-, hlt, -⟩ := List.mem_zipIdx hp
    exact List.take_append_of_le_length (by omega)
  have hlast : (answers ++ [a]).take rs.length = answers := by
    rw [← h, List.take_left]
  rw [noted, List.zipIdx_append, List.filterMap_append]
  congr 1
  · exact List.filterMap_congr fun p hp => by rw [hbefore p hp]
  · rw [Nat.zero_add, List.zipIdx_singleton, List.filterMap_cons, List.filterMap_nil]
    simp only [hlast]
    cases note (standing (handed answers)) r <;> rfl

lemma account_new (ts : List Token) : Account ts [] [] (ofTokens ts) :=
  ⟨rfl, ⟨rfl, rfl⟩, rfl, rfl⟩

lemma Account.ask (h : Account ts rs answers c) (r : Request) :
    Account ts (rs ++ [r]) (answers ++ [(c.ask r).1]) (c.ask r).2 where
  answered := by rw [List.length_append, List.length_append, h.answered]; rfl
  past := by
    rw [handed_concat]
    exact h.past.ask r
  faults := by rw [noted_concat _ h.answered, (ask_notes c r).1, h.faults, h.past.place]
  cautions := by rw [noted_concat _ h.answered, (ask_notes c r).2, h.cautions, h.past.place]

lemma account_askAll (ts : List Token) (rs : List Request) :
    Account ts rs ((ofTokens ts).askAll rs).1 ((ofTokens ts).askAll rs).2 := by
  induction rs using List.reverseRecOn with
  | nil => exact account_new ts
  | append_singleton rs r ih =>
    rw [askAll_concat]
    exact ih.ask r

lemma askAll_iterate (c : Cursor) :
    c.askAll (List.replicate c.pending.length .iterate) =
      (c.pending.map .token, (c.ask .drain).2) := by
  induction hp : c.pending generalizing c with
  | nil => simp [askAll, ask, drain, hp]
  | cons t rest ih =>
    have hfirst : c.ask .iterate =
        (.token t, { c with pending := rest, line := t.line, column := t.column }) :=
      advance_of_pending hp _
    rw [List.length_cons, List.replicate_succ, askAll, hfirst, ih _ rfl, List.map_cons]
    cases rest with
    | nil => simp [ask, drain, hp]
    | cons u us => simp [ask, drain, hp, List.getLast?_cons]

lemma ask_drain (c : Cursor) :
    (c.ask .drain).1 = .drained c.pending ∧ (c.ask .drain).2.pending = [] := by
  cases hp : c.pending with
  | nil => simp [ask, drain, hp]
  | cons t rest => simp [ask, drain, hp, List.getLast?_cons]

/-- Requests of any kind, in any order: what they hand out, where the cursor stands behind them and
what has been noted, and what each further request gives back and changes. -/
theorem requests_in_any_order (ts : List Token) (rs : List Request) :
    ∃ answers c, (ofTokens ts).askAll rs = (answers, c) ∧ Account ts rs answers c ∧
      (∃ ahead, c.ask .peek = (.ahead ahead, c) ∧ c.ask .hasNext = (.truth ahead.isSome, c) ∧
        (ahead = none → c.ask .next = (.unexpectedEnd, c) ∧ c.ask .iterate = (.finished, c)) ∧
        ∀ t ∈ ahead, ∀ between, (∀ r ∈ between, r.moves = false) →
          ((c.askAll between).2.ask .next).1 = .token t ∧
          ((c.askAll between).2.ask .iterate).1 = .token t) ∧
      (∃ d, c.ask .drain = (.drained c.pending, d) ∧ d.pending = [] ∧
        c.askAll (List.replicate c.pending.length .iterate) = (c.pending.map .token, d)) ∧
      (∀ r, r.moves = false → Unmoved c (c.ask r).2) ∧
      ∀ r, (c.ask r).2.faults = c.faults ++ (r.fault? (standing (handed answers))).toList ∧
        (c.ask r).2.cautions = c.cautions ++ (r.caution? (standing (handed answers))).toList := by
  have haccount := account_askAll ts rs
  generalize (ofTokens ts).askAll rs = answers at haccount
  obtain ⟨answers, c⟩ := answers
  refine ⟨answers, c, rfl, haccount, ⟨c.peek?, rfl, ?_, fun hend => ?_, ?_⟩, ?_,
    fun r hr => unmoved_ask hr c, fun r => ?_⟩
  · rw [ask, hasNext_eq]
  · have hp : c.pending = [] := List.head?_eq_none_iff.mp hend
    exact ⟨advance_at_end hp _, advance_at_end hp _⟩
  · intro t ht between hquiet
    obtain ⟨rest, hp⟩ := List.head?_eq_some_iff.mp ht
    have hstill := (unmoved_askAll hquiet c).pending.trans hp
    rw [ask, ask, advance_of_pending hstill, advance_of_pending hstill]
    exact ⟨rfl, rfl⟩
  · obtain ⟨hanswer, hempty⟩ := ask_drain c
    exact ⟨(c.ask .drain).2, Prod.ext hanswer rfl, hempty, askAll_iterate c⟩
  · rw [← haccount.past.place]
    exact ask_notes c r

def spoken : List Token :=
  [⟨.keyword, "click", 3, 0⟩, ⟨.targetId, "12", 3, 6⟩, ⟨.keyword, "double", 4, 2⟩]

def interleaved : List Request :=
  [.fault (.note "early") none, .next, .hasNext, .caution (.note "here") none, .iterate, .peek]

theorem requests_in_any_order_interleaved :
    ∃ answers c, (ofTokens spoken).askAll interleaved = (answers, c) ∧
      Account spoken interleaved answers c ∧
      (∀ r ∈ [Request.peek, .fault (.note "there") (some ⟨.targetId, "7", 9, 5⟩)],
        r.moves = false) ∧
      ((c.askAll [.peek, .fault (.note "there") (some ⟨.targetId, "7", 9, 5⟩)]).2.ask .next).1 =
        .token ⟨.keyword, "double", 4, 2⟩ ∧
      ∃ answers d, (ofTokens spoken).askAll [.drain] = (answers, d) ∧
        d.ask .peek = (.ahead none, d) ∧ d.ask .next = (.unexpectedEnd, d) := by
  obtain ⟨answers, c, hrun, haccount, ⟨ahead, hpeek, -, -, hahead⟩, -⟩ :=
    requests_in_any_order spoken interleaved
  obtain ⟨drained, d, hdrain, -, ⟨none', hnone, -, hend, -⟩, -⟩ :=
    requests_in_any_order spoken [.drain]
  obtain ⟨rfl, rfl⟩ := Prod.mk.inj hrun
  obtain ⟨rfl, rfl⟩ := Prod.mk.inj hdrain
  obtain rfl : ahead = some ⟨.keyword, "double", 4, 2⟩ :=
    (Answer.ahead.inj (congrArg Prod.fst hpeek)).symm
  obtain rfl : none' = none := (Answer.ahead.inj (congrArg Prod.fst hnone)).symm
  have hquiet : ∀ r ∈ [Request.peek, .fault (.note "there") (some ⟨.targetId, "7", 9, 5⟩)],
      r.moves = false := by
    decide
  exact ⟨_, _, rfl, haccount, hquiet, (hahead _ rfl _ hquiet).1, _, _, rfl, hnone, (hend rfl).1⟩

end ScenarioScript.Cursor
