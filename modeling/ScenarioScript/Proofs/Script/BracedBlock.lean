import ScenarioScript.Proofs.Script.Openings

namespace ScenarioScript

open scoped List

namespace Block

variable {t : Token}

def endsInside : List Token → Bool
  | [] => false
  | t :: ts =>
    if t.is .step then false
    else match t.kind with
      | .braceOpen => !(inner 0 ts).closed
      | .braceClose => false
      | _ => endsInside ts

lemma inner_append {depth : ℕ} {ts : List Token} (h : (inner depth ts).closed = true)
    (us : List Token) :
    inner depth (ts ++ us) = { inner depth ts with rest := (inner depth ts).rest ++ us } := by
  induction ts generalizing depth with
  | nil => simp [inner] at h
  | cons t ts ih =>
    rw [List.cons_append]
    by_cases ho : t.kind = .braceOpen
    · rw [inner_open depth ts ho] at h ⊢
      rw [inner_open depth _ ho, ih h]
    by_cases hc : t.kind = .braceClose
    · cases depth with
      | zero => rw [inner_close_zero ts hc, inner_close_zero _ hc]
      | succ d =>
        rw [inner_close_succ d ts hc] at h ⊢
        rw [inner_close_succ d _ hc, ih h]
    · rw [inner_plain depth ts ho hc] at h ⊢
      rw [inner_plain depth _ ho hc, ih h]

lemma outer_append {ts : List Token} (h : endsInside ts = false) (ht : t.is .step = true)
    (us : List Token) :
    outer (ts ++ t :: us) = { outer ts with rest := (outer ts).rest ++ t :: us } := by
  induction ts with
  | nil => simp [outer, ht]
  | cons u ts ih =>
    rw [List.cons_append]
    cases hs : u.is .step with
    | true => simp [outer, hs]
    | false =>
      by_cases ho : u.kind = .braceOpen
      · have hclosed : (inner 0 ts).closed = true := by simpa [endsInside, hs, ho] using h
        rw [outer_open ts ho, outer_open _ ho, inner_append hclosed]
      by_cases hc : u.kind = .braceClose
      · rw [outer_close ts hc, outer_close _ hc]
      · have hends : endsInside ts = false := by
          rw [endsInside, if_neg (by simp [hs])] at h
          cases hk : u.kind <;> simp_all
        rw [outer_plain ts hs ho hc, outer_plain _ hs ho hc, ih hends]

lemma endsInside_of_string {ts : List Token} (hk : t.kind = .string) :
    endsInside (t :: ts) = endsInside ts := by
  have hs : t.is .step = false := Token.is_eq_false_of_kind_ne (by simp [hk]) _
  rw [endsInside, if_neg (by simp [hs]), hk]

lemma read_append (head : Token) {ts : List Token} (h : endsInside ts = false)
    (ht : t.is .step = true) (us : List Token) :
    read head (ts ++ t :: us) = ((read head ts).1, (read head ts).2 ++ t :: us) := by
  have hk : t.kind ≠ .string := by simp [kind_of_is ht]
  cases ts with
  | nil => simp [read, hk, outer, ht]
  | cons u ts =>
    by_cases hu : u.kind = .string
    · rw [endsInside_of_string hu] at h
      simp [read, hu, outer_append h ht]
    · have ho := outer_append h ht us
      rw [List.cons_append] at ho ⊢
      simp [read, hu, ho]

end Block

namespace Item

variable {t : Token}

lemma setting_append (kind : TokenKind) (item : Token → Item) (ts : List Token)
    (ht : t.is .step = true) (us : List Token) :
    setting kind item (ts ++ t :: us) =
      ((setting kind item ts).1, (setting kind item ts).2 ++ t :: us) := by
  cases ts with
  | nil => simp [setting, value?, ht]
  | cons u ts =>
    simp only [setting, value?, List.cons_append]
    split <;> rfl

lemma readAt_append {u : Token} {ts : List Token}
    (h : u.is .step = true → Block.endsInside ts = false) (ht : t.is .step = true)
    (us : List Token) :
    readAt u (ts ++ t :: us) = ((readAt u ts).1, (readAt u ts).2 ++ t :: us) := by
  rw [readAt, readAt]
  split
  · exact setting_append _ _ ts ht us
  · exact setting_append _ _ ts ht us
  · exact setting_append _ _ ts ht us
  · exact setting_append _ _ ts ht us
  · exact setting_append _ _ ts ht us
  · next hk => rw [Block.read_append u (h (by simp [Token.is, hk])) ht]
  · rfl

end Item

namespace Script

/-- No body that tokens open is left without its end. -/
def Settled (ts : List Token) : Prop :=
  ∀ p ∈ openings ts, Block.endsInside p.2 = false

instance (ts : List Token) : Decidable (Settled ts) :=
  List.decidableBAll _ _

lemma outline_append {ts : List Token} (h : Settled ts) {t : Token} (ht : t.is .step = true)
    (us : List Token) : outline (ts ++ t :: us) = outline ts ++ outline (t :: us) := by
  fun_induction outline ts with
  | case1 => rfl
  | case2 u ts ih =>
    -- Each item of `ts` that is still looking for something finds the step word, and leaves it.
    rw [Settled, openings_cons] at h
    have hu : u.is .step = true → Block.endsInside ts = false := fun hs =>
      h (u, ts) (by simp [hs])
    have ih := ih fun p hp => h p (List.mem_append_right _ hp)
    rw [List.cons_append, outline_cons, Item.readAt_append hu ht, ih, List.append_assoc]

end Script

namespace Block

def opens (ts : List Token) : ℕ :=
  ts.countP (·.kind = .braceOpen)

def closes (ts : List Token) : ℕ :=
  ts.countP (·.kind = .braceClose)

structure Balanced (ts : List Token) : Prop where
  sane : ∀ us, us <+: ts → closes us ≤ opens us
  settled : closes ts = opens ts

def isPlain (t : Token) : Bool :=
  t.kind ≠ .braceOpen && t.kind ≠ .braceClose

lemma opens_cons (t : Token) (ts : List Token) :
    opens (t :: ts) = opens ts + if t.kind = .braceOpen then 1 else 0 := by
  simp [opens, List.countP_cons]

lemma closes_cons (t : Token) (ts : List Token) :
    closes (t :: ts) = closes ts + if t.kind = .braceClose then 1 else 0 := by
  simp [closes, List.countP_cons]

lemma inner_of_balance {depth : ℕ} {ts : List Token}
    (hsane : ∀ us, us <+: ts → closes us ≤ opens us + depth) (hsettled : closes ts = opens ts + depth)
    (ht : t.kind = .braceClose) (rest : List Token) :
    inner depth (ts ++ t :: rest) = ⟨ts.filter isPlain, true, rest⟩ := by
  -- `depth` braces are open in front of `ts`, and each token changes that number as it is counted.
  induction ts generalizing depth with
  | nil =>
    obtain rfl : depth = 0 := by simpa [closes, opens] using hsettled.symm
    exact inner_close_zero rest ht
  | cons u ts ih =>
    have htail (us : List Token) (hus : us <+: ts) := hsane (u :: us) (by simpa using hus)
    simp only [opens_cons, closes_cons] at hsettled htail
    by_cases ho : u.kind = .braceOpen
    · simp only [ho, if_true, reduceCtorEq, if_false] at hsettled htail
      have ih := @ih (depth + 1) (fun us hus => by have := htail us hus; omega) (by omega)
      rw [List.cons_append, inner_open depth _ ho, ih]
      simp [isPlain, ho]
    by_cases hc : u.kind = .braceClose
    · simp only [hc, if_true, reduceCtorEq, if_false] at hsettled htail
      cases depth with
      | zero =>
        have hone := htail [] List.nil_prefix
        simp [closes, opens] at hone
      | succ d =>
        have ih := @ih d (fun us hus => by have := htail us hus; omega) (by omega)
        rw [List.cons_append, inner_close_succ d _ hc, ih]
        simp [isPlain, hc]
    · simp only [ho, hc, if_false, Nat.add_zero] at hsettled htail
      rw [List.cons_append, inner_plain depth _ ho hc, ih htail hsettled]
      simp [isPlain, ho, hc]

lemma Balanced.inner {ts : List Token} (h : Balanced ts) (ht : t.kind = .braceClose)
    (rest : List Token) : inner 0 (ts ++ t :: rest) = ⟨ts.filter isPlain, true, rest⟩ :=
  inner_of_balance h.sane h.settled ht rest

end Block

/-- A block as it is written with all its braces: a step word, a description or none, and a body
that balances. -/
structure BracedBlock where
  head : Token
  title : Option Token
  opening : Token
  inside : List Token
  closing : Token
  head_is : head.is .step = true
  title_kind : ∀ t ∈ title, t.kind = .string
  opening_kind : opening.kind = .braceOpen
  inside_balanced : Block.Balanced inside
  closing_kind : closing.kind = .braceClose

namespace BracedBlock

def tail (X : BracedBlock) : List Token :=
  X.title.toList ++ X.opening :: (X.inside ++ [X.closing])

def tokens (X : BracedBlock) : List Token :=
  X.head :: X.tail

def block (X : BracedBlock) : Block :=
  (Block.read X.head X.tail).1

lemma read_tail (X : BracedBlock) (rest : List Token) :
    Block.read X.head (X.tail ++ rest) =
      (⟨X.head, (X.title.map (·.text)).getD "", X.inside.filter Block.isPlain, true⟩, rest) := by
  have houter : Block.outer (X.opening :: (X.inside ++ X.closing :: rest)) =
      ⟨X.inside.filter Block.isPlain, true, rest⟩ := by
    rw [Block.outer_open _ X.opening_kind, X.inside_balanced.inner X.closing_kind]
  have htail : X.tail ++ rest =
      X.title.toList ++ X.opening :: (X.inside ++ X.closing :: rest) := by
    simp [tail]
  rw [htail]
  cases ht : X.title with
  | none =>
    have hk : X.opening.kind ≠ .string := by simp [X.opening_kind]
    simp [Block.read, hk, houter]
  | some t =>
    have hk : t.kind = .string := X.title_kind t (by simp [ht])
    simp [Block.read, hk, houter]

lemma block_eq (X : BracedBlock) :
    X.block = ⟨X.head, (X.title.map (·.text)).getD "", X.inside.filter Block.isPlain, true⟩ := by
  have h := X.read_tail []
  rw [List.append_nil] at h
  rw [block, h]

lemma outline_tokens (X : BracedBlock) (rest : List Token) :
    outline (X.tokens ++ rest) = .step X.block :: outline rest := by
  rw [tokens, List.cons_append, outline_cons, Item.readAt_step X.head_is, read_tail, block_eq]
  rfl

lemma outline_between {A : List Token} (hA : Script.Settled A) (X : BracedBlock) (B : List Token) :
    outline (A ++ X.tokens ++ B) = outline A ++ .step X.block :: outline B := by
  have h := X.outline_tokens B
  rw [List.append_assoc, tokens, List.cons_append, Script.outline_append hA X.head_is]
  rw [tokens, List.cons_append] at h
  rw [h]

end BracedBlock

end ScenarioScript
