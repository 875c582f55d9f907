import ScenarioScript.Proofs.Arguments.AnyOrder
import ScenarioScript.Proofs.Script.LineOrder
import ScenarioScript.Proofs.Walk.Script

/-! Passages of a script may change places, as long as its steps keep their order: a passage is items of
its own, and items of different roles settle different aspects of the scenario. -/

namespace ScenarioScript

namespace Passage

inductive Role
  | header | description | url | tags | priority | step | frame
  deriving DecidableEq

def Role.Fits : Role → List Token → Prop
  | .header => fun ts => Token.IsSetting .scenario .string (ts.take 2) ∧
      ∀ b ∈ ts.drop 2, Block.isPlain b = false
  | .description => Token.IsSetting .description .string
  | .url => Token.IsSetting .url .string
  | .tags => Token.IsSetting .tags .array
  | .priority => fun ts => Token.IsSetting .priority .keyword ts ∧
      ∃ word ∈ ts[1]?, ∃ k ∈ [Keyword.critical, .high, .medium, .low], word.is k = true
  | .step => fun ts => ∃ X : BracedBlock, ts = X.tokens
  | .frame => fun ts => ∀ b ∈ ts, Block.isPlain b = false

end Passage

structure Passage where
  lines : List String
  role : Passage.Role
  fits : role.Fits (Token.ofLines lines)

namespace Item

def role : Item → Passage.Role
  | name _ _ => .header
  | description _ => .description
  | url _ => .url
  | tags _ => .tags
  | priority _ => .priority
  | step _ => .step

def field? : Keyword → Option (TokenKind × (Token → Token → Item))
  | .scenario => some (.string, fun t v => .name t v.text)
  | .description => some (.string, fun _ v => .description v.text)
  | .url => some (.string, fun _ v => .url v.text)
  | .tags => some (.array, fun _ v => .tags (Tags.read v.text))
  | .priority => some (.keyword, fun _ v => .priority v)
  | _ => none

end Item

section Outline

variable {t v : Token} {k : Keyword} {kind : TokenKind} {item : Token → Token → Item}

lemma Item.readAt_field (hk : t.keyword = some k) (h : field? k = some (kind, item))
    (ts : List Token) : readAt t ts = setting kind (item t) ts := by
  cases k <;> simp [field?] at h <;> obtain ⟨rfl, rfl⟩ := h <;> simp [readAt, hk]

lemma outline_field (hk : t.keyword = some k) (h : Item.field? k = some (kind, item))
    (hv : v.kind = kind) (hs : v.is .step = false) (rest : List Token) :
    outline (t :: v :: rest) = item t v :: outline rest := by
  rw [outline_cons, Item.readAt_field hk h]
  simp [Item.setting, Item.value?, hv, hs]

lemma outline_setting {ts : List Token} (hts : Token.IsSetting k kind ts)
    (h : Item.field? k = some (kind, item)) (hkind : kind ≠ .keyword) :
    ∃ head value, ∀ rest, outline (ts ++ rest) = item head value :: outline rest := by
  obtain ⟨head, value, rfl, hh, hv⟩ := hts.split
  have hs : value.is .step = false := Token.is_eq_false_of_kind_ne (hv ▸ hkind) _
  exact ⟨head, value, fun rest => outline_field (Token.keyword_of_is hh) h hv hs rest⟩

lemma outline_frame {bs : List Token} (h : ∀ b ∈ bs, Block.isPlain b = false) (rest : List Token) :
    outline (bs ++ rest) = outline rest := by
  induction bs with
  | nil => rfl
  | cons b bs ih =>
    obtain ⟨hb, hbs⟩ := List.forall_mem_cons.mp h
    have hnone : b.keyword = none := by
      cases hk : b.kind <;> simp_all [Block.isPlain, Token.keyword]
    rw [List.cons_append, outline_cons, Item.readAt, hnone, ih hbs]
    rfl

end Outline

namespace Passage

lemma Role.Fits.items {role : Role} {ts : List Token} (h : role.Fits ts) :
    ∃ is : List Item, (∀ i ∈ is, i.role = role) ∧
      ∀ rest, outline (ts ++ rest) = is ++ outline rest := by
  cases role with
  | header =>
    obtain ⟨hts, hbs⟩ := h
    obtain ⟨head, value, ho⟩ := outline_setting hts rfl (by decide)
    refine ⟨[.name head value.text], List.forall_mem_singleton.mpr rfl, fun rest => ?_⟩
    rw [← List.take_append_drop 2 ts, List.append_assoc, ho, outline_frame hbs]
    rfl
  | description | url | tags =>
    obtain ⟨head, value, ho⟩ := outline_setting h rfl (by decide)
    refine ⟨[_], ?_, ho⟩
    exact List.forall_mem_singleton.mpr rfl
  | priority =>
    obtain ⟨hts, w, hw, k, hk, hwk⟩ := h
    obtain ⟨head, word, rfl, hh, hkind⟩ := hts.split
    obtain rfl : word = w := Option.some.inj hw
    have hne : k ≠ .step := by
      rintro rfl
      simp at hk
    have hs : word.is .step = false := by simpa [Token.is, Token.keyword_of_is hwk] using hne
    refine ⟨[.priority word], List.forall_mem_singleton.mpr rfl, fun rest => ?_⟩
    exact outline_field (Token.keyword_of_is hh) rfl hkind hs rest
  | step =>
    obtain ⟨X, rfl⟩ := h
    exact ⟨[.step X.block], List.forall_mem_singleton.mpr rfl, X.outline_tokens⟩
  | frame => exact ⟨[], by simp, outline_frame h⟩

section Place

variable (p : Passage) (line : ℤ)

open Relocation

def items : List Item :=
  outline (Token.ofLines p.lines)

lemma items_alone : (∀ i ∈ p.items, i.role = p.role) ∧
    ∀ rest, outline (Token.ofLines p.lines ++ rest) = p.items ++ outline rest := by
  obtain ⟨is, hrole, ho⟩ := p.fits.items
  have his : p.items = is := by
    have h := ho []
    rwa [List.append_nil, outline_nil, List.append_nil] at h
  rw [his]
  exact ⟨hrole, ho⟩

-- What comes behind is moved back and down again, so that all of it moves down together.
lemma outline_append_at (rest : List Token) :
    outline (Token.ofLinesFrom line p.lines ++ rest) =
      p.items.map (Item.move (shift (line - 1))) ++ outline rest := by
  have hlines := Token.ofLinesFrom_shift (line - 1) 1 p.lines
  have hrest := Token.map_shift_neg (line - 1) rest
  rw [add_sub_cancel] at hlines
  rw [hlines, ← hrest, ← List.map_append, outline_move, ← Token.ofLines, p.items_alone.2,
    List.map_append, ← outline_move]

end Place

end Passage

namespace BracedBlock

def ofLines (title : String) (ls : List BodyLine) : BracedBlock where
  head := ⟨.keyword, "step", 1, 0⟩
  title := some ⟨.string, title, 1, 5⟩
  opening := ⟨.braceOpen, "\x7b", 1, 8 + title.length⟩
  inside := Token.ofLinesFrom 2 (ls.map BodyLine.text)
  closing := ⟨.braceClose, "\x7d", 2 + ls.length, 0⟩
  head_is := by decide +kernel
  title_kind := by simp
  opening_kind := rfl
  inside_balanced := .of_isPlain (BodyLine.isPlain_lines 2 ls)
  closing_kind := rfl

end BracedBlock

namespace Script

namespace Draft

def settle (settings : Settings) (d : Draft) : Item → Draft
  | .name _ text => { d with name := if d.name.isEmpty then text else d.name }
  | .description text => { d with description := text }
  | .url text => { d with startUrl := text }
  | .tags tags => { d with tags := tags }
  | .priority word => { d with priority := (word.keyword.bind priority?).getD .medium }
  | .step b => { d with
      steps := d.steps ++ (b.step? settings (stepId d.blocks)).toList
      blocks := d.blocks + 1 }

lemma add_eq_settle (settings : Settings) (d : Draft) (i : Item) :
    ∃ fs cs, d.add settings i = { d.settle settings i with faults := fs, cautions := cs } := by
  cases i with
  | name head text =>
    by_cases hn : d.name.isEmpty = true
    · exact ⟨_, _, by rw [add, settle, if_pos hn, if_pos hn]⟩
    · exact ⟨_, _, by rw [add, settle, if_neg hn, if_neg hn]; rfl⟩
  | priority word =>
    cases hp : word.keyword.bind priority? with
    | some p => exact ⟨d.faults, d.cautions, by simp [add, settle, hp]⟩
    | none => exact ⟨d.faults, d.cautions ++ [_], by simp [add, settle, hp, caution]; rfl⟩
  | description _ | url _ | tags _ => exact ⟨_, _, rfl⟩
  | step b => exact ⟨_, _, by rw [add, addBlock_eq, numbered_singleton]; rfl⟩

end Draft

/-- An aspect of a scenario: what the items of one role say of it, wherever they stand. -/
structure Aspect (settings : Settings) where
  Value : Type
  Saying : Type
  role : Passage.Role
  of : Draft → Value
  said? : Item → Option Saying
  put : Value → Saying → Value
  of_settle : ∀ d i fs cs, of { d.settle settings i with faults := fs, cautions := cs } =
      (said? i).elim (of d) (put (of d)) := by
    intro d i fs cs
    cases i <;> rfl
  said?_move : ∀ r : Relocation, r.line.Injective → ∀ i, said? (i.move r) = said? i := by
    intro r hr i
    cases i <;> rfl
  said?_of_role_ne : ∀ i : Item, i.role ≠ role → said? i = none := by
    intro i h
    cases i <;> first | rfl | exact absurd rfl h

namespace Aspect

variable {settings : Settings}

def name : Aspect settings where
  Value := String
  Saying := String
  role := .header
  of d := d.name
  said? | .name _ text => some text | _ => none
  put old text := if old.isEmpty then text else old

def description : Aspect settings where
  Value := String
  Saying := String
  role := .description
  of d := d.description
  said? | .description text => some text | _ => none
  put _ text := text

def startUrl : Aspect settings where
  Value := String
  Saying := String
  role := .url
  of d := d.startUrl
  said? | .url text => some text | _ => none
  put _ text := text

def tags : Aspect settings where
  Value := SortedSet String
  Saying := SortedSet String
  role := .tags
  of d := d.tags
  said? | .tags tags => some tags | _ => none
  put _ tags := tags

def priority : Aspect settings where
  Value := Priority
  Saying := Priority
  role := .priority
  of d := d.priority
  said? | .priority word => some ((word.keyword.bind priority?).getD .medium) | _ => none
  put _ p := p

def steps : Aspect settings where
  Value := List Step × ℕ
  Saying := String → Option Step
  role := .step
  of d := (d.steps, d.blocks)
  said? | .step b => some fun id => b.step? settings id | _ => none
  put v step := (v.1 ++ (step (stepId v.2)).toList, v.2 + 1)
  said?_move r hr i := by
    cases i with
    | step b => simp only [Item.move, Block.step?_move hr]
    | _ => rfl

lemma of_addAll (a : Aspect settings) (d : Draft) (is : List Item) :
    a.of (d.addAll settings is) = (is.filterMap a.said?).foldl a.put (a.of d) := by
  induction is generalizing d with
  | nil => rfl
  | cons i is ih =>
    obtain ⟨fs, cs, hadd⟩ := Draft.add_eq_settle settings d i
    rw [Draft.addAll_cons, ih, hadd, a.of_settle, List.filterMap_cons]
    cases a.said? i <;> rfl

lemma filterMap_items (a : Aspect settings) {p : Passage} (h : p.role ≠ a.role) :
    p.items.filterMap a.said? = [] := by
  refine List.filterMap_eq_nil_iff.mpr fun i hi => a.said?_of_role_ne i ?_
  rw [p.items_alone.1 i hi]
  exact h

lemma said_passages (a : Aspect settings) (line : ℤ) (ps : List Passage) :
    (outline (Token.ofLinesFrom line (ps.flatMap Passage.lines))).filterMap a.said? =
      (ps.filter (·.role = a.role)).flatMap fun p => p.items.filterMap a.said? := by
  induction ps generalizing line with
  | nil => simp [Token.ofLinesFrom, outline_nil]
  | cons p ps ih =>
    have hmove : (p.items.map (Item.move (Relocation.shift (line - 1)))).filterMap a.said? =
        p.items.filterMap a.said? := by
      rw [List.filterMap_map]
      exact List.filterMap_congr fun i _ => a.said?_move _ (Relocation.shift_injective _) i
    rw [List.flatMap_cons, Token.ofLinesFrom_append, p.outline_append_at, List.filterMap_append, hmove,
      ih]
    by_cases h : p.role = a.role
    · simp [h]
    · simp [h, a.filterMap_items h]

lemma of_passages (a : Aspect settings) {ps ps' : List Passage}
    (h : ps.filter (·.role = a.role) = ps'.filter (·.role = a.role)) :
    a.of (Draft.empty.addAll settings (outline (Token.ofLines (ps.flatMap Passage.lines)))) =
      a.of (Draft.empty.addAll settings (outline (Token.ofLines (ps'.flatMap Passage.lines)))) := by
  rw [of_addAll, of_addAll, Token.ofLines, Token.ofLines, said_passages, said_passages, h]

end Aspect

/-- The lines of a body may be written in any order, as long as no two of them are of one kind: the step
stays the same, or stays away, and is cautioned for alike. So may the passages of a script, as long as
its steps keep their order and of all others there is at most one in each role: the scenario stays the
same. -/
theorem order_of_lines_immaterial (settings : Settings) :
    (∀ {ls ls' : List BodyLine}, ls.Perm ls' → (ls.map BodyLine.kind).Nodup →
      ∀ {X X' : BracedBlock} {line line' : ℤ},
        X.inside = Token.ofLinesFrom line (ls.map BodyLine.text) →
        X'.inside = Token.ofLinesFrom line' (ls'.map BodyLine.text) →
        X.title.map (·.text) = X'.title.map (·.text) →
        (∀ id, X.block.step? settings id = X'.block.step? settings id) ∧
          ((X.block.cautions settings).map (·.cause)).Perm
            ((X'.block.cautions settings).map (·.cause))) ∧
    ∀ {ps ps' : List Passage}, ps.Perm ps' →
      ps.filter (·.role = .step) = ps'.filter (·.role = .step) →
      (∀ role, role ≠ .step → role ≠ .frame → (ps.filter (·.role = role)).length ≤ 1) →
      ∀ {text text' : String}, Text.lines text = ps.flatMap Passage.lines →
        Text.lines text' = ps'.flatMap Passage.lines →
        (read settings text).scenario = (read settings text').scenario := by
  refine ⟨fun h hn _ _ _ _ hX hX' ht => BracedBlock.reordered h hn hX hX' ht settings, ?_⟩
  intro ps ps' hperm hsteps honce text text' htext htext'
  have hrole (role : Passage.Role) (hframe : role ≠ .frame) :
      ps.filter (·.role = role) = ps'.filter (·.role = role) := by
    by_cases hstep : role = .step
    · rw [hstep, hsteps]
    · exact filter_eq_of_perm hperm (honce role hstep hframe)
  let d := Draft.empty.addAll settings (outline (Token.ofLines (ps.flatMap Passage.lines)))
  let d' := Draft.empty.addAll settings (outline (Token.ofLines (ps'.flatMap Passage.lines)))
  have haspect (a : Aspect settings) (hframe : a.role ≠ .frame) : a.of d = a.of d' :=
    a.of_passages (hrole a.role hframe)
  have hname : d.name = d'.name := haspect .name Passage.Role.noConfusion
  have hdescription : d.description = d'.description := haspect .description Passage.Role.noConfusion
  have hurl : d.startUrl = d'.startUrl := haspect .startUrl Passage.Role.noConfusion
  have htags : d.tags = d'.tags := haspect .tags Passage.Role.noConfusion
  have hpriority : d.priority = d'.priority := haspect .priority Passage.Role.noConfusion
  have hsteps : d.steps = d'.steps := congrArg Prod.fst (haspect .steps Passage.Role.noConfusion)
  have hread : (read settings text).scenario = d.reading.scenario := by
    rw [read_eq, ofTokens, Token.ofText, htext]
  have hread' : (read settings text').scenario = d'.reading.scenario := by
    rw [read_eq, ofTokens, Token.ofText, htext']
  rw [hread, hread', Draft.scenario_reading, Draft.scenario_reading, hname, hdescription, hurl, htags,
    hpriority, hsteps]

def waitLine : BodyLine :=
  ⟨"    wait pageLoaded timeout 300", .run, by decide +kernel⟩

def timeoutLine : BodyLine :=
  ⟨"    timeout 40", .timeout, by decide +kernel⟩

def retryLine : BodyLine :=
  ⟨"    retry -1", .retry, by decide +kernel⟩

def headPassage : Passage :=
  ⟨["scenario \"S\" \x7b"], .header, by decide +kernel, by decide +kernel⟩

def urgentPassage : Passage :=
  ⟨["priority critical"], .priority, by decide +kernel, by decide +kernel⟩

def clickLine : BodyLine :=
  ⟨"  click #1", .run, by decide +kernel⟩

def stepPassage : Passage :=
  ⟨["step \"b\" \x7b", "  click #1", "\x7d"], .step, .ofLines "b" [clickLine], by decide +kernel⟩

def endPassage : Passage :=
  ⟨["\x7d"], .frame,
    (by decide +kernel : ∀ b ∈ Token.ofLines ["\x7d"], Block.isPlain b = false)⟩

def headed : String :=
  "scenario \"S\" \x7b\npriority critical\nstep \"b\" \x7b\n  click #1\n\x7d\n\x7d"

def rotated : String :=
  "step \"b\" \x7b\n  click #1\n\x7d\n\x7d\nscenario \"S\" \x7b\npriority critical"

theorem order_of_lines_immaterial_rotated :
    (∀ id, (BracedBlock.ofLines "a" [waitLine, timeoutLine, retryLine]).block.step? {} id =
      (BracedBlock.ofLines "a" [timeoutLine, retryLine, waitLine]).block.step? {} id) ∧
    (read {} headed).scenario = (read {} rotated).scenario := by
  have hlines := @List.perm_append_comm _ [waitLine] [timeoutLine, retryLine]
  have hpassages := @List.perm_append_comm _ [headPassage, urgentPassage] [stepPassage, endPassage]
  have hinside (ls : List BodyLine) :
      (BracedBlock.ofLines "a" ls).inside = Token.ofLinesFrom 2 (ls.map BodyLine.text) := rfl
  obtain ⟨hbody, hscript⟩ := order_of_lines_immaterial {}
  constructor
  · exact (hbody hlines (by decide) (hinside _) (hinside _) rfl).1
  · refine hscript hpassages rfl (fun role _ _ => ?_) (by decide +kernel) (by decide +kernel)
    cases role <;> decide

end Script

end ScenarioScript
