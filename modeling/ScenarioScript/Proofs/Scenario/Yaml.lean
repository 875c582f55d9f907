import ScenarioScript.Proofs.Document.Value
import ScenarioScript.Proofs.Script.Numbers
import ScenarioScript.Proofs.Script.WellFormed

namespace ScenarioScript

open Document Document.Yaml Yaml

namespace Yaml

-- Named, since an instance may as well run through all characters there are.
instance (s : String) : Decidable (OnlyFeeds s) :=
  List.decidableBAll _ _

lemma onlyFeeds_of_unbroken {s : String} (h : Text.Unbroken s) : OnlyFeeds s := by
  intro c hc hbreak
  refine h c hc ?_
  simp only [Scalar.isBreak, Bool.or_eq_true, decide_eq_true_eq] at hbreak
  rcases hbreak with ((rfl | rfl) | rfl) | rfl <;> rfl

end Yaml

namespace Document.Yaml

def PlainKeys (ks : List String) : Prop :=
  ks.Nodup ∧ ∀ k ∈ ks, Progress.IsKey k.toList ∧ plainKind k.toList = .text

instance (ks : List String) : Decidable (PlainKeys ks) :=
  inferInstanceAs (Decidable (_ ∧ _))

variable {room : ℕ} {fs : List (String × Document)}

lemma legible_record (hne : fs ≠ []) (hkeys : PlainKeys (fs.map Prod.fst))
    (hparts : ∀ f ∈ fs, Legible room f.2) : Legible (room + 1) (record fs) :=
  .record hne (fun _ hf => (hkeys.2 _ (List.mem_map_of_mem hf)).1)
    (fun _ hf => (hkeys.2 _ (List.mem_map_of_mem hf)).2) hkeys.1 hparts

lemma legible_variant {type : String} (htype : OnlyFeeds type)
    (hkeys : PlainKeys ("type" :: fs.map Prod.fst)) (hparts : ∀ f ∈ fs, Legible room f.2) :
    Legible (room + 1) (variant type fs) :=
  legible_record (by simp) hkeys (List.forall_mem_cons.mpr ⟨.text htype, hparts⟩)

lemma legible_texts {ss : List String} (h : ∀ s ∈ ss, OnlyFeeds s) : Legible room (texts ss) :=
  .list (fun d hd => by obtain ⟨s, -, rfl⟩ := List.mem_map.mp hd; trivial)
    fun d hd => by obtain ⟨s, hs, rfl⟩ := List.mem_map.mp hd; exact .text (h s hs)

@[simp] lemma legible_null : Legible room null := .null

@[simp] lemma legible_bool (b : Bool) : Legible room (bool b) := .bool b

@[simp] lemma legible_int {n : ℤ} : Legible room (int n) ↔ (int n).isWritable = true :=
  ⟨fun | .int short => short, .int⟩

@[simp] lemma legible_text {s : String} : Legible room (Document.text s) ↔ OnlyFeeds s :=
  ⟨fun | .text feeds => feeds, .text⟩

@[simp] lemma legible_ofOption_int {o : Option ℤ} :
    Legible room (ofOption int o) ↔ (ofOption int o).isWritable = true := by
  cases o <;> simp [ofOption, isWritable]

@[simp] lemma legible_ofOption_text {o : Option String} :
    Legible room (ofOption Document.text o) ↔ ∀ s ∈ o, OnlyFeeds s := by
  cases o <;> simp [ofOption]

end Document.Yaml

variable {room : ℕ}

lemma WaitCondition.legible_document {c : WaitCondition} (hc : c.document.isWritable = true)
    (hs : ∀ s ∈ c.texts, OnlyFeeds s) : Legible (room + 1) c.document := by
  cases c with
  | duration n | elementVisible n | elementHidden n | elementEnabled n | pageLoaded n
  | networkIdle n =>
    exact legible_variant (by decide) (by simp only [List.map]; decide)
      (by simpa using isWritable_variant.mp hc)
  | textPresent s | urlContains s =>
    exact legible_variant (by decide) (by simp only [List.map]; decide) (by simpa [texts] using hs)

lemma Assertion.legible_document {a : Assertion} (hs : ∀ s ∈ a.texts, OnlyFeeds s) :
    Legible (room + 1) a.document := by
  cases a with
  | textEquals s | textContains s | hasClass s | attributeEquals name value =>
    exact legible_variant (by decide) (by simp only [List.map]; decide) (by simpa [texts] using hs)
  | _ => exact legible_variant (by decide) (by simp only [List.map]; decide) (by simp)

lemma Action.legible_document {a : Action} (ha : a.document.isWritable = true)
    (hs : ∀ s ∈ a.texts, OnlyFeeds s) : Legible (room + 2) a.document := by
  cases a with
  | click target button count =>
    refine legible_variant (by decide) (by simp only [List.map]; decide) ?_
    have hbutton : OnlyFeeds button.spelling := by cases button <;> decide
    simpa [hbutton, isWritable] using isWritable_variant.mp ha
  | scroll direction amount target =>
    refine legible_variant (by decide) (by simp only [List.map]; decide) ?_
    have hdirection : OnlyFeeds direction.spelling := by cases direction <;> decide
    simpa [hdirection, isWritable] using isWritable_variant.mp ha
  | wait condition timeout =>
    refine legible_variant (by decide) (by simp only [List.map]; decide) ?_
    obtain ⟨hcondition, htimeout⟩ : condition.document.isWritable = true ∧
        (int timeout).isWritable = true := by simpa using isWritable_variant.mp ha
    have hcondition : Legible (room + 1) condition.document :=
      condition.legible_document hcondition hs
    simpa [hcondition] using htimeout
  | assert target assertion =>
    refine legible_variant (by decide) (by simp only [List.map]; decide) ?_
    have hassertion : Legible (room + 1) assertion.document := assertion.legible_document hs
    simpa [hassertion] using isWritable_variant.mp ha _ List.mem_cons_self
  | pressKey key modifiers =>
    refine legible_variant (by decide) (by simp only [List.map]; decide) ?_
    have hmodifiers : Legible (room + 1) modifiers.document := by
      refine legible_texts fun s hm => ?_
      obtain ⟨m, -, rfl⟩ := List.mem_map.mp hm
      cases m <;> decide
    simpa [hmodifiers, texts] using hs
  | select target value label index =>
    refine legible_variant (by decide) (by simp only [List.map]; decide) ?_
    obtain ⟨htarget, hindex⟩ : (int target).isWritable = true ∧
        (ofOption int index).isWritable = true := by
      have hparts := isWritable_variant.mp ha
      simp only [List.forall_mem_cons] at hparts
      exact ⟨hparts.1, hparts.2.2.2.1⟩
    have htexts : (∀ s ∈ value, OnlyFeeds s) ∧ ∀ s ∈ label, OnlyFeeds s := by
      simpa [texts, or_imp, forall_and] using hs
    simpa [htarget, hindex] using htexts
  | type target s clearFirst pressEnter | uploadFile target s =>
    refine legible_variant (by decide) (by simp only [List.map]; decide) ?_
    have htarget := isWritable_variant.mp ha _ List.mem_cons_self
    simpa [texts, htarget] using hs
  | navigate s | screenshot s fullPage =>
    exact legible_variant (by decide) (by simp only [List.map]; decide) (by simpa [texts] using hs)
  | hover target =>
    exact legible_variant (by decide) (by simp only [List.map]; decide)
      (by simpa using isWritable_variant.mp ha)
  | goBack | goForward | refresh =>
    exact legible_variant (by decide) (by simp only [List.map]; decide) (by simp)

lemma Step.legible_document {s : Step} (hs : s.document.isWritable = true)
    (hid : OnlyFeeds s.id) (hdescription : OnlyFeeds s.description)
    (hexpected : ∀ e ∈ s.expected, OnlyFeeds e) (htexts : ∀ t ∈ s.action.texts, OnlyFeeds t) :
    Legible (room + 3) s.document := by
  refine legible_record (by simp) (by simp only [List.map]; decide) ?_
  simp only [document, isWritable, haveWritable, Bool.and_eq_true] at hs
  obtain ⟨-, -, haction, -, htimeout, hretries, -⟩ := hs
  have haction : Legible (room + 2) s.action.document := s.action.legible_document haction htexts
  have hexpected : Legible (room + 2) (ofOption Document.text s.expected) :=
    legible_ofOption_text.mpr hexpected
  have hretries : (int s.retries).isWritable = true := hretries
  simp [hid, hdescription, haction, hexpected, htimeout, hretries]

lemma Scenario.legible_document {s : Scenario} (hid : OnlyFeeds s.id) (hname : OnlyFeeds s.name)
    (hdescription : OnlyFeeds s.description) (hurl : OnlyFeeds s.startUrl)
    (htags : ∀ t ∈ s.tags.toList, OnlyFeeds t)
    (hsteps : ∀ t ∈ s.steps, Legible (room + 3) t.document) : Legible (room + 4) s.document := by
  refine legible_record (by simp [fields]) (by simp only [fields, List.map]; decide) ?_
  have hpriority : OnlyFeeds s.priority.spelling := by cases s.priority <;> decide
  have htags : Legible (room + 3) (texts s.tags.toList) := legible_texts htags
  have hsteps : Legible (room + 3) (list (s.steps.map Step.document)) :=
    .list (fun d hd => by obtain ⟨t, -, rfl⟩ := List.mem_map.mp hd; trivial)
      fun d hd => by obtain ⟨t, ht, rfl⟩ := List.mem_map.mp hd; exact hsteps t ht
  simp [fields, hid, hname, hdescription, hurl, hpriority, htags, hsteps]

lemma Action.onlyFeeds_texts {settings : Settings} {a : Action} (h : a.WellFormed settings)
    (hname : OnlyFeeds settings.screenshotName) : ∀ s ∈ a.texts, OnlyFeeds s := by
  rcases h.texts with h | ⟨full, rfl⟩
  · exact fun s hs => onlyFeeds_of_unbroken (h s hs)
  · simpa [texts] using hname

namespace Script

lemma legible_of_read {settings : Settings} {text : String} {s : Scenario}
    (h : (read settings text).scenario = some s) (hname : OnlyFeeds settings.screenshotName)
    (hs : settings.Writable) : Legible 4 s.document := by
  have hwritable := isWritable_of_read hs h
  rw [read_eq, ofTokens, Draft.scenario_reading] at h
  have hd := Draft.wellFormed_addAll (Draft.wellFormed_empty : Draft.empty.WellFormed settings)
    (tidy_outline (Token.tidy_ofText (s := text)))
  split at h
  · simp at h
  · obtain rfl := Option.some.inj h
    simp only [Scenario.document, Scenario.fields, isWritable, haveWritable, Bool.and_eq_true,
      areWritable_iff] at hwritable
    have hid : OnlyFeeds scenarioId := by decide
    refine Scenario.legible_document hid (onlyFeeds_of_unbroken hd.name)
      (onlyFeeds_of_unbroken hd.description) (onlyFeeds_of_unbroken hd.startUrl) (fun t ht => ?_)
      fun t ht => ?_
    · exact onlyFeeds_of_unbroken fun c hc hbreak => by simp [(hd.tags t ht).lines c hc] at hbreak
    · have hstep := hd.steps t ht
      exact Step.legible_document (hwritable.2.2.2.2.2.2.1 _ (List.mem_map_of_mem ht))
        (onlyFeeds_of_unbroken hstep.id) (onlyFeeds_of_unbroken hstep.description)
        (fun e he => onlyFeeds_of_unbroken (hstep.expected e he))
        (Action.onlyFeeds_texts hstep.action hname)

end Script

/-- The YAML text of a scenario that is read is one document, and its value is the scenario's
document. -/
theorem Scenario.value_ofText_yaml {settings : Settings} {text : String} {s : Scenario}
    (h : (Script.read settings text).scenario = some s) (hname : OnlyFeeds settings.screenshotName)
    (hs : settings.Writable) : (Source.ofText s.yaml.toList).value = .ok s.document.toValue := by
  have hlegible : Legible 4 (record s.fields) := Script.legible_of_read h hname hs
  have hsymbols := symbols_ofText hlegible (by decide)
  have hmaking : (tree (record s.fields)).making.result = .ok (record s.fields).toValue := by
    rw [hlegible.making]
    rfl
  rw [Source.value, Scenario.yaml, hsymbols, document_symbols hlegible]
  exact hmaking

def Script.peculiar : String :=
  "scenario \"yes\" url \" a\\nb: #\" tags [\"<<\"] step \"- 1\" \x7b screenshot \"null\" \x7d"

theorem Scenario.value_ofText_yaml_peculiar :
    ∃ s, (Script.read {} Script.peculiar).scenario = some s ∧ s.name = "yes" ∧ s.steps.length = 1 ∧
      (Source.ofText s.yaml.toList).value = .ok s.document.toValue := by
  have h : (Script.read {} Script.peculiar).scenario = some
      ⟨Script.scenarioId, "yes", "", " a\nb: #",
        [⟨"step_0", "- 1", .screenshot "null" false, none, none, 0, false⟩], .ofList ["<<"],
        .medium⟩ := by
    rw [Script.read_eq]
    decide +kernel
  exact ⟨_, h, rfl, rfl, Scenario.value_ofText_yaml h (by decide) ⟨by decide, by decide⟩⟩

end ScenarioScript
