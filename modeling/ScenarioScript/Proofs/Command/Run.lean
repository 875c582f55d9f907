import ScenarioScript.Command.Run
import ScenarioScript.Proofs.Report
import ScenarioScript.Proofs.Script.Numbers

namespace ScenarioScript

open Document
open Yaml (Point)

lemma Text.withoutControls_eq_self {cs : List Char} (h : '\x1b' ∉ cs) : withoutControls cs = cs := by
  induction cs with
  | nil => rw [withoutControls]
  | cons c cs ih =>
    rw [List.mem_cons, not_or] at h
    rw [withoutControls]
    split
    · next hc => simp_all
    · rw [ih h.2]

namespace Script

lemma success_of_faults_eq_nil {settings : Settings} {text : String}
    (h : (read settings text).faults = []) : (read settings text).success = true := by
  rw [read_eq, ofTokens, Draft.faults_reading] at h
  rw [Reading.success, read_eq, ofTokens, Draft.scenario_reading, Draft.faults_reading, h]
  split
  · next hempty => simp [hempty] at h
  · rfl

lemma exists_read_of_load {w : Workspace} {settings : Settings} {path : Path} {r : Reading}
    (h : load w settings path = .ok r) : ∃ text, r = read settings text := by
  rw [load] at h
  cases ht : fileText w path with
  | error f => simp [ht] at h
  | ok text => exact ⟨text, by simpa [ht, Bind.bind, Except.bind, Pure.pure, Except.pure] using h.symm⟩

end Script

namespace Command

variable {w : Workspace} {env : Environment}

structure Loads (w : Workspace) (env : Environment) (settings : Option Path) (verbose : Bool)
    (script : Path) (g : Settings.Given) (r : Reading) : Prop where
  settings : Settings.load w env settings = .ok g
  level : verbose = true ∨ badLevel? g.logLevel = none
  script : Script.load w g.settings script = .ok r

def Clean (r : Reading) : Prop :=
  r.faults = [] ∧ ∀ s ∈ r.scenario, s.verdict.errors = []

lemma isClean_iff {settings : Settings} {text : String} :
    isClean (Script.read settings text) = true ↔ Clean (Script.read settings text) := by
  rw [isClean, Clean]
  cases hs : (Script.read settings text).scenario with
  | none =>
    have hfaults : (Script.read settings text).faults ≠ [] := fun h => by
      have := Script.success_of_faults_eq_nil h
      simp [Reading.success, hs] at this
    simp [hfaults]
  | some s => simp [Reading.success, Verdict.valid, hs]

namespace Loads

variable {settings : Option Path} {verbose : Bool} {script : Path} {g g' : Settings.Given}
  {r r' : Reading}

lemma unique (h : Loads w env settings verbose script g r)
    (h' : Loads w env settings verbose script g' r') : g' = g ∧ r' = r := by
  obtain rfl := Except.ok.inj (h.settings.symm.trans h'.settings)
  exact ⟨rfl, Except.ok.inj (h'.script.symm.trans h.script)⟩

lemma isClean_iff (h : Loads w env settings verbose script g r) : isClean r = true ↔
    ∃ g r, Loads w env settings verbose script g r ∧ Clean r := by
  obtain ⟨text, rfl⟩ := Script.exists_read_of_load h.script
  rw [Command.isClean_iff]
  constructor
  · intro hclean
    exact ⟨g, _, h, hclean⟩
  · rintro ⟨g', r', h', hclean⟩
    obtain ⟨rfl, rfl⟩ := h.unique h'
    exact hclean

end Loads

lemma passed_eq_isClean (source : String) (r : Reading) :
    Report.passed ⟨source, r.outcome, r.scenario.map Scenario.verdict⟩ = isClean r := by
  rw [Report.passed, isClean]
  cases hs : r.scenario with
  | none => simp [Reading.outcome, Reading.success, hs]
  | some s => simp [Reading.outcome]

lemma withScript_cases (w : Workspace) (env : Environment) (settings : Option Path) (verbose : Bool)
    (script : Path) :
    (∃ g r, Loads w env settings verbose script g r ∧
      ∀ command go, withScript w env command settings verbose script go = go g r) ∨
    (¬∃ g r, Loads w env settings verbose script g r) ∧
      ((∃ message data, ∀ command go, withScript w env command settings verbose script go =
        .print w (failureText command message data ++ "\n") 1) ∨
      ∃ c, ∀ command go, withScript w env command settings verbose script go = .crashed w c) := by
  have hfail {lead : String} {data : Option (String × Path)} {f : Failure}
      (h : ∀ command go, withScript w env command settings verbose script go =
        fail w command lead data f) :
      (∃ message data, ∀ command go, withScript w env command settings verbose script go =
        .print w (failureText command message data ++ "\n") 1) ∨
      ∃ c, ∀ command go, withScript w env command settings verbose script go = .crashed w c := by
    cases ht : f.isTold with
    | true => exact .inl ⟨lead ++ f.message, data, fun command go => by simp [h, fail, ht]⟩
    | false => exact .inr ⟨.ofFailure f, fun command go => by simp [h, fail, ht]⟩
  cases hg : Settings.load w env settings with
  | error f =>
    refine .inr ⟨?_, hfail fun command go => by rw [withScript, hg]⟩
    rintro ⟨g, r, hl⟩
    simp [hl.settings] at hg
  | ok g =>
    cases hc : (if verbose then none else badLevel? g.logLevel) with
    | some c =>
      refine .inr ⟨?_, .inr ⟨c, fun command go => by simp [withScript, hg, hc]⟩⟩
      rintro ⟨g', r, hl⟩
      obtain rfl := Except.ok.inj (hg.symm.trans hl.settings)
      rcases hl.level with hv | hv <;> simp [hv] at hc
    | none =>
      cases hr : Script.load w g.settings script with
      | error f =>
        refine .inr ⟨?_, hfail fun command go => by simp only [withScript, hg, hc, hr]; rfl⟩
        rintro ⟨g', r, hl⟩
        obtain rfl := Except.ok.inj (hg.symm.trans hl.settings)
        simp [hl.script] at hr
      | ok r =>
        refine .inl ⟨g, r, ⟨hg, ?_, hr⟩, fun command go => by simp [withScript, hg, hc, hr]⟩
        cases verbose with
        | true => exact .inl rfl
        | false => exact .inr (by simpa using hc)

lemma hasDistinctKeys_failure (command message : String) (data : Option (String × Path)) :
    (record [("success", .bool false), ("command", .text command),
      ("data", Document.ofOption (fun d => .record [(d.1, .text d.2.text)]) data),
      ("message", .text message)]).HasDistinctKeys := by
  have hdata : (Document.ofOption (fun d : String × Path => .record [(d.1, .text d.2.text)])
      data).HasDistinctKeys :=
    hasDistinctKeys_ofOption fun d _ => by simp [HasDistinctKeys, FieldsHaveDistinctKeys]
  simp [HasDistinctKeys, FieldsHaveDistinctKeys, hdata]

@[simp] lemma print_crash (w : Workspace) (text : String) (exitCode : Nat) :
    (Run.print w text exitCode).crash = none := rfl

@[simp] lemma print_exitCode (w : Workspace) (text : String) (exitCode : Nat) :
    (Run.print w text exitCode).exitCode = exitCode := rfl

lemma ofJson?_printed {d : Document} (h : d.HasDistinctKeys) (p : Bool) (w : Workspace)
    (exitCode : Nat) : ofJson? (Run.print w (d.json p ++ "\n") exitCode).printed = some d := by
  have hmem : '\x1b' ∉ (d.json p ++ "\n").toList := by
    rw [String.toList_append, List.mem_append, not_or]
    exact ⟨escape_notMem_json d p, by decide⟩
  have htext : (Run.print w (d.json p ++ "\n") exitCode).printed =
      String.ofList ((d.json p).toList ++ ['\n']) := by
    rw [Run.print, Text.withoutControls_eq_self hmem, String.toList_append]
    rfl
  rw [htext, ofJson?_append h p (by simp [OfJson.isSpace])]

section Silence

variable {g : Settings.Given}

/-- A screenshot takes a name from the settings in which a surrogate stands alone. -/
def Silenced (g : Settings.Given) (r : Reading) : Prop :=
  (∃ n, .surrogate n ∈ g.name) ∧
    ∃ s ∈ r.scenario, ∃ t ∈ s.steps, ∃ full, t.action = .screenshot g.screenshotName full

lemma isMute_iff {t : String} :
    g.isMute t = true ↔ t = g.screenshotName ∧ ∃ n, .surrogate n ∈ g.name := by
  have hpoint (p : Point) : p.isChar = false ↔ ∃ n, p = .surrogate n := by
    cases p <;> simp [Point.isChar]
  simp [Settings.Given.isMute, hpoint]

lemma not_unbroken_of_isMute {t : String} (h : g.isMute t = true) : ¬Text.Unbroken t := by
  obtain ⟨rfl, n, hn⟩ := isMute_iff.mp h
  intro hunbroken
  have hreturn : '\r' ∈ g.screenshotName.toList := by
    rw [Settings.Given.screenshotName, Settings.Given.textOf, String.toList_ofList]
    exact List.mem_flatMap.mpr ⟨_, hn, List.mem_cons_self⟩
  exact absurd (hunbroken _ hreturn rfl) (by decide)

lemma isMute_action_iff {a : Action} : isMute g a = true ↔
    (∃ n, .surrogate n ∈ g.name) ∧ ∃ full, a = .screenshot g.screenshotName full := by
  cases a <;> simp [isMute, isMute_iff, and_comm]

lemma silenced_iff {r : Reading} : Silenced g r ↔ ∃ s ∈ r.scenario, isSilenced g s = true := by
  simp only [Silenced, isSilenced, List.any_eq_true, isMute_action_iff]
  constructor
  · rintro ⟨hn, s, hs, t, ht, full, hfull⟩
    exact ⟨s, hs, t, ht, hn, full, hfull⟩
  · rintro ⟨s, hs, t, ht, hn, full, hfull⟩
    exact ⟨hn, s, hs, t, ht, full, hfull⟩

end Silence

section Agreement

variable {o : ReadOptions} {g : Settings.Given} {r : Reading}
  (hl : Loads w env o.settings o.verbose o.script g r) (hs : g.settings.Writable)

include hl hs

lemma isWritable_scenario : r.scenario.all (·.document.isWritable) = true :=
  (Option.all_eq_true _ _).mpr fun sc hsc => by
    obtain ⟨text, rfl⟩ := Script.exists_read_of_load hl.script
    exact Script.isWritable_of_read hs hsc

lemma isWritable_verdict : (r.scenario.map Scenario.verdict).all Verdict.isWritable = true := by
  rw [Option.all_map]
  exact (Option.all_eq_true _ _).mpr fun sc hsc =>
    Scenario.isWritable_verdict ((Option.all_eq_true _ _).mp (isWritable_scenario hl hs) sc hsc)

lemma all_isTellable_iff (hreport : o.report = none) :
    r.scenario.all (isTellable o g) = true ↔ ¬(o.format = .json ∧ Silenced g r) := by
  have hdocument := isWritable_scenario hl hs
  rw [silenced_iff]
  cases hr : r.scenario with
  | none => simp
  | some s =>
    rw [hr] at hdocument
    have hwritable : s.document.isWritable = true := hdocument
    cases hformat : o.format <;> simp [isTellable, hwritable, hreport, hformat]

lemma runRead_of_loads (hon : o.check = true) (hreport : o.report = none)
    (hgo : ∀ command go, withScript w env command o.settings o.verbose o.script go = go g r)
    (hsilence : ¬(o.format = .json ∧ Silenced g r)) :
    runRead w env o = .print w (outputText o g r.scenario ⟨o.script.text, r.outcome,
      r.scenario.map Scenario.verdict⟩) (if isClean r then 0 else 1) := by
  have htell := (all_isTellable_iff hl hs hreport).mpr hsilence
  have hverdict := isWritable_verdict hl hs
  rw [runRead, hgo]
  simp [hon, hreport, hverdict, htell, passed_eq_isClean]

lemma runRead_of_silenced (hon : o.check = true) (hreport : o.report = none)
    (hgo : ∀ command go, withScript w env command o.settings o.verbose o.script go = go g r)
    (hsilence : o.format = .json ∧ Silenced g r) : runRead w env o = .crashed w .value := by
  have htell : r.scenario.all (isTellable o g) = false := by
    rw [← Bool.not_eq_true, all_isTellable_iff hl hs hreport]
    exact not_not_intro hsilence
  have hverdict := isWritable_verdict hl hs
  rw [runRead, hgo]
  simp [hon, hreport, hverdict, htell]

lemma runCheck_of_loads
    (hgo : ∀ command go, withScript w env command o.settings o.verbose o.script go = go g r) :
    runCheck w env ⟨o.script, o.settings, o.verbose⟩ =
      .print w (String.join ((checkLines r).map (· ++ "\n"))) (if isClean r then 0 else 1) := by
  have hverdict := isWritable_verdict hl hs
  rw [Option.all_map] at hverdict
  rw [runCheck, hgo]
  exact if_pos hverdict

end Agreement

lemma ofJson?_outputText {o : ReadOptions} (g : Settings.Given) (r : Reading)
    (hformat : o.format = .json) (hreport : o.report = none) (w : Workspace) (exitCode : Nat) :
    ∃ data message, ofJson? (Run.print w (outputText o g r.scenario ⟨o.script.text, r.outcome,
      r.scenario.map Scenario.verdict⟩) exitCode).printed = some (.record [
        ("success", .bool (isClean r)), ("command", .text "parse"), ("data", data),
        ("message", .text message)]) := by
  set report : Report := ⟨o.script.text, r.outcome, r.scenario.map Scenario.verdict⟩ with hdef
  have htext : outputText o g r.scenario report =
      (report.envelope "parse" none).json o.pretty ++ "\n" := by
    simp only [outputText, hformat, hreport]
    rfl
  have hscenario : report.scenarioDocument.HasDistinctKeys := by
    have hname : report.outcome.scenario = r.scenario.map Scenario.subject := rfl
    rw [Report.scenarioDocument, hname]
    cases r.scenario with
    | none => trivial
    | some sc => exact sc.hasDistinctKeys_document
  rw [htext, ofJson?_printed (Report.hasDistinctKeys_envelope hscenario "parse" none),
    ← passed_eq_isClean o.script.text r, ← hdef]
  exact ⟨_, _, rfl⟩

/-- The two commands that check a script stop alike, and pass it alike: if everything loads and
nothing is wrong with the script. As JSON, the output of the first is an envelope that says so. Only
where a screenshot takes a name that has no octets does the first crash instead, as JSON, and the
second does not. -/
theorem run_read_agrees_with_check {args args' : List String} {o : ReadOptions}
    (hread : ofArguments args = .ok (.read o))
    (hcheck : ofArguments args' = .ok (.check ⟨o.script, o.settings, o.verbose⟩))
    (hon : o.check = true) (hreport : o.report = none)
    (hwritable : ∀ g, Settings.load w env o.settings = .ok g → g.settings.Writable) :
    ((run w env args').exitCode = 0 ↔
      ∃ g r, Loads w env o.settings o.verbose o.script g r ∧ Clean r) ∧
    ((o.format = .json → ¬∃ g r, Loads w env o.settings o.verbose o.script g r ∧ Silenced g r) →
      (run w env args).crash = (run w env args').crash ∧
      (run w env args).exitCode = (run w env args').exitCode ∧
      (o.format = .json → (run w env args).crash = none → ∃ data message,
        ofJson? (run w env args).printed = some (.record [
          ("success", .bool ((run w env args).exitCode = 0)), ("command", .text "parse"),
          ("data", data), ("message", .text message)]))) ∧
    (∀ g r, o.format = .json → Loads w env o.settings o.verbose o.script g r → Silenced g r →
      run w env args = .crashed w .value ∧ (run w env args').crash = none) := by
  have hrun : run w env args = runRead w env o := by rw [run, hread]
  have hrun' : run w env args' = runCheck w env ⟨o.script, o.settings, o.verbose⟩ := by
    rw [run, hcheck]
  rw [hrun, hrun']
  rcases withScript_cases w env o.settings o.verbose o.script with
    ⟨g, r, hl, hgo⟩ | ⟨hnone, ⟨message, data, hgo⟩ | ⟨c, hgo⟩⟩
  · have hs := hwritable g hl.settings
    rw [runCheck_of_loads hl hs hgo]
    refine ⟨?_, fun hsilence => ?_, fun g' r' hformat hl' hsilenced => ?_⟩
    · rw [← hl.isClean_iff]
      cases isClean r <;> simp
    · rw [runRead_of_loads hl hs hon hreport hgo fun h => hsilence h.1 ⟨g, r, hl, h.2⟩]
      refine ⟨rfl, rfl, fun hformat _ => ?_⟩
      obtain ⟨data, message, hjson⟩ := ofJson?_outputText g r hformat hreport w
        (if isClean r then 0 else 1)
      refine ⟨data, message, hjson.trans ?_⟩
      cases isClean r <;> rfl
    · obtain ⟨rfl, rfl⟩ := hl.unique hl'
      exact ⟨runRead_of_silenced hl hs hon hreport hgo ⟨hformat, hsilenced⟩, rfl⟩
  · have hnot : ¬∃ g r, Loads w env o.settings o.verbose o.script g r ∧ Clean r :=
      fun ⟨g, r, hl, _⟩ => hnone ⟨g, r, hl⟩
    rw [runRead, runCheck, hgo, hgo]
    refine ⟨iff_of_false (by simp) hnot, fun _ => ⟨by simp, by simp, fun _ _ => ?_⟩,
      fun g r _ hl => absurd ⟨g, r, hl⟩ hnone⟩
    exact ⟨_, _, ofJson?_printed (hasDistinctKeys_failure "parse" message data) false w 1⟩
  · have hnot : ¬∃ g r, Loads w env o.settings o.verbose o.script g r ∧ Clean r :=
      fun ⟨g, r, hl, _⟩ => hnone ⟨g, r, hl⟩
    rw [runRead, runCheck, hgo, hgo]
    refine ⟨iff_of_false (by simp [Run.crashed]) hnot, fun _ => ⟨rfl, rfl, fun _ h => ?_⟩,
      fun g r _ hl => absurd ⟨g, r, hl⟩ hnone⟩
    simp [Run.crashed] at h

def deskText : String :=
  "scenario \"S\" \x7b step \"a\" \x7b hover #1 \x7d \x7d"

def desk : Workspace :=
  ⟨[(["a.e2e"], .file deskText.toUTF8.toList)], []⟩

lemma load_desk (s : Settings) :
    Script.load desk s (.ofText "a.e2e") = .ok (Script.read s deskText) := by
  have htext : Script.fileText desk (.ofText "a.e2e") = .ok deskText := by decide +kernel
  rw [Script.load, htext]
  rfl

lemma clean_of_eq {r : Reading} {s : Scenario} (h : r = ⟨some s, [], []⟩)
    (hs : s.verdict.errors = []) : Clean r := by
  subst h
  refine ⟨rfl, fun t ht => ?_⟩
  obtain rfl := Option.some.inj ht
  exact hs

lemma clean_desk {s : Settings}
    (h : Script.read s deskText = ⟨some ⟨Script.scenarioId, "S", "", "",
      [⟨"step_0", "a", .hover 1, none, none, 0, false⟩], .empty, .medium⟩, [], []⟩) :
    Clean (Script.read s deskText) :=
  clean_of_eq h rfl

def muteText : String :=
  "scenario \"S\" \x7b step \"a\" \x7b screenshot \x7d \x7d"

def mute : Workspace :=
  ⟨[(["a.e2e"], .file muteText.toUTF8.toList),
    (["c.yaml"], .file "default_screenshot_name: \"\\uD800\"".toUTF8.toList)], []⟩

def muteSettings : Settings.Given :=
  { Settings.defaults with name := [.surrogate 0] }

lemma read_mute : Script.read muteSettings.settings muteText = ⟨some ⟨Script.scenarioId, "S", "", "",
    [⟨"step_0", "a", .screenshot muteSettings.screenshotName false, none, none, 0, false⟩], .empty,
    .medium⟩, [], []⟩ := by
  rw [Script.read_eq]
  decide +kernel

lemma load_mute :
    Loads mute ⟨"home", "c.yaml", ""⟩ none false (.ofText "a.e2e") muteSettings
      (Script.read muteSettings.settings muteText) where
  settings := by decide +kernel
  level := .inr (by decide +kernel)
  script := by
    have htext : Script.fileText mute (.ofText "a.e2e") = .ok muteText := by decide +kernel
    rw [Script.load, htext]
    rfl

theorem run_read_agrees_with_check_desk :
    ((run desk ⟨"home", "", ""⟩ ["parse", "a.e2e"]).exitCode = 0 ∧
      (run desk ⟨"home", "", ""⟩ ["validate", "a.e2e"]).exitCode = 0) ∧
    run mute ⟨"home", "c.yaml", ""⟩ ["parse", "a.e2e"] = .crashed mute .value ∧
      (run mute ⟨"home", "c.yaml", ""⟩ ["validate", "a.e2e"]).exitCode = 0 := by
  have hsettings : Settings.load desk ⟨"home", "", ""⟩ none = .ok Settings.defaults := rfl
  obtain ⟨hiff, hagree, -⟩ := @run_read_agrees_with_check desk ⟨"home", "", ""⟩
    ["parse", "a.e2e"] ["validate", "a.e2e"]
    ⟨.ofText "a.e2e", .json, false, true, none, none, false⟩ rfl rfl rfl rfl fun g hg => by
      obtain rfl := Except.ok.inj (hsettings.symm.trans hg)
      exact ⟨by decide, by decide⟩
  obtain ⟨hmute, -, hcrash⟩ := @run_read_agrees_with_check mute ⟨"home", "c.yaml", ""⟩
    ["parse", "a.e2e"] ["validate", "a.e2e"]
    ⟨.ofText "a.e2e", .json, false, true, none, none, false⟩ rfl rfl rfl rfl fun g hg => by
      obtain rfl := Except.ok.inj (load_mute.settings.symm.trans hg)
      exact ⟨by decide, by decide⟩
  have hclean : Clean (Script.read Settings.defaults.settings deskText) :=
    clean_desk (by rw [Script.read_eq]; decide +kernel)
  have hzero := hiff.mpr ⟨_, _, ⟨hsettings, .inr (by decide +kernel), load_desk _⟩, hclean⟩
  have hspoken : ¬∃ g r, Loads desk ⟨"home", "", ""⟩ none false (.ofText "a.e2e") g r ∧
      Silenced g r := by
    rintro ⟨g, r, hl, ⟨n, hn⟩, -⟩
    obtain rfl := Except.ok.inj (hsettings.symm.trans hl.settings)
    simp [Settings.defaults, Settings.Given.ofSettings, Point.ofText, Point.chars] at hn
  have hsilenced : Silenced muteSettings (Script.read muteSettings.settings muteText) := by
    rw [read_mute]
    exact ⟨⟨0, List.mem_singleton_self _⟩, _, rfl, _, List.mem_singleton_self _, _, rfl⟩
  exact ⟨⟨(hagree fun _ => hspoken).2.1.trans hzero, hzero⟩, (hcrash _ _ rfl load_mute hsilenced).1,
    hmute.mpr ⟨_, _, load_mute, clean_of_eq read_mute (by decide +kernel)⟩⟩

/-- A name that the log knows, but not as a level, stops a command although all of its files load
and nothing is wrong with the script. -/
theorem run_stopped_by_level :
    ∃ g r, Settings.load desk ⟨"home", "", "BASIC_FORMAT"⟩ none = .ok g ∧
      Script.load desk g.settings (.ofText "a.e2e") = .ok r ∧ Clean r ∧
      (run desk ⟨"home", "", "BASIC_FORMAT"⟩ ["parse", "a.e2e"]).exitCode = 1 ∧
      (run desk ⟨"home", "", "BASIC_FORMAT"⟩ ["parse", "a.e2e"]).crash = some .value := by
  have hsettings : Settings.load desk ⟨"home", "", "BASIC_FORMAT"⟩ none =
      .ok { Settings.defaults with level := Point.ofText "BASIC_FORMAT" } := by decide +kernel
  have hread : ofArguments ["parse", "a.e2e"] =
      .ok (.read ⟨.ofText "a.e2e", .json, false, true, none, none, false⟩) := rfl
  have hlevel : badLevel? { Settings.defaults with
      level := Point.ofText "BASIC_FORMAT" }.logLevel = some .value := by decide +kernel
  have hrun : run desk ⟨"home", "", "BASIC_FORMAT"⟩ ["parse", "a.e2e"] = .crashed desk .value := by
    simp [run, hread, runRead, withScript, hsettings, hlevel]
  refine ⟨_, _, hsettings, load_desk _, clean_desk (by rw [Script.read_eq]; decide +kernel), ?_, ?_⟩ <;>
    rw [hrun] <;> rfl

end Command

end ScenarioScript
