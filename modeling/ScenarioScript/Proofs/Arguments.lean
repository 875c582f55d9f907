import Mathlib.Data.Int.Notation
import Mathlib.Data.Nat.Notation
import ScenarioScript.Arguments

namespace ScenarioScript

namespace Arguments

variable {args : List Token}

lemma of_firstText? {kind : TokenKind} {s : String} (h : firstText? kind args = some s) :
    ∃ t ∈ args, t.kind = kind ∧ t.text = s := by
  obtain ⟨t, ht, rfl⟩ := Option.map_eq_some_iff.mp h
  exact ⟨t, List.mem_of_find?_eq_some ht, by simpa using List.find?_some ht, rfl⟩

lemma of_target? {n : ℤ} (h : target? args = some n) :
    ∃ u ∈ args, u.kind = .targetId ∧ Decimal.read? u.text = some n := by
  obtain ⟨s, hs, hn⟩ := Option.bind_eq_some_iff.mp h
  obtain ⟨u, hu, hk, rfl⟩ := of_firstText? hs
  exact ⟨u, hu, hk, hn⟩

def ahead? (kind : TokenKind) : List Token → Option Token
  | t :: _ => if t.kind = kind then some t else none
  | [] => none

lemma front?_eq (kind : TokenKind) (ts : List Token) :
    front? kind ts = (ahead? kind ts).map (·.text) := by
  cases ts with
  | nil => rfl
  | cons t ts =>
    by_cases h : t.kind = kind <;> simp [front?, ahead?, h]

lemma ahead?_of_front? {kind : TokenKind} {ts : List Token} {text : String}
    (h : front? kind ts = some text) :
    ∃ u us, ts = u :: us ∧ ahead? kind ts = some u ∧ u.text = text := by
  rw [front?_eq] at h
  obtain ⟨u, hu, ht⟩ := Option.map_eq_some_iff.mp h
  cases ts with
  | nil => simp [ahead?] at hu
  | cons v us =>
    by_cases hv : v.kind = kind
    · exact ⟨v, us, rfl, by simp [ahead?, hv], by simp_all [ahead?]⟩
    · simp [ahead?, hv] at hu

lemma ahead?_of_front?_none {kind : TokenKind} {ts : List Token} (h : front? kind ts = none) :
    ahead? kind ts = none := by
  rwa [front?_eq, Option.map_eq_none_iff] at h

lemma of_ahead? {kind : TokenKind} {ts : List Token} {u : Token} (h : ahead? kind ts = some u) :
    ∃ us, ts = u :: us ∧ u.kind = kind := by
  cases ts with
  | nil => simp [ahead?] at h
  | cons v us =>
    by_cases hv : v.kind = kind
    · exact ⟨us, by simp_all [ahead?], by simp_all [ahead?]⟩
    · simp [ahead?, hv] at h

lemma mem_of_ahead? {kind : TokenKind} {u : Token} {i : ℕ} (h : ahead? kind (args.drop i) = some u) :
    u ∈ args ∧ u.kind = kind := by
  obtain ⟨us, hus, hk⟩ := of_ahead? h
  exact ⟨List.mem_of_mem_drop (i := i) (by simp [hus]), hk⟩

lemma ne_of_nonempty? {s u : String} (h : nonempty? s = some u) : u = s ∧ u ≠ "" := by
  unfold nonempty? at h
  split at h
  · simp at h
  · next hne =>
    obtain rfl := Option.some.inj h
    exact ⟨rfl, by simpa using hne⟩

end Arguments

namespace Action

open Arguments

variable {settings : Settings} {args : List Token} {k : Keyword} {a : Action}

inductive Gathers (settings : Settings) (args : List Token) : Keyword → Action → Prop
  | click {n : ℤ} (hn : target? args = some n) : Gathers settings args .click
      (.click n (lastButton args) (if has .double args then 2 else 1))
  | type {n : ℤ} {s : String} (hn : target? args = some n) (hs : firstText? .string args = some s) :
      Gathers settings args .type (.type n s (has .clearFirst args) (has .pressEnter args))
  | hover {n : ℤ} (hn : target? args = some n) : Gathers settings args .hover (.hover n)
  | scroll {d : ScrollDraft}
      (hd : args.foldl (readScroll settings) ⟨.down, settings.scrollAmount, none⟩ = d) :
      Gathers settings args .scroll (.scroll d.direction d.amount d.target)
  | wait {d : WaitDraft}
      (hd : readWait settings ⟨fun _ => .duration defaultDuration, settings.waitTimeout⟩ args = d) :
      Gathers settings args .wait d.wait
  | pressKey {s : String} (hs : firstText? .string args = some s) (hne : s ≠ "") :
      Gathers settings args .pressKey (.pressKey s (modifiers args))
  | navigate {s : String} (hs : firstText? .string args = some s) :
      Gathers settings args .navigate (.navigate s)
  | goBack : Gathers settings args .goBack .goBack
  | goForward : Gathers settings args .goForward .goForward
  | refresh : Gathers settings args .refresh .refresh
  | assert {n : ℤ} (hn : target? args = some n) :
      Gathers settings args .assert (.assert n (readAssertion .visible args))
  | select {n : ℤ} {c : Choice} (hn : target? args = some n)
      (hc : readChoice ⟨none, none, none⟩ args = c) :
      Gathers settings args .select (.select n c.value c.label c.index)
  | uploadFile {n : ℤ} {s : String} (hn : target? args = some n)
      (hs : firstText? .string args = some s) (hne : s ≠ "") :
      Gathers settings args .uploadFile (.uploadFile n s)
  | screenshot {s : String} (hs : (firstText? .string args).getD settings.screenshotName = s) :
      Gathers settings args .screenshot (.screenshot s (has .fullPage args))

lemma gathers_of_ofArguments? (h : ofArguments? settings args k = some (some a)) :
    Gathers settings args k a := by
  cases k with
  | click =>
    obtain ⟨n, hn, rfl⟩ := by simpa [ofArguments?, Option.bind_eq_some_iff] using h
    exact .click hn
  | type =>
    obtain ⟨n, hn, s, hs, rfl⟩ := by simpa [ofArguments?, Option.bind_eq_some_iff] using h
    exact .type hn hs
  | hover =>
    obtain ⟨n, hn, rfl⟩ := by simpa [ofArguments?, Option.bind_eq_some_iff] using h
    exact .hover hn
  | scroll =>
    obtain rfl := by simpa [ofArguments?] using h
    exact .scroll rfl
  | wait =>
    obtain rfl := by simpa [ofArguments?] using h
    exact .wait rfl
  | pressKey =>
    obtain ⟨s, ⟨u, hs, hu⟩, rfl⟩ := by simpa [ofArguments?, Option.bind_eq_some_iff] using h
    obtain ⟨rfl, hne⟩ := ne_of_nonempty? hu
    exact .pressKey hs hne
  | navigate =>
    obtain ⟨s, hs, rfl⟩ := by simpa [ofArguments?, Option.bind_eq_some_iff] using h
    exact .navigate hs
  | goBack =>
    obtain rfl := by simpa [ofArguments?] using h
    exact .goBack
  | goForward =>
    obtain rfl := by simpa [ofArguments?] using h
    exact .goForward
  | refresh =>
    obtain rfl := by simpa [ofArguments?] using h
    exact .refresh
  | assert =>
    obtain ⟨n, hn, rfl⟩ := by simpa [ofArguments?, Option.bind_eq_some_iff] using h
    exact .assert hn
  | select =>
    obtain ⟨n, hn, rfl⟩ := by simpa [ofArguments?, Option.bind_eq_some_iff] using h
    exact .select hn rfl
  | uploadFile =>
    obtain ⟨n, hn, s, ⟨u, hs, hu⟩, rfl⟩ := by
      simpa [ofArguments?, Option.bind_eq_some_iff] using h
    obtain ⟨rfl, hne⟩ := ne_of_nonempty? hu
    exact .uploadFile hn hs hne
  | screenshot =>
    obtain rfl := by simpa [ofArguments?] using h
    exact .screenshot rfl
  | _ => simp [ofArguments?] at h

end Action

end ScenarioScript
