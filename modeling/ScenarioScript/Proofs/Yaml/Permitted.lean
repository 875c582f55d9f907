import ScenarioScript.Proofs.Yaml.Enclosed
import ScenarioScript.Proofs.Yaml.Unmarked
import ScenarioScript.Yaml.Source

namespace ScenarioScript.Yaml

open Scalar (isOrdinary isRaw runs spaces continued plainChars singleChars doubleChars style)

variable {c : Char} {cs : List Char} {s : String} {indent column : ℕ}

lemma isPermitted_of_isOrdinary (h : isOrdinary c = true) : isPermitted c = true := by
  simp only [isOrdinary, isPermitted, Bool.or_eq_true, Bool.and_eq_true, decide_eq_true_eq] at h ⊢
  omega

lemma isPermitted_of_isRaw (h : isRaw c = true) : isPermitted c = true := by
  simp only [isRaw, isPermitted, Bool.or_eq_true, Bool.and_eq_true, decide_eq_true_eq] at h ⊢
  omega

lemma forall_spaces (n : ℕ) : ∀ c ∈ spaces n, isPermitted c = true := by
  intro c hc
  rw [List.eq_of_mem_replicate hc]
  rfl

lemma forall_continued (n : ℕ) : ∀ c ∈ continued n, isPermitted c = true :=
  List.forall_mem_cons.mpr ⟨rfl, forall_spaces n⟩

lemma forall_plainChars (h : ∀ c ∈ cs, isOrdinary c = true) :
    ∀ c ∈ plainChars indent column (runs cs), isPermitted c = true := by
  induction cs using Scalar.runs_induction generalizing column with
  | nil => simp [runs, plainChars]
  | word w rest hne hw hrest ih =>
    obtain ⟨hw', hrest'⟩ := List.forall_mem_append.mp h
    rw [Scalar.runs_word hne hw hrest, plainChars]
    exact List.forall_mem_append.mpr
      ⟨fun c hc => isPermitted_of_isOrdinary (hw' c hc), ih hrest'⟩
  | space n rest hn hrest ih =>
    obtain ⟨-, hrest'⟩ := List.forall_mem_append.mp h
    rw [Scalar.runs_spaces hn hrest, plainChars]
    split
    · exact List.forall_mem_append.mpr ⟨forall_continued indent, ih hrest'⟩
    · exact List.forall_mem_append.mpr ⟨forall_spaces n, ih hrest'⟩
  | break_ w rest hne hw hrest ih =>
    obtain ⟨hw', hrest'⟩ := List.forall_mem_append.mp h
    rw [Scalar.runs_breaks hne hw hrest, plainChars]
    exact List.forall_mem_append.mpr
      ⟨fun c hc => isPermitted_of_isOrdinary (hw' c hc), ih hrest'⟩

lemma mem_of_mem_doubleQuotes (h : c ∈ Scalar.doubleQuotes cs) : c ∈ cs := by
  obtain ⟨d, hd, hc⟩ := List.mem_flatMap.mp h
  obtain rfl : c = d := by
    split at hc <;> simpa using hc
  exact hd

lemma forall_singleChars {first : Bool} (h : ∀ c ∈ cs, isOrdinary c = true) :
    ∀ c ∈ singleChars indent column first (runs cs), isPermitted c = true := by
  induction cs using Scalar.runs_induction generalizing column first with
  | nil => simp [runs, singleChars]
  | word w rest hne hw hrest ih =>
    obtain ⟨hw', hrest'⟩ := List.forall_mem_append.mp h
    rw [Scalar.runs_word hne hw hrest, singleChars]
    exact List.forall_mem_append.mpr
      ⟨fun c hc => isPermitted_of_isOrdinary (hw' c (mem_of_mem_doubleQuotes hc)), ih hrest'⟩
  | space n rest hn hrest ih =>
    obtain ⟨-, hrest'⟩ := List.forall_mem_append.mp h
    rw [Scalar.runs_spaces hn hrest, singleChars]
    split
    · exact List.forall_mem_append.mpr ⟨forall_continued indent, ih hrest'⟩
    · exact List.forall_mem_append.mpr ⟨forall_spaces n, ih hrest'⟩
  | break_ w rest hne hw hrest ih =>
    obtain ⟨hw', hrest'⟩ := List.forall_mem_append.mp h
    rw [Scalar.runs_breaks hne hw hrest, singleChars]
    refine List.forall_mem_append.mpr ⟨List.forall_mem_append.mpr
      ⟨List.forall_mem_append.mpr ⟨?_, fun c hc => isPermitted_of_isOrdinary (hw' c hc)⟩,
        forall_spaces indent⟩, ih hrest'⟩
    split <;> simp [isPermitted]

lemma forall_upperHex (width n : ℕ) : ∀ c ∈ Scalar.upperHex width n, isPermitted c = true := by
  induction width generalizing n with
  | zero => simp [Scalar.upperHex, Text.hexDigits]
  | succ width ih =>
    have hdigit : ∀ d < 16, isPermitted (Nat.digitChar d).toUpper = true := by decide
    have hdigits : Scalar.upperHex (width + 1) n =
        Scalar.upperHex width (n / 16) ++ [(Nat.digitChar (n % 16)).toUpper] := by
      simp [Scalar.upperHex, Text.hexDigits]
    rw [hdigits]
    exact List.forall_mem_append.mpr
      ⟨ih (n / 16), by simpa using hdigit _ (Nat.mod_lt n (by decide))⟩

lemma forall_long {letter : Char} (hletter : isPermitted letter = true) (width n : ℕ) :
    ∀ d ∈ '\\' :: letter :: Scalar.upperHex width n, isPermitted d = true := by
  simp only [List.forall_mem_cons]
  exact ⟨rfl, hletter, forall_upperHex width n⟩

lemma forall_escape (c : Char) : ∀ d ∈ Scalar.escape c, isPermitted d = true := by
  unfold Scalar.escape
  split
  · next e he =>
    have hall : ∀ p ∈ Scalar.shortEscapes, isPermitted p.2 = true := by decide
    have hmem : (c, e) ∈ Scalar.shortEscapes := by
      obtain ⟨l, l', hl, -⟩ := List.lookup_eq_some_iff.mp he
      simp [hl]
    have hbackslash : isPermitted '\\' = true := rfl
    simpa [hbackslash] using hall _ hmem
  · split
    · exact forall_long rfl 2 c.toNat
    · split
      · exact forall_long rfl 4 c.toNat
      · exact forall_long rfl 8 c.toNat

lemma forall_pointEscape (p : Point) : ∀ d ∈ Scalar.pointEscape p, isPermitted d = true := by
  cases p with
  | char c => exact forall_escape c
  | surrogate n => exact forall_long rfl 4 _

lemma forall_doubleChars {first escaped : Bool} {ps : List Point} :
    ∀ c ∈ doubleChars indent column first escaped ps, isPermitted c = true := by
  induction ps generalizing column first escaped with
  | nil => simp [doubleChars]
  | cons p ps ih =>
    have hbackslash : isPermitted '\\' = true := rfl
    have hspace : isPermitted ' ' = true := rfl
    rcases Enclosed.doubleChars_cons indent column first escaped p ps with
      ⟨c, _, -, hr, h⟩ | ⟨-, _, h⟩ | ⟨c, _, -, hr, -, h⟩ | ⟨_, h⟩ | ⟨-, h⟩ | ⟨-, h⟩ <;>
      simp only [h, List.forall_mem_cons, List.forall_mem_append]
    · exact ⟨isPermitted_of_isRaw hr, ih⟩
    · exact ⟨hbackslash, forall_continued indent, hbackslash, hspace, ih⟩
    · exact ⟨hbackslash, forall_continued indent, isPermitted_of_isRaw hr, ih⟩
    · exact ⟨forall_pointEscape p, ih⟩
    · exact ⟨forall_pointEscape p, hbackslash, forall_continued indent, hbackslash, ih⟩
    · exact ⟨forall_pointEscape p, hbackslash, forall_continued indent, ih⟩

lemma forall_chars (indent column : ℕ) (ps : List Point) :
    ∀ c ∈ Scalar.chars indent column ps, isPermitted c = true := by
  rw [Scalar.chars]
  have hquote : isPermitted '\'' = true ∧ isPermitted '"' = true := ⟨rfl, rfl⟩
  have hordinary (h : Scalar.pointStyle ps ≠ .double) := by
    have hstyle := h
    rw [← Scalar.style_of_pointStyle h] at hstyle
    exact (Scalar.needsEscapes_of_style hstyle).1
  cases hstyle : Scalar.pointStyle ps with
  | plain => exact forall_plainChars (hordinary (by simp [hstyle]))
  | single =>
    simp only [List.forall_mem_cons, List.forall_mem_append]
    exact ⟨⟨hquote.1, forall_singleChars (hordinary (by simp [hstyle]))⟩, hquote.1, by simp⟩
  | double =>
    simp only [List.forall_mem_cons, List.forall_mem_append]
    exact ⟨⟨hquote.2, forall_doubleChars⟩, hquote.2, by simp⟩

end ScenarioScript.Yaml
