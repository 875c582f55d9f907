import Mathlib.Data.List.Basic
import ScenarioScript.Utf8

namespace ScenarioScript.Utf8

def octets (cs : List Char) : List UInt8 :=
  cs.flatMap String.utf8EncodeChar

lemma toList_eq (b : ByteArray) : b.toList = b.data.toList := by
  have hloop (i : ℕ) (r : List UInt8) :
      ByteArray.toList.loop b i r = r.reverse ++ b.data.toList.drop i := by
    fun_induction ByteArray.toList.loop b i r with
    | case1 i r hi ih =>
      have hi' : i < b.data.toList.length := hi
      rw [ih, List.drop_eq_getElem_cons hi']
      have hget : b.get! i = b.data.toList[i] := getElem!_pos b.data i hi
      simp [hget]
    | case2 i r hi =>
      have hi' : b.data.toList.length ≤ i := Nat.le_of_not_lt hi
      simp [List.drop_eq_nil_of_le hi']
  simp [ByteArray.toList, hloop]

lemma toList_toUTF8 (s : String) : s.toUTF8.toList = octets s.toList := by
  rw [String.toUTF8_eq_toByteArray, toList_eq, ← String.utf8Encode_toList]
  exact List.toList_data_toByteArray

variable {pos : ℕ} {bs : List UInt8} {cs : List Char}

lemma toNat_ofNat {n : ℕ} (hn : n < 256) : (UInt8.ofNat n).toNat = n := by
  rw [UInt8.toNat_ofNat', Nat.mod_eq_of_lt hn]

lemma charsFrom_ascii {n : ℕ} (hn : n < 128) :
    charsFrom pos none (UInt8.ofNat n :: bs) =
      (charsFrom (pos + 1) none bs).map (Char.ofNat n :: ·) := by
  have ht : (UInt8.ofNat n).toNat = n := toNat_ofNat (by omega)
  rw [charsFrom, if_pos (UInt8.lt_iff_toNat_lt.mpr (by rwa [ht])), ht]
  rfl

lemma charsFrom_lead {n : ℕ} {p : Pending} (hn : 128 ≤ n) (hn' : n < 256)
    (hp : begin? (UInt8.ofNat n) = some p) :
    charsFrom pos none (UInt8.ofNat n :: bs) = charsFrom (pos + 1) (some p) bs := by
  have hlt : ¬ UInt8.ofNat n < 0x80 := by
    rw [UInt8.lt_iff_toNat_lt, toNat_ofNat hn']
    exact Nat.not_lt.mpr hn
  rw [charsFrom, if_neg hlt, hp]

lemma charsFrom_last {p : Pending} {n : ℕ} (hn : n < 256) (hlow : p.low ≤ n) (hhigh : n ≤ p.high)
    (howed : p.owed = 1) :
    charsFrom pos (some p) (UInt8.ofNat n :: bs) =
      (charsFrom (pos + 1) none bs).map (Char.ofNat (64 * p.code + (n - 128)) :: ·) := by
  rw [charsFrom, toNat_ofNat hn, if_pos (by simp [hlow, hhigh])]
  simp only [howed]
  rfl

lemma charsFrom_next {p : Pending} {n : ℕ} (hn : n < 256) (hlow : p.low ≤ n) (hhigh : n ≤ p.high)
    (howed : p.owed ≠ 1) :
    charsFrom pos (some p) (UInt8.ofNat n :: bs) = charsFrom (pos + 1)
      (some ⟨p.lead, p.taken + 1, p.owed - 1, 0x80, 0xBF, 64 * p.code + (n - 128)⟩) bs := by
  rw [charsFrom, toNat_ofNat hn, if_pos (by simp [hlow, hhigh])]
  simp only [if_neg howed]

lemma begin?_two {n : ℕ} (h : 0xC2 ≤ n) (h' : n ≤ 0xDF) :
    begin? (UInt8.ofNat n) = some ⟨UInt8.ofNat n, 1, 1, 0x80, 0xBF, n - 0xC0⟩ := by
  simp [begin?, toNat_ofNat (show n < 256 by omega), h, h']

lemma begin?_three {n : ℕ} (h : 0xE0 ≤ n) (h' : n ≤ 0xEF) :
    ∃ low high, begin? (UInt8.ofNat n) = some ⟨UInt8.ofNat n, 1, 2, low, high, n - 0xE0⟩ ∧
      low = (if n = 0xE0 then 0xA0 else 0x80) ∧ high = (if n = 0xED then 0x9F else 0xBF) := by
  simp only [begin?, toNat_ofNat (show n < 256 by omega)]
  split_ifs <;> simp_all <;> omega

lemma begin?_four {n : ℕ} (h : 0xF0 ≤ n) (h' : n ≤ 0xF4) :
    ∃ low high, begin? (UInt8.ofNat n) = some ⟨UInt8.ofNat n, 1, 3, low, high, n - 0xF0⟩ ∧
      low = (if n = 0xF0 then 0x90 else 0x80) ∧ high = (if n = 0xF4 then 0x8F else 0xBF) := by
  simp only [begin?, toNat_ofNat (show n < 256 by omega)]
  split_ifs <;> simp_all <;> omega

lemma charsFrom_encoded (pos : ℕ) (bs : List UInt8) (c : Char) :
    ∃ n, charsFrom pos none (String.utf8EncodeChar c ++ bs) =
    (charsFrom (pos + n) none bs).map (c :: ·) := by
  have hc : Char.ofNat c.val.toNat = c := Char.ofNat_toNat c
  have hvalid : c.val.toNat < 0xD800 ∨ 0xDFFF < c.val.toNat ∧ c.val.toNat < 0x110000 := c.valid
  generalize hv : c.val.toNat = v at hc hvalid
  simp only [String.utf8EncodeChar, hv]
  split_ifs with h1 h2 h3
  · exact ⟨1, hc ▸ charsFrom_ascii (by omega)⟩
  · refine ⟨2, ?_⟩
    have hcode : 64 * (v / 64 % 32 + 192 - 0xC0) + (v % 64 + 128 - 128) = v := by omega
    simp only [List.cons_append, List.nil_append]
    rw [charsFrom_lead (by omega) (by omega) (begin?_two (by omega) (by omega)),
      charsFrom_last (by omega) (by simp) (by simp; omega) rfl, hcode, hc]
  · refine ⟨3, ?_⟩
    obtain ⟨low, high, hp, hlow, hhigh⟩ :=
      begin?_three (n := v / 4096 % 16 + 224) (by omega) (by omega)
    have hcode : 64 * (64 * (v / 4096 % 16 + 224 - 0xE0) + (v / 64 % 64 + 128 - 128)) +
        (v % 64 + 128 - 128) = v := by omega
    simp only [List.cons_append, List.nil_append]
    rw [charsFrom_lead (by omega) (by omega) hp,
      charsFrom_next (by omega) (by simp only [hlow]; split <;> omega)
        (by simp only [hhigh]; split <;> omega) (by simp),
      charsFrom_last (by omega) (by simp) (by simp; omega) rfl, hcode, hc]
  · refine ⟨4, ?_⟩
    obtain ⟨low, high, hp, hlow, hhigh⟩ :=
      begin?_four (n := v / 262144 % 8 + 240) (by omega) (by omega)
    have hcode : 64 * (64 * (64 * (v / 262144 % 8 + 240 - 0xF0) + (v / 4096 % 64 + 128 - 128)) +
        (v / 64 % 64 + 128 - 128)) + (v % 64 + 128 - 128) = v := by omega
    simp only [List.cons_append, List.nil_append]
    rw [charsFrom_lead (by omega) (by omega) hp,
      charsFrom_next (by omega) (by simp only [hlow]; split <;> omega)
        (by simp only [hhigh]; split <;> omega) (by simp),
      charsFrom_next (by omega) (by simp) (by simp; omega) (by simp),
      charsFrom_last (by omega) (by simp) (by simp; omega) rfl, hcode, hc]

lemma charsFrom_octets (pos : ℕ) (cs : List Char) : charsFrom pos none (octets cs) = .ok cs := by
  induction cs generalizing pos with
  | nil => rfl
  | cons c cs ih =>
    obtain ⟨n, hn⟩ := charsFrom_encoded pos (octets cs) c
    rw [octets, List.flatMap_cons, ← octets, hn, ih]
    rfl

lemma chars_toUTF8 (s : String) : chars s.toUTF8.toList = .ok s.toList := by
  rw [toList_toUTF8]
  exact charsFrom_octets 0 s.toList

end ScenarioScript.Utf8
