import ScenarioScript.Text.Quoted
import ScenarioScript.Text.Small

/-! Texts of scalars, point by point. An escape may leave a surrogate alone, which is no character:
a text that holds one has no octets. -/

namespace ScenarioScript.Yaml

inductive Point
  | char (c : Char)
  | surrogate (n : Fin 0x800)
  deriving DecidableEq, Repr

namespace Point

def firstSurrogate : Nat := 0xD800

def isChar : Point → Bool
  | char _ => true
  | surrogate _ => false

/-- The character that a point is taken for where its class matters. A surrogate is in none that
tells numbers, dates or words apart. -/
def shape : Point → Char
  | char c => c
  | surrogate _ => '\ufffd'

def shapes (ps : List Point) : List Char :=
  ps.map shape

def chars (cs : List Char) : List Point :=
  cs.map char

def ofText (s : String) : List Point :=
  chars s.toList

def text? (ps : List Point) : Option String :=
  if ps.all isChar then some (String.ofList (shapes ps)) else none

@[simp] theorem chars_cons (c : Char) (cs : List Char) : chars (c :: cs) = char c :: chars cs := rfl

@[simp] theorem mem_chars {c : Char} {cs : List Char} : char c ∈ chars cs ↔ c ∈ cs := by
  simp [chars]

@[simp] theorem shapes_chars (cs : List Char) : shapes (chars cs) = cs := by
  induction cs with
  | nil => rfl
  | cons c cs ih => exact congrArg (c :: ·) ih

@[simp] theorem all_isChar_chars (cs : List Char) : (chars cs).all isChar = true := by
  simp [chars, isChar]

theorem eq_chars_of_all {ps : List Point} (h : ps.all isChar = true) : ps = chars (shapes ps) := by
  induction ps with
  | nil => rfl
  | cons p ps ih =>
    rw [List.all_cons, Bool.and_eq_true] at h
    cases p with
    | char c => exact congrArg (char c :: ·) (ih h.2)
    | surrogate n => simp [isChar] at h

theorem text?_eq_some {ps : List Point} {s : String} : text? ps = some s ↔ ps = ofText s := by
  constructor
  · intro h
    rw [text?] at h
    split at h
    · next hall =>
      rw [← Option.some.inj h, ofText, String.toList_ofList]
      exact eq_chars_of_all hall
    · cases h
  · rintro rfl
    simp [text?, ofText]

@[simp] theorem ofText_inj {s t : String} : ofText s = ofText t ↔ s = t := by
  refine ⟨fun h => ?_, congrArg ofText⟩
  have hs : text? (ofText s) = some s := text?_eq_some.mpr rfl
  rw [h, text?_eq_some.mpr rfl] at hs
  exact (Option.some.inj hs).symm

def quotedPoint (mark : Char) : Point → List Char
  | char c => Text.quotedChar mark c
  | surrogate n => '\\' :: 'u' :: Text.hexDigits 4 (firstSurrogate + n)

def quoted (ps : List Point) : String :=
  let mark := Text.quoteMark (shapes ps)
  String.ofList (mark :: ps.flatMap (quotedPoint mark) ++ [mark])

def smallFrom (word : List Char) : List Point → List Point
  | [] => chars (Text.smallFrom [] word)
  | char c :: ps => smallFrom (word ++ [c]) ps
  | surrogate n :: ps => chars (Text.smallFrom [] word) ++ surrogate n :: smallFrom [] ps

def smallLetters (ps : List Point) : List Point :=
  smallFrom [] ps

def unsigned : List Point → List Point
  | char '-' :: ps => ps
  | char '+' :: ps => ps
  | ps => ps

def parts : List Point → List (List Point)
  | [] => [[]]
  | char ':' :: ps => [] :: parts ps
  | p :: ps => match parts ps with
    | [] => [[p]]
    | part :: further => (p :: part) :: further

end Point

end ScenarioScript.Yaml
