import ScenarioScript.Keyword

namespace ScenarioScript

inductive TokenKind
  | keyword | string | number | targetId | array | braceOpen | braceClose
  deriving DecidableEq, Repr

/-- `line` counts from one and `column` from zero, in characters. -/
structure Token where
  kind : TokenKind
  text : String
  line : Int
  column : Nat
  deriving DecidableEq, Repr

namespace Token

def keyword (t : Token) : Option Keyword :=
  if t.kind = .keyword then Keyword.ofText? t.text else none

def is (t : Token) (k : Keyword) : Bool :=
  t.keyword = some k

end Token

end ScenarioScript
