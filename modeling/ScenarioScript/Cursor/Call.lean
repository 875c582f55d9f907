import ScenarioScript.Cursor

namespace ScenarioScript.Cursor

inductive Request
  | hasNext
  | peek
  | next
  | iterate
  | drain
  | fault (cause : Fault.Cause) (anchor : Option Token)
  | caution (cause : Caution.Cause) (anchor : Option Token)
  deriving DecidableEq, Repr

inductive Answer
  | truth (b : Bool)
  | ahead (t : Option Token)
  | token (t : Token)
  | unexpectedEnd
  | finished
  | drained (ts : List Token)
  | noted
  deriving DecidableEq, Repr

def Answer.tokens : Answer → List Token
  | .token t => [t]
  | .drained ts => ts
  | _ => []

def advance (c : Cursor) (atEnd : Answer) : Answer × Cursor :=
  match c.next? with
  | some (t, d) => (.token t, d)
  | none => (atEnd, c)

def ask (c : Cursor) : Request → Answer × Cursor
  | .hasNext => (.truth c.hasNext, c)
  | .peek => (.ahead c.peek?, c)
  | .next => c.advance .unexpectedEnd
  | .iterate => c.advance .finished
  | .drain => (.drained c.drain.1, c.drain.2)
  | .fault cause anchor => (.noted, c.addFault cause anchor)
  | .caution cause anchor => (.noted, c.addCaution cause anchor)

def askAll (c : Cursor) : List Request → List Answer × Cursor
  | [] => ([], c)
  | r :: rs => ((c.ask r).1 :: ((c.ask r).2.askAll rs).1, ((c.ask r).2.askAll rs).2)

inductive Call
  | hasNext
  | peek
  | next
  | iterate
  | drain
  | fault (cause : Fault.Cause) (atLast : Bool)
  | caution (cause : Caution.Cause) (atLast : Bool)
  deriving DecidableEq, Repr

def Call.request (last : Option Token) : Call → Request
  | .hasNext => .hasNext
  | .peek => .peek
  | .next => .next
  | .iterate => .iterate
  | .drain => .drain
  | .fault cause atLast => .fault cause (if atLast then last else none)
  | .caution cause atLast => .caution cause (if atLast then last else none)

structure Session where
  cursor : Cursor
  last : Option Token
  deriving DecidableEq, Repr

namespace Session

def ofTokens (ts : List Token) : Session :=
  ⟨.ofTokens ts, none⟩

def call (s : Session) (c : Call) : Answer × Session :=
  let (answer, cursor) := s.cursor.ask (c.request s.last)
  (answer, ⟨cursor, answer.tokens.getLast?.or s.last⟩)

def run (s : Session) : List Call → List (Answer × Session)
  | [] => []
  | c :: cs => s.call c :: (s.call c).2.run cs

end Session

end ScenarioScript.Cursor
