import ScenarioScript.SortedSet
import ScenarioScript.Text.Lines

namespace ScenarioScript.Tags

def entries : List Char → List (List Char)
  | [] => [[]]
  | ',' :: cs => [] :: entries cs
  | c :: cs => match entries cs with
    | [] => [[c]]
    | e :: es => (c :: e) :: es

def inside : List Char → List Char
  | '[' :: cs => if cs.getLast? = some ']' then cs.dropLast else cs
  | cs => cs

def unquote : List Char → List Char
  | '"' :: cs => if cs.getLast? = some '"' then cs.dropLast else '"' :: cs
  | cs => cs

def tagOf (entry : List Char) : List Char :=
  unquote (Text.trim entry)

def read (array : String) : SortedSet String :=
  .ofList <| ((entries (inside array.toList)).map tagOf).filterMap fun tag =>
    if tag.isEmpty then none else some (String.ofList tag)

end ScenarioScript.Tags
