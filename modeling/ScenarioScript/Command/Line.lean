import ScenarioScript.Path

namespace ScenarioScript.Command

inductive Format
  | json | yaml
  deriving DecidableEq, Repr

structure ReadOptions where
  script : Path
  format : Format
  pretty : Bool
  check : Bool
  report : Option Path
  settings : Option Path
  verbose : Bool
  deriving DecidableEq, Repr

structure CheckOptions where
  script : Path
  settings : Option Path
  verbose : Bool
  deriving DecidableEq, Repr

inductive Invocation
  | read (options : ReadOptions)
  | check (options : CheckOptions)
  | grammar
  deriving DecidableEq, Repr

inductive Misuse
  | usage
  | nullCharacter
  deriving DecidableEq, Repr

structure Words where
  values : List (String × String)
  flags : List String
  others : List String
  deriving DecidableEq, Repr

structure Options where
  valued : List String
  flags : List String
  deriving DecidableEq, Repr

def verboseFlag : String := "--verbose"

def splitValue (s : String) : String × Option String :=
  match s.toList.span (· ≠ '=') with
  | (_, []) => (s, none)
  | (name, _ :: value) => (String.ofList name, some (String.ofList value))

def isLetters : List Char → Bool
  | '-' :: c :: cs => (c :: cs).all (· = 'v')
  | _ => false

def Options.words? (o : Options) : List String → Option Words
  | [] => some ⟨[], [], []⟩
  | s :: ss =>
    if s = "--" then some ⟨[], [], ss⟩
    else match s.toList with
      | '-' :: '-' :: _ =>
        match splitValue s with
        | (name, some value) =>
          if o.valued.contains name then
            (o.words? ss).map fun w => { w with values := (name, value) :: w.values }
          else none
        | (name, none) =>
          if o.valued.contains name then
            match ss with
            | [] => none
            | value :: ss =>
              (o.words? ss).map fun w => { w with values := (name, value) :: w.values }
          else if o.flags.contains name then
            (o.words? ss).map fun w => { w with flags := name :: w.flags }
          else none
      | '-' :: _ :: _ =>
        if isLetters s.toList && o.flags.contains verboseFlag then
          (o.words? ss).map fun w => { w with flags := verboseFlag :: w.flags }
        else none
      | _ => (o.words? ss).map fun w => { w with others := s :: w.others }

def Words.value? (w : Words) (name : String) : Option String :=
  w.values.reverse.lookup name

def Words.has (w : Words) (flag : String) : Bool :=
  w.flags.contains flag

def format? : String → Option Format
  | "json" => some .json
  | "yaml" => some .yaml
  | _ => none

def hasNull (s : String) : Bool :=
  s.toList.contains '\x00'

def Words.misuse? (w : Words) (name : String) : Option Misuse :=
  match w.value? name with
  | none => none
  | some value =>
    if name = "--format" then if (format? value).isSome then none else some .usage
    else if hasNull value then some .nullCharacter
    else none

def Words.script (w : Words) : Except Misuse Path :=
  match w.values.findSome? (fun v => w.misuse? v.1), w.others with
  | some m, _ => .error m
  | none, [] => .error .usage
  | none, s :: rest =>
    if hasNull s then .error .nullCharacter
    else if rest.isEmpty then .ok (.ofText s)
    else .error .usage

def Words.stands (w : Words) (default : Bool) (on off : String) : Bool :=
  match w.flags.reverse.find? (fun f => f = on || f = off) with
  | some f => f = on
  | none => default

def readOptions : Options :=
  ⟨["--format", "--save-report", "--config"],
    ["--pretty", "--validate", "--no-validate", verboseFlag]⟩

def checkOptions : Options :=
  ⟨["--config"], [verboseFlag]⟩

def ofRead (args : List String) : Except Misuse Invocation :=
  match readOptions.words? args with
  | none => .error .usage
  | some w => do
    let script ← w.script
    return .read {
      script := script
      format := ((w.value? "--format").bind format?).getD .json
      pretty := w.has "--pretty"
      check := w.stands true "--validate" "--no-validate"
      report := (w.value? "--save-report").map Path.ofText
      settings := (w.value? "--config").map Path.ofText
      verbose := w.has verboseFlag }

def ofCheck (args : List String) : Except Misuse Invocation :=
  match checkOptions.words? args with
  | none => .error .usage
  | some w => do
    let script ← w.script
    return .check {
      script := script
      settings := (w.value? "--config").map Path.ofText
      verbose := w.has verboseFlag }

def ofGrammar (args : List String) : Except Misuse Invocation :=
  match (Options.mk [] []).words? args with
  | some ⟨_, _, []⟩ => .ok .grammar
  | _ => .error .usage

def ofName (name : String) (args : List String) : Except Misuse Invocation :=
  match name with
  | "parse" => ofRead args
  | "validate" => ofCheck args
  | "syntax" => ofGrammar args
  | _ => .error .usage

def ofArguments : List String → Except Misuse Invocation
  | "--" :: name :: args => ofName name args
  | name :: args => ofName name args
  | [] => .error .usage

end ScenarioScript.Command
