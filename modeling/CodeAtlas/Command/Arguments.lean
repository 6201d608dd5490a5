import CodeAtlas.Keyed
import CodeAtlas.Text.Basic
import CodeAtlas.Text.Digit

set_option autoImplicit false

/-! Arguments of a command line: options, which may be shortened and stand anywhere, and operands. -/

namespace CodeAtlas.Command

open CodeAtlas.Text

/-- An option by all its names, the longest last. `valid` says which values it takes. -/
structure OptionSpec where
  names : List String
  takesValue : Bool
  valid : String → Bool

def OptionSpec.name (o : OptionSpec) : String :=
  o.names.getLastD ""

/-- How many arguments an operand stands for: one, some, or a command with all that follows. -/
inductive Arity
  | one
  | several
  | command
  deriving DecidableEq, Repr

structure Grammar where
  options : List OptionSpec
  operands : List Arity

/-- Why there is nothing to run. -/
inductive Stop
  | rejected
  | helpWanted
  deriving DecidableEq, Repr

/-- What is attached to the name of an option, and whether an equal sign stands between them. -/
structure Attached where
  text : List Char
  equals : Bool
  deriving DecidableEq, Repr

/-- An option found in an argument, with the name it was asked for by. -/
structure Asked where
  spec : Option OptionSpec
  name : String
  attached : Option Attached

/-- What an argument is. Behind the divider, all are operands. -/
inductive Mark
  | operand
  | divider
  | asked (asked : Asked)

def Mark.isAsked : Mark → Bool
  | .asked _ => true
  | _ => false

def Mark.isOperand : Mark → Bool
  | .operand => true
  | _ => false

def Mark.isDivider : Mark → Bool
  | .divider => true
  | _ => false

abbrev Marked := List (String × Mark)

/-- Values of options by name, and the arguments of each operand. -/
structure Parsed where
  values : List (String × String)
  operands : List (List String)
  extras : List String

namespace Grammar

def named (g : Grammar) (name : String) : Option OptionSpec :=
  g.options.find? fun o => o.names.contains name

def optionNames (g : Grammar) : List String :=
  g.options.flatMap (·.names)

def splitEqual (arg : String) : Option (String × Attached) :=
  let chars := arg.toList
  if chars.contains '=' then
    some (String.ofList (chars.takeWhile (· != '=')),
      ⟨(chars.dropWhile (· != '=')).drop 1, true⟩)
  else none

def askFor (g : Grammar) (name : String) (attached : Option Attached) : Asked :=
  ⟨g.named name, name, attached⟩

def longMatches (g : Grammar) (arg : String) : List Asked :=
  let (start, attached) := match splitEqual arg with
    | some (start, value) => (start, some value)
    | none => (arg, none)
  (g.optionNames.filter (hasStart · start)).map fun name => g.askFor name attached

-- A short option with its value behind it, and options that begin as an argument does.
def shortMatches (g : Grammar) (arg : String) : List Asked :=
  let short := String.ofList (arg.toList.take 2)
  g.optionNames.filterMap fun name =>
    if name == short then some (g.askFor name (some ⟨arg.toList.drop 2, false⟩))
    else if hasStart name arg then some (g.askFor name none)
    else none

def isDigits (text : List Char) : Bool :=
  text.all fun c => (digit? c).isSome

def isNegative (arg : String) : Bool :=
  match arg.toList with
  | '-' :: body =>
    let body := if body.getLast? == some '\n' then body.dropLast else body
    let whole := body.takeWhile (· != '.')
    match body.drop whole.length with
    | [] => isDigits whole && !whole.isEmpty
    | _ :: fraction => isDigits whole && isDigits fraction && !fraction.isEmpty
  | _ => false

def isLong (arg : String) : Bool :=
  hasStart arg "--"

-- What an argument in front of the divider is. A shortened name has to fit one option only.
def markOf (g : Grammar) (arg : String) : Except Stop Mark :=
  if !hasStart arg "-" || arg == "-" then .ok .operand
  else if (g.named arg).isSome then .ok (.asked (g.askFor arg none))
  else
    match (splitEqual arg).filter fun split => (g.named split.1).isSome with
    | some (name, value) => .ok (.asked (g.askFor name (some value)))
    | none =>
      match if isLong arg then g.longMatches arg else g.shortMatches arg with
      | [asked] => .ok (.asked asked)
      | _ :: _ :: _ => .error .rejected
      | [] =>
        if isNegative arg || arg.toList.contains ' ' then .ok .operand
        else .ok (.asked ⟨none, arg, none⟩)

def marks (g : Grammar) : List String → Except Stop Marked
  | [] => .ok []
  | arg :: rest =>
    if arg == "--" then .ok ((arg, .divider) :: rest.map fun a => (a, .operand))
    else do
      let mark ← g.markOf arg
      let more ← g.marks rest
      pure ((arg, mark) :: more)

end Grammar

-- How many of the arguments an operand takes: the divider in front of it, one argument, and what
-- its arity allows.
def taken (arity : Arity) (args : Marked) : Option Nat :=
  let before := (args.takeWhile fun a => a.2.isDivider).length
  match args.drop before with
  | (_, .operand) :: rest =>
    let after := match arity with
      | .one => (rest.takeWhile fun a => a.2.isDivider).length
      | .several => (rest.takeWhile fun a => !a.2.isAsked).length
      | .command => rest.length
    some (before + 1 + after)
  | _ => none

-- The arguments of an operand, without the first divider. A command keeps it.
def valuesOf (arity : Arity) (args : List String) : List String :=
  match arity with
  | .command => args
  | _ => args.erase "--"

def takeOperands : List Arity → Marked → Parsed → List Arity × Marked × Parsed
  | [], args, p => ([], args, p)
  | arity :: rest, args, p =>
    match taken arity args with
    | some count =>
      let values := valuesOf arity ((args.take count).map (·.1))
      takeOperands rest (args.drop count) { p with operands := p.operands ++ [values] }
    | none => (arity :: rest, args, p)

def helpName : String := "--help"

def Parsed.set (p : Parsed) (o : OptionSpec) (value : String) : Except Stop Parsed :=
  if o.name == helpName then .error .helpWanted
  else if o.takesValue && !o.valid value then .error .rejected
  else .ok { p with values := Keyed.put o.name value p.values }

/-- Flags that run together behind one dash, and the option at their end. That option has a value, or
is unknown, or takes its value from the next argument. -/
inductive Cluster
  | valued (flags : List OptionSpec) (last : OptionSpec) (value : String)
  | unknown (flags : List OptionSpec) (text : String)
  | bare (flags : List OptionSpec) (last : OptionSpec)

def Cluster.push (o : OptionSpec) : Cluster → Cluster
  | .valued flags last value => .valued (o :: flags) last value
  | .unknown flags text => .unknown (o :: flags) text
  | .bare flags last => .bare (o :: flags) last

def attachedRest : List Char → Option Attached
  | [] => none
  | '=' :: rest => some ⟨rest, true⟩
  | rest => some ⟨rest, false⟩

-- What is attached to a flag without an equal sign is further flags, if there is one dash.
def clusterOf (g : Grammar) : Nat → OptionSpec → String → Attached → Except Stop Cluster
  | 0, _, _, _ => .error .rejected
  | fuel + 1, o, name, attached =>
    if o.takesValue then .ok (.valued [] o (String.ofList attached.text))
    else if Grammar.isLong name || attached.equals then .error .rejected
    else
      match attached.text with
      | [] => .error .rejected
      | c :: rest =>
        if c = '-' then .error .rejected
        else
          let nextName := String.ofList ['-', c]
          match g.named nextName, attachedRest rest with
          | none, _ => .ok (.unknown [o] (String.ofList ('-' :: c :: rest)))
          | some next, none => .ok (.bare [o] next)
          | some next, some more => (clusterOf g fuel next nextName more).map (·.push o)

def setFlags (p : Parsed) (flags : List OptionSpec) : Except Stop Parsed :=
  flags.foldlM (fun p o => p.set o "") p

def takeCluster (rest : Marked) (p : Parsed) : Cluster → Except Stop (Marked × Parsed)
  | .valued flags last value => do
    pure (rest, ← (← setFlags p flags).set last value)
  | .unknown flags text => do
    let p ← setFlags p flags
    pure (rest, { p with extras := p.extras ++ [text] })
  | .bare flags last =>
    match last.takesValue, rest with
    | false, _ => do pure (rest, ← (← setFlags p flags).set last "")
    | true, (value, .operand) :: rest => do
      pure (rest, ← (← setFlags p flags).set last value)
    | true, _ => .error .rejected

def takeOption (g : Grammar) (arg : String) (asked : Asked) (rest : Marked) (p : Parsed) :
    Except Stop (Marked × Parsed) :=
  match asked.spec, asked.attached with
  | none, _ => .ok (rest, { p with extras := p.extras ++ [arg] })
  | some o, some attached => do
    takeCluster rest p (← clusterOf g (attached.text.length + 1) o asked.name attached)
  | some o, none => takeCluster rest p (.bare [] o)

def addExtras (args : Marked) (p : Parsed) : Parsed :=
  { p with extras := p.extras ++ args.map (·.1) }

-- Options and operands in turn. Each round takes an argument, so their number is fuel enough.
def parseMarked (g : Grammar) :
    Nat → List Arity → Marked → Parsed → Except Stop (List Arity × Parsed)
  | 0, arities, _, p => .ok (arities, p)
  | fuel + 1, arities, args, p =>
    match args with
    | (arg, .asked asked) :: rest => do
      let (rest, p) ← takeOption g arg asked rest p
      parseMarked g fuel arities rest p
    | _ =>
      let (left, rest, q) := takeOperands arities args p
      if !args.any fun a => a.2.isAsked then .ok (left, addExtras rest q)
      else if rest.length < args.length then parseMarked g fuel left rest q
      else
        let skipped := args.takeWhile fun a => !a.2.isAsked
        parseMarked g fuel left (args.drop skipped.length) (addExtras skipped q)

-- All operands have to be there. Arguments that fit nothing are left over.
def Grammar.parse (g : Grammar) (args : List String) : Except Stop Parsed := do
  let marked ← g.marks args
  let (left, p) ← parseMarked g (2 * args.length + 1) g.operands marked ⟨[], [], []⟩
  if left.isEmpty then pure p else .error .rejected

end CodeAtlas.Command
