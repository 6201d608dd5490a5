import CodeAtlas.Command.Arguments
import CodeAtlas.Number.Read

set_option autoImplicit false

/-! What a command line asks for. -/

namespace CodeAtlas.Command

open CodeAtlas.Number

/-- An empty text stands for an option that is not given. -/
inductive Request
  | scan (files : List String) (json code : Bool)
  | search (query : String) (files : List String) (limit : Int) (type : String) (least : Float)
      (backend : String) (noCache json : Bool)
  | bundles (files : List String) (label : String) (json : Bool)
  | suggest (paths : List String)
  | rules (validate : String) (mapping : Bool)

structure Invocation where
  rulesPath : String
  request : Request

def anyValue (_ : String) : Bool :=
  true

def isWhole (value : String) : Bool :=
  (readInt value.toList).isSome

def isNumber (value : String) : Bool :=
  (readFloat value.toList).isSome

def flag (names : List String) : OptionSpec :=
  ⟨names, false, anyValue⟩

def textOption (names : List String) : OptionSpec :=
  ⟨names, true, anyValue⟩

def help : OptionSpec :=
  flag ["-h", helpName]

def mainGrammar : Grammar :=
  ⟨[help, flag ["-v", "--verbose"], textOption ["--rules"]], [.command]⟩

def scanGrammar : Grammar :=
  ⟨[help, flag ["--json"], flag ["--code"]], [.several]⟩

def searchGrammar : Grammar :=
  ⟨[help, ⟨["-k", "--limit"], true, isWhole⟩, textOption ["-t", "--type"],
    ⟨["--min-similarity"], true, isNumber⟩, textOption ["--backend"], flag ["--no-cache"],
    flag ["--json"]], [.one, .several]⟩

def bundlesGrammar : Grammar :=
  ⟨[help, textOption ["-r", "--resolve"], flag ["--json"]], [.several]⟩

def suggestGrammar : Grammar :=
  ⟨[help], [.several]⟩

def rulesGrammar : Grammar :=
  ⟨[help, textOption ["--validate"], flag ["--mapping"]], []⟩

namespace Parsed

def has (p : Parsed) (name : String) : Bool :=
  (Keyed.lookup name p.values).isSome

def text (p : Parsed) (name : String) : String :=
  (Keyed.lookup name p.values).getD ""

def int (p : Parsed) (name : String) (default : Int) : Int :=
  ((Keyed.lookup name p.values).bind fun value => readInt value.toList).getD default

def float (p : Parsed) (name : String) (default : Float) : Float :=
  ((Keyed.lookup name p.values).bind fun value => readFloat value.toList).getD default

def operand (p : Parsed) (index : Nat) : List String :=
  p.operands.getD index []

end Parsed

def scanRequest (p : Parsed) : Request :=
  .scan (p.operand 0) (p.has "--json") (p.has "--code")

def searchRequest (p : Parsed) : Request :=
  .search ((p.operand 0).headD "") (p.operand 1) (p.int "--limit" 10) (p.text "--type")
    (p.float "--min-similarity" 0.5) (p.text "--backend") (p.has "--no-cache") (p.has "--json")

def bundlesRequest (p : Parsed) : Request :=
  .bundles (p.operand 0) (p.text "--resolve") (p.has "--json")

def suggestRequest (p : Parsed) : Request :=
  .suggest (p.operand 0)

def rulesRequest (p : Parsed) : Request :=
  .rules (p.text "--validate") (p.has "--mapping")

def read (g : Grammar) (request : Parsed → Request) (args : List String) :
    Except Stop (Request × List String) := do
  let p ← g.parse args
  pure (request p, p.extras)

def requestOf : List String → Except Stop (Request × List String)
  | "scan" :: args => read scanGrammar scanRequest args
  | "search" :: args => read searchGrammar searchRequest args
  | "bundles" :: args => read bundlesGrammar bundlesRequest args
  | "suggest" :: args => read suggestGrammar suggestRequest args
  | "rules" :: args => read rulesGrammar rulesRequest args
  | _ => .error .rejected

-- What the arguments ask for, if nothing is left over.
def invocation (args : List String) : Except Stop Invocation := do
  let p ← mainGrammar.parse args
  let (request, extras) ← requestOf (p.operand 0)
  if p.extras.isEmpty && extras.isEmpty then pure ⟨p.text "--rules", request⟩
  else .error .rejected

end CodeAtlas.Command
