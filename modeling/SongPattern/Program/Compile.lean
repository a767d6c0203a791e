import SongPattern.Pattern.Node
import SongPattern.Pattern.TagName
import SongPattern.Program.Instr

namespace SongPattern.Program

open Pattern (Node)

/-- What is counted and collected over the whole pattern. A text that is a query has its matcher in
the table and its place there in the index; a text that is none is kept too, so that the parser is
asked about each text once. -/
structure Progress where
  slots : Nat
  marks : Nat
  tags : List String
  matchers : List Matcher
  matcherIndex : List (String × Nat)
  notQueries : List String
  /-- The texts that the parser was asked about, in this order. -/
  asked : List String

/-- The slots that are filled wherever this point of the pattern is reached. -/
structure Scope where
  values : List (String × Nat)
  queries : List (String × Nat)

/-- Code for a part of the pattern, and what holds behind it. Its jumps count from its own start. -/
structure Block where
  code : List Instr
  scope : Scope
  progress : Progress

def Progress.start : Progress := ⟨0, 0, [], [], [], [], []⟩

def Scope.empty : Scope := ⟨[], []⟩

def Progress.addTags (p : Progress) (tags : List String) : Progress :=
  { p with tags := tags.foldl (fun seen tag => if tag ∈ seen then seen else seen ++ [tag]) p.tags }

/-- Asks the parser about a text that it was not asked about before. -/
def Progress.askNew (p : Progress) (parser : QueryParser) (text : String) :
    Option Nat × Progress :=
  match parser text with
  | some matcher =>
    (some p.matchers.length,
      { p with
        matchers := p.matchers ++ [matcher]
        matcherIndex := p.matcherIndex ++ [(text, p.matchers.length)]
        asked := p.asked ++ [text] })
  | none => (none, { p with notQueries := p.notQueries ++ [text], asked := p.asked ++ [text] })

/-- The index of the query that `text` is, if it is one. -/
def Progress.ask (p : Progress) (parser : QueryParser) (text : String) : Option Nat × Progress :=
  match p.matcherIndex.lookup text with
  | some index => (some index, p)
  | none => if text ∈ p.notQueries then (none, p) else p.askNew parser text

/-- Code that fills a slot, and the slot. -/
structure Loaded where
  slot : Nat
  block : Block

def loadValue (key : String) (scope : Scope) (p : Progress) : Loaded :=
  match scope.values.lookup key with
  | some slot => ⟨slot, [], scope, p⟩
  | none =>
    ⟨p.slots, [.fetch key p.slots], { scope with values := (key, p.slots) :: scope.values },
      { p with slots := p.slots + 1 }⟩

/-- A predicate is a query, or else the tag of that name. -/
def loadPredicate (parser : QueryParser) (predicate : String) (scope : Scope) (p : Progress) :
    Loaded :=
  match scope.queries.lookup predicate with
  | some slot => ⟨slot, [], scope, p⟩
  | none =>
    match p.ask parser predicate with
    | (none, p) => loadValue predicate scope p
    | (some index, p) =>
      ⟨p.slots, [.query index p.slots],
        { scope with queries := (predicate, p.slots) :: scope.queries },
        { p with slots := p.slots + 1 }⟩

/-- Puts a block behind the code so far. Its jumps are moved with it. -/
def append (code block : List Instr) : List Instr := code ++ block.map (·.shifted code.length)

/-- The code of a condition, behind the code that fills the slot of its predicate. -/
def branch (slot : Nat) (code yes no : List Instr) : List Instr :=
  match yes.isEmpty, no.isEmpty with
  | true, true => code
  | false, true => append (code ++ [.jumpUnless slot (code.length + 1 + yes.length)]) yes
  | true, false => append (code ++ [.jumpIf slot (code.length + 1 + no.length)]) no
  | false, false =>
    let otherwise := code.length + 1 + yes.length + 1
    let code := append (code ++ [.jumpUnless slot otherwise]) yes
    append (code ++ [.jump (otherwise + no.length)]) no

/-- Where both branches are empty the predicate is not needed. -/
def conditionBlock (before : Scope) (load : Loaded) (yes no : Block) : Block :=
  if yes.code.isEmpty && no.code.isEmpty then ⟨[], before, no.progress⟩
  else ⟨branch load.slot load.block.code yes.code no.code, load.block.scope, no.progress⟩

/-- The code for some alternatives of a disjunction. Its checks do not lead out of it yet. -/
structure Trials where
  code : List Instr
  /-- Where the checks stand in the code. -/
  checks : List Nat
  progress : Progress

/-- Lets all checks lead to the end of the code. -/
def Trials.patched (trials : Trials) (mark : Nat) : List Instr :=
  trials.checks.foldl (fun code i => code.set i (.keepOrRetract mark trials.code.length))
    trials.code

mutual

/-- A branch starts from the slots of what stands around it, and what it fetches is its own. -/
def compileNode (literal : String → String) (parser : QueryParser) :
    Node → Scope → Progress → Block
  | .text s, scope, p => ⟨[.emit (literal s)], scope, p⟩
  | .tag name, scope, p =>
    let load := loadValue name scope (p.addTags (Pattern.tagParts name))
    { load.block with code := load.block.code ++ [.emitSlot load.slot] }
  | .condition predicate yes none, scope, p =>
    let load := loadPredicate parser predicate scope p
    let yes := compileNodes literal parser yes load.block.scope load.block.progress []
    conditionBlock scope load yes ⟨[], scope, yes.progress⟩
  | .condition predicate yes (some no), scope, p =>
    let load := loadPredicate parser predicate scope p
    let yes := compileNodes literal parser yes load.block.scope load.block.progress []
    let no := compileNodes literal parser no load.block.scope yes.progress []
    conditionBlock scope load yes no
  | .disjunction alternatives, scope, p =>
    let trials := compileAlternatives literal parser p.marks alternatives scope
      { p with marks := p.marks + 1 } [.mark p.marks] []
    ⟨trials.patched p.marks, scope, trials.progress⟩

/-- Puts the blocks of the nodes one after the other behind `code`. -/
def compileNodes (literal : String → String) (parser : QueryParser) :
    List Node → Scope → Progress → (code : List Instr) → Block
  | [], scope, p, code => ⟨code, scope, p⟩
  | node :: nodes, scope, p, code =>
    let block := compileNode literal parser node scope p
    compileNodes literal parser nodes block.scope block.progress (append code block.code)

/-- Puts the block of each alternative behind `code`, and behind it a check. -/
def compileAlternatives (literal : String → String) (parser : QueryParser) (mark : Nat) :
    List (List Node) → Scope → Progress → (code : List Instr) → (checks : List Nat) → Trials
  | [], _, p, code, checks => ⟨code, checks, p⟩
  | nodes :: alternatives, scope, p, code, checks =>
    let block := compileNodes literal parser nodes scope p []
    let code := append code block.code
    compileAlternatives literal parser mark alternatives scope block.progress
      (code ++ [.keepOrRetract mark 0]) (checks ++ [code.length])

end

/-- A program, the tags it may render in the order of their first use, and the texts that were
asked whether they are queries. -/
structure Compiled where
  program : Program
  tags : List String
  asked : List String

def compile (mode : Mode) (literal : String → String) (parser : QueryParser)
    (nodes : List Node) : Compiled :=
  let block := compileNodes literal parser nodes .empty .start []
  let p := block.progress
  ⟨⟨mode, block.code, p.matchers, p.slots, p.marks⟩, p.tags, p.asked⟩

end SongPattern.Program
