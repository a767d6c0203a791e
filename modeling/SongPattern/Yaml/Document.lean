import SongPattern.Yaml.Token

namespace SongPattern.Yaml

inductive Node where
  | scalar (text : String) (style : Style) (tag : Option Tag)
  | list (items : List Node) (tag : Option Tag)
  | map (entries : List (Node × Node)) (tag : Option Tag)
  /-- Stands for the node at a place of its document, which may be one around it. -/
  | alias (place : Nat)

namespace Node

mutual

/-- How many scalars, aliases, and starts and ends of lists and maps a node is made of. -/
def size : Node → Nat
  | .scalar _ _ _ | .alias _ => 1
  | .list items _ => itemsSize items + 2
  | .map entries _ => entriesSize entries + 2

def itemsSize : List Node → Nat
  | [] => 0
  | n :: ns => size n + itemsSize ns

def entriesSize : List (Node × Node) → Nat
  | [] => 0
  | (key, value) :: entries => size key + size value + entriesSize entries

end

def isAlias : Node → Bool
  | .alias _ => true
  | _ => false

end Node

/-- A node that has been given a name. -/
structure Anchored where
  place : Nat
  /-- How many others start before it. -/
  start : Nat
  node : Node

/-- A node and the nodes that aliases in it stand for. -/
structure Document where
  root : Node
  anchored : List Anchored

namespace Document

/-- Of the nodes at one place the one that starts last counts, even for aliases before it. -/
def nodeAt? (d : Document) (place : Nat) : Option Node :=
  let nodes := d.anchored.filter (·.place = place)
  let last := (nodes.map (·.start)).foldl max 0
  (nodes.find? (·.start = last)).map (·.node)

/-- The node that is meant; no alias has an anchor, so it is none itself. -/
def resolve? (d : Document) : Node → Option Node
  | .alias place => d.nodeAt? place
  | n => some n

end Document

namespace Node

def absent : Node := .scalar "" .plain none

/-- What names stand for: handles of tags, and anchors, each with its place. `started` counts the
nodes with an anchor, of which those in `anchored` have been read to their ends. -/
structure Names where
  handles : List (List Char × List UInt8)
  anchors : List (List Char × Nat)
  started : Nat
  anchored : List Anchored

def Names.ofHandles (own : List (List Char × List UInt8)) : Names :=
  ⟨own ++ [(['!'], [Tag.mark]), (['!', '!'], Tag.bytesOf "tag:yaml.org,2002:")], [], 0, []⟩

structure Properties where
  anchor : Option (List Char)
  tag : Option Tag

def Names.resolve? (names : Names) (handle : List Char) (suffix : List UInt8) : Option Tag :=
  if handle.isEmpty then some (.ofBytes suffix)
  else (names.handles.lookup handle).map fun lead => .ofBytes (lead ++ suffix)

/-- An anchor and a tag may stand before a node, in either order. -/
def readProperties? (names : Names) : List Token → Option (Properties × List Token)
  | .anchor a :: .tag handle suffix :: ts | .tag handle suffix :: .anchor a :: ts => do
    return (⟨some a, some (← names.resolve? handle suffix)⟩, ts)
  | .anchor a :: ts => some (⟨some a, none⟩, ts)
  | .tag handle suffix :: ts => do return (⟨none, some (← names.resolve? handle suffix)⟩, ts)
  | ts => some (⟨none, none⟩, ts)

/-- Gives an anchor its place, the number of the names before it, as soon as its node starts. A name
that is given again moves, so the next new name gets the same place. The result makes the entry for
the node once that is read. -/
def Names.declare (names : Names) (p : Properties) : Option (Node → Anchored) × Names :=
  match p.anchor with
  | some a =>
    let place := names.anchors.length
    (some (.mk place names.started),
      { names with
        anchors := (a, place) :: names.anchors.filter (·.1 ≠ a)
        started := names.started + 1 })
  | none => (none, names)

def Names.bind (names : Names) (anchored? : Option (Node → Anchored)) (n : Node) : Names :=
  match anchored? with
  | some make => { names with anchored := make n :: names.anchored }
  | none => names

/-- A node, or part of one, with the names known behind it and the tokens left. -/
abbrev Reading (α : Type) := α × Names × List Token

/-- Whether nothing stands where a node of a block could. -/
def lacksNode : List Token → Bool
  | [] | .key :: _ | .value :: _ | .blockEnd :: _ => true
  | _ => false

mutual

/-- Reads a node. Only in a block may it be a block, and only the value of a key may be a list that
is not indented. -/
def read : (fuel : Nat) → (inBlock afterKey : Bool) → Names → List Token → Option (Reading Node)
  | 0, _, _, _, _ => none
  | fuel + 1, inBlock, afterKey, names, ts => do
    if let .alias a :: ts := ts then return (.alias (← names.anchors.lookup a), names, ts)
    let (p, ts) ← readProperties? names ts
    let (anchored?, names) := names.declare p
    let close {α : Type} (make : α → Node) (r : Reading α) : Reading Node :=
      (make r.1, r.2.1.bind anchored? (make r.1), r.2.2)
    match ts, inBlock, afterKey with
    | .scalar text style :: ts, _, _ =>
      return close (.scalar · style p.tag) (.ofList text, names, ts)
    | .listStart :: ts, _, _ => return close (.list · p.tag) (← readFlowList fuel true names ts)
    | .mapStart :: ts, _, _ => return close (.map · p.tag) (← readFlowMap fuel true names ts)
    | .item :: ts, _, true =>
      return close (.list · p.tag) (← readItems fuel false names (.item :: ts))
    | .blockListStart :: ts, true, _ =>
      return close (.list · p.tag) (← readItems fuel true names ts)
    | .blockMapStart :: ts, true, _ => return close (.map · p.tag) (← readBlockMap fuel names ts)
    | ts, _, _ =>
      guard (p.anchor.isSome || p.tag.isSome)
      return close (.scalar · .plain p.tag) ("", names, ts)

/-- The items of a list in a block. A list with an indentation of its own has an end of its own. -/
def readItems : (fuel : Nat) → (indented : Bool) → Names → List Token →
    Option (Reading (List Node))
  | 0, _, _, _ => none
  | fuel + 1, indented, names, ts => do
    match ts with
    | .item :: ts =>
      let isAbsent := match ts with
        | .item :: _ | .blockEnd :: _ => true
        | ts => !indented && lacksNode ts
      let (item, names, ts) ←
        if isAbsent then pure (.absent, names, ts) else read fuel true false names ts
      let (items, names, ts) ← readItems fuel indented names ts
      return (item :: items, names, ts)
    | .blockEnd :: rest => return ([], names, if indented then rest else ts)
    | _ => if indented then none else return ([], names, ts)

def readBlockMap : (fuel : Nat) → Names → List Token → Option (Reading (List (Node × Node)))
  | 0, _, _ => none
  | fuel + 1, names, ts => do
    let part (names : Names) (ts : List Token) : Option (Reading Node) :=
      if lacksNode ts then some (.absent, names, ts) else read fuel true true names ts
    match ts with
    | .blockEnd :: ts => return ([], names, ts)
    | .key :: ts =>
      let (key, names, ts) ← part names ts
      let (value, names, ts) ← match ts with
        | .value :: ts => part names ts
        | ts => pure (.absent, names, ts)
      let (entries, names, ts) ← readBlockMap fuel names ts
      return ((key, value) :: entries, names, ts)
    | _ => none

/-- The items of a list in brackets. A pair is a map of its own. -/
def readFlowList : (fuel : Nat) → (first : Bool) → Names → List Token →
    Option (Reading (List Node))
  | 0, _, _, _ => none
  | fuel + 1, first, names, ts => do
    if let .listEnd :: ts := ts then return ([], names, ts)
    let ts ← if first then some ts else match ts with
      | .comma :: ts => some ts
      | _ => none
    match ts with
    | .listEnd :: ts => return ([], names, ts)
    | .key :: ts =>
      let (key, names, ts) ← match ts with
        | .value :: _ | .comma :: _ | .listEnd :: _ => pure (.absent, names, ts.tail)
        | ts => read fuel false false names ts
      let (value, names, ts) ← match ts with
        | .value :: ts =>
          match ts with
          | .comma :: _ | .listEnd :: _ => pure (.absent, names, ts)
          | ts => read fuel false false names ts
        | ts => pure (.absent, names, ts)
      let (items, names, ts) ← readFlowList fuel false names ts
      return (.map [(key, value)] none :: items, names, ts)
    | ts =>
      let (item, names, ts) ← read fuel false false names ts
      let (items, names, ts) ← readFlowList fuel false names ts
      return (item :: items, names, ts)

def readFlowMap : (fuel : Nat) → (first : Bool) → Names → List Token →
    Option (Reading (List (Node × Node)))
  | 0, _, _, _ => none
  | fuel + 1, first, names, ts => do
    if let .mapEnd :: ts := ts then return ([], names, ts)
    let ts ← if first then some ts else match ts with
      | .comma :: ts => some ts
      | _ => none
    match ts with
    | .mapEnd :: ts => return ([], names, ts)
    | .key :: ts =>
      let (key, names, ts) ← match ts with
        | .value :: _ | .comma :: _ | .mapEnd :: _ => pure (.absent, names, ts)
        | ts => read fuel false false names ts
      let (value, names, ts) ← match ts with
        | .value :: ts =>
          match ts with
          | .comma :: _ | .mapEnd :: _ => pure (.absent, names, ts)
          | ts => read fuel false false names ts
        | ts => pure (.absent, names, ts)
      let (entries, names, ts) ← readFlowMap fuel false names ts
      return ((key, value) :: entries, names, ts)
    | ts =>
      let (key, names, ts) ← read fuel false false names ts
      let (entries, names, ts) ← readFlowMap fuel false names ts
      return ((key, .absent) :: entries, names, ts)

end

/-- Takes in the lines before the start of a document. Each may stand there once. -/
def readDirectives? (versioned : Bool) (own : List (List Char × List UInt8)) :
    List Token → Option (List (List Char × List UInt8) × List Token)
  | .version major minor :: ts => do
    guard (!versioned && major = 1 && (minor = 1 || minor = 2))
    readDirectives? true own ts
  | .tagHandle handle lead :: ts => do
    guard (own.lookup handle).isNone
    readDirectives? versioned ((handle, lead) :: own) ts
  | ts => some (own, ts)

/-- The node behind the start of a document, if there is one. -/
def readContent? (names : Names) (ts : List Token) : Option (Reading Node) :=
  match ts with
  | [] | .documentEnd :: _ | .documentStart :: _ => some (.absent, names, ts)
  | .version _ _ :: _ | .tagHandle _ _ :: _ => some (.absent, names, ts)
  | ts => read (3 * ts.length + 3) true false names ts

end Node

open Node in
/-- Reads a text that holds one document or none. -/
def Document.ofText? (s : String) : Option (Option Document) := do
  let ts ← tokenize? s
  if ts.isEmpty then return none
  let (own, rest) ← readDirectives? false [] ts
  let (root, names, rest) ← match rest with
    | .documentStart :: rest => readContent? (.ofHandles own) rest
    | _ => do
      guard (rest.length = ts.length)
      read (3 * ts.length + 3) true false (.ofHandles own) ts
  guard (rest.all (· = .documentEnd))
  return some ⟨root, names.anchored⟩

end SongPattern.Yaml
