import SongPattern.Pattern.Node
import SongPattern.Pattern.TagName
import SongPattern.Pattern.Token

namespace SongPattern.Pattern

/-- Tags may nest this deep. -/
def maxDepth : Nat := 128

/-- What was read off the front of `ts`, and the tokens that are left. -/
structure Reading (α : Type) (ts : List Token) where
  value : α
  rest : List Token
  rest_le : rest.length ≤ ts.length

namespace Reading

def extend {α : Type} {us : List Token} (r : Reading α us) (ts : List Token)
    (h : us.length ≤ ts.length) : Reading α ts :=
  ⟨r.value, r.rest, Nat.le_trans r.rest_le h⟩

def map {α β : Type} {ts : List Token} (f : α → β) (r : Reading α ts) : Reading β ts :=
  ⟨f r.value, r.rest, r.rest_le⟩

end Reading

def skipTo (kind : TokenKind) (ts : List Token) : List Token := ts.dropWhile (·.kind ≠ kind)

theorem skipTo_le (kind : TokenKind) (ts : List Token) : (skipTo kind ts).length ≤ ts.length :=
  (List.dropWhile_sublist _).length_le

/-- A tag that is not closed is dropped, with all that follows up to the next opening. -/
def closeTag (node : Node) (ts : List Token) : Reading (Option Node) ts :=
  match ts with
  | [] => ⟨none, [], Nat.le_refl _⟩
  | t :: rest =>
    if t.kind = .closing then ⟨some node, rest, Nat.le_succ _⟩
    else ⟨none, skipTo .opening (t :: rest), skipTo_le _ _⟩

mutual

/-- Reads nodes up to a token that cannot start one. `levels` more tags may be opened inside each
other; one too many is skipped up to a closing, which is left for the tag around it. -/
def readNodes (levels : Nat) (ts : List Token) : Reading (List Node) ts :=
  match ts with
  | [] => ⟨[], [], Nat.le_refl _⟩
  | t :: rest =>
    match t.kind with
    | .text => ((readNodes levels rest).map (.text t.text :: ·)).extend _ (Nat.le_succ _)
    | .opening =>
      match levels with
      | 0 =>
        have h := skipTo_le .closing rest
        (readNodes 0 (skipTo .closing rest)).extend _ (by simp; omega)
      | levels + 1 =>
        match readTag levels rest with
        | ⟨tag, rest', h⟩ =>
          ((readNodes (levels + 1) rest').map (tag.toList ++ ·)).extend _ (by simp; omega)
    | _ => ⟨[], t :: rest, Nat.le_refl _⟩
termination_by 3 * ts.length

/-- Reads a tag behind its opening. Its name is the text of the first token, whatever that is; a
tag that starts with neither a name nor another tag is dropped. -/
def readTag (levels : Nat) (ts : List Token) : Reading (Option Node) ts :=
  match ts with
  | [] => ⟨none, [], Nat.le_refl _⟩
  | t :: rest =>
    match t.kind with
    | .text =>
      (readBody levels (normalizeName t.text) none rest).extend _ (Nat.le_succ _)
    | .opening =>
      match readNodes levels (t :: rest) with
      | ⟨first, rest', h⟩ =>
        have : rest'.length ≤ rest.length + 1 := h
        (readBody levels (normalizeName t.text) (some first) rest').extend _ h
    | _ => ⟨none, skipTo .closing (t :: rest), skipTo_le _ _⟩
termination_by 3 * ts.length + 2

/-- Reads a tag behind its name, or behind the nodes that it starts with. -/
def readBody (levels : Nat) (name : String) (first : Option (List Node)) (ts : List Token) :
    Reading (Option Node) ts :=
  match ts with
  | [] => ⟨none, [], Nat.le_refl _⟩
  | t :: rest =>
    match t.kind, first with
    | .bar, _ =>
      match readNodes levels rest with
      | ⟨yes, rest', h⟩ =>
        match readElse levels rest' with
        | ⟨no, rest'', h'⟩ => (closeTag (.condition name yes no) rest'').extend _ (by simp; omega)
    | .doubleBar, some first =>
      match readAlternatives levels (t :: rest) with
      | ⟨more, rest', h⟩ => (closeTag (.disjunction (first :: more)) rest').extend _ h
    | _, _ => closeTag (.tag name) (t :: rest)
termination_by 3 * ts.length + 1

def readElse (levels : Nat) (ts : List Token) : Reading (Option (List Node)) ts :=
  match ts with
  | [] => ⟨none, [], Nat.le_refl _⟩
  | t :: rest =>
    if t.kind = .bar then ((readNodes levels rest).map some).extend _ (Nat.le_succ _)
    else ⟨none, t :: rest, Nat.le_refl _⟩
termination_by 3 * ts.length

def readAlternatives (levels : Nat) (ts : List Token) : Reading (List (List Node)) ts :=
  match ts with
  | [] => ⟨[], [], Nat.le_refl _⟩
  | t :: rest =>
    if t.kind = .doubleBar then
      match readNodes levels rest with
      | ⟨nodes, rest', h⟩ =>
        ((readAlternatives levels rest').map (nodes :: ·)).extend _ (by simp; omega)
    else ⟨[], t :: rest, Nat.le_refl _⟩
termination_by 3 * ts.length

end

/-- The nodes of a token list up to its first finish. Tokens behind a closing or a bar that no tag
takes are ignored. -/
def parseTokens (ts : List Token) : List Node :=
  (readNodes maxDepth (ts.takeWhile (·.kind ≠ .finish))).value

def parse (source : String) : Except PatternError (List Node) :=
  (tokenize source).map parseTokens

end SongPattern.Pattern
