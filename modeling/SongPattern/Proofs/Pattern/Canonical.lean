import SongPattern.Pattern.Parser
import SongPattern.Proofs.Pattern.Lexeme
import SongPattern.Proofs.Pattern.Node
import SongPattern.Proofs.Pattern.TagName

namespace SongPattern.Pattern

mutual

def Node.print : Node → String
  | .text s => escape s
  | .tag name => "<" ++ escape name ++ ">"
  | .condition predicate yes none => "<" ++ escape predicate ++ "|" ++ printNodes yes ++ ">"
  | .condition predicate yes (some no) =>
    "<" ++ escape predicate ++ "|" ++ printNodes yes ++ "|" ++ printNodes no ++ ">"
  | .disjunction alternatives => "<" ++ Text.joinWith "||" (printEach alternatives) ++ ">"

/-- Nodes as they are written in a pattern. -/
def printNodes : List Node → String
  | [] => ""
  | node :: nodes => node.print ++ printNodes nodes

def printEach : List (List Node) → List String
  | [] => []
  | nodes :: more => printNodes nodes :: printEach more

end

mutual

def Node.depth : Node → Nat
  | .text _ => 0
  | .tag _ => 1
  | .condition _ yes none => depthOf yes + 1
  | .condition _ yes (some no) => max (depthOf yes) (depthOf no) + 1
  | .disjunction alternatives => depthOfEach alternatives + 1

/-- How deep the tags are nested. -/
def depthOf : List Node → Nat
  | [] => 0
  | node :: nodes => max node.depth (depthOf nodes)

def depthOfEach : List (List Node) → Nat
  | [] => 0
  | nodes :: more => max (depthOf nodes) (depthOfEach more)

end

def Node.isText : Node → Bool
  | .text _ => true
  | _ => false

def startsWithText (nodes : List Node) : Bool := nodes.head?.any Node.isText

def startsWithTag (nodes : List Node) : Bool := nodes.head?.any fun node => !node.isText

mutual

def Node.Shaped : Node → Prop
  | .text s => s ≠ ""
  | .tag name => IsName name
  | .condition predicate yes none => IsName predicate ∧ Shaped yes
  | .condition predicate yes (some no) => IsName predicate ∧ yes ≠ [] ∧ Shaped yes ∧ Shaped no
  | .disjunction alternatives =>
    2 ≤ alternatives.length ∧ startsWithTag (alternatives.headD []) = true ∧ ShapedEach alternatives

/-- Nodes as a pattern can write them: texts are not empty, and not next to each other; names are
as they are read; an empty branch is not followed by another one; alternatives start with a tag. -/
def Shaped : List Node → Prop
  | [] => True
  | node :: nodes =>
    node.Shaped ∧ (node.isText = true → startsWithText nodes = false) ∧ Shaped nodes

def ShapedEach : List (List Node) → Prop
  | [] => True
  | nodes :: more => Shaped nodes ∧ ShapedEach more

end

def Canonical (nodes : List Node) : Prop := Shaped nodes ∧ depthOf nodes ≤ maxDepth

mutual

def Node.decidableShaped : (node : Node) → Decidable node.Shaped
  | .text s => inferInstanceAs (Decidable (s ≠ ""))
  | .tag name => inferInstanceAs (Decidable (IsName name))
  | .condition predicate yes none =>
    have := decidableShaped yes
    inferInstanceAs (Decidable (IsName predicate ∧ Shaped yes))
  | .condition predicate yes (some no) =>
    have := decidableShaped yes
    have := decidableShaped no
    have := decidable_of_iff (yes.isEmpty = false) List.isEmpty_eq_false_iff
    inferInstanceAs (Decidable (IsName predicate ∧ yes ≠ [] ∧ Shaped yes ∧ Shaped no))
  | .disjunction alternatives =>
    have := decidableShapedEach alternatives
    inferInstanceAs (Decidable (2 ≤ alternatives.length ∧
      startsWithTag (alternatives.headD []) = true ∧ ShapedEach alternatives))

def decidableShaped : (nodes : List Node) → Decidable (Shaped nodes)
  | [] => .isTrue trivial
  | node :: nodes =>
    have := node.decidableShaped
    have := decidableShaped nodes
    inferInstanceAs (Decidable (node.Shaped ∧
      (node.isText = true → startsWithText nodes = false) ∧ Shaped nodes))

def decidableShapedEach : (alternatives : List (List Node)) → Decidable (ShapedEach alternatives)
  | [] => .isTrue trivial
  | nodes :: more =>
    have := decidableShaped nodes
    have := decidableShapedEach more
    inferInstanceAs (Decidable (Shaped nodes ∧ ShapedEach more))

end

instance decidableCanonical (nodes : List Node) : Decidable (Canonical nodes) :=
  have := decidableShaped nodes
  inferInstanceAs (Decidable (Shaped nodes ∧ depthOf nodes ≤ maxDepth))

example : Canonical [.condition "~a" [.tag "b"] (some []), .disjunction [[.tag "c"], []]] := by
  decide +kernel

def joinLexemes : List (List Lexeme) → List Lexeme
  | [] => []
  | first :: more => first ++ more.flatMap ((.doubleBar, "||") :: ·)

mutual

def Node.lexemes : Node → List Lexeme
  | .text s => [(.text, s)]
  | .tag name => [(.opening, "<"), (.text, name), (.closing, ">")]
  | .condition predicate yes none =>
    (.opening, "<") :: (.text, predicate) :: (.bar, "|") :: (lexemesOf yes ++ [(.closing, ">")])
  | .condition predicate yes (some no) =>
    (.opening, "<") :: (.text, predicate) :: (.bar, "|") ::
      (lexemesOf yes ++ (.bar, "|") :: (lexemesOf no ++ [(.closing, ">")]))
  | .disjunction alternatives =>
    (.opening, "<") :: (joinLexemes (lexemesOfEach alternatives) ++ [(.closing, ">")])

def lexemesOf : List Node → List Lexeme
  | [] => []
  | node :: nodes => node.lexemes ++ lexemesOf nodes

def lexemesOfEach : List (List Node) → List (List Lexeme)
  | [] => []
  | nodes :: more => lexemesOf nodes :: lexemesOfEach more

end

theorem written_text (s : String) : Lexeme.written (.text, s) = (escape s).toList := by
  rw [Lexeme.written, escape, String.toList_ofList]

theorem joinWith_bars (texts : List String) (each : List (List Lexeme))
    (h : texts.map String.toList = each.map writeLexemes) :
    (Text.joinWith "||" texts).toList = writeLexemes (joinLexemes each) := by
  induction texts generalizing each with
  | nil =>
    rw [List.map_eq_nil_iff.mp h.symm]
    rfl
  | cons s texts ih =>
    obtain ⟨first, more, rfl, hs, hmore⟩ := List.map_eq_cons_iff.mp h.symm
    cases texts with
    | nil =>
      rw [List.map_eq_nil_iff.mp hmore, joinLexemes, List.flatMap_nil, List.append_nil, hs]
      rfl
    | cons t texts =>
      obtain ⟨second, others, rfl, _, _⟩ := List.map_eq_cons_iff.mp hmore
      have rest := ih (second :: others) hmore.symm
      rw [joinLexemes] at rest
      rw [joinLexemes, List.flatMap_cons, List.cons_append, writeLexemes_append, writeLexemes_cons,
        ← rest, hs, Text.joinWith, String.toList_append, String.toList_append, List.append_assoc]
      · rfl
      · intro h
        cases h

/-- A pattern is written token by token. -/
theorem print_eq_write :
    (∀ node : Node, node.print.toList = writeLexemes node.lexemes) ∧
    (∀ nodes, (printNodes nodes).toList = writeLexemes (lexemesOf nodes)) ∧
    ∀ alternatives, (printEach alternatives).map String.toList =
      (lexemesOfEach alternatives).map writeLexemes := by
  apply Node.induction
  case text =>
    intro s
    rw [Node.print, Node.lexemes, writeLexemes_cons, written_text]
    exact (List.append_nil _).symm
  case tag =>
    intro name
    rw [Node.print, Node.lexemes]
    simp only [writeLexemes_cons, written_text, String.toList_append]
    rfl
  case when =>
    intro predicate yes ih
    rw [Node.print, Node.lexemes]
    simp only [writeLexemes_cons, writeLexemes_append, written_text, String.toList_append, ih,
      List.append_assoc]
    rfl
  case either =>
    intro predicate yes no ihyes ihno
    rw [Node.print, Node.lexemes]
    simp only [writeLexemes_cons, writeLexemes_append, written_text, String.toList_append, ihyes,
      ihno, List.append_assoc]
    rfl
  case disjunction =>
    intro alternatives ih
    rw [Node.print, Node.lexemes]
    simp only [writeLexemes_cons, writeLexemes_append, String.toList_append,
      joinWith_bars _ _ ih, List.append_assoc]
    rfl
  case nil =>
    rfl
  case cons =>
    intro node nodes ihnode ihnodes
    rw [printNodes, lexemesOf, String.toList_append, writeLexemes_append, ihnode, ihnodes]
  case none =>
    rfl
  case more =>
    intro nodes alternatives ihnodes ihmore
    rw [printEach, lexemesOfEach, List.map_cons, List.map_cons, ihnodes, ihmore]

/-- What is written behind a text or a bar is no part of it. -/
def Stops (ls : List Lexeme) : Prop := ∀ l ∈ ls.head?, l.1 ≠ .text

theorem lexemes_head (node : Node) :
    (∃ s, node = .text s) ∨
      node.isText = false ∧ ∃ ls, node.lexemes = (.opening, "<") :: ls := by
  fun_cases Node.lexemes node with
  | case1 s => exact .inl ⟨s, rfl⟩
  | case2 name => exact .inr ⟨rfl, _, rfl⟩
  | case3 predicate yes => exact .inr ⟨rfl, _, rfl⟩
  | case4 predicate yes no => exact .inr ⟨rfl, _, rfl⟩
  | case5 alternatives => exact .inr ⟨rfl, _, rfl⟩

theorem lexemesOf_append (front back : List Node) :
    lexemesOf (front ++ back) = lexemesOf front ++ lexemesOf back := by
  induction front with
  | nil => rfl
  | cons node front ih => rw [List.cons_append, lexemesOf, lexemesOf, ih, List.append_assoc]

theorem lexemes_last {node : Node} (tag : node.isText = false) :
    ∃ ls, node.lexemes = ls ++ [(.closing, ">")] := by
  cases node with
  | text s => cases tag
  | tag name => exact ⟨[(.opening, "<"), (.text, name)], rfl⟩
  | condition predicate yes no =>
    cases no with
    | none => exact ⟨_ :: _ :: _ :: lexemesOf yes, rfl⟩
    | some no =>
      refine ⟨(.opening, "<") :: (.text, predicate) :: (.bar, "|") ::
        (lexemesOf yes ++ (.bar, "|") :: lexemesOf no), ?_⟩
      rw [Node.lexemes]
      simp
  | disjunction alternatives => exact ⟨_ :: joinLexemes (lexemesOfEach alternatives), rfl⟩

/-- The tokens of nodes may follow a token where their first node, or what is behind them, may. -/
theorem apart_lexemesOf {kind : TokenKind} {nodes : List Node} {rest : List Lexeme}
    (text : startsWithText nodes = true → Apart kind .text) (opening : Apart kind .opening)
    (next : nodes = [] → ∀ l ∈ rest.head?, Apart kind l.1) :
    ∀ l ∈ (lexemesOf nodes ++ rest).head?, Apart kind l.1 := by
  cases nodes with
  | nil => exact next rfl
  | cons node nodes =>
    rw [lexemesOf]
    rcases lexemes_head node with ⟨s, rfl⟩ | ⟨_, ls, hls⟩
    · rintro l ⟨⟩
      exact text rfl
    · rw [hls]
      rintro l ⟨⟩
      exact opening

theorem spaced_closing {rest : List Lexeme} (hr : Spaced rest) :
    Spaced ((.closing, ">") :: rest) := ⟨rfl, fun _ _ => trivial, hr⟩

theorem spaced_named {name : String} {rest : List Lexeme} (h : IsName name) (hr : Spaced rest)
    (stops : Stops rest) : Spaced ((.opening, "<") :: (.text, name) :: rest) :=
  ⟨rfl, fun _ _ => trivial, h.1, fun l hl => apart_text (stops l hl), hr⟩

theorem spaced_branch {nodes : List Node} {rest : List Lexeme}
    (h : Spaced (lexemesOf nodes ++ rest))
    (next : nodes = [] → ∀ l ∈ rest.head?, Apart .bar l.1) :
    Spaced ((.bar, "|") :: (lexemesOf nodes ++ rest)) :=
  ⟨rfl, apart_lexemesOf (fun _ => trivial) trivial next, h⟩

theorem stops_nil : Stops [] := fun l h => absurd h (Option.not_mem_none l)

theorem stops_cons {kind : TokenKind} {s : String} {rest : List Lexeme} (h : kind ≠ .text) :
    Stops ((kind, s) :: rest) := by
  rintro l ⟨⟩
  exact h

theorem spaced_lexemes :
    (∀ node : Node, node.Shaped → ∀ rest, Spaced rest → (node.isText = true → Stops rest) →
      Spaced (node.lexemes ++ rest)) ∧
    (∀ nodes, Shaped nodes → ∀ rest, Spaced rest → Stops rest →
      Spaced (lexemesOf nodes ++ rest)) ∧
    ∀ alternatives, ShapedEach alternatives → ∀ rest, Spaced rest → Stops rest →
      Spaced (joinLexemes (lexemesOfEach alternatives) ++ rest) ∧
      Spaced ((lexemesOfEach alternatives).flatMap ((.doubleBar, "||") :: ·) ++ rest) := by
  apply Node.induction
  case text =>
    intro s h rest hr stops
    exact ⟨h, fun l hl => apart_text (stops rfl l hl), hr⟩
  case tag =>
    intro name h rest hr _
    exact spaced_named h (spaced_closing hr) (stops_cons nofun)
  case when =>
    intro predicate yes ih h rest hr _
    obtain ⟨name, hyes⟩ := h
    rw [Node.lexemes, List.cons_append, List.cons_append, List.cons_append, List.append_assoc]
    have branch := ih hyes _ (spaced_closing hr) (stops_cons nofun)
    refine spaced_named name (spaced_branch branch ?_) (stops_cons nofun)
    rintro _ l ⟨⟩
    trivial
  case either =>
    intro predicate yes no ihyes ihno h rest hr _
    obtain ⟨name, full, hyes, hno⟩ := h
    rw [Node.lexemes, List.cons_append, List.cons_append, List.cons_append, List.append_assoc,
      List.cons_append, List.append_assoc]
    have last := ihno hno _ (spaced_closing hr) (stops_cons nofun)
    have second : Spaced ((.bar, "|") :: (lexemesOf no ++ (.closing, ">") :: rest)) := by
      refine spaced_branch last ?_
      rintro _ l ⟨⟩
      trivial
    have branch := ihyes hyes _ second (stops_cons nofun)
    exact spaced_named name (spaced_branch branch fun he => absurd he full) (stops_cons nofun)
  case disjunction =>
    intro alternatives ih h rest hr _
    rw [Node.lexemes, List.cons_append, List.append_assoc]
    have each := ih h.2.2 _ (spaced_closing hr) (stops_cons nofun)
    exact ⟨rfl, fun _ _ => trivial, each.1⟩
  case nil =>
    intro _ rest hr _
    exact hr
  case cons =>
    intro node nodes ihnode ihnodes h rest hr stops
    obtain ⟨shaped, alone, more⟩ := h
    rw [lexemesOf, List.append_assoc]
    refine ihnode shaped _ (ihnodes more rest hr stops) ?_
    intro text
    cases nodes with
    | nil => exact stops
    | cons next nodes =>
      rcases lexemes_head next with ⟨s, rfl⟩ | ⟨_, ls, hls⟩
      · exact absurd (alone text) nofun
      · rw [lexemesOf, hls]
        exact stops_cons nofun
  case none =>
    intro _ rest hr _
    exact ⟨hr, hr⟩
  case more =>
    intro nodes alternatives ihnodes ihmore h rest hr stops
    have others := (ihmore h.2 rest hr stops).2
    have before :
        Stops ((lexemesOfEach alternatives).flatMap ((.doubleBar, "||") :: ·) ++ rest) := by
      cases alternatives with
      | nil => exact stops
      | cons next alternatives => exact stops_cons nofun
    have first := ihnodes h.1 _ others before
    rw [lexemesOfEach, joinLexemes, List.flatMap_cons, List.append_assoc, List.append_assoc]
    exact ⟨first, rfl, fun _ _ => trivial, first⟩

end SongPattern.Pattern
