namespace SongPattern.Pattern

/-- A pattern is a list of nodes. A condition without `no` renders nothing where its predicate
fails; a disjunction renders its first alternative that is not empty. -/
inductive Node where
  | text (literal : String)
  | tag (name : String)
  | condition (predicate : String) (yes : List Node) (no : Option (List Node))
  | disjunction (alternatives : List (List Node))

end SongPattern.Pattern
