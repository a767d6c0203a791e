namespace SongPattern.Text

/-- The pieces between the separators: one more than there are separators, so never none. -/
def splitChars (sep : Char) : List Char → List (List Char)
  | [] => [[]]
  | c :: cs =>
    if c = sep then [] :: splitChars sep cs
    else match splitChars sep cs with
      | [] => [[c]]
      | piece :: pieces => (c :: piece) :: pieces

theorem splitChars_ne_nil (sep : Char) (cs : List Char) : splitChars sep cs ≠ [] := by
  cases cs with
  | nil => simp [splitChars]
  | cons c cs =>
    rw [splitChars]
    split
    · simp
    · split <;> simp

def split (sep : Char) (s : String) : List String := (splitChars sep s.toList).map .ofList

def joinWith (sep : String) : List String → String
  | [] => ""
  | [s] => s
  | s :: rest => s ++ sep ++ joinWith sep rest

/-- The text after the last `stop` character, or all of it. -/
def afterLast (stop : Char → Bool) (cs : List Char) : List Char :=
  (cs.reverse.takeWhile fun c => !stop c).reverse

/-- What is left of `cs` after `lead`, if `cs` starts with it. -/
def dropLead? (lead cs : List Char) : Option (List Char) :=
  match lead, cs with
  | [], cs => some cs
  | _ :: _, [] => none
  | l :: lead, c :: cs => if l = c then dropLead? lead cs else none

def occursIn (part : List Char) : List Char → Bool
  | [] => part.isEmpty
  | c :: cs => (dropLead? part (c :: cs)).isSome || occursIn part cs

end SongPattern.Text
