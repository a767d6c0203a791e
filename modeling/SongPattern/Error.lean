namespace SongPattern

/-- Why a pattern, a policy name or a document is refused. -/
inductive PatternError where
  /-- A backslash with nothing to escape, at a byte offset in the pattern. -/
  | leftover (position : Nat)
  /-- The pattern cannot be rendered for the stand-in song. -/
  | invalid (pattern : String) (cause : PatternError)
  /-- A rendered path has a separator but does not start at a root. -/
  | notRooted (path : String)
  | unknownPolicy (name : String)
  | unreadable (reason : String)
  deriving DecidableEq

instance decidableEqExcept {ε α : Type} [DecidableEq ε] [DecidableEq α] :
    DecidableEq (Except ε α)
  | .ok a, .ok b => decidable_of_iff (a = b) (Except.ok.injEq a b ▸ Iff.rfl)
  | .error e, .error e' => decidable_of_iff (e = e') (Except.error.injEq e e' ▸ Iff.rfl)
  | .ok _, .error _ => isFalse nofun
  | .error _, .ok _ => isFalse nofun

def PatternError.message : PatternError → String
  | .leftover position =>
    "Lex error at offset " ++ toString position ++ ": characters left over in string"
  | .invalid pattern cause => "Pattern '" ++ pattern ++ "' failed validation: " ++ cause.message
  | .notRooted path => "Pattern is not rooted: " ++ path
  | .unknownPolicy name => "Invalid metadata: unknown policy '" ++ name ++ "'"
  | .unreadable reason => "Invalid metadata: " ++ reason

end SongPattern
