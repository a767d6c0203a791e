import SongPattern.Proofs.Cache.History

namespace SongPattern.Cache

/-- The parser that a call leaves in use. -/
def Call.parserFrom (parser : QueryParser) : Call → QueryParser
  | .withParser next => next
  | .get _ | .contains _ | .clear => parser

def parserAfter (parser : QueryParser) (calls : List Call) : QueryParser :=
  calls.foldl Call.parserFrom parser

/-- An entry that is found is what its key builds now, and so is one that was not. -/
theorem Sound.get_eq_build {c : Cache} (h : c.Sound) (key : CacheKey) :
    (c.get key.kind key.pattern).1.map CacheEntry.formatter =
      key.build c.settings c.platform c.parser := by
  rcases h.get_cases key with ⟨e, c', got, renewed⟩ | ⟨cause, got, failed⟩
  · rw [got, renewed.build_eq]
    rfl
  · rw [got, failed]
    rfl

section Transparency

variable (settings : Settings) (platform : Platform) (parser : QueryParser)

/-- It does not matter for the parser whether the gets between succeed. -/
theorem parser_step (uses : Uses) (call : Call) :
    (uses.step settings platform call).parser = call.parserFrom uses.parser := by
  cases call with
  | get key =>
    rw [Uses.step]
    cases key.build settings platform uses.parser <;> rfl
  | contains key => rfl
  | clear => rfl
  | withParser next => rfl

theorem parser_usesOf (calls : List Call) :
    (usesOf settings platform parser calls).parser = parserAfter parser calls := by
  induction calls using List.reverseRecOn with
  | nil => rfl
  | append_singleton calls call ih =>
    rw [usesOf, parserAfter, List.foldl_concat, List.foldl_concat, ← usesOf, ← parserAfter,
      parser_step, ih]

/-- Whatever the calls before, a get gives the formatter, or the error, that building the pattern
anew gives with the parser in use. -/
theorem get_run_eq_build (calls : List Call) (kind : PolicyKind) (pattern : String) :
    (((empty settings platform parser).run calls).get kind pattern).1.map CacheEntry.formatter =
      Formatter.build pattern (kind.build settings platform) (parserAfter parser calls) := by
  have tracks : Tracks settings platform (usesOf settings platform parser calls)
      ((empty settings platform parser).run calls) := tracks_run calls
  have given := tracks.sound.get_eq_build ⟨kind, pattern⟩
  rw [tracks.settings_eq, tracks.platform_eq, tracks.parser_eq, parser_usesOf] at given
  exact given

end Transparency

end SongPattern.Cache
