import Mathlib.Data.List.Induction
import Mathlib.Data.String.Basic
import SongPattern.Proofs.Pattern.Scan

namespace SongPattern.Pattern

/-- Whether a backslash at the end still waits for the character that it escapes. Backslashes pair
off from the left, so behind a run of them it is the parity of the run that counts. -/
def waits (cs : List Char) : Bool := cs.foldl (fun waiting c => !waiting && c = '\\') false

theorem waits_concat (cs : List Char) (c : Char) :
    waits (cs ++ [c]) = (!waits cs && decide (c = '\\')) := by
  simp [waits, List.foldl_append]

theorem waits_plain {c : Char} (h : c ≠ '\\') (cs : List Char) : waits (c :: cs) = waits cs := by
  simp [waits, h]

theorem waits_pair (c : Char) (cs : List Char) : waits ('\\' :: c :: cs) = waits cs := by
  simp [waits]

theorem waits_of_last {cs : List Char} (h : cs.getLast? ≠ some '\\') : waits cs = false := by
  rcases List.eq_nil_or_concat cs with rfl | ⟨front, c, rfl⟩
  · rfl
  · have plain : c ≠ '\\' := by simpa using h
    rw [List.concat_eq_append, waits_concat]
    simp [plain]

theorem waits_run {front : List Char} (h : front.getLast? ≠ some '\\') (length : Nat) :
    waits (front ++ List.replicate length '\\') = decide (length % 2 = 1) := by
  induction length with
  | zero =>
    rw [List.replicate_zero, List.append_nil, waits_of_last h]
    rfl
  | succ length ih =>
    rw [List.replicate_succ', ← List.append_assoc, waits_concat, ih]
    by_cases odd : length % 2 = 1
    · have even : (length + 1) % 2 ≠ 1 := by omega
      simp [odd, even]
    · have odd' : (length + 1) % 2 = 1 := by omega
      simp [odd, odd']

/-- Behind `front` stands a backslash that has nothing to escape: none waits for it, and a line
break or nothing at all follows. -/
structure Stray (cs front back : List Char) : Prop where
  split : cs = front ++ '\\' :: back
  free : waits front = false
  behind : ∀ c ∈ back.head?, c = '\n'

def FirstStray (cs front : List Char) : Prop :=
  (∃ back, Stray cs front back) ∧
    ∀ other back, Stray cs other back → front.length ≤ other.length

section Chunks

variable {chunk cs front back : List Char}

theorem Chunk.waits_append (h : Chunk chunk) (cs : List Char) : waits (chunk ++ cs) = waits cs := by
  cases h with
  | plain hc => exact waits_plain hc cs
  | pair => exact waits_pair _ cs

/-- No backslash inside a chunk is a stray one. -/
theorem Chunk.prefix_of_stray (h : Chunk chunk) (hs : Stray (chunk ++ cs) front back) :
    ∃ rest, front = chunk ++ rest := by
  obtain ⟨split, free, behind⟩ := hs
  cases h with
  | plain hc =>
    cases front with
    | nil => exact absurd (List.cons.inj split).1 hc
    | cons d front => exact ⟨front, congrArg (· :: front) (List.cons.inj split).1.symm⟩
  | @pair c hc =>
    -- the backslash is no stray one, for `c` is no line break, and `c` is none, for it is escaped
    match front with
    | [] =>
      have next : c :: cs = back := (List.cons.inj split).2
      have line := behind c (by rw [← next]; rfl)
      exact absurd line hc
    | [d] =>
      have first : d = '\\' := (List.cons.inj split).1.symm
      rw [first] at free
      cases free
    | d :: d' :: front =>
      obtain ⟨first, split⟩ := List.cons.inj split
      obtain ⟨second, _⟩ := List.cons.inj split
      exact ⟨front, by rw [← first, ← second]; rfl⟩

theorem Chunk.stray_append_iff (h : Chunk chunk) :
    Stray (chunk ++ cs) (chunk ++ front) back ↔ Stray cs front back := by
  constructor
  · rintro ⟨split, free, behind⟩
    rw [List.append_assoc] at split
    rw [h.waits_append] at free
    exact ⟨List.append_cancel_left split, free, behind⟩
  · rintro ⟨rfl, free, behind⟩
    exact ⟨(List.append_assoc _ _ _).symm, (h.waits_append front).trans free, behind⟩

theorem Chunk.firstStray_iff (h : Chunk chunk) :
    FirstStray (chunk ++ cs) front ↔ ∃ rest, front = chunk ++ rest ∧ FirstStray cs rest := by
  constructor
  · rintro ⟨⟨back, stray⟩, first⟩
    obtain ⟨rest, rfl⟩ := h.prefix_of_stray stray
    refine ⟨rest, rfl, ⟨back, h.stray_append_iff.mp stray⟩, ?_⟩
    intro other back' stray'
    have le := first _ _ (h.stray_append_iff.mpr stray')
    simpa using le
  · rintro ⟨rest, rfl, ⟨back, stray⟩, first⟩
    refine ⟨⟨back, h.stray_append_iff.mpr stray⟩, ?_⟩
    intro other back' stray'
    obtain ⟨rest', rfl⟩ := h.prefix_of_stray stray'
    have le := first _ _ (h.stray_append_iff.mp stray')
    simpa using le

end Chunks

/-- Scanning from `position` on ends with `e`, at the first backslash that has nothing to escape. -/
def StopsAt (position : Nat) (cs : List Char) (e : PatternError) : Prop :=
  ∃ front, FirstStray cs front ∧ e = .leftover (position + String.utf8Len front)

theorem Chunk.stopsAt_iff {chunk : List Char} (h : Chunk chunk) (position : Nat) (cs : List Char)
    (e : PatternError) :
    StopsAt position (chunk ++ cs) e ↔ StopsAt (position + String.utf8Len chunk) cs e := by
  constructor
  · rintro ⟨front, first, rfl⟩
    obtain ⟨rest, rfl, stray⟩ := h.firstStray_iff.mp first
    exact ⟨rest, stray, by rw [String.utf8Len_append, Nat.add_assoc]⟩
  · rintro ⟨rest, first, rfl⟩
    refine ⟨chunk ++ rest, h.firstStray_iff.mpr ⟨rest, rfl, first⟩, ?_⟩
    rw [String.utf8Len_append, Nat.add_assoc]

theorem stopsAt_append {front : List Char} (h : '\\' ∉ front) (position : Nat) (cs : List Char)
    (e : PatternError) :
    StopsAt position (front ++ cs) e ↔ StopsAt (position + String.utf8Len front) cs e := by
  induction front generalizing position with
  | nil => rfl
  | cons c front ih =>
    rw [List.mem_cons, not_or] at h
    have first := (Chunk.plain (Ne.symm h.1)).stopsAt_iff position (front ++ cs) e
    have size : position + String.utf8Len [c] + String.utf8Len front =
        position + String.utf8Len (c :: front) := by
      rw [Nat.add_assoc, ← String.utf8Len_append]
      rfl
    rw [ih h.2, size] at first
    exact first

theorem stopsAt_here {cs back : List Char} (h : Stray cs [] back) (position : Nat)
    (e : PatternError) : StopsAt position cs e ↔ e = .leftover position := by
  have first : FirstStray cs [] := ⟨⟨back, h⟩, fun _ _ _ => Nat.zero_le _⟩
  constructor
  · rintro ⟨front, ⟨_, least⟩, rfl⟩
    have none : front.length ≤ 0 := least [] back h
    rw [List.length_eq_zero_iff.mp (Nat.le_zero.mp none)]
    rfl
  · rintro rfl
    exact ⟨[], first, rfl⟩

theorem map_eq_error_iff {ε α β : Type} {f : α → β} {r : Except ε α} {e : ε} :
    r.map f = .error e ↔ r = .error e := by
  cases r <;> simp [Except.map]

theorem scan_eq_error_iff (position : Nat) (cs : List Char) (e : PatternError) :
    scan position cs = .error e ↔ StopsAt position cs e := by
  induction cs using source_induction generalizing position with
  | nil =>
    refine iff_of_false (by simp [scan]) ?_
    rintro ⟨front, ⟨⟨back, stray⟩, _⟩, _⟩
    have nonempty := congrArg List.length stray.split
    simp at nonempty
  | operator l rest formed operator free ih =>
    rw [scan_operator formed operator free, map_eq_error_iff, ih]
    exact (stopsAt_append (written_operator formed operator).2 position rest e).symm
  | chunk chunk rest piece bare ih =>
    rw [scan_chunk piece bare, map_eq_error_iff, ih]
    exact (piece.stopsAt_iff position rest e).symm
  | stray back behind =>
    have stray : Stray ('\\' :: back) [] back := ⟨rfl, rfl, behind⟩
    rw [scan_stray back behind, stopsAt_here stray]
    simp [eq_comm]

/-- A run of backslashes between `front` and `back`, as long as it can be, that leaves its last one
with nothing to escape: the others pair off, and a line break or nothing at all follows. -/
structure DanglingRun (cs front : List Char) (length : Nat) (back : List Char) : Prop where
  split : cs = front ++ List.replicate length '\\' ++ back
  starts : front.getLast? ≠ some '\\'
  ends : back.head? ≠ some '\\'
  odd : length % 2 = 1
  behind : back = [] ∨ back.head? = some '\n'

section Runs

variable {cs front other back behind : List Char} {length more : Nat}

theorem exists_run (front : List Char) : ∃ start length,
    front = start ++ List.replicate length '\\' ∧ start.getLast? ≠ some '\\' := by
  induction front using List.reverseRecOn with
  | nil => exact ⟨[], 0, rfl, nofun⟩
  | append_singleton front c ih =>
    by_cases slash : c = '\\'
    · obtain ⟨start, length, rfl, starts⟩ := ih
      refine ⟨start, length + 1, ?_, starts⟩
      rw [slash, List.replicate_succ', List.append_assoc]
    · refine ⟨front ++ [c], 0, (List.append_nil _).symm, ?_⟩
      simpa using slash

theorem DanglingRun.stray (h : DanglingRun cs front (length + 1) back) :
    Stray cs (front ++ List.replicate length '\\') back := by
  refine ⟨?_, ?_, ?_⟩
  · rw [h.split, List.replicate_succ', List.append_assoc, List.append_assoc, List.append_assoc]
    rfl
  · have even : length % 2 ≠ 1 := by
      have odd := h.odd
      omega
    rw [waits_run h.starts, decide_eq_false even]
  · intro c hc
    rcases h.behind with rfl | line
    · cases hc
    · rw [line] at hc
      exact (Option.some.inj hc).symm

theorem Stray.run (h : Stray cs front back) : ∃ start length,
    front = start ++ List.replicate length '\\' ∧ DanglingRun cs start (length + 1) back := by
  obtain ⟨start, length, rfl, starts⟩ := exists_run front
  have even : length % 2 ≠ 1 := by
    have free := h.free
    rw [waits_run starts] at free
    exact of_decide_eq_false free
  refine ⟨start, length, rfl, ?_, starts, ?_, by omega, ?_⟩
  · rw [h.split, List.replicate_succ', List.append_assoc, List.append_assoc, List.append_assoc]
    rfl
  · intro slash
    have line := h.behind _ slash
    cases line
  · cases back with
    | nil => exact .inl rfl
    | cons c back => exact .inr (congrArg some (h.behind c rfl))

/-- No run starts inside another one. -/
theorem DanglingRun.start_le (h : DanglingRun cs front length back)
    (h' : DanglingRun cs other more behind) (le : front.length ≤ other.length + more) :
    front.length ≤ other.length := by
  by_contra! lt
  rcases List.eq_nil_or_concat front with rfl | ⟨start, c, rfl⟩
  · exact absurd lt (Nat.not_lt_zero _)
  · rw [List.concat_eq_append, List.length_append, List.length_singleton] at le lt
    have last : cs[start.length]? = some c := by
      rw [h.split]
      simp
    have inside : cs[start.length]? = some '\\' := by
      have below : start.length - other.length < more := by omega
      rw [h'.split, List.append_assoc, List.getElem?_append_right (by omega),
        List.getElem?_append_left (by simpa using below), List.getElem?_replicate, if_pos below]
    rw [last] at inside
    apply h.starts
    simpa using inside

/-- Where a run starts tells how long it is. -/
theorem DanglingRun.length_eq (h : DanglingRun cs front length back)
    (h' : DanglingRun cs other more behind) (same : front.length = other.length) :
    length = more := by
  have taken {front back : List Char} {length : Nat} (h : DanglingRun cs front length back) :
      (cs.drop front.length).takeWhile (· = '\\') = List.replicate length '\\' := by
    have all : ∀ c ∈ List.replicate length '\\', decide (c = '\\') = true := by simp
    have none : back.takeWhile (· = '\\') = [] := by
      cases back with
      | nil => rfl
      | cons c back => exact List.takeWhile_cons_of_neg (by simpa using h.ends)
    rw [h.split, List.append_assoc, List.drop_left, List.takeWhile_append_of_pos all, none,
      List.append_nil]
  have first := taken h
  rw [same, taken h'] at first
  simpa using (congrArg List.length first).symm

theorem DanglingRun.exists_succ (h : DanglingRun cs front length back) :
    ∃ n, length = n + 1 := by
  have odd := h.odd
  exact ⟨length - 1, by omega⟩

theorem exists_firstStray (h : Stray cs front back) : ∃ first, FirstStray cs first := by
  induction hn : front.length using Nat.strongRecOn generalizing front back with
  | ind n ih =>
    by_cases least : ∀ other back, Stray cs other back → front.length ≤ other.length
    · exact ⟨front, ⟨back, h⟩, least⟩
    · push Not at least
      obtain ⟨other, back', h', shorter⟩ := least
      exact ih other.length (by omega) h' rfl

/-- The first backslash with nothing to escape is the last one of the first run that leaves one. -/
theorem firstStray_iff : FirstStray cs front ↔ ∃ start length back,
    front = start ++ List.replicate length '\\' ∧ DanglingRun cs start (length + 1) back ∧
      ∀ other more behind, DanglingRun cs other more behind → start.length ≤ other.length := by
  have size (start : List Char) (length : Nat) :
      (start ++ List.replicate length '\\').length = start.length + length := by simp
  constructor
  · rintro ⟨⟨back, stray⟩, least⟩
    obtain ⟨start, length, rfl, run⟩ := stray.run
    refine ⟨start, length, back, rfl, run, ?_⟩
    intro other more behind run'
    obtain ⟨more, rfl⟩ := run'.exists_succ
    have le := least _ _ run'.stray
    rw [size, size] at le
    exact run.start_le run' (by omega)
  · rintro ⟨start, length, back, rfl, run, least⟩
    obtain ⟨_, ⟨back', stray⟩, below⟩ := exists_firstStray run.stray
    obtain ⟨start', length', rfl, run'⟩ := stray.run
    have le := below _ _ run.stray
    rw [size, size] at le
    have before := least _ _ _ run'
    have behind := run'.start_le run (by omega)
    have same := run.length_eq run' (by omega)
    refine ⟨⟨back, run.stray⟩, ?_⟩
    intro other back'' stray''
    have bound := below other back'' stray''
    rw [size] at bound ⊢
    omega

theorem utf8Len_run (front : List Char) (length : Nat) :
    String.utf8Len (front ++ List.replicate length '\\') =
      (String.ofList front).utf8ByteSize + length := by
  have slashes : String.utf8Len (List.replicate length '\\') = length := by
    induction length with
    | zero => rfl
    | succ length ih =>
      rw [List.replicate_succ, String.utf8Len_cons, ih]
      rfl
  rw [String.utf8Len_append, slashes, String.utf8ByteSize_ofList]

end Runs

/-- Reading a pattern fails just where a run of backslashes leaves its last one with nothing to
escape. The offset that is told is that of the last backslash of the first such run. -/
theorem tokenize_error_iff (source : String) :
    ((∃ e, tokenize source = .error e) ↔
      ∃ front length back, DanglingRun source.toList front length back) ∧
    ∀ e, tokenize source = .error e ↔
      ∃ front length back, DanglingRun source.toList front length back ∧
        (∀ other more behind, DanglingRun source.toList other more behind →
          front.length ≤ other.length) ∧
        e = .leftover ((String.ofList front).utf8ByteSize + (length - 1)) := by
  constructor
  · constructor
    · rintro ⟨e, h⟩
      obtain ⟨front, ⟨⟨back, stray⟩, _⟩, _⟩ := (scan_eq_error_iff 0 _ e).mp h
      obtain ⟨start, length, _, run⟩ := stray.run
      exact ⟨start, _, back, run⟩
    · rintro ⟨front, length, back, run⟩
      obtain ⟨length, rfl⟩ := run.exists_succ
      obtain ⟨first, least⟩ := exists_firstStray run.stray
      exact ⟨_, (scan_eq_error_iff 0 _ _).mpr ⟨first, least, rfl⟩⟩
  · intro e
    rw [tokenize, scan_eq_error_iff]
    constructor
    · rintro ⟨_, first, rfl⟩
      obtain ⟨start, length, back, rfl, run, least⟩ := firstStray_iff.mp first
      refine ⟨start, length + 1, back, run, least, ?_⟩
      rw [utf8Len_run, Nat.zero_add, Nat.add_sub_cancel]
    · rintro ⟨start, length, back, run, least, rfl⟩
      obtain ⟨length, rfl⟩ := run.exists_succ
      refine ⟨_, firstStray_iff.mpr ⟨start, length, back, rfl, run, least⟩, ?_⟩
      rw [utf8Len_run, Nat.zero_add, Nat.add_sub_cancel]

/-- Three backslashes and a line break behind two bytes: the third one is left over. -/
example : tokenize "é\\\\\\\n\\" = .error (.leftover 4) := by decide +kernel

end SongPattern.Pattern
