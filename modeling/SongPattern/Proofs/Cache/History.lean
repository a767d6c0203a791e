import SongPattern.Proofs.Cache.Step

namespace SongPattern.Cache

open Recency (lastDistinct)

inductive Call where
  | get (key : CacheKey)
  | contains (key : CacheKey)
  | clear
  | withParser (parser : QueryParser)

def step (c : Cache) : Call → Cache
  | .get key => (c.get key.kind key.pattern).2
  | .contains _ => c
  | .clear => c.clear
  | .withParser parser => c.withParser parser

def run (c : Cache) (calls : List Call) : Cache := calls.foldl step c

theorem run_cons (c : Cache) (call : Call) (calls : List Call) :
    c.run (call :: calls) = (c.step call).run calls := rfl

theorem run_append (c : Cache) (calls more : List Call) :
    c.run (calls ++ more) = (c.run calls).run more := List.foldl_append

section Stay

variable {c c' : Cache} {key : CacheKey} {e : CacheEntry}

theorem Sound.step (h : c.Sound) (call : Call) : (c.step call).Sound := by
  cases call with
  | get key =>
    rcases h.get_cases key with ⟨e, c', got, renewed⟩ | ⟨cause, got, _⟩
    · rw [Cache.step, got]
      exact h.of_renewed renewed
    · rw [Cache.step, got]
      exact h
  | contains key => exact h
  | clear => exact ⟨.nil, .nil, Nat.zero_le _, nofun, nofun⟩
  | withParser parser => exact ⟨.nil, .nil, Nat.zero_le _, nofun, nofun⟩

theorem Sound.run (h : c.Sound) (calls : List Call) : (c.run calls).Sound := by
  induction calls generalizing c with
  | nil => exact h
  | cons call calls ih => exact ih (h.step call)

/-- A key that is there before and after a call keeps its entry. -/
theorem Sound.find?_step (h : c.Sound) (call : Call) (before : key ∈ c.order)
    (after : key ∈ (c.step call).order) : (c.step call).find? key = c.find? key := by
  cases call with
  | get used =>
    rcases h.get_cases used with ⟨e, c', got, renewed⟩ | ⟨cause, got, _⟩
    · rw [Cache.step, got] at after ⊢
      by_cases differ : key = used
      · subst differ
        obtain ⟨e', he'⟩ := Option.isSome_iff_exists.mp (h.isSome_find?_iff.mpr before)
        rw [renewed.found, he', renewed.old he']
      · exact renewed.kept differ after
    · rw [Cache.step, got]
  | contains used => rfl
  | clear => cases after
  | withParser parser => cases after

theorem Sound.find?_run (h : c.Sound) {calls : List Call}
    (stays : ∀ done, done <+: calls → key ∈ (c.run done).order) :
    (c.run calls).find? key = c.find? key := by
  induction calls generalizing c with
  | nil => rfl
  | cons call calls ih =>
    have before := stays [] List.nil_prefix
    have after := stays [call] ⟨calls, rfl⟩
    have rest := ih (h.step call) fun done hd =>
      stays (call :: done) (List.cons_prefix_cons.mpr ⟨rfl, hd⟩)
    exact rest.trans (h.find?_step call before after)

theorem Sound.built_le_step (h : c.Sound) (call : Call) : c.built ≤ (c.step call).built := by
  cases call with
  | get key =>
    rcases h.get_cases key with ⟨e, c', got, renewed⟩ | ⟨cause, got, _⟩
    · rw [Cache.step, got]
      exact renewed.built
    · rw [Cache.step, got]
  | contains key => exact Nat.le_refl _
  | clear => exact Nat.le_refl _
  | withParser parser => exact Nat.le_refl _

theorem Sound.built_le_run (h : c.Sound) (calls : List Call) : c.built ≤ (c.run calls).built := by
  induction calls generalizing c with
  | nil => exact Nat.le_refl _
  | cons call calls ih => exact (h.built_le_step call).trans (ih (h.step call))

/-- All that the cache has under a key was built after the first `n` ones. -/
def Newer (n : Nat) (key : CacheKey) (c : Cache) : Prop :=
  n ≤ c.built ∧ ∀ e, c.find? key = some e → n ≤ e.serial

theorem Newer.get {n : Nat} (newer : c.Newer n key) (h : c.Sound)
    (got : c.get key.kind key.pattern = (.ok e, c')) : n ≤ e.serial := by
  have renewed := h.renewed_of_get got
  cases he : c.find? key with
  | none => exact newer.1.trans_eq (renewed.fresh he).symm
  | some old =>
    rw [renewed.old he]
    exact newer.2 old he

theorem Newer.step {n : Nat} (newer : c.Newer n key) (h : c.Sound) (call : Call) :
    (c.step call).Newer n key := by
  cases call with
  | get used =>
    rcases h.get_cases used with ⟨e, c', got, renewed⟩ | ⟨cause, got, _⟩
    · rw [Cache.step, got]
      refine ⟨newer.1.trans renewed.built, fun e' he' => ?_⟩
      by_cases differ : key = used
      · subst differ
        rw [← Option.some.inj (renewed.found.symm.trans he')]
        exact newer.get h got
      · have there : key ∈ c'.order :=
          renewed.perm.subset (isSome_lookup_iff.mp (Option.isSome_of_eq_some he'))
        exact newer.2 e' ((renewed.kept differ there).symm.trans he')
    · rw [Cache.step, got]
      exact newer
  | contains used => exact newer
  | clear => exact ⟨newer.1, nofun⟩
  | withParser parser => exact ⟨newer.1, nofun⟩

theorem Newer.run {n : Nat} (newer : c.Newer n key) (h : c.Sound) (calls : List Call) :
    (c.run calls).Newer n key := by
  induction calls generalizing c with
  | nil => exact newer
  | cons call calls ih => exact ih (newer.step h call) (h.step call)

/-- A key that was gone at some time is built again. -/
theorem Sound.serial_lt_of_gone (h : c.Sound) {done rest : List Call}
    (gone : key ∉ (c.run done).order) (found : c.find? key = some e) {e' : CacheEntry}
    (got : (c.run (done ++ rest)).get key.kind key.pattern = (.ok e', c')) :
    e.serial < e'.serial := by
  have sound := h.run done
  have newer : (c.run done).Newer (c.run done).built key :=
    ⟨Nat.le_refl _, fun _ he => absurd (sound.find?_eq_none_iff.mpr gone ▸ he) nofun⟩
  rw [run_append] at got
  calc
    e.serial < c.built := h.serial_lt found
    _ ≤ (c.run done).built := h.built_le_run done
    _ ≤ e'.serial := (newer.run sound rest).get (sound.run rest) got

/-- Two gets of a key give the same instance just where the key was there all the time between. -/
theorem Sound.serial_eq_iff (h : c.Sound) {e₁ e₂ : CacheEntry} {c₁ c₂ : Cache} {calls : List Call}
    (first : c.get key.kind key.pattern = (.ok e₁, c₁))
    (second : (c₁.run calls).get key.kind key.pattern = (.ok e₂, c₂)) :
    (e₁.serial = e₂.serial ↔ ∀ done, done <+: calls → key ∈ (c₁.run done).order) ∧
      (e₁.serial = e₂.serial → e₁ = e₂) := by
  have renewed := h.renewed_of_get first
  have h₁ : c₁.Sound := h.of_renewed renewed
  have stays (same : e₁.serial = e₂.serial) (done : List Call) (hd : done <+: calls) :
      key ∈ (c₁.run done).order := by
    obtain ⟨rest, rfl⟩ := hd
    by_contra gone
    exact (h₁.serial_lt_of_gone gone renewed.found second).ne same
  have instance_of (there : ∀ done, done <+: calls → key ∈ (c₁.run done).order) : e₁ = e₂ := by
    have kept := (h₁.find?_run there).trans renewed.found
    exact (((h₁.run calls).renewed_of_get second).old kept).symm
  exact ⟨⟨stays, fun there => congrArg CacheEntry.serial (instance_of there)⟩,
    fun same => instance_of (stays same)⟩

end Stay

section Live

variable (settings : Settings) (platform : Platform) (parser : QueryParser)

/-- What a cache would keep that had room for all: the parser in use, and the keys of the gets that
succeeded since the cache was emptied last. -/
structure Uses where
  parser : QueryParser
  keys : List CacheKey

def Uses.step (uses : Uses) : Call → Uses
  | .get key =>
    match key.build settings platform uses.parser with
    | .ok _ => { uses with keys := uses.keys ++ [key] }
    | .error _ => uses
  | .contains _ => uses
  | .clear => { uses with keys := [] }
  | .withParser parser => ⟨parser, []⟩

def usesOf (calls : List Call) : Uses := calls.foldl (Uses.step settings platform) ⟨parser, []⟩

/-- The last distinct keys among the uses, as many as there is room for. -/
def live (calls : List Call) : List CacheKey :=
  lastDistinct (max 1 settings.capacity) (usesOf settings platform parser calls).keys

/-- A cache that has room for some of the uses. -/
structure Tracks (uses : Uses) (c : Cache) : Prop where
  sound : c.Sound
  settings_eq : c.settings = settings
  platform_eq : c.platform = platform
  parser_eq : c.parser = uses.parser
  order_eq : c.order = lastDistinct (max 1 settings.capacity) uses.keys

variable {settings platform parser} {uses : Uses} {c : Cache}

theorem Tracks.get_cases (h : Tracks settings platform uses c) (key : CacheKey) :
    (∃ e c' f, c.get key.kind key.pattern = (.ok e, c') ∧ c.Renewed key e c' ∧
      key.build settings platform uses.parser = .ok f) ∨
      ∃ cause, c.get key.kind key.pattern = (.error cause, c) ∧
        key.build settings platform uses.parser = .error cause := by
  rcases h.sound.get_cases key with ⟨e, c', got, renewed⟩ | ⟨cause, got, failed⟩
  · have built := renewed.build_eq
    rw [h.settings_eq, h.platform_eq, h.parser_eq] at built
    exact .inl ⟨e, c', _, got, renewed, built⟩
  · rw [h.settings_eq, h.platform_eq, h.parser_eq] at failed
    exact .inr ⟨cause, got, failed⟩

/-- It depends on the key alone whether a get succeeds. -/
theorem Tracks.get_ok_iff (h : Tracks settings platform uses c) (key : CacheKey) :
    (∃ e c', c.get key.kind key.pattern = (.ok e, c')) ↔
      ∃ f, key.build settings platform uses.parser = .ok f := by
  rcases h.get_cases key with ⟨e, c', f, got, _, built⟩ | ⟨cause, got, failed⟩
  · exact iff_of_true ⟨e, c', got⟩ ⟨f, built⟩
  · rw [got, failed]
    refine iff_of_false ?_ ?_
    · rintro ⟨e, c', h⟩
      cases h
    · rintro ⟨f, h⟩
      cases h

theorem Tracks.size_le (h : Tracks settings platform uses c) :
    c.size ≤ max 1 settings.capacity := by
  have length := h.sound.perm.length_eq
  have bounded := h.sound.bounded
  rw [List.length_map] at length
  rw [Cache.capacity, h.settings_eq] at bounded
  exact length.trans_le bounded

theorem Tracks.step (h : Tracks settings platform uses c) (call : Call) :
    Tracks settings platform (uses.step settings platform call) (c.step call) := by
  cases call with
  | get key =>
    rcases h.get_cases key with ⟨e, c', f, got, renewed, built⟩ | ⟨cause, got, failed⟩
    · rw [Cache.step, got, Uses.step, built]
      exact {
        sound := h.sound.of_renewed renewed
        settings_eq := renewed.settings.trans h.settings_eq
        platform_eq := renewed.platform.trans h.platform_eq
        parser_eq := renewed.parser.trans h.parser_eq
        order_eq := by
          have capacity := c.capacity_pos
          rw [Cache.capacity, h.settings_eq] at capacity
          rw [renewed.order, Cache.capacity, h.settings_eq, h.order_eq,
            Recency.lastDistinct_concat capacity] }
    · rw [Cache.step, got, Uses.step, failed]
      exact h
  | contains key => exact h
  | clear =>
    exact ⟨h.sound.step .clear, h.settings_eq, h.platform_eq, h.parser_eq,
      (Recency.lastDistinct_nil _).symm⟩
  | withParser parser =>
    exact ⟨h.sound.step (.withParser parser), h.settings_eq, h.platform_eq, rfl,
      (Recency.lastDistinct_nil _).symm⟩

theorem tracks_run (calls : List Call) :
    Tracks settings platform (usesOf settings platform parser calls)
      ((empty settings platform parser).run calls) := by
  induction calls using List.reverseRecOn with
  | nil =>
    exact ⟨empty_sound settings platform parser, rfl, rfl, rfl, (Recency.lastDistinct_nil _).symm⟩
  | append_singleton calls call ih =>
    rw [usesOf, run, List.foldl_concat, List.foldl_concat]
    exact ih.step call

theorem order_run (calls : List Call) :
    ((empty settings platform parser).run calls).order = live settings platform parser calls :=
  (tracks_run calls).order_eq

/-- The calls behind a get go on from the cache that it left. -/
theorem order_run_get {key : CacheKey} {e : CacheEntry} {c' : Cache} {calls : List Call}
    (got : ((empty settings platform parser).run calls).get key.kind key.pattern = (.ok e, c'))
    (more : List Call) :
    (c'.run more).order = live settings platform parser (calls ++ .get key :: more) := by
  rw [← order_run, run_append, run_cons, step, got]

variable (settings platform parser)

/-- What a cache has to do after some calls that evicts what was used longest ago. The keys that it
has are said by `live`, which knows of no eviction. -/
structure LeastRecentlyUsed (calls : List Call) (c : Cache) : Prop where
  order_eq : c.order = live settings platform parser calls
  order_nodup : c.order.Nodup
  entries_perm : (c.entries.map (·.1)).Perm c.order
  size_le : c.size ≤ max 1 settings.capacity
  contains_iff : ∀ key : CacheKey,
    c.contains key.kind key.pattern = true ↔ key ∈ live settings platform parser calls
  get_ok_iff : ∀ key : CacheKey, (∃ e c', c.get key.kind key.pattern = (.ok e, c')) ↔
    ∃ f, key.build settings platform (usesOf settings platform parser calls).parser = .ok f
  get_error : ∀ (key : CacheKey) cause c', c.get key.kind key.pattern = (.error cause, c') → c' = c
  /-- The serial number stands for the instance. -/
  same_instance : ∀ (key : CacheKey) more e₁ e₂ c₁ c₂,
    c.get key.kind key.pattern = (.ok e₁, c₁) →
    (c₁.run more).get key.kind key.pattern = (.ok e₂, c₂) →
    (e₁.serial = e₂.serial ↔ ∀ done, done <+: more →
      key ∈ live settings platform parser (calls ++ .get key :: done)) ∧
    (e₁.serial = e₂.serial → e₁ = e₂)

/-- Whatever the calls, a cache is one that evicts what was used longest ago. -/
theorem run_leastRecentlyUsed (calls : List Call) :
    LeastRecentlyUsed settings platform parser calls
      ((empty settings platform parser).run calls) := by
  have tracks : Tracks settings platform (usesOf settings platform parser calls)
      ((empty settings platform parser).run calls) := tracks_run calls
  exact {
    order_eq := tracks.order_eq
    order_nodup := tracks.sound.nodup
    entries_perm := tracks.sound.perm
    size_le := tracks.size_le
    contains_iff := fun key => tracks.sound.isSome_find?_iff.trans (by rw [order_run])
    get_ok_iff := tracks.get_ok_iff
    get_error := fun _ _ _ => tracks.sound.eq_of_get_error
    same_instance := fun key more e₁ e₂ c₁ c₂ first second => by
      obtain ⟨same, equal⟩ := tracks.sound.serial_eq_iff first second
      refine ⟨same.trans ?_, equal⟩
      exact forall_congr' fun done => imp_congr_right fun _ => by rw [order_run_get first] }

end Live

end SongPattern.Cache
