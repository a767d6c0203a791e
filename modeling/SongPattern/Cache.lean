import SongPattern.Formatter
import SongPattern.Settings

namespace SongPattern

structure CacheKey where
  kind : PolicyKind
  pattern : String
  deriving DecidableEq

namespace CacheKey

def build (key : CacheKey) (settings : Settings) (platform : Platform) (parser : QueryParser) :
    Except PatternError Formatter :=
  Formatter.build key.pattern (key.kind.build settings platform) parser

end CacheKey

/-- A cached formatter. The serial number tells it from one built again later. -/
structure CacheEntry where
  serial : Nat
  formatter : Formatter

/-- The formatters used last, each key once. `order` has the least recently used key first. -/
structure Cache where
  settings : Settings
  platform : Platform
  parser : QueryParser
  entries : List (CacheKey × CacheEntry)
  order : List CacheKey
  built : Nat

namespace Cache

def empty (settings : Settings) (platform : Platform) (parser : QueryParser) : Cache :=
  ⟨settings, platform, parser, [], [], 0⟩

/-- At least one formatter is kept. -/
def capacity (c : Cache) : Nat := max 1 c.settings.capacity

def size (c : Cache) : Nat := c.entries.length

def find? (c : Cache) (key : CacheKey) : Option CacheEntry := c.entries.lookup key

def contains (c : Cache) (kind : PolicyKind) (pattern : String) : Bool :=
  (c.find? ⟨kind, pattern⟩).isSome

def clear (c : Cache) : Cache := { c with entries := [], order := [] }

/-- What is cached was built with the parser of its time, so it goes with it. -/
def withParser (c : Cache) (parser : QueryParser) : Cache := { c.clear with parser := parser }

/-- Makes a key the most recently used one. -/
def touch (key : CacheKey) (order : List CacheKey) : List CacheKey :=
  if key ∈ order then order.erase key ++ [key] else order

def remove (key : CacheKey) (entries : List (CacheKey × CacheEntry)) :
    List (CacheKey × CacheEntry) :=
  entries.filter (·.1 ≠ key)

def insert (key : CacheKey) (e : CacheEntry) (entries : List (CacheKey × CacheEntry)) :
    List (CacheKey × CacheEntry) :=
  (key, e) :: remove key entries

/-- Drops what was used longest ago, until there is room for one more or no key is left to drop. -/
def makeRoom (capacity : Nat) (entries : List (CacheKey × CacheEntry)) :
    (order : List CacheKey) → List (CacheKey × CacheEntry) × List CacheKey
  | [] => (entries, [])
  | oldest :: order =>
    if entries.length < capacity then (entries, oldest :: order)
    else makeRoom capacity (remove oldest entries) order

/-- Puts a formatter that was just built into the cache. -/
def store (c : Cache) (key : CacheKey) (formatter : Formatter) : CacheEntry × Cache :=
  let e : CacheEntry := ⟨c.built, formatter⟩
  let (entries, order) := makeRoom c.capacity c.entries c.order
  (e, { c with entries := insert key e entries, order := order ++ [key], built := c.built + 1 })

/-- A pattern that cannot be built is not cached, and pushes nothing out. -/
def get (c : Cache) (kind : PolicyKind) (pattern : String) :
    Except PatternError CacheEntry × Cache :=
  let key : CacheKey := ⟨kind, pattern⟩
  match c.find? key with
  | some e => (.ok e, { c with order := touch key c.order })
  | none =>
    match key.build c.settings c.platform c.parser with
    | .error e => (.error e, c)
    | .ok formatter =>
      let (e, c) := c.store key formatter
      (.ok e, c)

end Cache

end SongPattern
