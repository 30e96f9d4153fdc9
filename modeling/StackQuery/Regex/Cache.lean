import StackQuery.Counts.OrderedMap
import StackQuery.Regex.Basic

/-!
# A cache of compiled regexes

Each text is compiled at most once until the cache is cleared. A text that does not compile leaves the
cache as it was, and clearing keeps the numbers of hits and misses.
-/
namespace StackQuery

variable [Text.CharNames]

/-- The regexes that are known by their texts, and how often a compilation found one. -/
structure RegexCache where
  compiled : OrderedMap String Regex
  hits : Nat
  misses : Nat

namespace RegexCache

def empty : RegexCache := ⟨.empty, 0, 0⟩

def compile (text : String) (cache : RegexCache) : Except Regex.CompileError Regex × RegexCache :=
  match cache.compiled.get? text with
  | some regex => (.ok regex, { cache with hits := cache.hits + 1 })
  | none =>
    match Regex.compile text with
    | .ok regex =>
      (.ok regex, { cache with compiled := cache.compiled.insert text regex, misses := cache.misses + 1 })
    | .error e => (.error e, cache)

/-- Compiles a text to the test of being found in a frame name. -/
def accepts (text : String) (cache : RegexCache) :
    Except Regex.CompileError (String → Bool) × RegexCache :=
  let (result, cache) := cache.compile text
  (result.map Regex.found, cache)

def clear (cache : RegexCache) : RegexCache := { cache with compiled := .empty }

def contains (text : String) (cache : RegexCache) : Bool := cache.compiled.contains text

def size (cache : RegexCache) : Nat := cache.compiled.size

/-- The texts that a later state of a cache knows beyond an earlier one. -/
def added (earlier later : RegexCache) : List String := later.compiled.keys.drop earlier.size

theorem compile_error_unchanged {text : String} {cache : RegexCache} {e : Regex.CompileError}
    (h : (cache.compile text).1 = .error e) : (cache.compile text).2 = cache := by
  unfold compile at h ⊢
  split
  · rename_i heq
    simp [heq] at h
  · rename_i heq
    simp only [heq] at h
    split
    · rename_i hc
      simp [hc] at h
    · rfl

end RegexCache

end StackQuery
