import StackQuery.Proofs.Counts.Each
import StackQuery.Proofs.Counts.Tally
import StackQuery.Regex.Cache

/-!
# The books of a cache

The history of a cache is a list of events: a text is compiled with success, or everything is forgotten. The
books balance when the cache holds the texts compiled since it was last cleared, and its hits and misses are the
compilations that found their text and those that did not. A record of the same compilations, each carried out anew,
is such a history.
-/
namespace StackQuery.RegexCache

inductive Event where
  | compiled (text : String)
  | cleared
  deriving DecidableEq, Repr

namespace Event

def text? : Event → Option String
  | compiled text => some text
  | cleared => none

/-- What an event leaves of the texts that are known. -/
def after : List String → Event → List String
  | known, compiled text => known ++ [text]
  | _, cleared => []

/-- The texts compiled since everything was last forgotten, in order. -/
def known (events : List Event) : List String := events.foldl after []

/-- A compilation that finds its text among those that are known. -/
def isHit (past : List Event) : Event → Bool
  | compiled text => decide (text ∈ known past)
  | cleared => false

def isMiss (past : List Event) : Event → Bool
  | compiled text => decide (text ∉ known past)
  | cleared => false

/-- How many events pass a test that also sees the events before them. -/
def countAlong (test : List Event → Event → Bool) : (past : List Event) → List Event → Nat
  | _, [] => 0
  | past, e :: rest => (if test past e then 1 else 0) + countAlong test (past ++ [e]) rest

theorem known_append (events more : List Event) : known (events ++ more) = more.foldl after (known events) :=
  List.foldl_append

theorem countAlong_append_singleton (test : List Event → Event → Bool) (past events : List Event) (e : Event) :
    countAlong test past (events ++ [e]) =
      countAlong test past events + if test (past ++ events) e then 1 else 0 := by
  induction events generalizing past with
  | nil => simp [countAlong]
  | cons first rest ih =>
    rw [List.cons_append, countAlong, ih, countAlong, List.append_assoc, List.singleton_append, Nat.add_assoc]

theorem countAlong_isHit_add_isMiss (past events : List Event) :
    countAlong isHit past events + countAlong isMiss past events = (events.filterMap text?).length := by
  induction events generalizing past with
  | nil => rfl
  | cons e rest ih =>
    have hrest := ih (past ++ [e])
    cases e with
    | cleared =>
      simp only [countAlong, isHit, isMiss, text?, List.filterMap_cons, Bool.false_eq_true, if_false]
      omega
    | compiled text =>
      by_cases h : text ∈ known past
      · simp only [countAlong, isHit, isMiss, h, text?, List.filterMap_cons, List.length_cons, not_true,
          decide_true, decide_false, if_true, Bool.false_eq_true, if_false]
        omega
      · simp only [countAlong, isHit, isMiss, h, text?, List.filterMap_cons, List.length_cons, not_false_eq_true,
          decide_true, decide_false, if_true, Bool.false_eq_true, if_false]
        omega

end Event

open Event (known isHit isMiss countAlong)

variable [Text.CharNames]

def compiles (text : String) : Bool :=
  match Regex.compile text with
  | .ok _ => true
  | .error _ => false

/-- The cache after texts are compiled, one after the other. -/
def compileEach (texts : List String) (cache : RegexCache) : RegexCache :=
  texts.foldl (fun cache text => (cache.compile text).2) cache

/-- Every regex that is known is that of its text. -/
def Sound (cache : RegexCache) : Prop :=
  ∀ text regex, cache.compiled.get? text = some regex → Regex.compile text = .ok regex

/-- The books of a cache balance with its history. -/
structure Books (events : List Event) (cache : RegexCache) : Prop where
  sound : cache.Sound
  keys : cache.compiled.keys = (known events).eraseDups
  hits : cache.hits = countAlong isHit [] events
  misses : cache.misses = countAlong isMiss [] events

variable {events : List Event} {cache : RegexCache} {text : String}

theorem sound_empty : Sound empty := by
  intro text regex h
  cases h

theorem books_empty : Books [] empty := ⟨sound_empty, rfl, rfl, rfl⟩

theorem Sound.compile_fst (h : cache.Sound) (text : String) : (cache.compile text).1 = Regex.compile text := by
  rw [compile]
  cases hknown : cache.compiled.get? text with
  | some regex => exact (h text regex hknown).symm
  | none => cases Regex.compile text <;> rfl

theorem Sound.compile (h : cache.Sound) (text : String) : (cache.compile text).2.Sound := by
  rw [RegexCache.compile]
  cases hknown : cache.compiled.get? text with
  | some regex => exact h
  | none =>
    cases hcompile : Regex.compile text with
    | error e => exact h
    | ok regex =>
      intro other found hfound
      rw [OrderedMap.get?_insert] at hfound
      split at hfound
      · next heq =>
        cases hfound
        rw [← heq, hcompile]
      · exact h other found hfound

theorem sound_clear (cache : RegexCache) : cache.clear.Sound := by
  intro text regex h
  cases h

theorem Sound.compile_of_not_compiles (h : cache.Sound) (hc : compiles text = false) :
    (cache.compile text).2 = cache := by
  cases hcompile : Regex.compile text with
  | ok regex => simp [compiles, hcompile] at hc
  | error e => exact compile_error_unchanged ((h.compile_fst text).trans hcompile)

theorem Books.contains_iff (h : Books events cache) : cache.contains text = true ↔ text ∈ known events := by
  have hnone : cache.compiled.get? text = none ↔ text ∉ known events := by
    rw [OrderedMap.get?_eq_none_iff, h.keys, List.mem_eraseDups]
  rw [contains, OrderedMap.contains]
  by_cases hknown : text ∈ known events
  · cases hget : cache.compiled.get? text with
    | none => exact absurd hknown (hnone.mp hget)
    | some regex => exact iff_of_true rfl hknown
  · rw [hnone.mpr hknown]
    exact iff_of_false Bool.false_ne_true hknown

theorem Books.size_eq (h : Books events cache) : cache.size = (known events).eraseDups.length := by
  rw [← h.keys, OrderedMap.keys, List.length_map]
  rfl

theorem compile_of_contains (h : cache.contains text = true) :
    (cache.compile text).2 = { cache with hits := cache.hits + 1 } := by
  rw [RegexCache.compile]
  cases hget : cache.compiled.get? text with
  | some regex => rfl
  | none => simp [contains, OrderedMap.contains, hget] at h

theorem compile_of_not_contains (h : ¬ cache.contains text = true) (hc : compiles text = true) :
    ∃ regex, (cache.compile text).2 =
      { cache with compiled := cache.compiled.insert text regex, misses := cache.misses + 1 } := by
  rw [RegexCache.compile]
  cases hget : cache.compiled.get? text with
  | some regex => simp [contains, OrderedMap.contains, hget] at h
  | none =>
    cases hcompile : Regex.compile text with
    | ok regex => exact ⟨regex, rfl⟩
    | error e => simp [compiles, hcompile] at hc

theorem Books.compile (h : Books events cache) (hc : compiles text = true) :
    Books (events ++ [.compiled text]) (cache.compile text).2 := by
  have hknown : known (events ++ [.compiled text]) = known events ++ [text] := Event.known_append _ _
  have hhits := Event.countAlong_append_singleton isHit [] events (.compiled text)
  have hmisses := Event.countAlong_append_singleton isMiss [] events (.compiled text)
  rw [List.nil_append, ← h.hits] at hhits
  rw [List.nil_append, ← h.misses] at hmisses
  by_cases hmem : text ∈ known events
  · have hcompile := compile_of_contains (h.contains_iff.mpr hmem)
    refine ⟨h.sound.compile text, ?_, ?_, ?_⟩
    · rw [hcompile, hknown, eraseDups_append_singleton, if_pos hmem, ← h.keys]
    · rw [hcompile, hhits]
      simp [isHit, hmem]
    · rw [hcompile, hmisses]
      simp [isMiss, hmem]
  · obtain ⟨regex, hcompile⟩ := compile_of_not_contains (fun hget => hmem (h.contains_iff.mp hget)) hc
    refine ⟨h.sound.compile text, ?_, ?_, ?_⟩
    · rw [hcompile, hknown]
      exact OrderedMap.keys_insert_eraseDups h.keys text regex
    · rw [hcompile, hhits]
      simp [isHit, hmem]
    · rw [hcompile, hmisses]
      simp [isMiss, hmem]

theorem Books.clear (h : Books events cache) : Books (events ++ [.cleared]) cache.clear := by
  have hforgotten : known (events ++ [.cleared]) = [] := Event.known_append _ _
  refine ⟨sound_clear cache, ?_, ?_, ?_⟩
  · rw [hforgotten]
    rfl
  · rw [Event.countAlong_append_singleton]
    exact h.hits
  · rw [Event.countAlong_append_singleton]
    exact h.misses

/-- Compiles a text anew, and writes it down if it is a regex. -/
def record (text : String) (events : List Event) : Except Regex.CompileError Regex × List Event :=
  match Regex.compile text with
  | .ok regex => (.ok regex, events ++ [.compiled text])
  | .error e => (.error e, events)

theorem record_fst (text : String) (events : List Event) : (record text events).1 = Regex.compile text := by
  rw [record]
  cases Regex.compile text <;> rfl

theorem Books.record (h : Books events cache) (text : String) :
    Books (record text events).2 (cache.compile text).2 := by
  cases hcompile : Regex.compile text with
  | ok regex =>
    have hrecord : (RegexCache.record text events).2 = events ++ [.compiled text] := by
      rw [RegexCache.record, hcompile]
    rw [hrecord]
    exact h.compile (by rw [compiles, hcompile])
  | error e =>
    have hrecord : (RegexCache.record text events).2 = events := by rw [RegexCache.record, hcompile]
    rw [hrecord, h.sound.compile_of_not_compiles (by rw [compiles, hcompile])]
    exact h

end StackQuery.RegexCache
