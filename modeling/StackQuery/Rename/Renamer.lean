import StackQuery.Counts.OrderedMap
import StackQuery.Rename.Rule

/-!
# Renaming frames

A renamer applies the first of its rules that finds its regex in a name. New names are remembered by
the raw name; a name that fails is not remembered.
-/
namespace StackQuery

structure Renamer where
  rules : List RenameRule

namespace Renamer

/-- The new names that are known, by raw name. -/
abbrev Memo := OrderedMap Frame Frame

def identity : Renamer := ⟨[]⟩

/-- The name given by the first rule that applies, or the name itself. -/
def firstOf : List RenameRule → Frame → Except Regex.TemplateError Frame
  | [], name => .ok name
  | rule :: rest, name => do
    match ← rule.apply name with
    | some renamed => return renamed
    | none => firstOf rest name

def rename (r : Renamer) (name : Frame) : Except Regex.TemplateError Frame := firstOf r.rules name

def renameAll (r : Renamer) (frames : List Frame) : Except Regex.TemplateError (List Frame) :=
  frames.mapM r.rename

/-- The new name of a frame, looked up first among the names that are known. -/
def renameIn (r : Renamer) (name : Frame) (memo : Memo) : Except Regex.TemplateError Frame × Memo :=
  match memo.get? name with
  | some known => (.ok known, memo)
  | none =>
    match r.rename name with
    | .ok renamed => (.ok renamed, memo.insert name renamed)
    | .error e => (.error e, memo)

/-- The new names of frames, each looked up first; the first failure ends it. -/
def renameEachIn (r : Renamer) : List Frame → Memo → Except Regex.TemplateError (List Frame) × Memo
  | [], memo => (.ok [], memo)
  | name :: rest, memo =>
    match r.renameIn name memo with
    | (.error e, memo) => (.error e, memo)
    | (.ok renamed, memo) =>
      match r.renameEachIn rest memo with
      | (.error e, memo) => (.error e, memo)
      | (.ok names, memo) => (.ok (renamed :: names), memo)

/-- The new names of the frames of a sample. Without rules nothing is looked up or remembered. -/
def renameAllIn (r : Renamer) (frames : List Frame) (memo : Memo) :
    Except Regex.TemplateError (List Frame) × Memo :=
  if r.rules.isEmpty then (.ok frames, memo) else r.renameEachIn frames memo

/-- Builds a renamer from pairs of a regex and a template, with the store of the compiler. -/
def ofPairsIn {σ : Type} (compile : String → σ → Except Regex.CompileError Regex × σ) :
    List (String × String) → σ → Except RuleError (List RenameRule) × σ
  | [], store => (.ok [], store)
  | (pattern, replacement) :: rest, store =>
    match RenameRule.compileIn compile pattern replacement store with
    | (.error e, store) => (.error e, store)
    | (.ok rule, store) =>
      match ofPairsIn compile rest store with
      | (.error e, store) => (.error e, store)
      | (.ok rules, store) => (.ok (rule :: rules), store)

def ofPairs [Text.CharNames] (pairs : List (String × String)) : Except RuleError Renamer :=
  ((ofPairsIn (fun text (_ : Unit) => (Regex.compile text, ())) pairs ()).1).map Renamer.mk

end Renamer

end StackQuery
