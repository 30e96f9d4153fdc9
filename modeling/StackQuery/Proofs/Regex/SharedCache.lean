import StackQuery.Proofs.Query.Pointing
import StackQuery.Proofs.Regex.CacheBooks
import StackQuery.Rename.Rule

/-!
# A cache with several users

Queries and rename rules compile their regexes through one cache. What they do with it does not depend on what
the cache holds: two ways to compile that give the same results lead them to the same results. So every use of a
shared cache gives what it gives with a cache of its own, and the books of the cache balance with what a run
without a cache would have compiled.
-/
namespace StackQuery

/-- The same result, with stores that are related. -/
def Alike {α σ τ : Type} (R : σ → τ → Prop) (x : α × σ) (y : α × τ) : Prop := x.1 = y.1 ∧ R x.2 y.2

section
variable {σ τ : Type} {R : σ → τ → Prop}

theorem Alike.map {α β : Type} {x : α × σ} {y : α × τ} (h : Alike R x y) (f : α → β) :
    Alike R (Prod.map f id x) (Prod.map f id y) :=
  ⟨congrArg f h.1, h.2⟩

theorem Alike.exists_eq {α : Type} {x : α × σ} {y : α × τ} (h : Alike R x y) :
    ∃ result store store', x = (result, store) ∧ y = (result, store') ∧ R store store' :=
  ⟨x.1, x.2, y.2, rfl, Prod.ext h.1.symm rfl, h.2⟩

namespace Query

variable {compile : Compiler σ} {compile' : Compiler τ} {store : σ} {store' : τ}

theorem alike_resolve (hcompile : ∀ text {s s'}, R s s' → Alike R (compile text s) (compile' text s'))
    (h : R store store') (query : String) (atom : RawAtom) :
    Alike R (atom.resolve compile query store) (atom.resolve compile' query store') := by
  cases atom with
  | any => exact ⟨rfl, h⟩
  | leaf body brace =>
    obtain ⟨result, after, after', hleft, hright, hstores⟩ := (hcompile (String.ofList body) h).exists_eq
    simp only [RawAtom.resolve, hleft, hright]
    cases result <;> exact ⟨rfl, hstores⟩

theorem alike_resolveAll (hcompile : ∀ text {s s'}, R s s' → Alike R (compile text s) (compile' text s'))
    (h : R store store') (query : String) (terms : List RawTerm) :
    Alike R (resolveAll compile query terms store) (resolveAll compile' query terms store') := by
  induction terms generalizing store store' with
  | nil => exact ⟨rfl, h⟩
  | cons t rest ih =>
    obtain ⟨result, after, after', hleft, hright, hstores⟩ := (alike_resolve hcompile h query t.atom).exists_eq
    cases result with
    | error f =>
      rw [resolveAll_cons_error hleft, resolveAll_cons_error hright]
      exact ⟨rfl, hstores⟩
    | ok inner =>
      rw [resolveAll_cons_ok hleft, resolveAll_cons_ok hright]
      exact (ih hstores).map (Except.map (t.wrap inner :: ·))

theorem alike_parseIn (hcompile : ∀ text {s s'}, R s s' → Alike R (compile text s) (compile' text s'))
    (h : R store store') (query : String) :
    Alike R (parseIn compile query store) (parseIn compile' query store') := by
  unfold parseIn
  cases outline query.toList with
  | mk terms fault =>
    dsimp only
    obtain ⟨result, after, after', hleft, hright, hstores⟩ := (alike_resolveAll hcompile h query terms).exists_eq
    rw [hleft, hright]
    cases result with
    | error f => exact ⟨rfl, hstores⟩
    | ok nodes =>
      cases fault with
      | some located => exact ⟨rfl, hstores⟩
      | none => cases nodes <;> exact ⟨rfl, hstores⟩

/-- The store after a query is read is the one after its regexes are compiled. -/
theorem parseIn_snd (compile : Compiler σ) (query : String) (store : σ) :
    (parseIn compile query store).2 = (resolveAll compile query (outline query.toList).1 store).2 := by
  unfold parseIn
  cases outline query.toList with
  | mk terms fault =>
    dsimp only
    cases resolveAll compile query terms store with
    | mk result after =>
      cases result with
      | error f => rfl
      | ok nodes =>
        cases fault with
        | some located => rfl
        | none => cases nodes <;> rfl

end Query

theorem RenameRule.alike_compileIn {compile : String → σ → Except Regex.CompileError Regex × σ}
    {compile' : String → τ → Except Regex.CompileError Regex × τ} {store : σ} {store' : τ}
    (hcompile : ∀ text {s s'}, R s s' → Alike R (compile text s) (compile' text s')) (h : R store store')
    (pattern replacement : String) :
    Alike R (compileIn compile pattern replacement store) (compileIn compile' pattern replacement store') := by
  obtain ⟨result, after, after', hleft, hright, hstores⟩ := (hcompile pattern h).exists_eq
  unfold compileIn
  rw [hleft, hright]
  cases result <;> exact ⟨rfl, hstores⟩

end

namespace RegexCache

open Event (known isHit isMiss countAlong)

inductive Use where
  | compile (text : String)
  | parse (query : String)
  | rule (pattern replacement : String)
  | clear

inductive Answer where
  | regex (result : Except Regex.CompileError Regex)
  | pattern (result : Except Query.Failure Query.Pattern)
  | rule (result : Except RuleError RenameRule)
  | nothing

/-- What is behind the uses: a way to compile a text, and a way to forget everything. -/
structure Keeper (σ : Type) where
  compile (text : String) (store : σ) : Except Regex.CompileError Regex × σ
  clear (store : σ) : σ

namespace Keeper

variable {σ τ : Type} {R : σ → τ → Prop}

/-- Compiles a text to the test of being found in a frame name. -/
def accepts (k : Keeper σ) : Query.Compiler σ := fun text store =>
  Prod.map (·.map Regex.found) id (k.compile text store)

def perform (k : Keeper σ) (use : Use) (store : σ) : Answer × σ :=
  match use with
  | .compile text => Prod.map .regex id (k.compile text store)
  | .parse query => Prod.map .pattern id (Query.parseIn k.accepts query store)
  | .rule pattern replacement =>
    Prod.map .rule id (RenameRule.compileIn k.compile pattern replacement store)
  | .clear => (.nothing, k.clear store)

/-- What uses give one after the other, and the store after them. -/
def run (k : Keeper σ) : List Use → σ → List Answer × σ
  | [], store => ([], store)
  | use :: rest, store =>
    let (answer, store) := k.perform use store
    let (answers, store) := k.run rest store
    (answer :: answers, store)

def cache [Text.CharNames] : Keeper RegexCache := ⟨RegexCache.compile, RegexCache.clear⟩

/-- No cache, but a list of what happens. -/
def ledger [Text.CharNames] : Keeper (List Event) := ⟨record, (· ++ [.cleared])⟩

/-- Two keepers do the same with stores that are related. -/
structure Agrees (R : σ → τ → Prop) (k : Keeper σ) (k' : Keeper τ) : Prop where
  compile (text : String) {store : σ} {store' : τ} (related : R store store') :
    Alike R (k.compile text store) (k'.compile text store')
  clear {store : σ} {store' : τ} (related : R store store') : R (k.clear store) (k'.clear store')

variable {k : Keeper σ} {k' : Keeper τ} {store : σ} {store' : τ}

theorem Agrees.accepts (h : Agrees R k k') (text : String) {store : σ} {store' : τ} (hstores : R store store') :
    Alike R (k.accepts text store) (k'.accepts text store') :=
  (h.compile text hstores).map _

theorem Agrees.perform (h : Agrees R k k') (hstores : R store store') (use : Use) :
    Alike R (k.perform use store) (k'.perform use store') := by
  cases use with
  | compile text => exact (h.compile text hstores).map _
  | parse query => exact (Query.alike_parseIn h.accepts hstores query).map _
  | rule pattern replacement =>
    exact (RenameRule.alike_compileIn h.compile hstores pattern replacement).map _
  | clear => exact ⟨rfl, h.clear hstores⟩

theorem Agrees.run (h : Agrees R k k') (hstores : R store store') (uses : List Use) :
    Alike R (k.run uses store) (k'.run uses store') := by
  induction uses generalizing store store' with
  | nil => exact ⟨rfl, hstores⟩
  | cons use rest ih =>
    obtain ⟨hanswer, hafter⟩ := h.perform hstores use
    obtain ⟨hanswers, hlast⟩ := ih hafter
    exact ⟨congr (congrArg _ hanswer) hanswers, hlast⟩

theorem agrees_sound [Text.CharNames] : Agrees (fun c c' => c.Sound ∧ c'.Sound) cache cache where
  compile text _ _ h :=
    ⟨(h.1.compile_fst text).trans (h.2.compile_fst text).symm, h.1.compile text, h.2.compile text⟩
  clear _ := ⟨sound_clear _, sound_clear _⟩

theorem agrees_books [Text.CharNames] : Agrees Books ledger cache where
  compile text _ _ h := ⟨(record_fst text _).trans (h.sound.compile_fst text).symm, h.record text⟩
  clear h := h.clear

/-- Each use of a shared cache gives what it gives with a cache of its own. -/
theorem run_cache_fst [Text.CharNames] {c : RegexCache} (h : c.Sound) (uses : List Use) :
    (cache.run uses c).1 = uses.map fun use => (cache.perform use .empty).1 := by
  induction uses generalizing c with
  | nil => rfl
  | cons use rest ih =>
    have hown := agrees_sound.perform ⟨h, sound_empty⟩ use
    have hrest := ih hown.2.1
    exact congr (congrArg _ hown.1) hrest

theorem books_run [Text.CharNames] (uses : List Use) : Books (ledger.run uses []).2 (cache.run uses .empty).2 :=
  (agrees_books.run books_empty uses).2

end Keeper

section
open Query

variable {cache : RegexCache} {query : String}

/-- The test of being found in a frame name, without a cache. -/
def plain [Text.CharNames] (text : String) : Except Regex.CompileError (Frame → Bool) :=
  (Regex.compile text).map Regex.found

theorem compiles_iff [Text.CharNames] {text : String} : compiles text = true ↔ ∃ accepts, plain text = .ok accepts := by
  rw [compiles, plain]
  cases Regex.compile text <;> simp [Except.map]

theorem plain_eq_error_iff [Text.CharNames] {text : String} {e : Regex.CompileError} :
    plain text = .error e ↔ Regex.compile text = .error e := by
  rw [plain]
  cases Regex.compile text <;> simp [Except.map]

theorem not_compiles_of_plain [Text.CharNames] {text : String} {e : Regex.CompileError} (h : plain text = .error e) :
    compiles text = false := by
  rw [compiles, plain_eq_error_iff.mp h]

theorem Sound.accepts_eq [Text.CharNames] (h : cache.Sound) (text : String) :
    accepts text cache = (plain text, (cache.compile text).2) :=
  Prod.ext (congrArg (·.map Regex.found) (h.compile_fst text)) rfl

theorem Sound.parseIn_fst [Text.CharNames] (h : cache.Sound) (query : String) :
    (parseIn accepts query cache).1 = parseWith plain query := by
  have hcompile (text : String) {c : RegexCache} {u : Unit} (hc : c.Sound) :
      Alike (fun (c : RegexCache) (_ : Unit) => c.Sound) (accepts text c) (Grammar.storeless plain text u) :=
    ⟨congrArg Prod.fst (hc.accepts_eq text), hc.compile text⟩
  exact (alike_parseIn hcompile h query).1

/-- The texts of the leaves of terms. -/
def leafTexts (terms : List RawTerm) : List String := (leaves terms).map String.ofList

theorem leafTexts_append (terms more : List RawTerm) :
    leafTexts (terms ++ more) = leafTexts terms ++ leafTexts more := by
  rw [leafTexts, leaves_append, List.map_append]
  rfl

theorem leavesCompile_iff [Text.CharNames] {terms : List RawTerm} :
    LeavesCompile plain terms ↔ ∀ text ∈ leafTexts terms, compiles text = true := by
  simp only [LeavesCompile, leafTexts, List.forall_mem_map, compiles_iff]

/-- The regexes of terms are compiled in order, up to the first that does not compile. -/
theorem Sound.resolveAll_snd [Text.CharNames] (h : cache.Sound) (query : String) (terms : List RawTerm) :
    (resolveAll accepts query terms cache).2 = cache.compileEach ((leafTexts terms).takeWhile compiles) := by
  induction terms generalizing cache with
  | nil => rfl
  | cons t rest ih =>
    obtain ⟨negated, skipped, atom⟩ := t
    cases atom with
    | any =>
      rw [resolveAll_cons_ok rfl]
      exact ih h
    | leaf body brace =>
      have htexts : leafTexts (⟨negated, skipped, .leaf body brace⟩ :: rest) =
        String.ofList body :: leafTexts rest := rfl
      rw [htexts]
      cases hplain : plain (String.ofList body) with
      | ok test =>
        have hresolve : (RawAtom.leaf body brace).resolve accepts query cache =
            (.ok (.leaf (String.ofList body) test), (cache.compile (String.ofList body)).2) := by
          rw [RawAtom.resolve, h.accepts_eq, hplain]
        rw [resolveAll_cons_ok hresolve, List.takeWhile_cons_of_pos (compiles_iff.mpr ⟨test, hplain⟩)]
        exact ih (h.compile _)
      | error e =>
        have hresolve : (RawAtom.leaf body brace).resolve accepts query cache =
            (.error (regexFailure query (String.ofList body) brace e), (cache.compile (String.ofList body)).2) := by
          rw [RawAtom.resolve, h.accepts_eq, hplain]
        have hcompiles := not_compiles_of_plain hplain
        rw [resolveAll_cons_error hresolve, List.takeWhile_cons_of_neg (Bool.eq_false_iff.mp hcompiles)]
        exact h.compile_of_not_compiles hcompiles

/-- Where reading a query fails: at the column of a fault, or at the brace of a regex that does not compile. -/
inductive FailsAt [Text.CharNames] (query : String) : Failure → Nat → Prop where
  | fault (fault : Fault) (column : Nat) : FailsAt query (.rejected ⟨query, .outline fault, column⟩) column
  | regex {before body after : List Char} {e : Regex.CompileError}
      (stands : query.toList = before ++ '\x7b' :: (body ++ '\x7d' :: after)) (balanced : Grammar.Closes 0 body)
      (ill : Regex.compile (String.ofList body) = .error e) :
      FailsAt query (regexFailure query (String.ofList body) before.length e) before.length

/-- The texts of the leaves that end before a column. -/
def textsBefore (query : String) (column : Nat) : List String := leafTexts (outline (query.toList.take column)).1

theorem leafTexts_eq_of_since {terms : List RawTerm} {column : Nat} {tail : List Char}
    (h : Since query.toList terms column tail) : textsBefore query column = leafTexts terms := by
  rw [textsBefore, leafTexts, h.leaves_take]
  rfl

/-- A query that fails leaves what the leaves before its fault leave, all of which compile. -/
theorem Sound.parseIn_error [Text.CharNames] {f : Failure} (h : cache.Sound)
    (herror : (parseIn accepts query cache).1 = .error f) :
    ∃ column, FailsAt query f column ∧ (∀ text ∈ textsBefore query column, compiles text = true) ∧
      (parseIn accepts query cache).2 = cache.compileEach (textsBefore query column) := by
  rw [h.parseIn_fst] at herror
  rw [parseIn_snd, h.resolveAll_snd]
  obtain ⟨fault, column, hfault, hleaves, rfl⟩ |
    ⟨earlier, t, later, body, brace, e, hterms, hleaves, hatom, hplain, rfl⟩ := error_cases herror
  · -- all leaves of the outline end before its fault
    obtain ⟨tail, part, hsince, -⟩ := exists_since_of_outline hfault
    have hcompile := leavesCompile_iff.mp hleaves
    rw [← leafTexts_eq_of_since hsince] at hcompile ⊢
    refine ⟨column, .fault fault column, hcompile, ?_⟩
    rw [List.takeWhile_eq_self_iff.mpr hcompile]
  · -- the leaves before the one that fails end before its brace
    obtain ⟨hcloses, after, hsince⟩ := leavesStand_outline query.toList earlier t later body brace hterms hatom
    have hcompile := leavesCompile_iff.mp hleaves
    have hill := Bool.eq_false_iff.mp (not_compiles_of_plain hplain)
    have hbody : leafTexts (t :: later) = String.ofList body :: leafTexts later := by
      rw [leafTexts, leaves, List.filterMap_cons_some (show t.leaf? = some body by rw [RawTerm.leaf?, hatom])]
      rfl
    rw [hterms, leafTexts_append, List.takeWhile_append_of_pos hcompile, hbody, List.takeWhile_cons_of_neg hill,
      List.append_nil]
    rw [← leafTexts_eq_of_since hsince] at hcompile ⊢
    obtain ⟨before, -, -, -, -, rfl, hstands, -⟩ := hsince
    exact ⟨before.length, .regex hstands hcloses (plain_eq_error_iff.mp hplain), hcompile, rfl⟩

/-- A shared cache is transparent and its books balance. Every use gives what it gives with a cache of its own. Hits
and misses are the compilations that succeed, and misses those of texts that the cache did not hold; it holds the
texts that were compiled since it was last cleared. What fails to compile changes nothing, and a query that fails
leaves what the leaves before its fault leave. -/
theorem shared_cache_is_transparent [Text.CharNames] (uses : List Use) :
    let history := (Keeper.ledger.run uses []).2
    let cache := (Keeper.cache.run uses .empty).2
    (Keeper.cache.run uses .empty).1 = (uses.map fun use => (Keeper.cache.perform use .empty).1) ∧
    cache.hits + cache.misses = (history.filterMap Event.text?).length ∧
    cache.misses = countAlong isMiss [] history ∧
    cache.size = (known history).eraseDups.length ∧
    (∀ text, cache.contains text = true ↔ text ∈ known history) ∧
    (∀ text e, (cache.compile text).1 = .error e → (cache.compile text).2 = cache) ∧
    ∀ query f, (parseIn accepts query cache).1 = .error f →
      ∃ column, FailsAt query f column ∧ (∀ text ∈ textsBefore query column, compiles text = true) ∧
        (parseIn accepts query cache).2 = cache.compileEach (textsBefore query column) := by
  intro history cache
  have hbooks := Keeper.books_run uses
  refine ⟨Keeper.run_cache_fst sound_empty uses, ?_, hbooks.misses, hbooks.size_eq, fun text => hbooks.contains_iff,
    fun text e => compile_error_unchanged, fun query f => hbooks.sound.parseIn_error⟩
  rw [hbooks.hits, hbooks.misses]
  exact Event.countAlong_isHit_add_isMiss [] history

/-- A query that fails after two leaves, one of them known before, and a text that is compiled again once everything
is forgotten. -/
theorem shared_cache_is_transparent_failed_query :
    let cache := (Keeper.cache.run [.compile "x", .parse "\x7bx\x7d,\x7by\x7d,!", .clear, .compile "x"] .empty).2
    cache.hits + cache.misses = 4 ∧ cache.misses = 3 ∧ cache.size = 1 ∧
    (∃ f, (parseIn accepts "\x7bx\x7d,\x7by\x7d,!" cache).1 = .error f) ∧
    (parseIn accepts "\x7bx\x7d,\x7by\x7d,!" cache).2 = cache.compileEach ["x", "y"] := by
  intro cache
  obtain ⟨x, hx⟩ : ∃ regex, Regex.compile "x" = .ok regex := ⟨_, by rfl⟩
  obtain ⟨y, hy⟩ : ∃ regex, Regex.compile "y" = .ok regex := ⟨_, by rfl⟩
  have hterms : outline "\x7bx\x7d,\x7by\x7d,!".toList =
      ([⟨false, false, .leaf "x".toList 0⟩, ⟨false, false, .leaf "y".toList 4⟩],
        some (.missingTerm .bang, 8)) := by rfl
  have hhistory : (Keeper.ledger.run [.compile "x", .parse "\x7bx\x7d,\x7by\x7d,!", .clear, .compile "x"] []).2 =
      [.compiled "x", .compiled "x", .compiled "y", .cleared, .compiled "x"] := by
    simp only [Keeper.run, Keeper.perform, Prod.map, id, parseIn_snd, hterms, resolveAll, RawAtom.resolve,
      Keeper.accepts, Keeper.ledger, record, hx, hy, String.ofList_toList, Except.map]
    rfl
  have hsound : cache.Sound := (Keeper.books_run _).sound
  have hparse : (parseIn accepts "\x7bx\x7d,\x7by\x7d,!" cache).1 =
      .error (.rejected ⟨"\x7bx\x7d,\x7by\x7d,!", .outline (.missingTerm .bang), 8⟩) := by
    rw [hsound.parseIn_fst]
    simp only [parseWith, parseIn, hterms, resolveAll, RawAtom.resolve, String.ofList_toList, plain, hx, hy, Except.map]
  obtain ⟨-, hsum, hmisses, hsize, -, -, hfails⟩ :=
    shared_cache_is_transparent [.compile "x", .parse "\x7bx\x7d,\x7by\x7d,!", .clear, .compile "x"]
  rw [hhistory] at hsum hmisses hsize
  obtain ⟨column, hat, -, hafter⟩ := hfails _ _ hparse
  have hbefore : textsBefore "\x7bx\x7d,\x7by\x7d,!" 8 = ["x", "y"] := by rfl
  generalize hf : (Failure.rejected _) = f at hat
  cases hat with
  | fault fault column =>
    cases hf
    rw [hbefore] at hafter
    exact ⟨hsum, hmisses.trans (by decide), hsize.trans (by decide), ⟨_, hparse⟩, hafter⟩
  | @regex before body after e =>
    obtain ⟨fault, position, rfl, heq⟩ := regexFailure_eq_rejected hf
    cases heq

end

end RegexCache

end StackQuery
