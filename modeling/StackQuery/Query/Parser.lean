import StackQuery.Query.Outline
import StackQuery.Regex.Fault

/-!
# Reading a query

A query is read in two steps: its outline, and then the regexes of the outline from left to right. The
first thing wrong from the left is reported: a regex that does not compile, or else the fault of the
outline. Compiling is a parameter, and may use and change a store of what was compiled before.
-/
namespace StackQuery.Query

inductive Cause where
  | outline (fault : Fault)
  | regex (fault : Regex.Fault) (text : String)
  deriving DecidableEq, Repr

/-- A query that is refused, with the column of what is wrong. -/
structure ParseError where
  text : String
  cause : Cause
  column : Nat
  deriving DecidableEq, Repr

namespace ParseError

def detail (e : ParseError) : String :=
  match e.cause with
  | .outline fault => fault.message
  | .regex fault _ => "Invalid regex: " ++ fault.message

def fragment (e : ParseError) : String :=
  match e.cause with
  | .outline fault =>
    let rest := e.text.toList.drop e.column
    String.ofList (match fault.extent? with
      | some n => rest.take n
      | none => rest)
  | .regex _ text => text

def offset (e : ParseError) : Nat := (String.ofList (e.text.toList.take e.column)).utf8ByteSize

def message (e : ParseError) : String :=
  let head := e.detail ++ " at offset " ++ toString e.offset
  if e.fragment.isEmpty then head else head ++ ": " ++ Text.quote e.fragment

def caretLines (e : ParseError) : List String :=
  ["    " ++ e.text, "    " ++ String.ofList (List.replicate e.column ' ') ++ "^"]

end ParseError

inductive Failure where
  | rejected (error : ParseError)
  /-- A regex that is refused for a reason other than its form. -/
  | refused (error : Regex.CompileError)
  deriving DecidableEq, Repr

section
variable {σ : Type}

/-- Compiles a text, with the store before and after. -/
abbrev Compiler (σ : Type) := String → σ → Except Regex.CompileError (Frame → Bool) × σ

def regexFailure (query : String) (text : String) (brace : Nat) : Regex.CompileError → Failure
  | .ill ⟨fault, position⟩ =>
    .rejected ⟨query, .regex fault text, brace + 1 + position.getD 0⟩
  | error => .refused error

def RawAtom.resolve (compile : Compiler σ) (query : String) (atom : RawAtom) (store : σ) :
    Except Failure Node × σ :=
  match atom with
  | .any => (.ok .any, store)
  | .leaf text brace =>
    let text := String.ofList text
    match compile text store with
    | (.ok accepts, store) => (.ok (.leaf text accepts), store)
    | (.error e, store) => (.error (regexFailure query text brace e), store)

def RawTerm.wrap (t : RawTerm) (node : Node) : Node :=
  let node := if t.skipped then .skip node else node
  if t.negated then .absent node else node

def resolveAll (compile : Compiler σ) (query : String) : List RawTerm → σ → Except Failure (List Node) × σ
  | [], store => (.ok [], store)
  | t :: rest, store =>
    match t.atom.resolve compile query store with
    | (.error e, store) => (.error e, store)
    | (.ok node, store) =>
      match resolveAll compile query rest store with
      | (.error e, store) => (.error e, store)
      | (.ok nodes, store) => (.ok (t.wrap node :: nodes), store)

def parseIn (compile : Compiler σ) (query : String) (store : σ) : Except Failure Pattern × σ :=
  let (terms, fault) := outline query.toList
  match resolveAll compile query terms store, fault with
  | (.error e, store), _ => (.error e, store)
  | (.ok _, store), some (fault, column) =>
    (.error (.rejected ⟨query, .outline fault, column⟩), store)
  | (.ok [], store), none => (.error (.rejected ⟨query, .outline .empty, 0⟩), store)
  | (.ok (first :: rest), store), none => (.ok ⟨query, Node.chain first rest⟩, store)

end

def parseWith (compile : String → Except Regex.CompileError (Frame → Bool)) (query : String) :
    Except Failure Pattern :=
  (parseIn (fun text (_ : Unit) => (compile text, ())) query ()).1

theorem regexFailure_ill (query text : String) (brace : Nat) (fault : Regex.Fault)
    (position : Option Nat) :
    regexFailure query text brace (.ill ⟨fault, position⟩) =
      .rejected ⟨query, .regex fault text, brace + 1 + position.getD 0⟩ := rfl

end StackQuery.Query
