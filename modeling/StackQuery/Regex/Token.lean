import StackQuery.Regex.Item

/-!
# Tokens of a regex

A regex is read token by token: a token is one character, or a backslash together with the character
after it. The reader always looks one token ahead, so a backslash with nothing after it is a fault as
soon as it comes next.
-/
namespace StackQuery.Regex

/-- One or two characters of a regex and the place of the first. -/
structure Token where
  text : List Char
  position : Nat
  deriving DecidableEq, Repr

namespace Token

def scan : List Char → Nat → List Token
  | [], _ => []
  | '\\' :: c :: rest, n => ⟨['\\', c], n⟩ :: scan rest (n + 2)
  | c :: rest, n => ⟨[c], n⟩ :: scan rest (n + 1)

def isDangling (t : Token) : Bool := t.text == ['\\']

end Token

/-- What is left to read of a regex or a template. -/
structure Reader where
  tokens : List Token
  length : Nat
  deriving DecidableEq, Repr

namespace Reader

def place (r : Reader) : Nat :=
  match r.tokens with
  | t :: _ => t.position
  | [] => r.length

def peek? (r : Reader) : Option (List Char) := r.tokens.head?.map (·.text)

def nextIs (r : Reader) (c : Char) : Bool := r.peek? == some [c]

def nextIn (r : Reader) (p : Char → Bool) : Bool :=
  match r.peek? with
  | some [c] => p c
  | _ => false

def checked (r : Reader) : Except SyntaxError Reader :=
  match r.tokens with
  | t :: _ => if t.isDangling then .error ⟨.trailingBackslash, some (r.length - 1)⟩ else .ok r
  | [] => .ok r

def ofText (text : List Char) : Except SyntaxError Reader :=
  checked ⟨Token.scan text 0, text.length⟩

def advance (r : Reader) : Except SyntaxError Reader := checked ⟨r.tokens.tail, r.length⟩

def takeWhile (p : Char → Bool) : Nat → Reader → Except SyntaxError (List Char × Reader)
  | 0, r => .ok ([], r)
  | n + 1, r =>
    match r.peek? with
    | some [c] =>
      if p c then do
        let (cs, r') ← takeWhile p n (← r.advance)
        return (c :: cs, r')
      else .ok ([], r)
    | _ => .ok ([], r)

/-- The text up to a terminator, which is passed over; `read` is what was read so far and the first
argument bounds the number of tokens. -/
def takeUntilAux (terminator : Char) (what : String) :
    Nat → (read : List Char) → Reader → Except SyntaxError (List Char × Reader)
  | 0, _, r => .error ⟨.missingName what, some r.place⟩
  | n + 1, read, r =>
    match r.peek? with
    | none =>
      if read.isEmpty then .error ⟨.missingName what, some r.place⟩
      else .error ⟨.unterminatedName terminator, some (r.place - read.length)⟩
    | some text => do
      let r' ← r.advance
      if text == [terminator] then
        if read.isEmpty then .error ⟨.missingName what, some (r'.place - 1)⟩
        else return (read, r')
      else takeUntilAux terminator what n (read ++ text) r'

def takeUntil (terminator : Char) (what : String) (r : Reader) :
    Except SyntaxError (List Char × Reader) :=
  takeUntilAux terminator what (r.tokens.length + 1) [] r

end Reader

end StackQuery.Regex
