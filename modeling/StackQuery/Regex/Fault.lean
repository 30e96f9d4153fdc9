import StackQuery.Number.Numeral
import StackQuery.Text.Quoted

/-!
# Faults of a regex

Each way in which a regex or a substitution template can be ill formed is a cause of its own; `message`
gives the wording.
-/
namespace StackQuery.Regex

/-- Why a regex or a substitution template is rejected. -/
inductive Fault where
  | trailingBackslash
  | incompleteEscape (text : String)
  | badEscape (text : String)
  | octalTooLarge (text : String)
  | missingBrace
  | missingAngle
  | missingName (what : String)
  | unterminatedName (terminator : Char)
  | undefinedCharacter (name : String)
  | openGroup
  | groupOfSameLookbehind
  | invalidGroup (group : Nat)
  | unterminatedSet
  | badRange (lower upper : String)
  | reversedBounds
  | nothingToRepeat
  | multipleRepeat
  | unexpectedEnd
  | badGroupName (name : String)
  | unknownGroupName (name : String)
  | badGroupNumber
  | redefinedGroup (name : String) (group former : Nat)
  | unknownExtension (text : String)
  | unterminatedComment
  | unterminatedGroup
  | tooManyBranches
  | misplacedFlags
  | localeFlag
  | incompatibleFlags
  | unknownFlag
  | missingFlag
  | missingFlagEnd
  | missingColon
  | globalFlagOn
  | globalFlagOff
  | typeFlagOff
  | flagOnAndOff
  | unbalanced
  | variableLookbehind
  | lookbehindTooLong
  | templateOperator (operator : String)
  deriving DecidableEq, Repr

def Fault.message : Fault → String
  | .trailingBackslash => "bad escape (end of pattern)"
  | .incompleteEscape text => "incomplete escape " ++ text
  | .badEscape text => "bad escape " ++ text
  | .octalTooLarge text => "octal escape value " ++ text ++ " outside of range 0-0o377"
  | .missingBrace => "missing \x7b"
  | .missingAngle => "missing <"
  | .missingName what => "missing " ++ what
  | .unterminatedName terminator => "missing " ++ terminator.toString ++ ", unterminated name"
  | .undefinedCharacter name => "undefined character name " ++ Text.quote name
  | .openGroup => "cannot refer to an open group"
  | .groupOfSameLookbehind =>
    "cannot refer to group defined in the same lookbehind subpattern"
  | .invalidGroup group => "invalid group reference " ++ toString group
  | .unterminatedSet => "unterminated character set"
  | .badRange lower upper => "bad character range " ++ lower ++ "-" ++ upper
  | .reversedBounds => "min repeat greater than max repeat"
  | .nothingToRepeat => "nothing to repeat"
  | .multipleRepeat => "multiple repeat"
  | .unexpectedEnd => "unexpected end of pattern"
  | .badGroupName name => "bad character in group name " ++ Text.quote name
  | .unknownGroupName name => "unknown group name " ++ Text.quote name
  | .badGroupNumber => "bad group number"
  | .redefinedGroup name group former =>
    "redefinition of group name " ++ Text.quote name ++ " as group " ++ toString group ++
      "; was group " ++ toString former
  | .unknownExtension text => "unknown extension ?" ++ text
  | .unterminatedComment => "missing ), unterminated comment"
  | .unterminatedGroup => "missing ), unterminated subpattern"
  | .tooManyBranches => "conditional backref with more than two branches"
  | .misplacedFlags => "global flags not at the start of the expression"
  | .localeFlag => "bad inline flags: cannot use 'L' flag with a str pattern"
  | .incompatibleFlags => "bad inline flags: flags 'a', 'u' and 'L' are incompatible"
  | .unknownFlag => "unknown flag"
  | .missingFlag => "missing flag"
  | .missingFlagEnd => "missing -, : or )"
  | .missingColon => "missing :"
  | .globalFlagOn => "bad inline flags: cannot turn on global flag"
  | .globalFlagOff => "bad inline flags: cannot turn off global flag"
  | .typeFlagOff => "bad inline flags: cannot turn off flags 'a', 'u' and 'L'"
  | .flagOnAndOff => "bad inline flags: flag turned on and off"
  | .unbalanced => "unbalanced parenthesis"
  | .variableLookbehind => "look-behind requires fixed-width pattern"
  | .lookbehindTooLong => "looks too much behind"
  | .templateOperator operator => "internal: unsupported template operator " ++ operator

/-- A fault and the place it was found at, counted in characters; faults found after the whole text was
read have no place. -/
structure SyntaxError where
  fault : Fault
  position : Option Nat
  deriving DecidableEq, Repr

/-- Why a text is not taken as a regex. -/
inductive CompileError where
  | ill (error : SyntaxError)
  | repetitionTooLarge
  /-- Both the ASCII and the Unicode classes are asked for. -/
  | conflictingClasses
  /-- A repetition count of more digits than a whole number may have. -/
  | tooManyDigits (count : Nat)
  /-- An escape by number of a code point that does not fit a signed word. -/
  | codePointTooLarge
  deriving DecidableEq, Repr

def CompileError.message : CompileError → String
  | .ill error => error.fault.message
  | .repetitionTooLarge => "the repetition number is too large"
  | .conflictingClasses => "ASCII and UNICODE flags are incompatible"
  | .tooManyDigits count => Numeral.digitLimitMessage count
  | .codePointTooLarge => "Python int too large to convert to C int"

/-- A number in the text does not fit the word it is stored in. -/
def CompileError.isOverflow : CompileError → Bool
  | .repetitionTooLarge | .codePointTooLarge => true
  | _ => false

end StackQuery.Regex
