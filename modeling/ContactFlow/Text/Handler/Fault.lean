import ContactFlow.Decimal.Numeral
import ContactFlow.Text.Printable

/-!
What is wrong with the form of an expression that a handler in markup is given, and how it is
worded.
-/

namespace ContactFlow.Handler

/-- What is wrong with a backslash in a text. -/
inductive EscapeFault
  | short (letter : Char) (digits : Nat)
  | noCharacter
  | noName
  | unknownName
  deriving DecidableEq, Repr

inductive Fault
  | character (c : Char)
  | number (base : String)
  | digit (c : Char) (base : String)
  | leadingZeros
  | digits (count : Nat)
  | unterminated (isTriple : Bool) (line : Nat)
  | unmatched (bracket : Char)
  | mismatched (closing opening : Char) (line : Option Nat)
  | bracketDepth
  | neverClosed (bracket : Char)
  | continuation
  | earlyEnd
  | indent
  | unindent
  | unindentLevel
  | indentBlanks
  | indentDepth
  | form
  | noComma
  | noElse
  | noCall (word : String)
  | equalsSign
  | assigned (kind : String)
  | assignedHere (kind : String)
  | named (kind : String)
  | starred
  | doubleStarred
  | starredFor
  | bareTarget
  | tableFor
  | starredValue
  | noValue
  | noColon
  | starAfterKeywords
  | bareGenerator
  | plainAfterKeyword (unpacks : Bool)
  | assignmentInCall
  | noDefault
  | plainAfterDefault
  | bracketedParameters
  | slashFirst
  | slashTwice
  | slashAfterStar
  | slashThenStar
  | bareStar
  | starDefault
  | starTwice
  | keywordsDefault
  | afterKeywords
  | mixedTexts
  | bytesCharacter
  | bytesEscape (place : Nat)
  | escape (first last : Nat) (cause : EscapeFault)
  | inField (fault : Fault)
  | fieldBrace
  | fieldDepth
  | fieldBackslash
  | fieldComment
  | fieldBracketDepth
  | fieldUnmatched (bracket : Char)
  | fieldMismatched (closing opening : Char)
  | fieldText
  | fieldEnd
  | fieldEmpty
  | fieldNothing (mark : Char)
  | fieldConversion
  deriving DecidableEq, Repr

/-- The number of a character in hexadecimal, with four digits or more. -/
def codeOf (c : Char) : String :=
  let digits := (Nat.toDigits 16 c.toNat).map Char.toUpper
  String.ofList (List.replicate (4 - digits.length) '0' ++ digits)

def quote (c : Char) : String := "'" ++ String.singleton c ++ "'"

def EscapeFault.message : EscapeFault → String
  | .short letter digits =>
    "truncated \\" ++ String.ofList (letter :: List.replicate digits 'X') ++ " escape"
  | .noCharacter => "illegal Unicode character"
  | .noName => "malformed \\N character escape"
  | .unknownName => "unknown Unicode character name"

def closes (closing opening : Char) : String :=
  "closing parenthesis " ++ quote closing ++ " does not match opening parenthesis " ++ quote opening

namespace Fault

def message : Fault → String
  | character c =>
    if Text.isPrintable c then "invalid character " ++ quote c ++ " (U+" ++ codeOf c ++ ")"
    else "invalid non-printable character U+" ++ codeOf c
  | number base => "invalid " ++ base ++ " literal"
  | digit c base => "invalid digit " ++ quote c ++ " in " ++ base ++ " literal"
  | leadingZeros =>
    "leading zeros in decimal integer literals are not permitted; " ++
      "use an 0o prefix for octal integers"
  | digits count =>
    Numeral.unreadableMessage count ++
      " - Consider hexadecimal for huge integer literals to avoid decimal conversion limits."
  | unterminated isTriple line =>
    "unterminated " ++ (if isTriple then "triple-quoted " else "") ++
      "string literal (detected at line " ++ toString line ++ ")"
  | unmatched bracket => "unmatched " ++ quote bracket
  | mismatched closing opening none => closes closing opening
  | mismatched closing opening (some line) => closes closing opening ++ " on line " ++ toString line
  | bracketDepth => "too many nested parentheses"
  | neverClosed bracket => quote bracket ++ " was never closed"
  | continuation => "unexpected character after line continuation character"
  | earlyEnd => "unexpected EOF while parsing"
  | indent => "unexpected indent"
  | unindent => "unexpected unindent"
  | unindentLevel => "unindent does not match any outer indentation level"
  | indentBlanks => "inconsistent use of tabs and spaces in indentation"
  | indentDepth => "too many levels of indentation"
  | form => "invalid syntax"
  | noComma => "invalid syntax. Perhaps you forgot a comma?"
  | noElse => "expected 'else' after 'if' expression"
  | noCall word =>
    "Missing parentheses in call to '" ++ word ++ "'. Did you mean " ++ word ++ "(...)?"
  | equalsSign => "invalid syntax. Maybe you meant '==' or ':=' instead of '='?"
  | assigned kind => "cannot assign to " ++ kind
  | assignedHere kind =>
    "cannot assign to " ++ kind ++ " here. Maybe you meant '==' instead of '='?"
  | named kind => "cannot use assignment expressions with " ++ kind
  | starred => "cannot use starred expression here"
  | doubleStarred => "cannot use double starred expression here"
  | starredFor => "iterable unpacking cannot be used in comprehension"
  | bareTarget => "did you forget parentheses around the comprehension target?"
  | tableFor => "dict unpacking cannot be used in dict comprehension"
  | starredValue => "cannot use a starred expression in a dictionary value"
  | noValue => "expression expected after dictionary key and ':'"
  | noColon => "':' expected after dictionary key"
  | starAfterKeywords =>
    "iterable argument unpacking follows keyword argument unpacking"
  | bareGenerator => "Generator expression must be parenthesized"
  | plainAfterKeyword unpacks =>
    "positional argument follows keyword argument" ++ (if unpacks then " unpacking" else "")
  | assignmentInCall => "expression cannot contain assignment, perhaps you meant \"==\"?"
  | noDefault => "expected default value expression"
  | plainAfterDefault => "non-default argument follows default argument"
  | bracketedParameters => "Lambda expression parameters cannot be parenthesized"
  | slashFirst => "at least one argument must precede /"
  | slashTwice => "/ may appear only once"
  | slashAfterStar => "/ must be ahead of *"
  | slashThenStar => "expected comma between / and *"
  | bareStar => "named arguments must follow bare *"
  | starDefault => "var-positional argument cannot have default value"
  | starTwice => "* argument may appear only once"
  | keywordsDefault => "var-keyword argument cannot have default value"
  | afterKeywords => "arguments cannot follow var-keyword argument"
  | mixedTexts => "cannot mix bytes and nonbytes literals"
  | bytesCharacter => "bytes can only contain ASCII literal characters"
  | bytesEscape place => "(value error) invalid \\x escape at position " ++ toString place
  | escape first last cause =>
    "(unicode error) 'unicodeescape' codec can't decode bytes in position " ++ toString first ++
      "-" ++ toString last ++ ": " ++ cause.message
  | inField fault => "f-string: " ++ message fault
  | fieldBrace => "f-string: single '\x7d' is not allowed"
  | fieldDepth => "f-string: expressions nested too deeply"
  | fieldBackslash => "f-string expression part cannot include a backslash"
  | fieldComment => "f-string expression part cannot include '#'"
  | fieldBracketDepth => "f-string: too many nested parenthesis"
  | fieldUnmatched bracket => "f-string: unmatched " ++ quote bracket
  | fieldMismatched closing opening => "f-string: " ++ closes closing opening
  | fieldText => "f-string: unterminated string"
  | fieldEnd => "f-string: expecting '\x7d'"
  | fieldEmpty => "f-string: empty expression not allowed"
  | fieldNothing mark => "f-string: expression required before " ++ quote mark
  | fieldConversion => "f-string: invalid conversion character: expected 's', 'r', or 'a'"

end Fault

end ContactFlow.Handler
