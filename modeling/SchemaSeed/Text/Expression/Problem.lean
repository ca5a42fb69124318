import SchemaSeed.Decimal.Natural
import SchemaSeed.Text.Printable

/-! What can be wrong with an expression, and how a message says it. -/

namespace SchemaSeed

namespace Expression

/-- Problems of a text between quotes. -/
inductive TextProblem
  | mixedKinds
  | characterInBytes
  | badByteEscape (position : Nat)
  | badEscape (start stop : Nat) (reason : Text)
deriving Repr, DecidableEq

/-- Problems of the expressions that stand in braces within a text. -/
inductive FieldProblem
  | singleBrace
  | unclosed
  | empty
  | missingBefore (mark : Char)
  | badConversion
  | tooDeep
  | tooManyBrackets
  | backslash
  | comment
  | unterminatedText
  | unmatched (bracket : Char)
  | mismatched (closing opening : Char)
deriving Repr, DecidableEq

/-- Problems of the arguments of a call. -/
inductive ArgumentProblem
  | bareStar
  | bareGenerator
  | positionalAfterNamed
  | positionalAfterUnpacked
  | starAfterUnpacked
  | assigned (name : Text)
  | assignedExpression
deriving Repr, DecidableEq

/-- Problems of what stands in brackets. -/
inductive GroupProblem
  | star
  | doubleStar
  | starInComprehension
  | doubleStarInComprehension
  | bareTarget
  | noColon
  | noValue
  | starValue
deriving Repr, DecidableEq

/-- Problems of the parameters of a function without a name. -/
inductive ParameterProblem
  | defaultFirst
  | brackets
  | slashFirst
  | slashTwice
  | slashAfterStar
  | noCommaBeforeStar
  | nothingAfterStar
  | defaultOfStar
  | starTwice
  | defaultOfDoubleStar
  | afterDoubleStar
  | noDefault
deriving Repr, DecidableEq

inductive Problem
  | nullCharacter
  | unknownCharacter (character : Char)
  | unterminatedText (tripled : Bool) (line : Nat)
  | unmatched (closing : Char)
  | mismatched (closing opening : Char) (line : Option Nat)
  | tooDeep
  | badNumber (kind : Text)
  | badDigit (digit : Char) (kind : Text)
  | leadingZeros
  | neverClosed (opening : Char)
  | brokenContinuation
  | endOfText
  | unevenIndent
  | mixedIndent
  | unexpectedIndent
  | numeralTooLong (digits : Nat)
  | badText (problem : TextProblem)
  | badField (problem : FieldProblem)
  | badArguments (problem : ArgumentProblem)
  | badGroup (problem : GroupProblem)
  | badParameters (problem : ParameterProblem)
  | missingComma
  | missingParentheses (name : Text)
  | noAlternative
  | assignment
  | assignmentTo (target : Text)
  | assignmentHere (target : Text)
  | namedAssignmentTo (target : Text)
  | malformed
  /-- A problem of an expression that stands in braces within a text. -/
  | inField (problem : Problem)
  | notLiteral (node : Option (Text × Nat))
  | unhashable (type : Text)
  | tooLarge
deriving Repr, DecidableEq

def TextProblem.message : TextProblem → Text
  | .mixedKinds => "cannot mix bytes and nonbytes literals"
  | .characterInBytes => "bytes can only contain ASCII literal characters"
  | .badByteEscape position =>
      "(value error) invalid \\x escape at position " ++ Decimal.natural position
  | .badEscape start stop reason =>
      "(unicode error) 'unicodeescape' codec can't decode bytes in position " ++
        Decimal.natural start ++ "-" ++ Decimal.natural stop ++ ": " ++ reason

def FieldProblem.message : FieldProblem → Text
  | .singleBrace => "f-string: single '\x7d' is not allowed"
  | .unclosed => "f-string: expecting '\x7d'"
  | .empty => "f-string: empty expression not allowed"
  | .missingBefore mark => "f-string: expression required before '" ++ [mark] ++ "'"
  | .badConversion => "f-string: invalid conversion character: expected 's', 'r', or 'a'"
  | .tooDeep => "f-string: expressions nested too deeply"
  | .tooManyBrackets => "f-string: too many nested parenthesis"
  | .backslash => "f-string expression part cannot include a backslash"
  | .comment => "f-string expression part cannot include '#'"
  | .unterminatedText => "f-string: unterminated string"
  | .unmatched bracket => "f-string: unmatched '" ++ [bracket] ++ "'"
  | .mismatched closing opening =>
      "f-string: closing parenthesis '" ++ [closing] ++ "' does not match opening parenthesis '" ++
        [opening] ++ "'"

def ArgumentProblem.message : ArgumentProblem → Text
  | .bareStar => "Invalid star expression"
  | .bareGenerator => "Generator expression must be parenthesized"
  | .positionalAfterNamed => "positional argument follows keyword argument"
  | .positionalAfterUnpacked => "positional argument follows keyword argument unpacking"
  | .starAfterUnpacked => "iterable argument unpacking follows keyword argument unpacking"
  | .assigned name => "cannot assign to " ++ name
  | .assignedExpression => "expression cannot contain assignment, perhaps you meant \"==\"?"

def GroupProblem.message : GroupProblem → Text
  | .star => "cannot use starred expression here"
  | .doubleStar => "cannot use double starred expression here"
  | .starInComprehension => "iterable unpacking cannot be used in comprehension"
  | .doubleStarInComprehension => "dict unpacking cannot be used in dict comprehension"
  | .bareTarget => "did you forget parentheses around the comprehension target?"
  | .noColon => "':' expected after dictionary key"
  | .noValue => "expression expected after dictionary key and ':'"
  | .starValue => "cannot use a starred expression in a dictionary value"

def ParameterProblem.message : ParameterProblem → Text
  | .defaultFirst => "non-default argument follows default argument"
  | .brackets => "Lambda expression parameters cannot be parenthesized"
  | .slashFirst => "at least one argument must precede /"
  | .slashTwice => "/ may appear only once"
  | .slashAfterStar => "/ must be ahead of *"
  | .noCommaBeforeStar => "expected comma between / and *"
  | .nothingAfterStar => "named arguments must follow bare *"
  | .defaultOfStar => "var-positional argument cannot have default value"
  | .starTwice => "* argument may appear only once"
  | .defaultOfDoubleStar => "var-keyword argument cannot have default value"
  | .afterDoubleStar => "arguments cannot follow var-keyword argument"
  | .noDefault => "expected default value expression"

namespace Problem

/-- The code of a character in at least four digits. -/
def codeText (character : Char) : Text :=
  let digits := (Nat.toDigits 16 character.toNat).map Char.toUpper
  "U+" ++ List.replicate (4 - digits.length) '0' ++ digits

/-- Whether a problem is found in the characters, before anything is read in them. -/
def isLexical : Problem → Bool
  | .nullCharacter | .unknownCharacter _ | .unterminatedText .. | .unmatched _
  | .mismatched .. | .tooDeep | .badNumber _ | .badDigit .. | .leadingZeros => true
  | _ => false

/-- Whether an expression can be read but not evaluated. -/
def isOfValue : Problem → Bool
  | .notLiteral _ | .unhashable _ | .tooLarge => true
  | _ => false

def message : Problem → Text
  | .nullCharacter => "source code string cannot contain null bytes"
  | .unknownCharacter character =>
      if Character.isPrintable character then
        "invalid character '" ++ [character] ++ "' (" ++ codeText character ++ ")"
      else "invalid non-printable character " ++ codeText character
  | .unterminatedText tripled line =>
      "unterminated " ++ (if tripled then "triple-quoted string" else "string") ++
        " literal (detected at line " ++ Decimal.natural line ++ ")"
  | .unmatched closing => "unmatched '" ++ [closing] ++ "'"
  | .mismatched closing opening line =>
      "closing parenthesis '" ++ [closing] ++ "' does not match opening parenthesis '" ++
        [opening] ++ "'" ++
        match line with
        | some line => " on line " ++ Decimal.natural line
        | none => []
  | .tooDeep => "too many nested parentheses"
  | .badNumber kind => "invalid " ++ kind ++ " literal"
  | .badDigit digit kind => "invalid digit '" ++ [digit] ++ "' in " ++ kind ++ " literal"
  | .leadingZeros =>
      "leading zeros in decimal integer literals are not permitted; " ++
        "use an 0o prefix for octal integers"
  | .neverClosed opening => "'" ++ [opening] ++ "' was never closed"
  | .brokenContinuation => "unexpected character after line continuation character"
  | .endOfText => "unexpected EOF while parsing"
  | .unevenIndent => "unindent does not match any outer indentation level"
  | .mixedIndent => "inconsistent use of tabs and spaces in indentation"
  | .unexpectedIndent => "unexpected indent"
  | .numeralTooLong digits =>
      Decimal.limitText ++ ": value has " ++ Decimal.natural digits ++ " digits" ++
        Decimal.limitAdvice ++ " - Consider hexadecimal for huge integer literals " ++
        "to avoid decimal conversion limits."
  | .badText problem => problem.message
  | .badField problem => problem.message
  | .badArguments problem => problem.message
  | .badGroup problem => problem.message
  | .badParameters problem => problem.message
  | .missingComma => "invalid syntax. Perhaps you forgot a comma?"
  | .missingParentheses name =>
      "Missing parentheses in call to '" ++ name ++ "'. Did you mean " ++ name ++ "(...)?"
  | .noAlternative => "expected 'else' after 'if' expression"
  | .assignment => "invalid syntax. Maybe you meant '==' or ':=' instead of '='?"
  | .assignmentTo target => "cannot assign to " ++ target
  | .assignmentHere target =>
      "cannot assign to " ++ target ++ " here. Maybe you meant '==' instead of '='?"
  | .namedAssignmentTo target => "cannot use assignment expressions with " ++ target
  | .malformed => "invalid syntax"
  | .inField problem => "f-string: " ++ problem.message
  | .notLiteral none => "malformed node or string: None"
  | .notLiteral (some (label, line)) =>
      "malformed node or string on line " ++ Decimal.natural line ++ ": <ast." ++ label ++
        " object at 0x0>"
  | .unhashable type => "unhashable type: '" ++ type ++ "'"
  | .tooLarge => "int too large to convert to float"

end Problem

end Expression

end SchemaSeed
