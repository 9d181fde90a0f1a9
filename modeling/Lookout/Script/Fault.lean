/-
What can go wrong while a script runs, and how it is reported.
-/
import Lookout.Decimal.Layout

namespace Lookout.Script

/-- A fault of a running script. -/
inductive Fault where
  /-- The script gave up by itself. -/
  | failed (text : String)
  /-- Names. -/
  | unknownName (name : String)
  | unassigned (name : String)
  | noImports (file : String)
  /-- Operations that a type does not have. -/
  | unsupported (operation type : String)
  | unsupportedPair (operation left right : String)
  | noAttribute (type name : String)
  | notHashable (type : String)
  | expectedInt (type shown : String)
  | immutable
  | mutatedInLoop
  /-- Numbers. -/
  | floorDivisionByZero (n : Int)
  | moduloByZero (n : Int)
  | floatDivisionByZero (left right : String)
  | divideByZero
  | negativeLeftShift
  | negativeRightShift
  | leftShiftOverflow
  | notWhole (shown : String)
  | notAnInteger (text : String) (base : Nat)
  | invalidBase (base : Int)
  | baseWithoutText (shown : String)
  | notANumber (shown reason : String)
  | numberTooLarge (text : String)
  | tooBigForIndex (n : Int)
  /-- Items and keys. -/
  | keyNotFound (shown : String)
  | keyNotInDict (key dict : String)
  | repeatedKey (shown : String)
  | emptyDict
  | indexOutOfBound (n : Int)
  | notInList (item list : String)
  | notInSequence (item list : String)
  | noSubstring (part whole : String)
  | emptySeparator
  | negativeCount (n : Int)
  | notAPair
  | updateWithoutPairs
  | unpackCount (found expected : Nat)
  /-- Calls. -/
  | callStackOverflow
  | missingParam (name function : String)
  | missingNamedParam (name function : String)
  | extraPositional (count : Nat) (function : String)
  | extraNamed (names : List String) (function : String)
  | repeatedArgument (name : String)
  | spreadNotIterable
  | spreadNamedNotDict
  | spreadNamedKey
  | wrongCount (least most found : Nat)
  | wrongParamType (param expected actual shown : String)
  | wrongOperandType (expected actual shown : String)
  | typeMismatch (shown type expected place : String)
  | badType (shown : String)
  /-- Single functions. -/
  | negativeCode (n : Int)
  | invalidCode (n : Int)
  | notOneCharacter (shown : String)
  | zeroStep
  | emptyIterable
  /-- Text put together from a pattern. -/
  | tooFewArguments
  | tooManyArguments
  | incompleteFormat
  | unknownFormat (c : Char)
  | tooFewParams
  | mixedNumbering
  | unmatchedBrace
  | standaloneBrace (pattern : String)
  | invalidConversion (text : String)
  | invalidFieldCharacter (c : Char)
  /-- JSON text. -/
  | invalidJson (message : String)
  | notJson (reason : String)
deriving DecidableEq, Repr

/-- The words of a count of arguments. -/
def countWords (least most : Nat) : String :=
  if least = most then toString least
  else "between " ++ toString least ++ " and " ++ toString most

/-- The decimal text of an integer. -/
def intText (n : Int) : String :=
  String.ofList (integerText n)

/-- The message of a fault. -/
def Fault.message : Fault → String
  | failed text => "fail:" ++ text
  | unknownName name => "Variable `" ++ name ++ "` not found"
  | unassigned name => "Local variable `" ++ name ++ "` referenced before assignment"
  | noImports file =>
    "No imports are available, you tried `" ++ file ++ "` (no call to `Evaluator.set_loader`)"
  | unsupported operation type =>
    "Operation `" ++ operation ++ "` not supported on type `" ++ type ++ "`"
  | unsupportedPair operation left right =>
    "Operation `" ++ operation ++ "` not supported for types `" ++ left ++ "` and `" ++ right ++ "`"
  | noAttribute type name => "Object of type `" ++ type ++ "` has no attribute `" ++ name ++ "`"
  | notHashable type => "Value of type `" ++ type ++ "` is not hashable"
  | expectedInt type shown =>
    "Expected `int`, but got `" ++ type ++ " (repr: " ++ shown ++ ")`"
  | immutable => "Immutable"
  | mutatedInLoop => "This operation mutate an iterable for an iterator while iterating."
  | floorDivisionByZero n => "Floor division by zero: " ++ intText n ++ " // 0"
  | moduloByZero n => "Modulo by zero: " ++ intText n ++ " % 0"
  | floatDivisionByZero left right => "float division by zero: " ++ left ++ " / " ++ right
  | divideByZero => "Cannot divide by zero"
  | negativeLeftShift => "Negative left shift"
  | negativeRightShift => "Negative right shift"
  | leftShiftOverflow => "Integer overflow computing left shift"
  | notWhole shown => "Float `" ++ shown ++ "` cannot be represented as exact integer"
  | notAnInteger text base =>
    "Cannot parse `" ++ text ++ "` as an integer in base " ++ toString base
  | invalidBase base =>
    intText base ++ " is not a valid base, int() base must be >= 2 and <= 36"
  | baseWithoutText shown =>
    "int() cannot convert non-string with explicit base '" ++ shown ++ "'"
  | notANumber shown reason => shown ++ " is not a valid number: " ++ reason
  | numberTooLarge text => "float() floating-point number too large: " ++ text
  | tooBigForIndex n => "Integer value is too big to fit in i32: " ++ intText n
  | keyNotFound shown => "Key `" ++ shown ++ "` was not found"
  | keyNotInDict key dict => "Key `" ++ key ++ "` not found in dictionary `" ++ dict ++ "`"
  | repeatedKey shown => "Dictionary key repeated for `" ++ shown ++ "`"
  | emptyDict => "Cannot .popitem() on an empty dictionary"
  | indexOutOfBound n => "Index `" ++ intText n ++ "` is out of bound"
  | notInList item list => "Element '" ++ item ++ "' not found in list '" ++ list ++ "'"
  | notInSequence item list => "Element '" ++ item ++ "' not found in '" ++ list ++ "'"
  | noSubstring part whole => "Substring '" ++ part ++ "' not found in '" ++ whole ++ "'"
  | emptySeparator => "Empty separator cannot be used for partitioning"
  | negativeCount n => "Replace final argument was negative '" ++ intText n ++ "'"
  | notAPair => "Found a non-pair element in the positional argument of dict()"
  | updateWithoutPairs =>
    "dict.update expect a list of pairs or a dictionary as first argument, got a list of non-pairs."
  | unpackCount found expected =>
    "Unpacked " ++ toString found ++ " values but expected " ++ toString expected
  | callStackOverflow => "Starlark call stack overflow"
  | missingParam name function =>
    "Missing parameter `" ++ name ++ "` for call to `" ++ function ++ "`"
  | missingNamedParam name function =>
    "Missing named-only parameter `" ++ name ++ "` for call to `" ++ function ++ "`"
  | extraPositional count function =>
    "Found " ++ toString count ++ " extra positional argument(s) for call to " ++ function
  | extraNamed names function =>
    "Found `" ++ "` `".intercalate names ++ "` extra named parameter(s) for call to " ++ function
  | repeatedArgument name => "Argument `" ++ name ++ "` occurs more than once"
  | spreadNotIterable => "The argument provided for *args is not an iterable"
  | spreadNamedNotDict => "The argument provided for **kwargs is not a dictionary"
  | spreadNamedKey => "The argument provided for **kwargs has a key that is not a string"
  | wrongCount least most found =>
    "Wrong number of positional arguments, expected " ++ countWords least most ++ ", got "
      ++ toString found
  | wrongParamType param expected actual shown =>
    "Type of parameter `" ++ param ++ "` doesn't match, expected `" ++ expected ++ "`, actual `"
      ++ actual ++ " (repr: " ++ shown ++ ")`"
  | wrongOperandType expected actual shown =>
    "Type of parameters mismatch, expected `" ++ expected ++ "`, actual `" ++ actual
      ++ " (repr: " ++ shown ++ ")`"
  | typeMismatch shown type expected place =>
    "Value `" ++ shown ++ "` of type `" ++ type ++ "` does not match the type annotation `"
      ++ expected ++ "` for " ++ place
  | badType shown => "Type `" ++ shown ++ "` is not a valid type annotation"
  | negativeCode n => "chr() parameter value negative integer " ++ intText n
  | invalidCode n =>
    "chr() parameter value is 0x" ++ String.ofList (Nat.toDigits 16 n.toNat)
      ++ " which is not a valid UTF-8 codepoint"
  | notOneCharacter shown => "ord(): " ++ shown ++ " is not a single character string"
  | zeroStep => "Third argument of range (step) cannot be zero"
  | emptyIterable => "Argument is an empty iterable, max() expect a non empty iterable"
  | tooFewArguments => "Not enough arguments for format string"
  | tooManyArguments => "Too many arguments for format string"
  | incompleteFormat => "Incomplete format"
  | unknownFormat c => "Unsupported format character: '" ++ toString c ++ "'"
  | tooFewParams => "Not enough parameters in format string"
  | mixedNumbering =>
    "Cannot mix manual field specification and automatic field numbering in format string"
  | unmatchedBrace => "Unmatched '\x7b' in format string"
  | standaloneBrace pattern => "Standalone '\x7d' in format string `" ++ pattern ++ "`"
  | invalidConversion text =>
    "'" ++ text
      ++ "' is not a valid format string specifier, only 's' and 'r' are valid specifiers"
  | invalidFieldCharacter c => "Invalid character '" ++ toString c ++ "' inside replacement field"
  | invalidJson message => message
  | notJson reason => reason

end Lookout.Script
