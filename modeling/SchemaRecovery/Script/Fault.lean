set_option autoImplicit false

namespace SchemaRecovery.Script

inductive Complaint where
  | illegal
  | unexpectedToken (text : String)
  | unexpectedEnd
  | unexpectedIdentifier
  | unexpectedNumber
  | unexpectedString
  | unexpectedTemplate (raw : String)
  | unexpectedReserved
  | unexpectedDeclaration
  | strictReserved
  | escapedKeyword
  | badHexEscape
  | octalInTemplate
  | octalInStrict
  | unterminatedPattern
  | badPattern
  | badAssignmentTarget
  | badForInTarget
  | badForOfTarget
  | strictAssignment
  | strictIncrementBefore
  | strictIncrementAfter
  | strictDelete
  | strictWith
  | strictFunction
  | strictFunctionName
  | strictVariableName
  | strictCatchVariable
  | strictParameterName
  | duplicateParameter
  | misplacedStrictDirective
  | restNotLast
  | restDefault
  | getterArity
  | setterArity
  | setterRest
  | duplicateProto
  | staticPrototype
  | constructorAccessor
  | constructorAsync
  | duplicateConstructor
  | letBinding
  | missingConstInitializer
  | loopInitializer
  | illegalBreak
  | illegalContinue
  | illegalReturn
  | newlineAfterThrow
  | undefinedLabel (label : String)
  | redeclaredLabel (label : String)
  | duplicateBinding (name : String)
  | secondDefault
  | lonelyTry
  | labeledGenerator
deriving Repr, DecidableEq

def Complaint.message : Complaint → String
  | illegal => "Unexpected token ILLEGAL"
  | unexpectedToken text => "Unexpected token " ++ text
  | unexpectedEnd => "Unexpected end of input"
  | unexpectedIdentifier => "Unexpected identifier"
  | unexpectedNumber => "Unexpected number"
  | unexpectedString => "Unexpected string"
  | unexpectedTemplate raw => "Unexpected quasi " ++ raw
  | unexpectedReserved => "Unexpected reserved word"
  | unexpectedDeclaration => "Unexpected token"
  | strictReserved => "Use of future reserved word in strict mode"
  | escapedKeyword => "Keyword must not contain escaped characters"
  | badHexEscape => "Invalid hexadecimal escape sequence"
  | octalInTemplate => "Octal literals are not allowed in template strings."
  | octalInStrict => "Octal literals are not allowed in strict mode."
  | unterminatedPattern => "Invalid regular expression: missing /"
  | badPattern => "Invalid regular expression"
  | badAssignmentTarget => "Invalid left-hand side in assignment"
  | badForInTarget => "Invalid left-hand side in for-in"
  | badForOfTarget => "Invalid left-hand side in for-loop"
  | strictAssignment => "Assignment to eval or arguments is not allowed in strict mode"
  | strictIncrementBefore =>
    "Prefix increment/decrement may not have eval or arguments operand in strict mode"
  | strictIncrementAfter =>
    "Postfix increment/decrement may not have eval or arguments operand in strict mode"
  | strictDelete => "Delete of an unqualified identifier in strict mode."
  | strictWith => "Strict mode code may not include a with statement"
  | strictFunction =>
    "In strict mode code, functions can only be declared at top level or inside a block"
  | strictFunctionName => "Function name may not be eval or arguments in strict mode"
  | strictVariableName => "Variable name may not be eval or arguments in strict mode"
  | strictCatchVariable => "Catch variable may not be eval or arguments in strict mode"
  | strictParameterName => "Parameter name eval or arguments is not allowed in strict mode"
  | duplicateParameter => "Strict mode function may not have duplicate parameter names"
  | misplacedStrictDirective =>
    "Illegal 'use strict' directive in function with non-simple parameter list"
  | restNotLast => "Rest parameter must be last formal parameter"
  | restDefault => "Unexpected token ="
  | getterArity => "Getter must not have any formal parameters"
  | setterArity => "Setter must have exactly one formal parameter"
  | setterRest => "Setter function argument must not be a rest parameter"
  | duplicateProto => "Duplicate __proto__ fields are not allowed in object literals"
  | staticPrototype => "Classes may not have static property named prototype"
  | constructorAccessor => "Class constructor may not be an accessor"
  | constructorAsync => "Class constructor may not be an async method"
  | duplicateConstructor => "A class may only have one constructor"
  | letBinding => "let is disallowed as a lexically bound name"
  | missingConstInitializer => "Missing initializer in const declaration"
  | loopInitializer => "for-in loop variable declaration may not have an initializer"
  | illegalBreak => "Illegal break statement"
  | illegalContinue => "Illegal continue statement"
  | illegalReturn => "Illegal return statement"
  | newlineAfterThrow => "Illegal newline after throw"
  | undefinedLabel label => "Undefined label '" ++ label ++ "'"
  | redeclaredLabel label => "Label '" ++ label ++ "' has already been declared"
  | duplicateBinding name => "Duplicate binding " ++ name
  | secondDefault => "More than one default clause in switch statement"
  | lonelyTry => "Missing catch or finally after try"
  | labeledGenerator => "Generator declarations are not allowed in legacy contexts"

inductive Fault where
  -- Why a script has no syntax tree. A column counts from one at the start of the line; it falls
  -- below one when the line that it counts from starts after the place.
  | refused (line : Nat) (column : Int) (complaint : Complaint)
  | tooDeep
  | headlessTemplate
deriving Repr, DecidableEq

end SchemaRecovery.Script
