/-
  Script/Lexeme/Punctuator.lean --- punctuators, the longest first.
-/

set_option autoImplicit false

namespace GoogIndex.Script

/-- The punctuators of the script language, longer ones before their fronts. -/
def punctuators : List String :=
  [">>>=",
    "...", "===", "!==", ">>>", "<<=", ">>=", "**=",
    "&&", "||", "==", "!=", "+=", "-=", "*=", "/=", "++", "--", "<<", ">>", "&=", "|=", "^=", "%=",
    "<=", ">=", "=>", "**",
    "(", ")", "\x7b", "\x7d", "[", "]", ";", ",", ":", "?", "~", ".",
    "<", ">", "=", "!", "+", "-", "*", "%", "&", "|", "^", "/"]

/-- The longest punctuator at the front. -/
def scanPunctuator? (cs : List Char) : Option String :=
  punctuators.find? fun p => p.toList.isPrefixOf cs

end GoogIndex.Script
