/-! The reserved words of the language, and its operators and marks. -/

namespace FixCorpus.Lexer

def keywords : List String :=
  ["abstract", "as", "async", "await", "base", "break", "by", "case", "catch", "checked",
   "const", "continue", "default", "delegate", "do", "else", "enum", "event", "explicit",
   "extern", "false", "finally", "fixed", "for", "foreach", "goto", "if", "implicit", "in",
   "interface", "internal", "is", "let", "lock", "new", "null", "on", "operator", "out",
   "override", "params", "private", "protected", "public", "readonly", "ref", "return",
   "sealed", "sizeof", "stackalloc", "static", "switch", "this", "throw", "true", "try",
   "typeof", "unchecked", "unsafe", "virtual", "void", "while", "get", "set", "partial",
   "yield", "add", "remove", "value", "alias", "ascending", "descending", "from", "group",
   "into", "orderby", "select", "thenby", "where", "join", "equals", "global", "namespace",
   "using"]

def declarationKeywords : List String :=
  ["class", "struct"]

def typeKeywords : List String :=
  ["bool", "byte", "char", "decimal", "double", "dynamic", "float", "int", "long", "object",
   "sbyte", "short", "string", "uint", "ulong", "ushort", "var"]

def directiveWords : List String :=
  ["if", "endif", "else", "elif", "define", "undef", "line", "error", "warning", "region",
   "endregion", "pragma"]

/-- The operators, longer ones before the ones they begin with. -/
def operators : List String :=
  ["->*", ">>=", "<<=", "...",
   "++", "+=", "--", "-=", "->", "&&", "&=", "||", "|=", "!=", "%=", "*=", "==", "::", "^=",
   ">=", ">>", "<=", "<<", "/=",
   "~", "!", "%", "^", "&", "*", "+", "=", "|", ":", "<", ">", "?", "/", "-"]

def codePunctuation : String := "\x7b\x7d()[];,."

end FixCorpus.Lexer
