/-!
# Reserved words and operators of C and C++

Which words a C or C++ parser treats as keywords, which words name built-in types or qualify a
declaration, and how tightly each binary operator binds. C++ has every C word and more; a few
words (`auto`) change their role between the two.

Main definitions:
* `primitiveTypes`, `sizedWords`, `storageWords`, `qualifierWords`.
* `isReserved`: the word cannot be an identifier.
* `binaryPrecedence`, `assignmentOperators`, `unaryOperators`.
-/

namespace SourceAudit.Syntax.Words

/-- Words that name a built-in type on their own. -/
def primitiveTypes : List String :=
  ["bool", "char", "int", "float", "double", "void", "size_t", "ssize_t", "ptrdiff_t",
   "intptr_t", "uintptr_t", "charptr_t", "nullptr_t", "max_align_t", "int8_t", "int16_t",
   "int32_t", "int64_t", "uint8_t", "uint16_t", "uint32_t", "uint64_t", "char8_t", "char16_t",
   "char32_t", "char64_t"]

/-- Words that make a sized integer or floating type (`unsigned long`). -/
def sizedWords : List String := ["signed", "unsigned", "long", "short"]

/-- Storage classes and function specifiers. In C, `auto` is a storage class; in C++ it is a
placeholder type. -/
def storageWords (cpp : Bool) : List String :=
  ["extern", "static", "register", "inline", "__inline", "__inline__", "__forceinline",
   "thread_local", "__thread"] ++ (if cpp then [] else ["auto"])

/-- Type qualifiers. -/
def qualifierWords (cpp : Bool) : List String :=
  ["const", "constexpr", "volatile", "restrict", "__restrict__", "__extension__", "_Atomic",
   "_Noreturn", "noreturn", "_Nonnull"] ++
  (if cpp then ["mutable", "constinit", "consteval"] else [])

/-- Keywords of C. -/
def cKeywords : List String :=
  ["break", "case", "continue", "default", "do", "else", "enum", "for", "goto", "if",
   "return", "sizeof", "struct", "switch", "typedef", "union", "while", "_Alignas", "_Alignof",
   "_Generic", "alignas", "alignof", "offsetof", "__alignof__", "__alignof", "_alignof",
   "__attribute__", "__attribute", "__declspec", "asm", "__asm__", "__asm", "true", "false",
   "TRUE", "FALSE", "NULL", "nullptr", "__try", "__except", "__finally", "__leave",
   "__based", "__cdecl", "__clrcall", "__stdcall", "__fastcall", "__thiscall", "__vectorcall",
   "_unaligned", "__unaligned", "__restrict", "__uptr", "__sptr"]

/-- Keywords that C++ adds. -/
def cppKeywords : List String :=
  ["class", "namespace", "template", "typename", "public", "private", "protected", "virtual",
   "operator", "new", "delete", "this", "using", "friend", "explicit", "noexcept", "throw",
   "try", "catch", "decltype", "co_await", "co_return", "co_yield", "concept", "requires",
   "auto", "static_assert"]

/-- The word can never be an identifier in this dialect. -/
def isReserved (cpp : Bool) (w : String) : Bool :=
  cKeywords.contains w || primitiveTypes.contains w || sizedWords.contains w ||
  (storageWords cpp).contains w || (qualifierWords cpp).contains w ||
  (cpp && cppKeywords.contains w) ||
  (!cpp && w == "auto")

/-- How tightly a binary operator binds; every binary operator groups to the left. -/
def binaryPrecedence (cpp : Bool) : String → Option Int
  | "||" => some 1
  | "&&" => some 2
  | "|" => some 3
  | "^" => some 4
  | "&" => some 5
  | "==" => some 6
  | "!=" => some 6
  | "<" => some 7
  | ">" => some 7
  | "<=" => some 7
  | ">=" => some 7
  | "<<" => some 9
  | ">>" => some 9
  | "+" => some 10
  | "-" => some 10
  | "*" => some 11
  | "/" => some 11
  | "%" => some 11
  | "<=>" => if cpp then some 8 else none
  | "or" => if cpp then some 1 else none
  | "and" => if cpp then some 2 else none
  | "bitor" => if cpp then some 3 else none
  | "xor" => if cpp then some 4 else none
  | "bitand" => if cpp then some 5 else none
  | "not_eq" => if cpp then some 6 else none
  | _ => none

/-- Assignment operators; they group to the right and bind loosest of all but the comma. -/
def assignmentOperators (cpp : Bool) : List String :=
  ["=", "*=", "/=", "%=", "+=", "-=", "<<=", ">>=", "&=", "^=", "|="] ++
  (if cpp then ["and_eq", "or_eq", "xor_eq"] else [])

/-- Prefix operators that make a `unary_expression`. -/
def unaryOperators (cpp : Bool) : List String :=
  ["!", "~", "-", "+"] ++ (if cpp then ["not", "compl"] else [])

/-- Precedence of the conditional operator `?:`. -/
def conditionalPrecedence : Int := -1

/-- Precedence of assignment. -/
def assignmentPrecedence : Int := -2

end SourceAudit.Syntax.Words
