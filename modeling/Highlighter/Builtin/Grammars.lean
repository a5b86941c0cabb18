import Highlighter.Grammar.Basic

/-!
# Built-in grammars

Grammars that are there without any file. In each of them the literals, which are comments, strings
and characters, are one alternation: the literal that starts first takes its text, so that nothing
inside a literal starts another one. The literals come last, so that at equal rank they lie over the
keywords and numbers inside them.
-/

namespace Highlighter.Builtin

/-- An expression for one of some words, as group 1. -/
def oneOf (words : List String) : String := "\\b(" ++ "|".intercalate words ++ ")\\b"

/-- Tags one of some words. -/
def keywords (words : List String) (scope : String) : Pattern :=
  (Pattern.single (oneOf words)).named scope

/-- Tags what an expression matches. -/
def tagged (source scope : String) : Pattern := (Pattern.single source).named scope

/-- A list of literals, each an expression in a group of its own with the scope of that group and
whether escapes are marked inside it. -/
def literals (alternatives : List (String × String × Bool)) : Pattern :=
  let rule := Pattern.single ("|".intercalate (alternatives.map (·.1)))
  alternatives.zipIdx.foldl (fun p (a, i) ↦ p.withCapture (i + 1)
    { name := some a.2.1, patterns := if a.2.2 then [.including "#escapes"] else [] }) rule

/-! ## Rust -/

/-- The literals of Rust. A comment or string that is not closed runs to the end of the region. -/
def rustLiterals : Pattern := literals [
  ("(/\\*(?s:.*?)(?:\\*/|\\z))", "comment.block.rust", false),
  ("(///.*$)", "comment.line.documentation.rust", false),
  ("(//.*$)", "comment.line.double-slash.rust", false),
  ("(\\br\"[^\"]*\"?|\\br#\"(?s:.*?)(?:\"#|\\z)|\\br##\"(?s:.*?)(?:\"##|\\z))",
    "string.quoted.raw.rust", false),
  ("(\"(?:[^\"\\\\]|\\\\.)*\"?)", "string.quoted.double.rust", true),
  ("('(?:[^'\\\\\\n]|\\\\.)')", "string.quoted.single.rust", true)]

/-- The keywords of Rust. -/
def rustKeywords : Pattern := .group [
  keywords ["break", "continue", "else", "for", "if", "loop", "match", "return", "while"]
    "keyword.control.rust",
  keywords
    ["as", "async", "await", "const", "crate", "dyn", "enum", "extern", "fn", "impl", "in",
     "let", "mod", "move", "mut", "pub", "ref", "self", "Self", "static", "struct", "super",
     "trait", "type", "union", "unsafe", "use", "where"]
    "keyword.other.rust",
  keywords ["true", "false", "None", "Some", "Ok", "Err"] "constant.language.rust"]

/-- The types of Rust. -/
def rustTypes : Pattern := .group [
  keywords
    ["bool", "char", "str", "u8", "u16", "u32", "u64", "u128", "usize", "i8", "i16", "i32",
     "i64", "i128", "isize", "f32", "f64", "String", "Vec", "Box", "Rc", "Arc", "Option",
     "Result"]
    "support.type.rust",
  tagged "\\b[A-Z][a-zA-Z0-9_]*\\b" "entity.name.type.rust"]

/-- The numbers of Rust. -/
def rustNumbers : Pattern := .group [
  tagged "\\b0x[0-9a-fA-F_]+\\b" "constant.numeric.hex.rust",
  tagged "\\b0b[01_]+\\b" "constant.numeric.binary.rust",
  tagged "\\b0o[0-7_]+\\b" "constant.numeric.octal.rust",
  tagged "\\b\\d[\\d_]*\\.\\d[\\d_]*(?:[eE][+-]?\\d+)?\\b" "constant.numeric.float.rust",
  tagged
    "\\b\\d[\\d_]*(?:u8|u16|u32|u64|u128|usize|i8|i16|i32|i64|i128|isize)?\\b"
    "constant.numeric.integer.rust"]

/-- The grammar of Rust. -/
def rust : Grammar where
  scopeName := "source.rust"
  displayName := some "Rust"
  fileTypes := ["rs"]
  patterns := [
    .including "#keywords",
    .including "#types",
    .including "#functions",
    .including "#numbers",
    tagged "[+\\-*/%&|^!<>=@]+" "keyword.operator.rust",
    tagged "'[A-Za-z_]\\w*" "storage.modifier.lifetime.rust",
    tagged "#!?\\[[^\\]\\n]*\\]" "meta.attribute.rust",
    .including "#literals"]
  repository := .ofList [
    ("keywords", rustKeywords),
    ("types", rustTypes),
    ("functions", .group [
      (Pattern.single "\\bfn\\s+([A-Za-z_]\\w*)").withCapture 1
        (.scope "entity.name.function.rust"),
      tagged "\\b[a-z_]\\w*!" "entity.name.function.macro.rust"]),
    ("numbers", rustNumbers),
    ("literals", rustLiterals),
    ("escapes", tagged
      "\\\\(?:[nrt\\\\0'\\x22]|x[0-9a-fA-F]\x7b2\x7d|u\\\x7b[0-9a-fA-F]\x7b1,6\x7d\\\x7d)"
      "constant.character.escape.rust")]

/-! ## C -/

/-- The literals of C. -/
def cLiterals : Pattern := literals [
  ("(/\\*(?s:.*?)(?:\\*/|\\z))", "comment.block.c", false),
  ("(//.*$)", "comment.line.double-slash.c", false),
  ("(\"(?:[^\"\\\\\\n]|\\\\.)*\"?)", "string.quoted.double.c", true),
  ("('(?:[^'\\\\\\n]|\\\\.)')", "string.quoted.single.c", true)]

/-- The keywords of C, and common ones of C++. -/
def cKeywords : Pattern := .group [
  keywords
    ["break", "case", "continue", "default", "do", "else", "for", "goto", "if", "return",
     "switch", "while"]
    "keyword.control.c",
  keywords
    ["auto", "char", "const", "double", "enum", "extern", "float", "inline", "int", "long",
     "register", "restrict", "short", "signed", "sizeof", "static", "struct", "typedef", "union",
     "unsigned", "void", "volatile", "_Alignas", "_Alignof", "_Atomic", "_Bool", "_Complex",
     "_Generic", "_Imaginary", "_Noreturn", "_Static_assert", "_Thread_local"]
    "storage.type.c",
  keywords
    ["alignas", "alignof", "and", "and_eq", "asm", "bitand", "bitor", "bool", "catch", "class",
     "compl", "concept", "consteval", "constexpr", "constinit", "const_cast", "co_await",
     "co_return", "co_yield", "decltype", "delete", "dynamic_cast", "explicit", "export",
     "friend", "mutable", "namespace", "new", "noexcept", "not", "not_eq", "operator", "or",
     "or_eq", "private", "protected", "public", "reinterpret_cast", "requires", "static_assert",
     "static_cast", "template", "this", "thread_local", "throw", "try", "typeid", "typename",
     "using", "virtual", "xor", "xor_eq"]
    "keyword.other.cpp",
  keywords
    ["size_t", "ptrdiff_t", "intptr_t", "uintptr_t", "int8_t", "int16_t", "int32_t", "int64_t",
     "uint8_t", "uint16_t", "uint32_t", "uint64_t", "FILE"]
    "support.type.c",
  keywords ["NULL", "nullptr", "true", "false"] "constant.language.c"]

/-- The numbers of C. -/
def cNumbers : Pattern := .group [
  tagged "\\b0[xX][0-9a-fA-F]+[uUlL]*\\b" "constant.numeric.hex.c",
  tagged
    ("\\b\\d+\\.\\d*(?:[eE][+-]?\\d+)?[fFlL]?\\b"
      ++ "|\\B\\.\\d+(?:[eE][+-]?\\d+)?[fFlL]?\\b")
    "constant.numeric.float.c",
  tagged "\\b\\d+[uUlL]*\\b" "constant.numeric.integer.c"]

/-- The grammar of C. -/
def c : Grammar where
  scopeName := "source.c"
  displayName := some "C"
  fileTypes := ["c", "h", "cpp", "hpp", "cc", "cxx"]
  patterns := [
    .including "#preprocessor",
    .including "#keywords",
    .including "#numbers",
    .including "#operators",
    .including "#literals"]
  repository := .ofList [
    ("preprocessor", tagged "^\\s*#\\s*\\w+" "meta.preprocessor.c"),
    ("keywords", cKeywords),
    ("numbers", cNumbers),
    ("operators", tagged "[+\\-*/%&|^!<>=~?:]+" "keyword.operator.c"),
    ("literals", cLiterals),
    ("escapes", tagged
      "\\\\(?:[abfnrtv\\\\'\\x22?]|[0-7]\x7b1,3\x7d|x[0-9a-fA-F]+)"
      "constant.character.escape.c")]

/-! ## C# -/

/-- The literals of C#. Verbatim strings double their quotes and have no escapes. -/
def csharpLiterals : Pattern := literals [
  ("(/\\*(?s:.*?)(?:\\*/|\\z))", "comment.block.cs", false),
  ("(///.*$)", "comment.line.documentation.cs", false),
  ("(//.*$)", "comment.line.double-slash.cs", false),
  ("((?:\\$?@|@\\$)\"(?:[^\"]|\"\")*\"?)", "string.quoted.double.verbatim.cs", false),
  ("(\\$?\"(?:[^\"\\\\\\n]|\\\\.)*\"?)", "string.quoted.double.cs", true),
  ("('(?:[^'\\\\\\n]|\\\\(?:u[0-9a-fA-F]\x7b4\x7d|.))')", "string.quoted.single.cs", true)]

/-- The keywords of C#. -/
def csharpKeywords : Pattern := .group [
  keywords
    ["break", "case", "catch", "continue", "default", "do", "else", "finally", "for", "foreach",
     "goto", "if", "return", "switch", "throw", "try", "when", "while", "yield"]
    "keyword.control.cs",
  keywords
    ["abstract", "as", "async", "await", "base", "checked", "class", "const", "delegate", "enum",
     "event", "explicit", "extern", "fixed", "get", "implicit", "in", "init", "interface",
     "internal", "is", "lock", "namespace", "new", "operator", "out", "override", "params",
     "partial", "private", "protected", "public", "readonly", "record", "ref", "sealed", "set",
     "sizeof", "stackalloc", "static", "struct", "this", "typeof", "unchecked", "unsafe",
     "using", "var", "virtual", "volatile", "where", "with"]
    "keyword.other.cs",
  keywords
    ["bool", "byte", "char", "decimal", "double", "dynamic", "float", "int", "long", "nint",
     "nuint", "object", "sbyte", "short", "string", "uint", "ulong", "ushort", "void"]
    "storage.type.cs",
  keywords ["true", "false", "null"] "constant.language.cs"]

/-- The numbers of C#. -/
def csharpNumbers : Pattern := .group [
  tagged "\\b0[xX][0-9a-fA-F_]+[uUlL]*\\b" "constant.numeric.hex.cs",
  tagged "\\b0[bB][01_]+[uUlL]*\\b" "constant.numeric.binary.cs",
  tagged "\\b\\d[\\d_]*\\.\\d[\\d_]*(?:[eE][+-]?\\d+)?[fFdDmM]?\\b" "constant.numeric.float.cs",
  tagged
    "\\b\\d[\\d_]*(?:[uU][lL]?|[lL][uU]?|[fFdDmM])?\\b"
    "constant.numeric.integer.cs"]

/-- The grammar of C#. -/
def csharp : Grammar where
  scopeName := "source.cs"
  displayName := some "C#"
  fileTypes := ["cs", "csx"]
  patterns := [
    tagged "^\\s*#\\s*\\w+" "meta.preprocessor.cs",
    .including "#keywords",
    (Pattern.single "\\b(?:class|struct|interface|enum|record)\\s+([A-Za-z_]\\w*)").withCapture 1
      (.scope "entity.name.type.cs"),
    .including "#numbers",
    tagged "[+\\-*/%&|^!<>=~?:]+" "keyword.operator.cs",
    tagged "^\\s*\\[[A-Za-z_][\\w.]*(?:\\([^)\\n]*\\))?\\]" "meta.attribute.cs",
    .including "#literals"]
  repository := .ofList [
    ("keywords", csharpKeywords),
    ("numbers", csharpNumbers),
    ("literals", csharpLiterals),
    ("escapes", tagged
      ("\\\\(?:[0abfnrtv\\\\'\\x22]|x[0-9a-fA-F]\x7b1,4\x7d"
        ++ "|u[0-9a-fA-F]\x7b4\x7d|U[0-9a-fA-F]\x7b8\x7d)")
      "constant.character.escape.cs")]

/-! ## JSON -/

/-- An expression for a string, which may lack its closing quote. -/
def jsonString : String := "\"(?:[^\"\\\\\\n]|\\\\.)*\"?"

/-- The grammar of JSON. -/
def json : Grammar where
  scopeName := "source.json"
  displayName := some "JSON"
  fileTypes := ["json"]
  patterns := [
    tagged "[\x7b\x7d\\[\\],:]" "punctuation.separator.json",
    tagged "-?(?:0|[1-9]\\d*)(?:\\.\\d+)?(?:[eE][+-]?\\d+)?" "constant.numeric.json",
    tagged "\\b(?:true|false|null)\\b" "constant.language.json",
    (tagged jsonString "string.quoted.double.json").withPatterns [.including "#escapes"],
    (Pattern.single ("(" ++ jsonString ++ ")\\s*:")).withCapture 1
      (.scope "support.type.property-name.json")]
  repository := .ofList [
    ("escapes", .group [
      tagged "\\\\(?:[\"\\\\/bfnrt]|u[0-9a-fA-F]\x7b4\x7d)" "constant.character.escape.json",
      tagged "\\\\." "invalid.illegal.unrecognized-string-escape.json"])]

/-! ## Letters -/

/-- A small recursive grammar: the letters `a`, `b` and `c`, and parentheses nested at will. -/
def abc : Grammar where
  scopeName := "source.abc"
  displayName := some "ABC"
  fileTypes := ["abc"]
  patterns := [.including "#expression"]
  repository := .ofList [
    ("expression", .group [.including "#letter", .including "#paren-expression"]),
    ("letter", tagged "a|b|c" "keyword.letter"),
    ("paren-expression", { (Pattern.block "\\(" "\\)") with
      name := some "expression.group"
      beginCaptures := [(0, .scope "punctuation.paren.open")]
      endCaptures := [(0, .scope "punctuation.paren.close")]
      patterns := [.including "#expression"] })]

/-- All built-in grammars. -/
def grammars : List Grammar := [rust, c, csharp, json, abc]

end Highlighter.Builtin
