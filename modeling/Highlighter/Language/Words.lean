/-!
# Words

The words that the built-in languages mark. Pure data.
-/

namespace Highlighter.Words

/-- Directives of the C preprocessor that are no keywords of C. -/
def cDirectives : List String :=
  ["define", "elif", "endif", "error", "ifdef", "ifndef", "include", "line", "pragma", "undef",
   "warning"]

/-- Keywords of C89. -/
def c89Keywords : List String :=
  ["auto", "break", "case", "char", "const", "continue", "default", "do", "double", "else",
   "enum", "extern", "float", "for", "goto", "if", "int", "long", "register", "return", "short",
   "signed", "sizeof", "static", "struct", "switch", "typedef", "union", "unsigned", "void",
   "volatile", "while"]

/-- Keywords that C99 adds. -/
def c99Keywords : List String :=
  ["inline", "restrict", "_Bool", "_Complex", "_Imaginary"]

/-- Keywords that C++ adds. -/
def cppKeywords : List String :=
  ["alignas", "alignof", "and", "and_eq", "asm", "bitand", "bitor", "bool", "catch", "class",
   "compl", "concept", "consteval", "constexpr", "constinit", "const_cast", "co_await",
   "co_return", "co_yield", "decltype", "delete", "dynamic_cast", "explicit", "export", "false",
   "friend", "mutable", "namespace", "new", "noexcept", "not", "not_eq", "nullptr", "operator",
   "or", "or_eq", "private", "protected", "public", "reinterpret_cast", "requires",
   "static_assert", "static_cast", "template", "this", "thread_local", "throw", "true", "try",
   "typeid", "typename", "using", "virtual", "wchar_t", "xor", "xor_eq"]

/-- Keywords of Java. -/
def javaKeywords : List String :=
  ["abstract", "assert", "boolean", "break", "byte", "case", "catch", "char", "class", "const",
   "continue", "default", "do", "double", "else", "enum", "extends", "false", "final", "finally",
   "float", "for", "goto", "if", "implements", "import", "instanceof", "int", "interface", "long",
   "native", "new", "null", "package", "private", "protected", "public", "record", "return",
   "sealed", "short", "static", "strictfp", "super", "switch", "synchronized", "this", "throw",
   "throws", "transient", "true", "try", "var", "void", "volatile", "while", "yield"]

/-- Preprocessor directives of C# that are no keywords. -/
def csharpDirectives : List String :=
  ["define", "elif", "endif", "endregion", "error", "line", "nullable", "pragma", "region",
   "undef", "warning"]

/-- Keywords of C#. -/
def csharpKeywords : List String :=
  ["abstract", "as", "base", "bool", "break", "byte", "case", "catch", "char", "checked", "class",
   "const", "continue", "decimal", "default", "delegate", "do", "double", "else", "enum", "event",
   "explicit", "extern", "false", "finally", "fixed", "float", "for", "foreach", "goto", "if",
   "implicit", "in", "int", "interface", "internal", "is", "lock", "long", "namespace", "new",
   "null", "object", "operator", "out", "override", "params", "private", "protected", "public",
   "readonly", "ref", "return", "sbyte", "sealed", "short", "sizeof", "stackalloc", "static",
   "string", "struct", "switch", "this", "throw", "true", "try", "typeof", "uint", "ulong",
   "unchecked", "unsafe", "ushort", "using", "var", "virtual", "void", "volatile", "while",
   "async", "await", "get", "set", "value", "yield", "record"]

/-- Keywords of PHP. -/
def phpKeywords : List String :=
  ["abstract", "and", "array", "as", "break", "callable", "case", "catch", "class", "clone",
   "const", "continue", "declare", "default", "do", "echo", "else", "elseif", "empty",
   "enddeclare", "endfor", "endforeach", "endif", "endswitch", "endwhile", "enum", "extends",
   "false", "final", "finally", "fn", "for", "foreach", "function", "global", "goto", "if",
   "implements", "include", "include_once", "instanceof", "insteadof", "interface", "isset",
   "list", "match", "namespace", "new", "null", "or", "print", "private", "protected", "public",
   "readonly", "require", "require_once", "return", "static", "switch", "throw", "trait", "true",
   "try", "unset", "use", "var", "while", "xor", "yield", "$this"]

/-- Keywords of Perl. -/
def perlKeywords : List String :=
  ["__DATA__", "__END__", "__FILE__", "__LINE__", "__PACKAGE__", "BEGIN", "END", "and", "cmp",
   "continue", "defined", "do", "else", "elsif", "eq", "eval", "exists", "for", "foreach", "ge",
   "gt", "if", "last", "le", "local", "lt", "my", "ne", "next", "no", "not", "or", "our",
   "package", "print", "redo", "ref", "require", "return", "scalar", "shift", "sub", "undef",
   "unless", "until", "use", "wantarray", "while", "xor"]

/-- Keywords of Ruby. -/
def rubyKeywords : List String :=
  ["__FILE__", "__LINE__", "BEGIN", "END", "alias", "and", "begin", "break", "case", "class",
   "def", "defined", "do", "else", "elsif", "end", "ensure", "false", "for", "if", "in", "module",
   "next", "nil", "not", "or", "redo", "rescue", "retry", "return", "self", "super", "then",
   "true", "undef", "unless", "until", "when", "while", "yield", "require", "attr_accessor",
   "attr_reader", "attr_writer", "private", "protected", "public"]

/-- Keywords of Python. -/
def pythonKeywords : List String :=
  ["False", "None", "True", "and", "as", "assert", "async", "await", "break", "class", "continue",
   "def", "del", "elif", "else", "except", "finally", "for", "from", "global", "if", "import",
   "in", "is", "lambda", "nonlocal", "not", "or", "pass", "raise", "return", "try", "while",
   "with", "yield", "match", "case", "self"]

/-- Keywords of Pascal. -/
def pascalKeywords : List String :=
  ["and", "array", "as", "asm", "begin", "case", "class", "const", "constructor", "destructor",
   "div", "do", "downto", "else", "end", "except", "exports", "file", "finalization", "finally",
   "for", "function", "goto", "if", "implementation", "in", "inherited", "initialization",
   "inline", "interface", "is", "label", "library", "mod", "nil", "not", "object", "of", "or",
   "packed", "procedure", "program", "property", "raise", "record", "repeat", "set", "shl", "shr",
   "string", "then", "threadvar", "to", "try", "type", "unit", "until", "uses", "var", "while",
   "with", "xor", "integer", "boolean", "char", "real", "true", "false"]

/-- Keywords of SQL. -/
def sqlKeywords : List String :=
  ["ABORT", "ADD", "AGGREGATE", "ALL", "ALTER", "ANALYZE", "AND", "ANY", "AS", "ASC", "BEGIN",
   "BETWEEN", "BY", "CASCADE", "CASE", "CAST", "CHECK", "CHECKPOINT", "CLUSTER", "COALESCE",
   "COLLATE", "COLUMN", "COMMENT", "COMMIT", "CONSTRAINT", "COPY", "CREATE", "CROSS",
   "CURRENT_DATE", "CURRENT_TIME", "CURRENT_TIMESTAMP", "CURRENT_USER", "CURSOR", "DATABASE",
   "DECLARE", "DEFAULT", "DEFERRABLE", "DELETE", "DESC", "DISTINCT", "DO", "DOMAIN", "DROP",
   "ELSE", "END", "EXCEPT", "EXECUTE", "EXISTS", "EXPLAIN", "EXTENSION", "FALSE", "FETCH",
   "FILTER", "FOR", "FOREIGN", "FROM", "FULL", "FUNCTION", "GRANT", "GROUP", "HAVING", "IF",
   "ILIKE", "IN", "INDEX", "INHERITS", "INNER", "INSERT", "INTERSECT", "INTO", "IS", "JOIN",
   "KEY", "LANGUAGE", "LATERAL", "LEFT", "LIKE", "LIMIT", "LISTEN", "LOCK", "NATURAL", "NOT",
   "NOTIFY", "NULL", "OFFSET", "ON", "ONLY", "OR", "ORDER", "OUTER", "OVER", "OWNER", "PARTITION",
   "PRIMARY", "PROCEDURE", "REFERENCES", "REINDEX", "RENAME", "REPLACE", "RESET", "RETURNING",
   "RETURNS", "REVOKE", "RIGHT", "ROLE", "ROLLBACK", "RULE", "SCHEMA", "SELECT", "SEQUENCE",
   "SESSION_USER", "SET", "SHOW", "SOME", "START", "TABLE", "TABLESPACE", "TEMPORARY", "THEN",
   "TO", "TRANSACTION", "TRIGGER", "TRUE", "TRUNCATE", "TYPE", "UNION", "UNIQUE", "UNLISTEN",
   "UPDATE", "USER", "USING", "VACUUM", "VALUES", "VIEW", "WHEN", "WHERE", "WINDOW", "WITH"]

/-- Type names of SQL. -/
def sqlTypes : List String :=
  ["BIGINT", "BIGSERIAL", "BIT", "BOOL", "BOOLEAN", "BYTEA", "CHAR", "CHARACTER", "CIDR", "DATE",
   "DECIMAL", "DOUBLE", "FLOAT", "INET", "INT", "INT2", "INT4", "INT8", "INTEGER", "INTERVAL",
   "JSON", "JSONB", "MONEY", "NUMERIC", "OID", "REAL", "SERIAL", "SMALLINT", "TEXT", "TIME",
   "TIMESTAMP", "TIMESTAMPTZ", "UUID", "VARCHAR", "VARYING", "XML"]

/-- Special forms and standard macros of Scheme. -/
def schemeKeywords : List String :=
  ["and", "begin", "call-with-current-continuation", "call/cc", "case", "case-lambda", "cond",
   "define", "define-record-type", "define-syntax", "delay", "do", "else", "guard", "if",
   "lambda", "let", "let*", "let-syntax", "letrec", "letrec*", "let-values", "or", "quasiquote",
   "quote", "set!", "syntax-rules", "unless", "unquote", "when"]

end Highlighter.Words
