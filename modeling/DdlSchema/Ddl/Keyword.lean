import DdlSchema.Ddl.Dialect
import DdlSchema.Ddl.Token

/-! The words of the dialects: operators and keywords, the names of types, and what a word may
stand for where a name or a call is expected. -/

set_option autoImplicit false

namespace DdlSchema.Ddl

def operators (dialect : Dialect) : List String :=
  (match dialect with
    | .postgresql => ["@>", "<@", "#-", "@@", "||/", "|/", "?&", "?|"]
    | .mysql => ["@@"]
    | .sqlite => []) ++
    ["||", "<<->>", "<=>", "<->", "<=", "<>", ">=", "!=", "==", ":=", "?::", "::", "->>", "->", "=>",
      "#>>", "#>", "&&", "??", "~~~", "~~*", "~~", "~*", "|>", "&<", "&>", "-|-"]

def phrases (dialect : Dialect) : List String :=
  ["PRIMARY KEY", "FOREIGN KEY", "CHARACTER VARYING", "CHAR VARYING", "DOUBLE PRECISION",
    "GROUP BY", "ORDER BY", "PARTITION BY", "PARTITIONED BY", "CLUSTER BY", "DISTRIBUTE BY",
    "SORT BY", "GROUPING SETS", "SIMILAR TO", "USER-DEFINED"] ++
    (match dialect with
      | .postgresql => ["BEGIN TRANSACTION", "CONSTRAINT TRIGGER"]
      | .mysql =>
        ["UNSIGNED INTEGER", "SIGNED INTEGER", "MEMBER OF", "SOUNDS LIKE", "LOCK TABLES",
          "UNLOCK TABLES"]
      | .sqlite => ["INDEXED BY"])

def typeSynonyms : List (String × String) :=
  [("BOOL", "BOOLEAN"), ("BYTE", "TINYINT"), ("INT1", "TINYINT"), ("INT8", "TINYINT"),
    ("INT16", "SMALLINT"), ("SHORT", "SMALLINT"), ("INT2", "SMALLINT"), ("INTEGER", "INT"),
    ("INT4", "INT"), ("INT32", "INT"), ("INT64", "BIGINT"), ("LONG", "BIGINT"),
    ("HUGEINT", "INT128"), ("UHUGEINT", "UINT128"), ("DEC", "DECIMAL"), ("NUMBER", "DECIMAL"),
    ("NUMERIC", "DECIMAL"), ("FIXED", "DECIMAL"), ("BIGNUMERIC", "BIGDECIMAL"), ("REAL", "FLOAT"),
    ("FLOAT4", "FLOAT"), ("FLOAT8", "DOUBLE"), ("DOUBLE PRECISION", "DOUBLE"),
    ("CHARACTER", "CHAR"), ("CHAR VARYING", "VARCHAR"), ("CHARACTER VARYING", "VARCHAR"),
    ("VARCHAR2", "VARCHAR"), ("NVARCHAR2", "NVARCHAR"), ("STR", "TEXT"), ("STRING", "TEXT"),
    ("CLOB", "TEXT"), ("LONGVARCHAR", "TEXT"), ("BLOB", "VARBINARY"), ("BYTEA", "VARBINARY"),
    ("TIMESTAMP_LTZ", "TIMESTAMPLTZ"), ("TIMESTAMP_NTZ", "TIMESTAMPNTZ")]

def commonTypes : List String :=
  ["ARRAY", "BIT", "BOOLEAN", "TINYINT", "SMALLINT", "MEDIUMINT", "INT", "BIGINT", "INT128",
    "INT256", "UINT", "UINT128", "UINT256", "DECIMAL", "DECIMAL32", "DECIMAL64", "DECIMAL128",
    "DECIMAL256", "DECFLOAT", "BIGDECIMAL", "BIGNUM", "FLOAT", "DOUBLE", "JSON", "JSONB", "CHAR",
    "NCHAR", "VARCHAR", "NVARCHAR", "BPCHAR", "TEXT", "TINYTEXT", "MEDIUMTEXT", "LONGTEXT",
    "BINARY", "VARBINARY", "TINYBLOB", "MEDIUMBLOB", "LONGBLOB", "TIME", "TIMETZ", "TIME_NS",
    "TIMESTAMP", "TIMESTAMPTZ", "TIMESTAMPLTZ", "TIMESTAMPNTZ", "DATE", "DATETIME", "INT4RANGE",
    "INT4MULTIRANGE", "INT8RANGE", "INT8MULTIRANGE", "NUMRANGE", "NUMMULTIRANGE", "TSRANGE",
    "TSMULTIRANGE", "TSTZRANGE", "TSTZMULTIRANGE", "DATERANGE", "DATEMULTIRANGE", "INTERVAL",
    "UUID", "INET", "GEOGRAPHY", "GEOMETRY", "OBJECT", "USER-DEFINED", "VARIANT", "ENUM", "VECTOR", "MAP",
    "LIST", "STRUCT", "NULLABLE", "RANGE", "UNION", "UNKNOWN", "NULL"]

def dialectTypes : Dialect → List (String × String)
  | .postgresql =>
    [("INT8", "BIGINT"), ("FLOAT", "DOUBLE"), ("SERIAL", "SERIAL"), ("BIGSERIAL", "BIGSERIAL"),
      ("SMALLSERIAL", "SMALLSERIAL"), ("HSTORE", "HSTORE"), ("MONEY", "MONEY"), ("NAME", "NAME"),
      ("POINT", "POINT"), ("XML", "XML")]
  | .mysql =>
    [("BLOB", "BLOB"), ("TIMESTAMP", "TIMESTAMPTZ"), ("YEAR", "YEAR"), ("SERIAL", "SERIAL"),
      ("SET", "SET"), ("SIGNED", "BIGINT"), ("SIGNED INTEGER", "BIGINT"), ("UNSIGNED", "UBIGINT"),
      ("UNSIGNED INTEGER", "UBIGINT")]
  | .sqlite => [("FLOAT", "DOUBLE"), ("REAL", "DOUBLE")]

/-- Types of PostgreSQL that stand for objects of its catalogue. -/
def catalogueTypes : List String :=
  ["OID", "REGCLASS", "REGCOLLATION", "REGCONFIG", "REGDICTIONARY", "REGNAMESPACE", "REGOPER",
    "REGOPERATOR", "REGPROC", "REGPROCEDURE", "REGROLE", "REGTYPE", "CSTRING"]

def isCatalogueType (dialect : Dialect) (word : String) : Bool :=
  dialect == .postgresql && catalogueTypes.contains word

def typeNamed? (dialect : Dialect) (word : String) : Option String :=
  (dialectTypes dialect).lookup word <|> typeSynonyms.lookup word <|>
    (if commonTypes.contains word || isCatalogueType dialect word then some word else none)

def unsignedType? (name : String) : Option String :=
  [("BIGINT", "UBIGINT"), ("INT", "UINT"), ("MEDIUMINT", "UMEDIUMINT"), ("SMALLINT", "USMALLINT"),
    ("TINYINT", "UTINYINT"), ("DECIMAL", "UDECIMAL"), ("DOUBLE", "UDOUBLE")].lookup name

def isClockType (name : String) : Bool :=
  ["TIME", "TIMETZ", "TIME_NS", "TIMESTAMP", "TIMESTAMPTZ", "TIMESTAMPLTZ", "TIMESTAMPNTZ"].contains
    name

def commonKeywords : List String :=
  ["ALL", "ALTER", "ANALYZE", "AND", "ANTI", "ANY", "APPLY", "AS", "ASC", "ASOF",
    "AUTO_INCREMENT", "AUTOINCREMENT", "BEGIN", "BETWEEN", "CACHE", "CALL", "CASE", "COLLATE",
    "COLUMN", "COMMENT", "COMMIT", "CONSTRAINT", "COPY", "CREATE", "CROSS", "CUBE",
    "CURRENT_CATALOG", "CURRENT_DATE", "CURRENT_SCHEMA", "CURRENT_TIME", "CURRENT_TIMESTAMP",
    "CURRENT_USER", "DATABASE", "DEFAULT", "DELETE", "DESC", "DESCRIBE", "DISTINCT", "DROP", "ELSE",
    "END", "ESCAPE", "EXCEPT", "EXECUTE", "EXISTS", "EXPLAIN", "FALSE", "FETCH", "FILE", "FILTER", "FIRST",
    "FOR", "FORMAT", "FROM", "FULL", "FUNCTION", "GLOB", "GRANT", "HAVING", "ILIKE", "IN", "INDEX",
    "INNER", "INSERT", "INTERSECT", "INTO", "IS", "ISNULL", "JOIN", "KEEP", "KILL", "LATERAL",
    "LEFT", "LIKE", "LIMIT", "LOAD", "LOCALTIME", "LOCALTIMESTAMP", "LOCK", "MERGE", "NAMESPACE",
    "NATURAL", "NEXT", "NOT", "NOTNULL", "NULL", "OFFSET", "ON", "OPERATOR", "OPTIMIZE", "OR",
    "ORDINALITY", "OUT", "OUTER", "OVER", "OVERLAPS", "OVERWRITE", "PARTITION", "PARTITIONED_BY",
    "PERCENT", "PIVOT", "PRAGMA", "PREPARE", "PROCEDURE", "QUALIFY", "RANGE", "RECURSIVE",
    "REFERENCES", "REGEXP", "RENAME", "REPLACE", "RETURNING", "REVOKE", "RIGHT", "RLIKE",
    "ROLLBACK", "ROLLUP", "ROW", "ROWS", "SCHEMA", "SELECT", "SEMI", "SEQUENCE", "SESSION",
    "SESSION_USER", "SET", "SETTINGS", "SHOW", "SOME", "STRAIGHT_JOIN", "TABLE", "TABLESAMPLE",
    "TEMP", "TEMPORARY", "THEN", "TRIGGER", "TRUE", "TRUNCATE", "UNCACHE", "UNION", "UNIQUE",
    "UNNEST", "UNPIVOT", "UPDATE", "USE", "USING", "VACUUM", "VALUES", "VIEW", "VOLATILE", "WHEN",
    "WHERE", "WINDOW", "WITH", "XOR"]

def dialectKeywords : Dialect → List String
  | .postgresql =>
    ["DECLARE", "DO", "EXEC", "INOUT", "ONLY", "REFRESH", "REINDEX", "RESET", "VARIADIC"]
  | .mysql =>
    ["CHARSET", "DISTINCTROW", "DIV", "FORCE", "IGNORE", "KEY", "MOD", "SEPARATOR", "START"]
  | .sqlite => ["ATTACH", "DETACH", "DIV", "MATCH"]

def isKeyword (dialect : Dialect) (word : String) : Bool :=
  commonKeywords.contains word || (dialectKeywords dialect).contains word ||
    (phrases dialect).contains word

def isCharacterSetMark (dialect : Dialect) (word : String) : Bool :=
  dialect == .mysql &&
    ["_ARMSCII8", "_ASCII", "_BIG5", "_BINARY", "_CP1250", "_CP1251", "_CP1256", "_CP1257", "_CP850",
      "_CP852", "_CP866", "_CP932", "_DEC8", "_EUCJPMS", "_EUCKR", "_GB18030", "_GB2312", "_GBK",
      "_GEOSTD8", "_GREEK", "_HEBREW", "_HP8", "_KEYBCS2", "_KOI8R", "_KOI8U", "_LATIN1",
      "_LATIN2", "_LATIN5", "_LATIN7", "_MACCE", "_MACROMAN", "_SJIS", "_SWE7", "_TIS620", "_UCS2",
      "_UJIS", "_UTF16", "_UTF16LE", "_UTF32", "_UTF8", "_UTF8MB3", "_UTF8MB4"].contains word

/-- Whether an upper case word means nothing to the dialect, so that the user may name a type so. -/
def isPlainWord (dialect : Dialect) (word : String) : Bool :=
  !isKeyword dialect word && !isCharacterSetMark dialect word && (typeNamed? dialect word).isNone

def commandWords : Dialect → List String
  | .postgresql =>
    ["CALL", "EXPLAIN", "OPTIMIZE", "PREPARE", "VACUUM", "EXECUTE", "FETCH", "SHOW", "RENAME", "DO",
      "EXEC", "REINDEX", "RESET", "REFRESH", "DECLARE", "CONSTRAINT TRIGGER"]
  | .mysql =>
    ["CALL", "OPTIMIZE", "PREPARE", "VACUUM", "EXECUTE", "FETCH", "RENAME", "REPLACE",
      "LOCK TABLES", "UNLOCK TABLES"]
  | .sqlite =>
    ["CALL", "EXPLAIN", "OPTIMIZE", "PREPARE", "VACUUM", "EXECUTE", "FETCH", "SHOW", "RENAME",
      "REPLACE"]

def isCommandWord (dialect : Dialect) (token : Token) : Bool :=
  token.isAnyWord (commandWords dialect)

/-- Words that begin a transaction; a statement may begin behind them. -/
def beginWords : Dialect → List String
  | .postgresql => ["BEGIN", "BEGIN TRANSACTION"]
  | .mysql => ["BEGIN", "START"]
  | .sqlite => ["BEGIN"]

def isBeginWord (dialect : Dialect) (token : Token) : Bool := token.isAnyWord (beginWords dialect)

/-- Keywords that cannot be names where only some words can. -/
def hardWords (dialect : Dialect) : List String :=
  ["ALTER", "AND", "AS", "BETWEEN", "CLUSTER BY", "CREATE", "CROSS",
    "DISTINCT", "DISTRIBUTE BY", "DROP", "ELSE", "EXCEPT", "FETCH", "FOR", "FROM", "GLOB", "GRANT",
    "GROUP BY", "GROUPING SETS", "HAVING", "ILIKE", "IN", "INNER", "INSERT", "INTERSECT", "INTO",
    "JOIN", "LATERAL", "LIKE", "NOT", "NOTNULL", "ON", "OR", "ORDER BY", "OUT", "OUTER",
    "PARTITION BY", "PARTITIONED BY", "PARTITIONED_BY", "PRIMARY KEY", "QUALIFY", "REGEXP",
    "RETURNING", "REVOKE", "RLIKE", "ROLLBACK", "SELECT", "SIMILAR TO", "SORT BY",
    "STRAIGHT_JOIN", "TABLESAMPLE", "THEN", "UNION", "USING", "VALUES", "WHEN", "WHERE", "WITH",
    "XOR"] ++
    (match dialect with
      | .postgresql => ["ONLY"]
      | .mysql => ["CHARSET", "DISTINCTROW", "MEMBER OF", "MOD", "SOUNDS LIKE"]
      | .sqlite => ["INDEXED BY"])

/-- Whether the token may be an unquoted name where only some words can. -/
def isSoftWord (dialect : Dialect) (token : Token) : Bool :=
  token.kind == .word && !(hardWords dialect).contains token.upper &&
    !isCharacterSetMark dialect token.upper

def functionWords (dialect : Dialect) : List String :=
  ["ALL", "ANY", "COLLATE", "CURRENT_CATALOG", "CURRENT_DATE", "CURRENT_SCHEMA", "CURRENT_TIME",
    "CURRENT_TIMESTAMP", "CURRENT_USER", "EXISTS", "FILTER", "FIRST", "FORMAT", "GLOB", "ILIKE",
    "INDEX", "INSERT", "ISNULL", "LEFT", "LIKE", "LOCALTIME", "LOCALTIMESTAMP", "MERGE", "NEXT",
    "OFFSET", "PRIMARY KEY", "REGEXP", "REPLACE", "RIGHT", "RLIKE", "ROW", "SEQUENCE",
    "SESSION_USER", "SOME", "TABLE", "TRUNCATE", "UNNEST", "WINDOW", "XOR"] ++
    commandWords dialect ++
    (match dialect with
      | .mysql => ["CHARSET", "DATABASE", "MOD", "SCHEMA", "VALUES"]
      | _ => [])

def isFunctionWord (dialect : Dialect) (token : Token) : Bool :=
  token.kind == .quotedName ||
    (token.kind == .word &&
      (isPlainWord dialect token.upper || (typeNamed? dialect token.upper).isSome ||
        (functionWords dialect).contains token.upper))

/-- Marks of one character, and the words that mean the same as a mark, are never names. -/
def isReserved (dialect : Dialect) (token : Token) : Bool :=
  (token.kind == .mark && token.text.length == 1) || token.isWord "SELECT" || token.isWord "NOT" ||
    (dialect == .mysql && token.isWord "MOD")

def mysqlKeptWords : List String :=
  ["accessible", "add", "all", "alter", "analyze", "and", "as", "asc", "asensitive", "before",
    "between", "bigint", "binary", "blob", "both", "by", "call", "cascade", "case", "change",
    "char", "character", "check", "collate", "column", "condition", "constraint", "continue",
    "convert", "create", "cross", "cube", "cume_dist", "current_date", "current_time",
    "current_timestamp", "current_user", "cursor", "database", "databases", "day_hour",
    "day_microsecond", "day_minute", "day_second", "dec", "decimal", "declare", "default",
    "delayed", "delete", "dense_rank", "desc", "describe", "deterministic", "distinct",
    "distinctrow", "div", "double", "drop", "dual", "each", "else", "elseif", "empty", "enclosed",
    "escaped", "except", "exists", "exit", "explain", "false", "fetch", "first_value", "float",
    "float4", "float8", "for", "force", "foreign", "from", "fulltext", "function", "generated",
    "get", "grant", "group", "grouping", "groups", "having", "high_priority", "hour_microsecond",
    "hour_minute", "hour_second", "if", "ignore", "in", "index", "infile", "inner", "inout",
    "insensitive", "insert", "int", "int1", "int2", "int3", "int4", "int8", "integer", "intersect",
    "interval", "into", "io_after_gtids", "io_before_gtids", "is", "iterate", "join", "json_table",
    "key", "keys", "kill", "lag", "last_value", "lateral", "lead", "leading", "leave", "left",
    "like", "limit", "linear", "lines", "load", "localtime", "localtimestamp", "lock", "long",
    "longblob", "longtext", "loop", "low_priority", "master_bind", "master_ssl_verify_server_cert",
    "match", "maxvalue", "mediumblob", "mediumint", "mediumtext", "middleint",
    "minute_microsecond", "minute_second", "mod", "modifies", "natural", "no_write_to_binlog",
    "not", "nth_value", "ntile", "null", "numeric", "of", "on", "optimize", "optimizer_costs",
    "option", "optionally", "or", "order", "out", "outer", "outfile", "over", "partition",
    "percent_rank", "precision", "primary", "procedure", "purge", "range", "rank", "read",
    "read_write", "reads", "real", "recursive", "references", "regexp", "release", "rename",
    "repeat", "replace", "require", "resignal", "restrict", "return", "revoke", "right", "rlike",
    "row", "row_number", "rows", "schema", "schemas", "second_microsecond", "select", "sensitive",
    "separator", "set", "show", "signal", "smallint", "spatial", "specific", "sql",
    "sql_big_result", "sql_calc_found_rows", "sql_small_result", "sqlexception", "sqlstate",
    "sqlwarning", "ssl", "starting", "stored", "straight_join", "system", "table", "terminated",
    "then", "tinyblob", "tinyint", "tinytext", "to", "trailing", "trigger", "true", "undo",
    "union", "unique", "unlock", "unsigned", "update", "usage", "use", "using", "utc_date",
    "utc_time", "utc_timestamp", "values", "varbinary", "varchar", "varcharacter", "varying",
    "virtual", "when", "where", "while", "window", "with", "write", "xor", "year_month",
    "zerofill"]

def isKeptByMysql (word : String) : Bool := mysqlKeptWords.contains word

end DdlSchema.Ddl
