import DdlSchema.Ddl.Dialect

/-! Functions that the dialects know. They are written under one name in upper case; any other
function keeps the name it was written with. -/

set_option autoImplicit false

namespace DdlSchema.Ddl

open DdlSchema.Text

/-- How many arguments a known function takes at most; `none` where there is no such bound. -/
abbrev Arity : Type := Option Nat

def functionsByArity : List (Arity × List String) :=
  [(none, ["APPROX_TOP_K_COMBINE", "ARRAYS_ZIP", "ARRAY_CONCAT", "ARRAY_CONSTRUCT_COMPACT",
      "ARRAY_INTERSECT", "CHR", "COALESCE", "CONCAT", "CONCAT_WS", "COUNT", "CUME_DIST", "DATE",
      "DENSE_RANK", "ELT", "EXPLODE", "EXPLODE_OUTER", "FARM_FINGERPRINT", "FORMAT", "GREATEST",
      "GROUPING", "GROUPING_ID", "HASH_AGG", "HLL", "JSON_ARRAY_APPEND", "JSON_ARRAY_INSERT",
      "JSON_REMOVE", "JSON_SET", "LEAST", "LIST", "MAP_DELETE", "MAP_PICK", "MAX", "MD5_DIGEST",
      "MIN", "MINHASH", "PERCENT_RANK", "POSEXPLODE", "POSEXPLODE_OUTER", "RANK", "READ_CSV",
      "READ_PARQUET", "ROW_NUMBER", "STRUCT", "UNNEST"]),
    (some 0, ["CURRENT_ACCOUNT", "CURRENT_AVAILABLE_ROLES", "CURRENT_CATALOG", "CURRENT_CLIENT",
      "CURRENT_DATABASE", "CURRENT_IP_ADDRESS", "CURRENT_REGION", "CURRENT_ROLE",
      "CURRENT_ROLE_TYPE", "CURRENT_SECONDARY_ROLES", "CURRENT_SESSION", "CURRENT_STATEMENT",
      "CURRENT_TIMEZONE", "CURRENT_TRANSACTION", "CURRENT_VERSION", "CURRENT_WAREHOUSE", "PI",
      "SESSION_USER", "UTC_DATE"]),
    (some 1, ["ABS", "ACOS", "ACOSH", "AI_SUMMARIZE_AGG", "APPROXIMATE_SIMILARITY",
      "APPROX_PERCENTILE_ACCUMULATE", "APPROX_PERCENTILE_COMBINE", "ARRAY_COMPACT",
      "ARRAY_CONCAT_AGG", "ARRAY_FIRST", "ARRAY_LAST", "ARRAY_MAX", "ARRAY_MIN", "ARRAY_REVERSE",
      "ARRAY_UNION_AGG", "ARRAY_UNIQUE_AGG", "ASCII", "ASIN", "ASINH", "ATANH", "AVG",
      "BITMAP_BIT_POSITION", "BITMAP_BUCKET_NUMBER", "BITMAP_CONSTRUCT_AGG", "BITMAP_COUNT",
      "BITMAP_OR_AGG", "BITWISE_AND_AGG", "BITWISE_COUNT", "BITWISE_OR_AGG", "BITWISE_XOR_AGG",
      "BIT_LENGTH", "BOOLNOT", "BOOLXOR_AGG", "BYTE_LENGTH", "CBRT", "CHECK_JSON", "CHECK_XML",
      "CODE_POINTS_TO_BYTES", "CODE_POINTS_TO_STRING", "COLLATION", "COS", "COSH", "COT", "COTH",
      "COUNT_IF", "CSC", "CSCH", "CURRENT_DATETIME", "CURRENT_SCHEMA", "CURRENT_SCHEMAS",
      "CURRENT_USER", "DATE_FROM_UNIX_DATE", "DATE_STR_TO_DATE", "DATE_TO_DI", "DAY",
      "DAYOFWEEK_ISO", "DAY_OF_MONTH", "DAY_OF_WEEK", "DAY_OF_YEAR", "DEGREES", "DI_TO_DATE", "EXP",
      "FACTORIAL", "FLATTEN", "FROM_BASE32", "FROM_BASE64", "FROM_ISO8601_TIMESTAMP", "HEX",
      "HEX_DECODE_STRING", "HOST", "HOUR", "INLINE", "IS_ARRAY", "IS_ASCII", "IS_INF", "IS_NAN",
      "IS_NULL_VALUE", "JSON_BOOL", "JSON_STRIP_NULLS", "JUSTIFY_DAYS", "JUSTIFY_HOURS",
      "JUSTIFY_INTERVAL", "KURTOSIS", "LAX_BOOL", "LAX_FLOAT64", "LAX_INT64", "LAX_STRING", "LN",
      "LOCALTIME", "LOCALTIMESTAMP", "LOGICAL_AND", "LOGICAL_OR", "LOWER", "LOWER_HEX", "MAP_KEYS",
      "MAP_SIZE", "MD5", "MD5_NUMBER_LOWER64", "MD5_NUMBER_UPPER64", "MEDIAN", "MINHASH_COMBINE",
      "MINUTE", "MONTH", "NTILE", "PARSE_BIGNUMERIC", "PARSE_NUMERIC", "QUARTER", "RADIANS",
      "RANDN", "REVERSE", "RTRIMMED_LENGTH", "SAFE_CONVERT_BYTES_TO_STRING", "SAFE_NEGATE", "SEC",
      "SECH", "SECOND", "SEQ1", "SEQ2", "SEQ4", "SEQ8", "SHA", "SHA1_DIGEST", "SIGN", "SIN", "SINH",
      "SKEWNESS", "SOUNDEX", "SOUNDEX_P123", "SPACE", "SQRT", "STDDEV", "STDDEV_POP", "STDDEV_SAMP",
      "SUM", "SYSTIMESTAMP", "TAN", "TANH", "TIME_STR_TO_DATE", "TIME_STR_TO_UNIX", "TIME_TO_UNIX",
      "TO_ARRAY", "TO_BASE32", "TO_BASE64", "TO_CODE_POINTS", "TO_DAYS", "TO_VARIANT", "TRY",
      "TS_OR_DI_TO_DI", "TYPEOF", "UNICODE", "UNIX_DATE", "UNIX_MICROS", "UNIX_MILLIS",
      "UNIX_SECONDS", "UNIX_TO_TIME_STR", "UPPER", "UTC_TIME", "UTC_TIMESTAMP", "UUID", "VARIANCE",
      "VARIANCE_POP", "WEEK_OF_YEAR", "YEAR", "YEAR_OF_WEEK", "YEAR_OF_WEEK_ISO"]),
    (some 2, ["AI_AGG", "ANY_VALUE", "APPROX_DISTINCT", "APPROX_PERCENTILE_ESTIMATE",
      "APPROX_QUANTILES", "ARRAY_AGG", "ARRAY_ALL", "ARRAY_ANY", "ARRAY_APPEND", "ARRAY_CONTAINS",
      "ARRAY_CONTAINS_ALL", "ARRAY_DISTINCT", "ARRAY_EXCEPT", "ARRAY_OVERLAPS", "ARRAY_PREPEND",
      "ARRAY_REMOVE", "ARRAY_REMOVE_AT", "ARRAY_SIZE", "ARRAY_SORT", "ARRAY_SUM", "ATAN", "ATAN2",
      "BASE64_DECODE_BINARY", "BASE64_DECODE_STRING", "BOOLAND", "BOOLOR", "COLLATE", "COLUMNS",
      "COMPRESS", "CORR", "COSINE_DISTANCE", "COVAR_POP", "COVAR_SAMP", "DATETIME", "DAYNAME",
      "DECODE", "DECOMPRESS_BINARY", "DECOMPRESS_STRING", "DOT_PRODUCT", "ENCODE", "ENDS_WITH",
      "EQUAL_NULL", "EUCLIDEAN_DISTANCE", "FIRST_VALUE", "FLOAT64", "FROM_BASE", "GENERATOR",
      "GET_EXTRACT", "HEX_ENCODE", "INITCAP", "JSONB_CONTAINS", "JSONB_EXISTS", "JSONB_EXTRACT",
      "JSONB_EXTRACT_SCALAR", "JSON_EXTRACT_ARRAY", "JSON_KEYS", "JSON_TYPE", "JSON_VALUE_ARRAY",
      "LAST_DAY", "LAST_VALUE", "LEFT", "LOG", "MANHATTAN_DISTANCE", "MAP", "MAP_CAT",
      "MAP_CONTAINS_KEY", "MODE", "MONTHNAME", "NEXT_DAY", "NULLIF", "OBJECT_AGG", "PARSE_TIME",
      "PERCENTILE_CONT", "PERCENTILE_DISC", "POWER", "PREVIOUS_DAY", "QUANTILE", "RANDSTR",
      "RANGE_BUCKET", "REGR_AVGX", "REGR_AVGY", "REGR_COUNT", "REGR_INTERCEPT", "REGR_R2",
      "REGR_SLOPE", "REGR_SXX", "REGR_SXY", "REGR_SYY", "REGR_VALX", "REGR_VALY", "REPEAT", "RIGHT",
      "SAFE_ADD", "SAFE_DIVIDE", "SAFE_MULTIPLY", "SAFE_SUBTRACT", "SHA2", "SHA2_DIGEST",
      "STANDARD_HASH", "STARTS_WITH", "STRING", "STRTOK_TO_ARRAY", "STRUCT_EXTRACT", "STR_TO_UNIX",
      "TIME", "TIME_STR_TO_TIME", "TO_BOOLEAN", "TRANSFORM", "TRUNC", "UNHEX", "UNIX_TO_STR",
      "WEEK"]),
    (some 3, ["ADD_MONTHS", "AI_CLASSIFY", "APPROX_TOP_K", "APPROX_TOP_SUM", "ARG_MAX", "ARG_MIN",
      "ARRAY_POSITION", "ARRAY_TO_STRING", "BASE64_ENCODE", "CEIL", "CONTAINS",
      "CONVERT_TO_CHARSET", "DATETIME_ADD", "DATETIME_DIFF", "DATETIME_SUB", "DATETIME_TRUNC",
      "DATE_ADD", "DATE_FROM_PARTS", "DATE_SUB", "FLOOR", "GENERATE_DATE_ARRAY",
      "GENERATE_TIMESTAMP_ARRAY", "GETBIT", "IF", "JAROWINKLER_SIMILARITY", "JSON_ARRAY_CONTAINS",
      "JSON_KEYS_AT_DEPTH", "LAG", "LEAD", "LENGTH", "MONTHS_BETWEEN", "NORMAL", "NORMALIZE",
      "NTH_VALUE", "NVL2", "PARSE_DATETIME", "PARSE_IP", "PARSE_JSON", "REGEXP_FULL_MATCH",
      "REGEXP_I_LIKE", "REGEXP_LIKE", "REGEXP_SPLIT", "REPLACE", "ROUND", "SORT_ARRAY", "SPLIT",
      "SPLIT_PART", "STRING_TO_ARRAY", "STRTOK", "STR_TO_DATE", "ST_DISTANCE", "ST_POINT",
      "SUBSTRING", "TIMESTAMP", "TIMESTAMPDIFF", "TIMESTAMP_ADD", "TIMESTAMP_SUB", "TIME_ADD",
      "TIME_DIFF", "TIME_SUB", "TIME_TRUNC", "TO_BINARY", "TO_CHAR", "TO_DOUBLE", "TO_NUMBER",
      "TRANSLATE", "XMLGET", "ZIPF"]),
    (some 4, ["ARRAY_INSERT", "ARRAY_SLICE", "CONVERT_TIMEZONE", "DECRYPT", "ENCRYPT",
      "GENERATE_SERIES", "JSON_FORMAT", "LPAD", "MAP_INSERT", "OBJECT_INSERT", "PAD", "PARSE_URL",
      "REDUCE", "REGEXP_COUNT", "RPAD", "STR_POSITION", "STR_TO_MAP", "STUFF", "SUBSTRING_INDEX",
      "TIMESTAMP_TRUNC", "TIME_SLICE", "TIME_TO_STR", "TS_OR_DS_ADD", "TS_OR_DS_DIFF", "UNIFORM",
      "WIDTH_BUCKET"]),
    (some 5, ["APPROX_QUANTILE", "STR_TO_TIME", "TIME_FROM_PARTS"]),
    (some 6, ["DATEDIFF", "LEVENSHTEIN", "REGEXP_EXTRACT", "REGEXP_EXTRACT_ALL", "REGEXP_INSTR",
      "REGEXP_REPLACE", "SEARCH"]),
    (some 7, ["MAKE_INTERVAL"]),
    (some 8, ["TIMESTAMP_FROM_PARTS", "UNIX_TO_TIME"])]

def functionSynonyms : List (String × String) :=
  [("APPROXIMATE_JACCARD_INDEX", "APPROXIMATE_SIMILARITY"),
    ("APPROX_COUNT_DISTINCT", "APPROX_DISTINCT"), ("ARGMAX", "ARG_MAX"), ("ARGMIN", "ARG_MIN"),
    ("ARRAYAGG", "ARRAY_AGG"), ("ARRAY_CAT", "ARRAY_CONCAT"), ("ARRAY_HAS", "ARRAY_CONTAINS"),
    ("ARRAY_HAS_ALL", "ARRAY_CONTAINS_ALL"), ("ARRAY_INTERSECTION", "ARRAY_INTERSECT"),
    ("ARRAY_JOIN", "ARRAY_TO_STRING"), ("ARRAY_LENGTH", "ARRAY_SIZE"),
    ("BOOLAND_AGG", "LOGICAL_AND"), ("BOOLOR_AGG", "LOGICAL_OR"), ("BOOL_AND", "LOGICAL_AND"),
    ("BOOL_OR", "LOGICAL_OR"), ("CEILING", "CEIL"), ("CHARACTER_LENGTH", "LENGTH"),
    ("CHAR_LENGTH", "LENGTH"), ("COUNTIF", "COUNT_IF"), ("DATEFROMPARTS", "DATE_FROM_PARTS"),
    ("DATE_DIFF", "DATEDIFF"), ("DAYOFMONTH", "DAY_OF_MONTH"), ("DAYOFWEEK", "DAY_OF_WEEK"),
    ("DAYOFYEAR", "DAY_OF_YEAR"), ("ENDSWITH", "ENDS_WITH"),
    ("FARMFINGERPRINT64", "FARM_FINGERPRINT"), ("GENERATE_UUID", "UUID"),
    ("GEN_RANDOM_UUID", "UUID"), ("GET_BIT", "GETBIT"), ("IFNULL", "COALESCE"), ("IIF", "IF"),
    ("INSERT", "STUFF"), ("ISINF", "IS_INF"), ("ISNAN", "IS_NAN"), ("ISODOW", "DAYOFWEEK_ISO"),
    ("JSON_PARSE", "PARSE_JSON"), ("LCASE", "LOWER"), ("LEN", "LENGTH"), ("MAX_BY", "ARG_MAX"),
    ("MIN_BY", "ARG_MIN"), ("NVL", "COALESCE"), ("POW", "POWER"), ("RANDOM", "RAND"),
    ("SHA1", "SHA"), ("SIGNUM", "SIGN"), ("SPLIT_BY_STRING", "STRING_TO_ARRAY"),
    ("STARTSWITH", "STARTS_WITH"), ("STDEV", "STDDEV"), ("ST_MAKEPOINT", "ST_POINT"),
    ("SUBSTR", "SUBSTRING"), ("TIMEFROMPARTS", "TIME_FROM_PARTS"),
    ("TIMESTAMPFROMPARTS", "TIMESTAMP_FROM_PARTS"), ("TIMESTAMP_DIFF", "TIMESTAMPDIFF"),
    ("TO_HEX", "HEX"), ("TRUNCATE", "TRUNC"), ("UCASE", "UPPER"), ("UUID_STRING", "UUID"),
    ("VARIANCE_SAMP", "VARIANCE"), ("VAR_POP", "VARIANCE_POP"), ("VAR_SAMP", "VARIANCE"),
    ("WEEKOFYEAR", "WEEK_OF_YEAR"), ("YEAROFWEEK", "YEAR_OF_WEEK"),
    ("YEAROFWEEKISO", "YEAR_OF_WEEK_ISO")]

def dialectFunctions : Dialect → List (String × String × Arity)
  | .postgresql =>
    [("BIT_AND", "BITWISE_AND_AGG", some 1), ("BIT_OR", "BITWISE_OR_AGG", some 1),
      ("BIT_XOR", "BITWISE_XOR_AGG", some 1), ("JSONB_OBJECT_AGG", "JSONB_OBJECT_AGG", some 2),
      ("JSON_EXTRACT_PATH", "JSON_EXTRACT_PATH", none),
      ("JSON_EXTRACT_PATH_TEXT", "JSON_EXTRACT_PATH_TEXT", none),
      ("JSON_OBJECT_AGG", "JSON_OBJECT_AGG", none),
      ("LEVENSHTEIN_LESS_EQUAL", "LEVENSHTEIN_LESS_EQUAL", some 6),
      ("MAKE_TIME", "TIME_FROM_PARTS", some 5), ("MAKE_TIMESTAMP", "TIMESTAMP_FROM_PARTS", some 8),
      ("VERSION", "CURRENT_VERSION", some 0)]
  | .mysql =>
    [("BIT_AND", "BITWISE_AND_AGG", some 1), ("BIT_COUNT", "BITWISE_COUNT", some 1),
      ("BIT_OR", "BITWISE_OR_AGG", some 1), ("BIT_XOR", "BITWISE_XOR_AGG", some 1),
      ("CONVERT_TZ", "CONVERT_TZ", some 4), ("DATABASE", "CURRENT_SCHEMA", some 1),
      ("FORMAT", "NUMBER_TO_STR", some 3), ("FROM_UNIXTIME", "FROM_UNIXTIME", some 2),
      ("LENGTH", "BYTE_LENGTH", some 1), ("MAKETIME", "TIME_FROM_PARTS", some 5),
      ("SCHEMA", "CURRENT_SCHEMA", some 1), ("STD", "STDDEV_POP", some 1),
      ("STDDEV", "STDDEV_POP", some 1), ("VARIANCE", "VARIANCE_POP", some 1),
      ("VERSION", "CURRENT_VERSION", some 0)]
  | .sqlite =>
    [("DATETIME", "DATETIME", none), ("EDITDIST3", "LEVENSHTEIN", some 6),
      ("SQLITE_VERSION", "CURRENT_VERSION", some 0), ("TIME", "TIME", none)]

def knownFunction? (dialect : Dialect) (word : String) : Option (String × Arity) :=
  (dialectFunctions dialect).lookup word <|>
    (let shared := (functionSynonyms.lookup word).getD word
    if shared = "RAND" then some (shared, some 3)
    else (functionsByArity.find? fun (_, names) => names.contains shared).map fun (arity, _) =>
      (shared, arity))

def writtenFunction (dialect : Option Dialect) (name : String) : String :=
  let renamed : List (String × String) := match dialect with
    | none => [("BYTE_LENGTH", "LENGTH"), ("FROM_UNIXTIME", "UNIX_TO_TIME")]
    | some .postgresql =>
      [("ARRAY_CONCAT", "ARRAY_CAT"), ("ARRAY_SIZE", "ARRAY_LENGTH"),
        ("BITWISE_AND_AGG", "BIT_AND"), ("BITWISE_OR_AGG", "BIT_OR"),
        ("BITWISE_XOR_AGG", "BIT_XOR"), ("BYTE_LENGTH", "LENGTH"), ("CURRENT_VERSION", "VERSION"),
        ("EXPLODE", "UNNEST"), ("GETBIT", "GET_BIT"), ("JSON_ARRAY_AGG", "JSON_AGG"),
        ("JSON_OBJECTAGG", "JSON_OBJECT_AGG"),
        ("LOGICAL_AND", "BOOL_AND"), ("LOGICAL_OR", "BOOL_OR"), ("RAND", "RANDOM"),
        ("TIMESTAMP_FROM_PARTS", "MAKE_TIMESTAMP"), ("TIME_FROM_PARTS", "MAKE_TIME"),
        ("UNICODE", "ASCII"), ("UUID", "GEN_RANDOM_UUID"), ("VARIANCE", "VAR_SAMP"),
        ("VARIANCE_POP", "VAR_POP")]
    | some .mysql =>
      [("ARRAY_AGG", "GROUP_CONCAT"), ("ARRAY_SIZE", "ARRAY_LENGTH"),
        ("BITWISE_AND_AGG", "BIT_AND"), ("BITWISE_COUNT", "BIT_COUNT"),
        ("BITWISE_OR_AGG", "BIT_OR"), ("BITWISE_XOR_AGG", "BIT_XOR"), ("BYTE_LENGTH", "LENGTH"),
        ("CHR", "CHAR"), ("CURRENT_SCHEMA", "SCHEMA"), ("CURRENT_VERSION", "VERSION"),
        ("DAY_OF_MONTH", "DAYOFMONTH"), ("DAY_OF_WEEK", "DAYOFWEEK"), ("DAY_OF_YEAR", "DAYOFYEAR"),
        ("LENGTH", "CHAR_LENGTH"), ("LOGICAL_AND", "MIN"), ("LOGICAL_OR", "MAX"),
        ("NUMBER_TO_STR", "FORMAT"), ("STUFF", "INSERT"), ("TIME_FROM_PARTS", "MAKETIME"),
        ("TIME_STR_TO_UNIX", "UNIX_TIMESTAMP"), ("TRUNC", "TRUNCATE"), ("VARIANCE_POP", "VAR_POP"),
        ("WEEK_OF_YEAR", "WEEKOFYEAR")]
    | some .sqlite =>
      [("ANY_VALUE", "MAX"), ("ARRAY_SIZE", "ARRAY_LENGTH"), ("BYTE_LENGTH", "LENGTH"),
        ("CHR", "CHAR"), ("CURRENT_VERSION", "SQLITE_VERSION"), ("IF", "IIF"),
        ("LEVENSHTEIN", "EDITDIST3"), ("LOGICAL_AND", "MIN"), ("LOGICAL_OR", "MAX"),
        ("RAND", "RANDOM")]
  (renamed.lookup name).getD name

/-- Whether a known function with so many arguments is written without parentheses; some leave their
arguments out. -/
def isWrittenBare (dialect : Option Dialect) (name : String) (count : Nat) : Bool :=
  (count == 0 && (["CURRENT_CATALOG", "LOCALTIME", "LOCALTIMESTAMP"].contains name ||
    (name == "SESSION_USER" && dialect != some .mysql))) ||
    (dialect == some .postgresql && ["CURRENT_USER", "CURRENT_SCHEMA"].contains name)

def unitPlace? (name : String) : Option Nat :=
  if ["DATEDIFF", "DATETIME_ADD", "DATETIME_DIFF", "DATETIME_SUB", "DATE_ADD", "DATE_BIN",
      "DATE_SUB", "TIMESTAMPDIFF", "TIMESTAMP_ADD", "TIMESTAMP_SUB", "TIME_ADD", "TIME_DIFF",
      "TIME_SLICE", "TIME_SUB", "TS_OR_DS_ADD", "TS_OR_DS_DIFF"].contains name then some 2
  else if ["DATETIME_TRUNC", "LAST_DAY", "TIMESTAMP_TRUNC", "TIME_TRUNC"].contains name then some 1
  else none

def bareFunction? (dialect : Dialect) (word : String) : Option String :=
  let words := ["CURRENT_USER"] ++
    (match dialect with
      | .postgresql =>
        ["CURRENT_CATALOG", "CURRENT_SCHEMA", "LOCALTIME", "LOCALTIMESTAMP", "SESSION_USER"]
      | .mysql => ["LOCALTIME", "LOCALTIMESTAMP", "UTC_DATE", "UTC_TIME", "UTC_TIMESTAMP"]
      | .sqlite => [])
  if words.contains word then some word else none

def isFractional (name : String) : Bool :=
  ["AVG", "EXP", "LN", "LOG", "POWER", "RADIANS", "RAND", "ROUND", "SQRT", "STDDEV", "STDDEV_POP",
    "STDDEV_SAMP", "VARIANCE", "VARIANCE_POP"].contains name

end DdlSchema.Ddl
