/-
  Kinds of databases, with the names that may stand behind a plus sign in front of an address: those
  of drivers, and those of other things that belong to a kind.
-/
import Taskbook.Text.Basic

namespace Taskbook

/-- A kind of database. -/
structure Backend where
  name : Text
  /-- The programs that speak to it; `base` is the one that is used where none is named. -/
  drivers : List Text
  /-- What else belongs to it: its types, its clauses and its tables. -/
  parts : List Text
  deriving DecidableEq, Repr

/-- What a name in front of an address stands for. -/
inductive DriverName where
  | driver
  /-- Something that belongs to the kind and is no driver. -/
  | part
  deriving DecidableEq, Repr

namespace Backend

/-- The words of some lines, one blank between them. -/
def wordsOf (lines : List Text) : List Text := lines.flatMap (Text.splitOn [' '])

/-- Databases in files. -/
def sqlite : Backend where
  name := "sqlite"
  drivers := ["base", "aiosqlite", "pysqlite", "pysqlcipher"]
  parts := wordsOf
    ["dml json dialect Insert insert BLOB BOOLEAN CHAR DATE DATETIME DECIMAL FLOAT INTEGER JSON",
     "NUMERIC REAL SMALLINT TEXT TIME TIMESTAMP VARCHAR"]

/-- Databases of PostgreSQL. -/
def postgresql : Backend where
  name := "postgresql"
  drivers := ["base", "asyncpg", "psycopg2", "psycopg2cffi", "psycopg", "psycopg_async", "pg8000"]
  parts := wordsOf
    ["_psycopg_common array arraylib dml ext hstore json named_types operators pg_catalog ranges",
     "types dialect All Any ARRAY BIGINT BOOLEAN CHAR DATE DOUBLE_PRECISION FLOAT INTEGER",
     "NUMERIC REAL SMALLINT TEXT UUID VARCHAR Insert insert aggregate_order_by array_agg",
     "ExcludeConstraint phraseto_tsquery plainto_tsquery to_tsquery to_tsvector ts_headline",
     "websearch_to_tsquery HSTORE JSON JSONB JSONPATH CreateDomainType CreateEnumType DOMAIN",
     "DropDomainType DropEnumType ENUM NamedType AbstractMultiRange AbstractRange",
     "AbstractSingleRange DATEMULTIRANGE DATERANGE INT4MULTIRANGE INT4RANGE INT8MULTIRANGE",
     "INT8RANGE MultiRange NUMMULTIRANGE NUMRANGE Range TSMULTIRANGE TSRANGE TSTZMULTIRANGE",
     "TSTZRANGE BIT BYTEA CIDR CITEXT INET INTERVAL MACADDR MACADDR8 MONEY OID REGCLASS",
     "REGCONFIG TIME TIMESTAMP TSQUERY TSVECTOR"]

/-- The drivers that MySQL and MariaDB share. -/
def mysqlDrivers : List Text :=
  ["base", "aiomysql", "asyncmy", "mysqldb", "pymysql", "mysqlconnector", "pyodbc", "cymysql",
   "mariadbconnector"]

/-- Databases of MySQL. -/
def mysql : Backend where
  name := "mysql"
  drivers := mysqlDrivers
  parts := wordsOf
    ["dml enumerated expression json mariadb reflection reserved_words types dialect Insert",
     "insert match INET4 INET6 BIGINT BINARY BIT BLOB BOOLEAN CHAR DATE DATETIME DECIMAL DOUBLE",
     "ENUM FLOAT INTEGER JSON LONGBLOB LONGTEXT MEDIUMBLOB MEDIUMINT MEDIUMTEXT NCHAR NUMERIC",
     "NVARCHAR REAL SET SMALLINT TEXT TIME TIMESTAMP TINYBLOB TINYINT TINYTEXT VARBINARY VARCHAR",
     "YEAR"]

/-- Databases of MariaDB, which share the drivers of MySQL. -/
def mariadb : Backend where
  name := "mariadb"
  drivers := mysqlDrivers
  parts := wordsOf
    ["dml enumerated expression json mariadb reflection reserved_words types provision"]

/-- Databases of Oracle. -/
def oracle : Backend where
  name := "oracle"
  drivers := ["base", "cx_oracle", "oracledb", "oracledb_async"]
  parts := wordsOf
    ["dictionary types vector dialect BFILE BINARY_DOUBLE BINARY_FLOAT BLOB CHAR CLOB DATE",
     "DOUBLE_PRECISION FLOAT INTERVAL LONG NCHAR NCLOB NUMBER NVARCHAR NVARCHAR2 RAW REAL ROWID",
     "TIMESTAMP VARCHAR VARCHAR2 VECTOR SparseVector VectorDistanceType VectorIndexConfig",
     "VectorIndexType VectorStorageFormat VectorStorageType"]

/-- Databases of SQL Server. -/
def mssql : Backend where
  name := "mssql"
  drivers := ["base", "pyodbc", "pymssql", "aioodbc"]
  parts := wordsOf
    ["information_schema json dialect BIGINT BINARY BIT CHAR DATE DATETIME DATETIME2",
     "DATETIMEOFFSET DECIMAL DOUBLE_PRECISION FLOAT IMAGE INTEGER JSON MONEY NCHAR NTEXT NUMERIC",
     "NVARCHAR REAL ROWVERSION SMALLDATETIME SMALLINT SMALLMONEY SQL_VARIANT TEXT TIME TIMESTAMP",
     "TINYINT UNIQUEIDENTIFIER VARBINARY VARCHAR XML try_cast"]

/-- The kinds of databases. -/
def all : List Backend := [sqlite, postgresql, mysql, mariadb, oracle, mssql]

/-- The kind of a given name. -/
def ofName? (name : Text) : Option Backend := all.find? (·.name = name)

/-- What every kind but MariaDB says of itself, between two pairs of low lines. -/
def ownWords : List Text := wordsOf
    ["all annotations builtins cached class delattr dict dir doc eq file format ge getattribute",
     "getstate gt hash init init_subclass le loader lt name ne new package path reduce reduce_ex",
     "repr setattr sizeof spec str subclasshook"]

/-- Whether a name is that of something a kind says of itself. -/
def isOwnName (name : Text) : Bool := ownWords.any fun word => name = "__" ++ word ++ "__"

/-- What a name stands for, if it belongs to the kind. -/
def find? (backend : Backend) (name : Text) : Option DriverName :=
  if backend.drivers.contains name then some .driver
  else if backend.parts.contains name || backend ≠ mariadb && isOwnName name then some .part
  else none

end Backend

end Taskbook
