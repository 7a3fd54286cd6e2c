import FraudStream.Library.Decimal
import FraudStream.Library.TextLines
import Mathlib.Data.List.Nodup

/-
  The generator of the table definition from an Avro schema.

  The tool writes a CREATE TABLE statement when its output
  file has none, and otherwise appends an ADD COLUMN
  statement for each field whose name it does not find in
  the file. It looks for names line by line, and passes over
  the lines whose first word starts with a keyword.

  Key definitions include:
    * `AvroSchema`, `parseAvroType`, `extractFields`
    * `fieldOfLine?`, `loadExistingDdl`
    * `generateCreateTable`, `generateAlterStatements`
    * `evolveSchema`
-/

------------------------------------------------------------
-- Schemas
------------------------------------------------------------

namespace FraudStream

def isNameStart (c : Char) : Bool :=
  c.isAlpha || c = '_'

def isNamePart (c : Char) : Bool :=
  c.isAlphanum || c = '_'

def isAvroName : List Char → Bool
| [] => false
| c :: cs => isNameStart c && cs.all isNamePart

structure AvroName where
  text : List Char
  wellFormed : isAvroName text = true
deriving DecidableEq

/- A type is a name, a union, or an object. Of the object
   only what the tool reads is kept. -/
inductive AvroType where
| named : (name : String) → AvroType
| union : (branches : List AvroType) → AvroType
| object :
    (base : AvroType) → (logicalType : Option String) →
    (precision scale : Option Int) → AvroType

structure AvroField where
  name : AvroName
  type : AvroType

structure AvroSchema where
  fields : List AvroField
  distinct : (fields.map AvroField.name).Nodup

/- What `json.load` finds at the path of the schema. -/
inductive SchemaFile where
| missing
| malformed
| parsed : (schema : AvroSchema) → SchemaFile

end FraudStream

------------------------------------------------------------
-- Columns
------------------------------------------------------------

namespace FraudStream

namespace AvroType

def isNull : AvroType → Bool
| .named name => name = "null"
| _ => false

def isEnum : AvroType → Bool
| .named name => name = "enum"
| _ => false

end AvroType

def parsePrimitive (name : String) : String :=
  if name = "string" then "STRING"
  else if name = "int" then "INT"
  else if name = "long" then "BIGINT"
  else if name = "float" then "FLOAT"
  else if name = "boolean" then "BOOLEAN"
  else if name = "bytes" then "BINARY"
  else "STRING"

mutual

/- `parse_avro_type` -/
def parseAvroType : AvroType → String
| .named name => parsePrimitive name
| .union branches =>
    match parseNonNull branches with
    | [sqlType] => sqlType
    | _ => "STRING"
| .object base logicalType precision scale =>
    if logicalType = some "timestamp-millis" then
      "TIMESTAMP(6)"
    else if logicalType = some "decimal" then
      "DECIMAL(" ++ toString (precision.getD 18) ++ "," ++
        toString (scale.getD 4) ++ ")"
    else if base.isEnum then
      "STRING"
    else
      parseAvroType base

/- What the branches that are not null parse to. -/
def parseNonNull : List AvroType → List String
| [] => []
| branch :: branches =>
    if branch.isNull then
      parseNonNull branches
    else
      parseAvroType branch :: parseNonNull branches

end

/- `is_nullable` -/
def isNullable : AvroType → Bool
| .union branches => branches.any AvroType.isNull
| _ => false

/- The tuples of `extract_fields`. -/
structure Column where
  name : AvroName
  sqlType : String
  nullable : Bool

/- `extract_fields` -/
def extractFields (schema : AvroSchema) : List Column :=
  schema.fields.map fun field =>
    { name := field.name
      sqlType := parseAvroType field.type
      nullable := isNullable field.type }

end FraudStream

------------------------------------------------------------
-- The Existing Definition
------------------------------------------------------------

namespace FraudStream

open Decimal (isSpace)

/- The names of fields and the statements are ASCII text, of
   which these are `lower` and `upper`. -/
def lower (text : List Char) : List Char :=
  text.map Char.toLower

def upper (text : List Char) : List Char :=
  text.map Char.toUpper

def ddlKeywords : List String :=
  ["create", "table", "alter", "add", "column", "using",
    "partitioned", "by", "tblproperties", ")", "'"]

def startsWithKeyword (text : List Char) : Bool :=
  ddlKeywords.any fun keyword =>
    keyword.toList.isPrefixOf text

/- The body of the loop of `load_existing_ddl`: the field
   that a line is taken to define. -/
def fieldOfLine? (line : List Char) : Option (List Char) :=
  let stripped := TextLines.strip isSpace line
  if !stripped.isEmpty &&
      !"--".toList.isPrefixOf stripped &&
      !"(".toList.isPrefixOf stripped then
    match TextLines.words isSpace stripped with
    | first :: _ :: _ =>
        let maybeField := lower first
        if startsWithKeyword maybeField then
          none
        else
          some maybeField
    | _ => none
  else
    none

/- `part in text` -/
def hasPart (part text : List Char) : Bool :=
  text.tails.any part.isPrefixOf

/- `load_existing_ddl`, of a file that may not exist. -/
def loadExistingDdl
    (output : Option (List Char)) :
    List (List Char) × Bool :=
  match output with
  | none => ([], false)
  | some [] => ([], false)
  | some content =>
      let hasCreate :=
        hasPart "CREATE TABLE".toList (upper content)
      let fields :=
        (content.splitOn '\n').filterMap fieldOfLine?
      (fields, hasCreate)

end FraudStream

------------------------------------------------------------
-- Statements
------------------------------------------------------------

namespace FraudStream

def columnLine (column : Column) : List Char :=
  [' ', ' '] ++ column.name.text ++ [' '] ++
    column.sqlType.toList ++
    (if column.nullable then [] else " NOT NULL".toList)

def createHeader : List Char :=
  "CREATE TABLE IF NOT EXISTS enriched_transactions (".toList

/- `generate_create_table` -/
def generateCreateTable
    (fields : List Column) : List Char :=
  let columnLines := fields.map columnLine
  createHeader ++ ['\n'] ++
    [',', '\n'].intercalate columnLines ++ ['\n'] ++
    [')', '\n'] ++
    "USING iceberg".toList ++ ['\n'] ++
    "PARTITIONED BY (days(event_time));".toList ++ ['\n']

def addColumnText : List Char :=
  "ALTER TABLE enriched_transactions ADD COLUMN ".toList

def alterStatement (column : Column) : List Char :=
  addColumnText ++ column.name.text ++ [' '] ++
    column.sqlType.toList ++ [';', '\n']

/- `name not in existing` -/
def isMissing
    (existing : List (List Char))
    (column : Column) : Bool :=
  !decide (column.name.text ∈ existing)

/- `generate_alter_statements` -/
def generateAlterStatements
    (newFields : List Column)
    (existing : List (List Char)) : List Char :=
  newFields.flatMap fun column =>
    if isMissing existing column then
      alterStatement column
    else
      []

/- `main`: the exit code and the output file. -/
def evolveSchema
    (avsc : SchemaFile)
    (output : Option (List Char)) :
    Nat × Option (List Char) :=
  match avsc with
  | .missing => (1, output)
  | .malformed => (1, output)
  | .parsed schema =>
      let fields := extractFields schema
      let existing := loadExistingDdl output
      if existing.2 = false then
        (0, some (generateCreateTable fields))
      else
        let alter := generateAlterStatements fields existing.1
        if alter.isEmpty then
          (0, output)
        else
          (0, some (output.getD [] ++ alter))

end FraudStream
