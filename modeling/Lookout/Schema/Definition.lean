import Lookout.Schema.Column

/-!
# Table definitions

What each table is made of. A table's columns and foreign keys never change from one
revision of the schema to the next; only the set of tables and their indexes do, so
one definition per table is enough.
-/

namespace Lookout.Schema

/-- What a column holds. -/
inductive ColumnType where
  /-- A key that the store numbers by itself. -/
  | numbered
  | integer
  | bigInteger
  | smallInteger
  | text (limit : Option Nat)
  | moment
  | flag
  deriving DecidableEq, Repr

/-- What fills a column that an insertion leaves out. -/
inductive ColumnDefault where
  /-- The clock, in whole seconds. -/
  | clock
  | flag (value : Bool)
  | integer (value : Int)
  deriving DecidableEq, Repr

/-- The text of a default in the description of a table. -/
def ColumnDefault.text : ColumnDefault → String
  | clock => "CURRENT_TIMESTAMP"
  | flag value => if value then "true" else "false"
  | integer value => toString value

/-- One column of a table. -/
structure ColumnDefinition where
  column : Column
  type : ColumnType
  required : Bool := false
  default? : Option ColumnDefault := none
  deriving DecidableEq, Repr

/-- A column that names a row of another table by its id. Deleting or renumbering that
row carries over. -/
structure ForeignKey where
  name : String
  column : Column
  parent : TableName
  deriving DecidableEq, Repr

/-- The columns of a table, its key and its foreign keys. -/
structure TableDefinition where
  columns : List ColumnDefinition
  key : Column := .id
  /-- The name of the key constraint, where it has one. -/
  keyName : Option String := none
  foreignKeys : List ForeignKey := []
  deriving DecidableEq, Repr

namespace ColumnDefinition

/-- A key column numbered by the store. -/
def numbered : ColumnDefinition :=
  { column := .id, type := .numbered, required := true }

/-- The time of a row's creation, filled in by the clock. -/
def createdOn : ColumnDefinition :=
  { column := .createdOn, type := .moment, required := true, default? := some .clock }

/-- A date that may be absent. -/
def moment (column : Column) : ColumnDefinition :=
  { column, type := .moment }

/-- A text of limited length. -/
def limited (column : Column) (limit : Nat) (required : Bool) : ColumnDefinition :=
  { column, type := .text (some limit), required }

/-- A number that must be present. -/
def number (column : Column) : ColumnDefinition :=
  { column, type := .bigInteger, required := true }

end ColumnDefinition

namespace TableName

open ColumnDefinition

/-- The definition of a table. -/
def definition : TableName → TableDefinition
  | position =>
      { columns := [limited .versionNumber 32 true], key := .versionNumber,
        keyName := some "alembic_version_pkc" }
  | ledger =>
      { columns := [{ column := .version, type := .integer, required := true },
          limited .name 256 false,
          { column := .appliedOn, type := .moment, required := true, default? := some .clock },
          limited .checksum 512 false],
        key := .version }
  | journal =>
      { columns := [numbered, { column := .logTime, type := .moment, required := true },
          limited .logLevel 8 false, { column := .target, type := .text none },
          { column := .message, type := .text none, required := true }] }
  | accounts =>
      { columns := [numbered, limited .accountId 128 true, moment .validUntil, createdOn,
          moment .deletedOn] }
  | tokens =>
      { columns := [numbered, number .ownerAccountId, limited .token 1024 false,
          number .applicationType, number .tokenType],
        foreignKeys := [⟨"fk_owner_account_id", .ownerAccountId, accounts⟩] }
  | threads =>
      { columns := [numbered, limited .siteName 128 true, limited .boardCode 64 true, number .threadNo,
          { column := .isDead, type := .flag, default? := some (.flag false) },
          { column := .lastPostNo, type := .bigInteger, default? := some (.integer 0) },
          { column := .lastPostSubNo, type := .bigInteger, default? := some (.integer 0) },
          createdOn, moment .deletedOn, moment .lastModified] }
  | descriptors =>
      { columns := [numbered, number .ownerThreadId, number .postNo,
          { number .postSubNo with default? := some (.integer 0) }],
        foreignKeys := [⟨"fk_owner_thread_id", .ownerThreadId, threads⟩] }
  | replies =>
      { columns := [numbered, number .ownerAccountId, number .ownerDescriptorId,
          number .replyToDescriptorId,
          { column := .deliveryAttempt, type := .smallInteger, default? := some (.integer 0) },
          moment .deliveredOn, createdOn, moment .deletedOn],
        foreignKeys := [⟨"fk_owner_account_id", .ownerAccountId, accounts⟩,
          ⟨"fk_owner_post_descriptor_id", .ownerDescriptorId, descriptors⟩,
          ⟨"fk_reply_to_post_descriptor_id", .replyToDescriptorId, descriptors⟩] }
  | watches =>
      { columns := [numbered, number .ownerAccountId, number .ownerDescriptorId,
          { number .applicationType with default? := some (.integer (-1)) }],
        foreignKeys := [⟨"fk_account_id", .ownerAccountId, accounts⟩,
          ⟨"fk_owner_post_descriptor_id", .ownerDescriptorId, descriptors⟩] }
  | posts =>
      { columns := [numbered, number .ownerDescriptorId,
          { column := .isDead, type := .flag, required := true, default? := some (.flag false) },
          createdOn, moment .deletedOn],
        foreignKeys := [⟨"fk_posts_owner_post_descriptor_id", .ownerDescriptorId, descriptors⟩] }
  | invites =>
      { columns := [numbered, limited .inviteId 256 true,
          { column := .expiresOn, type := .moment, required := true }, moment .acceptedOn,
          createdOn] }

end TableName

end Lookout.Schema
