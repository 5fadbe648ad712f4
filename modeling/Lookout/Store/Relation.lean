import Lookout.Number.Double
import Lookout.Store.Database

/-!
# Relations

How the rows of each table look column by column. Unique indexes, dumps and edits work
on this view, so each of them is written once for all tables.
-/

namespace Lookout

open Schema (Column TableName)
open Store
open Time (Stamp WallTime)

/-- What a row holds in one column. -/
inductive Cell where
  | null
  | integer (value : Int)
  | text (value : String)
  | flag (value : Bool)
  | moment (value : WallTime)
  | real (value : Number.Double)
  deriving DecidableEq, Repr

namespace Cell

/-- A number that may be absent. -/
def ofInteger? : Option Int → Cell
  | some value => integer value
  | none => null

/-- The largest number that the store keeps as a whole number. -/
def maxInteger : Int := 9223372036854775807

/-- A count that may be absent. One that has outgrown whole numbers is kept as a double. -/
def ofCount? : Option Int → Cell
  | some value =>
      if value ≤ maxInteger then integer value else real (Number.Double.ofInt value)
  | none => null

/-- A text that may be absent. -/
def ofText? : Option String → Cell
  | some value => text value
  | none => null

/-- A truth value that may be absent. -/
def ofFlag? : Option Bool → Cell
  | some value => flag value
  | none => null

/-- A date that may be absent. -/
def ofMoment? : Option WallTime → Cell
  | some value => moment value
  | none => null

/-- The number in a cell; a truth value counts as zero or one. -/
def integer? : Cell → Option Int
  | integer value => some value
  | flag value => some (if value then 1 else 0)
  | _ => none

/-- The text in a cell. -/
def text? : Cell → Option String
  | text value => some value
  | _ => none

/-- The truth value in a cell; zero and one count as truth values. -/
def flag? : Cell → Option Bool
  | flag value => some value
  | integer 0 => some false
  | integer 1 => some true
  | _ => none

/-- The date in a cell. -/
def moment? : Cell → Option WallTime
  | moment value => some value
  | _ => none

/-- A cell that may be empty, read by a reader of cells that hold something. -/
def orNull {β : Type} (read : Cell → Option β) : Cell → Option (Option β)
  | null => some none
  | cell => (read cell).map some

/-- A date that someone writes into a column with a default. -/
def stamp? (cell : Cell) : Option Stamp :=
  cell.moment?.map fun wall => ⟨wall, true⟩

end Cell

/-- Rows that make up one of the tables. -/
class Relation (α : Type) where
  /-- The table of the rows. -/
  table : TableName
  /-- The rows in a database. -/
  read : Database → Table α
  /-- A database with other rows in this table. -/
  write : Database → Table α → Database
  /-- What a row holds in a column other than its number. -/
  cell : α → Column → Cell
  /-- A row with another value in a column, if the column can hold it. -/
  assign : α → Column → Cell → Option α

namespace Relation

instance : Relation Account where
  table := .accounts
  read := (·.accounts)
  write database accounts := { database with accounts }
  cell
    | row, .accountId => .text row.accountId
    | row, .validUntil => .ofMoment? row.validUntil
    | row, .createdOn => .moment row.createdOn.wall
    | row, .deletedOn => .ofMoment? row.deletedOn
    | _, _ => .null
  assign
    | row, .accountId, value => value.text?.map fun accountId => { row with accountId }
    | row, .validUntil, value =>
        (value.orNull Cell.moment?).map fun validUntil => { row with validUntil }
    | row, .createdOn, value => value.stamp?.map fun createdOn => { row with createdOn }
    | row, .deletedOn, value =>
        (value.orNull Cell.moment?).map fun deletedOn => { row with deletedOn }
    | _, _, _ => none

instance : Relation Token where
  table := .tokens
  read := (·.tokens)
  write database tokens := { database with tokens }
  cell
    | row, .ownerAccountId => .integer row.account
    | row, .token => .ofText? row.text
    | row, .applicationType => .integer row.application
    | row, .tokenType => .integer row.kind
    | _, _ => .null
  assign
    | row, .ownerAccountId, value => value.integer?.map fun account => { row with account }
    | row, .token, value => (value.orNull Cell.text?).map fun text => { row with text }
    | row, .applicationType, value =>
        value.integer?.map fun application => { row with application }
    | row, .tokenType, value => value.integer?.map fun kind => { row with kind }
    | _, _, _ => none

instance : Relation Invite where
  table := .invites
  read := (·.invites)
  write database invites := { database with invites }
  cell
    | row, .inviteId => .text row.inviteId
    | row, .expiresOn => .moment row.expiresOn
    | row, .acceptedOn => .ofMoment? row.acceptedOn
    | row, .createdOn => .moment row.createdOn.wall
    | _, _ => .null
  assign
    | row, .inviteId, value => value.text?.map fun inviteId => { row with inviteId }
    | row, .expiresOn, value => value.moment?.map fun expiresOn => { row with expiresOn }
    | row, .acceptedOn, value =>
        (value.orNull Cell.moment?).map fun acceptedOn => { row with acceptedOn }
    | row, .createdOn, value => value.stamp?.map fun createdOn => { row with createdOn }
    | _, _, _ => none

instance : Relation Thread where
  table := .threads
  read := (·.threads)
  write database threads := { database with threads }
  cell
    | row, .siteName => .text row.site
    | row, .boardCode => .text row.board
    | row, .threadNo => .integer row.number
    | row, .isDead => .ofFlag? row.isDead
    | row, .lastPostNo => .ofInteger? row.lastPostNo
    | row, .lastPostSubNo => .ofInteger? row.lastPostSubNo
    | row, .createdOn => .moment row.createdOn.wall
    | row, .deletedOn => .ofMoment? row.deletedOn
    | row, .lastModified => .ofMoment? row.lastModified
    | _, _ => .null
  assign
    | row, .siteName, value => value.text?.map fun site => { row with site }
    | row, .boardCode, value => value.text?.map fun board => { row with board }
    | row, .threadNo, value => value.integer?.map fun number => { row with number }
    | row, .isDead, value => (value.orNull Cell.flag?).map fun isDead => { row with isDead }
    | row, .lastPostNo, value =>
        (value.orNull Cell.integer?).map fun lastPostNo => { row with lastPostNo }
    | row, .lastPostSubNo, value =>
        (value.orNull Cell.integer?).map fun lastPostSubNo => { row with lastPostSubNo }
    | row, .createdOn, value => value.stamp?.map fun createdOn => { row with createdOn }
    | row, .deletedOn, value =>
        (value.orNull Cell.moment?).map fun deletedOn => { row with deletedOn }
    | row, .lastModified, value =>
        (value.orNull Cell.moment?).map fun lastModified => { row with lastModified }
    | _, _, _ => none

instance : Relation Descriptor where
  table := .descriptors
  read := (·.descriptors)
  write database descriptors := { database with descriptors }
  cell
    | row, .ownerThreadId => .integer row.thread
    | row, .postNo => .integer row.postNo
    | row, .postSubNo => .integer row.postSubNo
    | _, _ => .null
  assign
    | row, .ownerThreadId, value => value.integer?.map fun thread => { row with thread }
    | row, .postNo, value => value.integer?.map fun postNo => { row with postNo }
    | row, .postSubNo, value => value.integer?.map fun postSubNo => { row with postSubNo }
    | _, _, _ => none

instance : Relation Post where
  table := .posts
  read := (·.posts)
  write database posts := { database with posts }
  cell
    | row, .ownerDescriptorId => .integer row.descriptor
    | row, .isDead => .flag row.isDead
    | row, .createdOn => .moment row.createdOn.wall
    | row, .deletedOn => .ofMoment? row.deletedOn
    | _, _ => .null
  assign
    | row, .ownerDescriptorId, value => value.integer?.map fun descriptor => { row with descriptor }
    | row, .isDead, value => value.flag?.map fun isDead => { row with isDead }
    | row, .createdOn, value => value.stamp?.map fun createdOn => { row with createdOn }
    | row, .deletedOn, value =>
        (value.orNull Cell.moment?).map fun deletedOn => { row with deletedOn }
    | _, _, _ => none

instance : Relation Reply where
  table := .replies
  read := (·.replies)
  write database replies := { database with replies }
  cell
    | row, .ownerAccountId => .integer row.account
    | row, .ownerDescriptorId => .integer row.descriptor
    | row, .replyToDescriptorId => .integer row.replyTo
    | row, .deliveryAttempt => .ofCount? row.attempts
    | row, .deliveredOn => .ofMoment? row.deliveredOn
    | row, .createdOn => .moment row.createdOn.wall
    | row, .deletedOn => .ofMoment? row.deletedOn
    | _, _ => .null
  assign
    | row, .ownerAccountId, value => value.integer?.map fun account => { row with account }
    | row, .ownerDescriptorId, value => value.integer?.map fun descriptor => { row with descriptor }
    | row, .replyToDescriptorId, value => value.integer?.map fun replyTo => { row with replyTo }
    | row, .deliveryAttempt, value =>
        (value.orNull Cell.integer?).map fun attempts => { row with attempts }
    | row, .deliveredOn, value =>
        (value.orNull Cell.moment?).map fun deliveredOn => { row with deliveredOn }
    | row, .createdOn, value => value.stamp?.map fun createdOn => { row with createdOn }
    | row, .deletedOn, value =>
        (value.orNull Cell.moment?).map fun deletedOn => { row with deletedOn }
    | _, _, _ => none

instance : Relation Watch where
  table := .watches
  read := (·.watches)
  write database watches := { database with watches }
  cell
    | row, .ownerAccountId => .integer row.account
    | row, .ownerDescriptorId => .integer row.descriptor
    | row, .applicationType => .integer row.application
    | _, _ => .null
  assign
    | row, .ownerAccountId, value => value.integer?.map fun account => { row with account }
    | row, .ownerDescriptorId, value => value.integer?.map fun descriptor => { row with descriptor }
    | row, .applicationType, value =>
        value.integer?.map fun application => { row with application }
    | _, _, _ => none

instance : Relation JournalLine where
  table := .journal
  read := (·.journal)
  write database journal := { database with journal }
  cell
    | row, .logTime => .moment row.time
    | row, .logLevel => .ofText? row.level
    | row, .target => .ofText? row.target
    | row, .message => .text row.message
    | _, _ => .null
  assign
    | row, .logTime, value => value.moment?.map fun time => { row with time }
    | row, .logLevel, value => (value.orNull Cell.text?).map fun level => { row with level }
    | row, .target, value => (value.orNull Cell.text?).map fun target => { row with target }
    | row, .message, value => value.text?.map fun message => { row with message }
    | _, _, _ => none

instance : Relation LedgerLine where
  table := .ledger
  read := (·.ledger)
  write database ledger := { database with ledger }
  cell
    | row, .name => .ofText? row.name
    | row, .appliedOn => .moment row.appliedOn.wall
    | row, .checksum => .ofText? row.checksum
    | _, _ => .null
  assign
    | row, .name, value => (value.orNull Cell.text?).map fun name => { row with name }
    | row, .appliedOn, value => value.stamp?.map fun appliedOn => { row with appliedOn }
    | row, .checksum, value => (value.orNull Cell.text?).map fun checksum => { row with checksum }
    | _, _, _ => none

/-- What a stored row holds in a column. -/
def cellOf {α : Type} [Relation α] (entry : Entry α) (column : Column) : Cell :=
  if column = (Relation.table α).definition.key then .integer entry.id
  else Relation.cell entry.row column

/-- A stored row with all its columns. -/
def record {α : Type} [Relation α] (entry : Entry α) : List (Column × Cell) :=
  (Relation.table α).definition.columns.map fun definition =>
    (definition.column, cellOf entry definition.column)

/-- What a row holds in the columns of an index, unless one of them is empty. Rows with an
empty column are never alike. -/
def keyOf {α : Type} [Relation α] (columns : List Column) (row : α) : Option (List Cell) :=
  let cells := columns.map (Relation.cell row)
  if cells.contains .null then none else some cells

/-- Whether two rows are alike in the columns of an index. -/
def alike {α : Type} [Relation α] (columns : List Column) (left right : α) : Bool :=
  match keyOf columns left with
  | some key => keyOf columns right == some key
  | none => false

end Relation

namespace Database

/-- The records of a table, in the order of their numbers. -/
def records (database : Database) : TableName → List (List (Column × Cell))
  | .position =>
      match database.position with
      | some revision => [[(.versionNumber, .text revision.key)]]
      | none => []
  | .ledger => database.ledger.entries.map Relation.record
  | .journal => database.journal.entries.map Relation.record
  | .accounts => database.accounts.entries.map Relation.record
  | .tokens => database.tokens.entries.map Relation.record
  | .invites => database.invites.entries.map Relation.record
  | .threads => database.threads.entries.map Relation.record
  | .descriptors => database.descriptors.entries.map Relation.record
  | .posts => database.posts.entries.map Relation.record
  | .replies => database.replies.entries.map Relation.record
  | .watches => database.watches.entries.map Relation.record

/-- The rows of some tables; tables without rows are left out. -/
def dump (database : Database) (tables : List TableName) :
    List (TableName × List (List (Column × Cell))) :=
  (tables.filter fun table => database.catalog.hasTable table).filterMap fun table =>
    let rows := database.records table
    if rows.isEmpty then none else some (table, rows)

end Database

end Lookout
