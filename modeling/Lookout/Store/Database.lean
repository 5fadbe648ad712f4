import Lookout.Schema.Revision
import Lookout.Store.Row
import Lookout.Store.Table

/-!
# Databases

A database is the catalog of what exists, the position of its schema, and the rows of
the ten tables. A table that does not exist has no rows. Rows that name a parent go and
are renumbered with it.
-/

namespace Lookout

open Schema (Catalog Column Revision TableName)
open Store

/-- Everything that is kept. -/
structure Database where
  catalog : Catalog := {}
  position : Option Revision := none
  ledger : Table LedgerLine := .empty
  journal : Table JournalLine := .empty
  accounts : Table Account := .empty
  tokens : Table Token := .empty
  invites : Table Invite := .empty
  threads : Table Thread := .empty
  descriptors : Table Descriptor := .empty
  posts : Table Post := .empty
  replies : Table Reply := .empty
  watches : Table Watch := .empty

namespace Database

instance : Inhabited Database := ⟨{}⟩

/-- Whether a table holds a row under a number. -/
def hasRow (database : Database) : TableName → Int → Bool
  | .position, _ => false
  | .ledger, id => database.ledger.has id
  | .journal, id => database.journal.has id
  | .accounts, id => database.accounts.has id
  | .tokens, id => database.tokens.has id
  | .invites, id => database.invites.has id
  | .threads, id => database.threads.has id
  | .descriptors, id => database.descriptors.has id
  | .posts, id => database.posts.has id
  | .replies, id => database.replies.has id
  | .watches, id => database.watches.has id

/-- Remove descriptors, and the posts, replies and watches that name one of them. -/
def eraseDescriptors (database : Database) (gone : Int → Bool) : Database :=
  { database with
    descriptors := database.descriptors.keep fun entry => !gone entry.id
    posts := database.posts.keep fun entry => !gone entry.row.descriptor
    replies := database.replies.keep fun entry =>
      !gone entry.row.descriptor && !gone entry.row.replyTo
    watches := database.watches.keep fun entry => !gone entry.row.descriptor }

/-- Remove threads with their descriptors, and what names one of these. -/
def eraseThreads (database : Database) (gone : Int → Bool) : Database :=
  let lost (id : Int) := database.descriptors.entries.any fun entry =>
    entry.id = id && gone entry.row.thread
  { database.eraseDescriptors lost with
    threads := database.threads.keep fun entry => !gone entry.id }

/-- Remove accounts, and the tokens, replies and watches they own. -/
def eraseAccounts (database : Database) (gone : Int → Bool) : Database :=
  { database with
    accounts := database.accounts.keep fun entry => !gone entry.id
    tokens := database.tokens.keep fun entry => !gone entry.row.account
    replies := database.replies.keep fun entry => !gone entry.row.account
    watches := database.watches.keep fun entry => !gone entry.row.account }

/-- Remove rows of a table, and every row that names one of them. -/
def erase (database : Database) (table : TableName) (gone : Int → Bool) : Database :=
  match table with
  | .position => database
  | .ledger => { database with ledger := database.ledger.keep fun entry => !gone entry.id }
  | .journal => { database with journal := database.journal.keep fun entry => !gone entry.id }
  | .accounts => database.eraseAccounts gone
  | .tokens => { database with tokens := database.tokens.keep fun entry => !gone entry.id }
  | .invites => { database with invites := database.invites.keep fun entry => !gone entry.id }
  | .threads => database.eraseThreads gone
  | .descriptors => database.eraseDescriptors gone
  | .posts => { database with posts := database.posts.keep fun entry => !gone entry.id }
  | .replies => { database with replies := database.replies.keep fun entry => !gone entry.id }
  | .watches => { database with watches := database.watches.keep fun entry => !gone entry.id }

/-- A number after a row has been renumbered. -/
def renamed (old new id : Int) : Int :=
  if id = old then new else id

/-- Put a row under another number; rows that name it follow. -/
def renumber (database : Database) (table : TableName) (old new : Int) : Database :=
  match table with
  | .position => database
  | .ledger => { database with ledger := database.ledger.renumber old new }
  | .journal => { database with journal := database.journal.renumber old new }
  | .accounts =>
      { database with
        accounts := database.accounts.renumber old new
        tokens := database.tokens.map fun row => { row with account := renamed old new row.account }
        replies := database.replies.map fun row => { row with account := renamed old new row.account }
        watches := database.watches.map fun row => { row with account := renamed old new row.account } }
  | .tokens => { database with tokens := database.tokens.renumber old new }
  | .invites => { database with invites := database.invites.renumber old new }
  | .threads =>
      { database with
        threads := database.threads.renumber old new
        descriptors := database.descriptors.map fun row =>
          { row with thread := renamed old new row.thread } }
  | .descriptors =>
      { database with
        descriptors := database.descriptors.renumber old new
        posts := database.posts.map fun row =>
          { row with descriptor := renamed old new row.descriptor }
        replies := database.replies.map fun row =>
          { row with
            descriptor := renamed old new row.descriptor
            replyTo := renamed old new row.replyTo }
        watches := database.watches.map fun row =>
          { row with descriptor := renamed old new row.descriptor } }
  | .posts => { database with posts := database.posts.renumber old new }
  | .replies => { database with replies := database.replies.renumber old new }
  | .watches => { database with watches := database.watches.renumber old new }

/-- A database without rows at a revision, with the ledger lines that lead there. -/
def atRevision (revision : Revision) (appliedOn : Time.Stamp) : Database :=
  { catalog :=
      { revision.catalog with tables := .position :: revision.catalog.tables }
    position := some revision
    ledger := (Revision.between none (some revision)).foldl (fun ledger applied =>
      ledger.put applied.number
        ⟨some applied.label, appliedOn, some applied.checksum⟩) .empty }

end Database

end Lookout
