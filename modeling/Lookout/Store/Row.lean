import Lookout.Time.Wall

/-!
# Rows

What a row of each table holds besides its number. Columns that may be empty are
options; a time of creation remembers whether the store filled it in. Texts are sequences
of Unicode scalar values, which is what the store takes: a lone surrogate is no character.
-/

namespace Lookout

open Time (Stamp WallTime)

/-- A person's device, known by the hash of a user id. An account that has been expired
keeps its row and the date of that. -/
structure Account where
  accountId : String
  validUntil : Option WallTime := none
  createdOn : Stamp
  deletedOn : Option WallTime := none
  deriving DecidableEq, Repr

/-- A credential for delivering notifications of one application to an account. -/
structure Token where
  account : Int
  text : Option String
  application : Int
  kind : Int
  deriving DecidableEq, Repr

/-- A text that opens an account once. -/
structure Invite where
  inviteId : String
  expiresOn : WallTime
  acceptedOn : Option WallTime := none
  createdOn : Stamp
  deriving DecidableEq, Repr

/-- A thread of an image board and how far its posts have been taken in. -/
structure Thread where
  site : String
  board : String
  number : Int
  isDead : Option Bool := some false
  lastPostNo : Option Int := some 0
  lastPostSubNo : Option Int := some 0
  createdOn : Stamp
  deletedOn : Option WallTime := none
  lastModified : Option WallTime := none
  deriving DecidableEq, Repr

/-- The identity of a post inside a thread. -/
structure Descriptor where
  thread : Int
  postNo : Int
  postSubNo : Int
  deriving DecidableEq, Repr

/-- The life of the post behind a descriptor. -/
structure Post where
  descriptor : Int
  isDead : Bool := false
  createdOn : Stamp
  deletedOn : Option WallTime := none
  deriving DecidableEq, Repr

/-- A post answered another one that an account watches, and how its notification fares. -/
structure Reply where
  account : Int
  descriptor : Int
  replyTo : Int
  attempts : Option Int := some 0
  deliveredOn : Option WallTime := none
  createdOn : Stamp
  deletedOn : Option WallTime := none
  deriving DecidableEq, Repr

/-- An account watches a post for one application. -/
structure Watch where
  account : Int
  descriptor : Int
  application : Int
  deriving DecidableEq, Repr

/-- A stored log line. -/
structure JournalLine where
  time : WallTime
  level : Option String
  target : Option String
  message : String
  deriving DecidableEq, Repr

/-- A revision of the schema that has been applied; its number is its version. -/
structure LedgerLine where
  name : Option String
  appliedOn : Stamp
  checksum : Option String
  deriving DecidableEq, Repr

end Lookout
