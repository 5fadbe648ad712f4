import Lookout.Schema.Catalog

/-!
# Revisions

The four revisions of the schema, each with the changes that lead to it and the changes
that lead back. A revision is known by its number and guarded by a checksum.
-/

namespace Lookout.Schema

/-- The revisions of the schema, the oldest first. -/
inductive Revision where
  | initial
  | posts
  | applications
  | invites
  deriving DecidableEq, Repr

namespace Revision

/-- Every revision, the oldest first. -/
def all : List Revision :=
  [initial, posts, applications, invites]

/-- The newest revision. -/
def head : Revision := invites

/-- Revisions count from one. -/
def number : Revision → Nat
  | initial => 1
  | posts => 2
  | applications => 3
  | invites => 4

/-- The revision of a number. -/
def ofNumber? (number : Nat) : Option Revision :=
  all.find? fun revision => revision.number == number

/-- The number of a revision in the four digits that targets are written in. -/
def key : Revision → String
  | initial => "0001"
  | posts => "0002"
  | applications => "0003"
  | invites => "0004"

/-- The revision of a key. -/
def ofKey? (key : String) : Option Revision :=
  all.find? fun revision => revision.key == key

/-- What a revision is for. -/
def label : Revision → String
  | initial => "initial schema"
  | posts => "add posts table"
  | applications => "multi-token accounts and per-application watches"
  | invites => "add invites table"

/-- The checksum that a revision is recorded with. -/
def checksum : Revision → String
  | initial =>
      "67701e424a6de670f42b1abcb63fe55fbbdb25b90c0a9b1944c6f967aa642099" ++
        "7831c2028d1b994d78c80fb4e40aa600d4e9b1a1f3b0952a68a77e83154829a0"
  | posts =>
      "9555a139fca8c80ef9cb5e740148ccddee116fd5359e909c2de7482fce9f7934" ++
        "f779bec069d199268bc9a8f1b0f98cbcf84d272759da62289ba6c1dd845f2a92"
  | applications =>
      "88a9b1c332e88e1b5bb7106a8a85d81315aaccfae19fc01852385e197c70ea29" ++
        "a1683313798a26d24677b8f75533873fa2b4734c54e08e7571b9c23a67493755"
  | invites =>
      "3b32458131cdd38a67d8d8877b2b1f999ca498b860861ce60d94c76c7a5f246e" ++
        "9acc0696c78ada0b30597f7cb6a685035655204257ecce8482170770151761e4"

/-- The checksum of the revision with a number. -/
def checksumOf? (version : Int) : Option String :=
  (all.find? fun revision => (revision.number : Int) == version).map checksum

/-- Account ids are unique. -/
def accountIdIndex : Index := ⟨.accountId, true, [.accountId]⟩

/-- An account's tokens by their owner; unique while an account has one token only. -/
def tokenOwnerIndex (unique : Bool) : Index := ⟨.tokenOwner, unique, [.ownerAccountId]⟩

/-- A token of a kind belongs to one account. -/
def tokenUniqueIndex : Index := ⟨.tokenUnique, true, [.token, .applicationType, .tokenType]⟩

/-- An account has one token per application and kind. -/
def tokenSlotIndex : Index := ⟨.tokenSlot, true, [.ownerAccountId, .applicationType, .tokenType]⟩

/-- A thread is known by its site, board and number. -/
def threadUniqueIndex : Index := ⟨.threadUnique, true, [.siteName, .boardCode, .threadNo]⟩

/-- A post is known by its thread and its two numbers. -/
def descriptorUniqueIndex : Index := ⟨.descriptorUnique, true, [.ownerThreadId, .postNo, .postSubNo]⟩

/-- A reply to a post reaches an account once. -/
def replyUniqueIndex : Index :=
  ⟨.replyUnique, true, [.ownerAccountId, .ownerDescriptorId, .replyToDescriptorId]⟩

/-- Watches are unique per account, post and, later, application. -/
def watchUniqueIndex (perApplication : Bool) : Index :=
  ⟨.watchUnique, true,
    [.ownerAccountId, .ownerDescriptorId] ++ if perApplication then [.applicationType] else []⟩

/-- A descriptor has one post. -/
def postDescriptorIndex : Index := ⟨.postDescriptor, true, [.ownerDescriptorId]⟩

/-- Invite ids are unique. -/
def inviteIdIndex : Index := ⟨.inviteId, true, [.inviteId]⟩

/-- The changes that lead to a revision from the one before it. -/
def upgrade : Revision → List Change
  | initial =>
      [.createTable .ledger,
        .createTable .journal,
        .createIndex ⟨.logTime, false, [.logTime]⟩,
        .createIndex ⟨.logLevel, false, [.logLevel]⟩,
        .createTable .accounts,
        .createIndex accountIdIndex,
        .createIndex ⟨.accountCreatedOn, false, [.createdOn]⟩,
        .createIndex ⟨.accountDeletedOn, false, [.deletedOn]⟩,
        .createTable .tokens,
        .createIndex (tokenOwnerIndex true),
        .createIndex ⟨.tokenText, false, [.token]⟩,
        .createIndex tokenUniqueIndex,
        .createTable .threads,
        .createIndex threadUniqueIndex,
        .createTable .descriptors,
        .createIndex descriptorUniqueIndex,
        .createTable .replies,
        .createIndex replyUniqueIndex,
        .createIndex ⟨.replyUndelivered, false, [.deliveredOn, .createdOn]⟩,
        .createTable .watches,
        .createIndex ⟨.watchOwner, false, [.ownerAccountId]⟩,
        .createIndex ⟨.watchDescriptor, false, [.ownerDescriptorId]⟩,
        .createIndex (watchUniqueIndex false)]
  | posts =>
      [.createTable .posts,
        .createIndex postDescriptorIndex]
  | applications =>
      [.dropIndex .tokenOwner,
        .createIndex (tokenOwnerIndex false),
        .createIndex tokenSlotIndex,
        .dropIndex .watchUnique,
        .createIndex (watchUniqueIndex true)]
  | invites =>
      [.createTable .invites,
        .createIndex inviteIdIndex,
        .createIndex ⟨.inviteExpiresOn, false, [.expiresOn]⟩]

/-- The changes that lead from a revision back to the one before it. -/
def downgrade : Revision → List Change
  | initial =>
      [.dropTable .watches,
        .dropTable .replies,
        .dropTable .descriptors,
        .dropTable .threads,
        .dropTable .tokens,
        .dropTable .accounts,
        .dropTable .journal,
        .dropTable .ledger]
  | posts =>
      [.dropIndex .postDescriptor,
        .dropTable .posts]
  | applications =>
      [.dropIndex .watchUnique,
        .createIndex (watchUniqueIndex false),
        .dropIndex .tokenSlot,
        .dropIndex .tokenOwner,
        .createIndex (tokenOwnerIndex true)]
  | invites =>
      [.dropIndex .inviteExpiresOn,
        .dropIndex .inviteId,
        .dropTable .invites]

/-- The revision before another one, or none before the oldest. -/
def previous? (revision : Revision) : Option Revision :=
  ofNumber? (revision.number - 1)

/-- The revision after another one, or none after the newest. -/
def next? (revision : Revision) : Option Revision :=
  ofNumber? (revision.number + 1)

/-- The place of a position among the revisions: zero before the oldest one. -/
def rank : Option Revision → Nat
  | none => 0
  | some revision => revision.number

/-- The revisions above one position and up to another, the oldest first. -/
def between (lower upper : Option Revision) : List Revision :=
  all.filter fun revision => rank lower < revision.number && revision.number ≤ rank upper

/-- The catalog of a store that is at a revision. -/
def catalog (revision : Revision) : Catalog :=
  match ({} : Catalog).applyAll ((between none (some revision)).flatMap upgrade) with
  | .ok catalog => catalog
  | .error _ => {}

end Revision

end Lookout.Schema
