/-!
# Columns and tables by name

The names that the store knows: its eleven tables, the columns they are made of, and
the indexes that speed up or restrict them. Names are a closed set, so a catalog can
only speak about tables that exist somewhere in the history of the schema.
-/

namespace Lookout.Schema

/-- The tables of the store. `position` holds the revision that the schema is at. -/
inductive TableName where
  | position
  | ledger
  | journal
  | accounts
  | tokens
  | threads
  | descriptors
  | replies
  | watches
  | posts
  | invites
  deriving DecidableEq, Repr

namespace TableName

/-- The name of a table in scripts and messages. -/
def text : TableName → String
  | position => "alembic_version"
  | ledger => "migrations"
  | journal => "logs"
  | accounts => "accounts"
  | tokens => "account_tokens"
  | threads => "threads"
  | descriptors => "post_descriptors"
  | replies => "post_replies"
  | watches => "post_watches"
  | posts => "posts"
  | invites => "invites"

/-- The tables whose rows the services keep. -/
def data : List TableName :=
  [accounts, tokens, invites, journal, posts, descriptors, replies, watches, threads]

/-- Every table, in the order of their names. -/
def sorted : List TableName :=
  [tokens, accounts, position, invites, journal, ledger, descriptors, replies, watches, posts,
    threads]

/-- The table of a name. -/
def ofText? (text : String) : Option TableName :=
  sorted.find? fun table => table.text == text

end TableName

/-- The columns of all tables. -/
inductive Column where
  | id
  | accountId
  | validUntil
  | createdOn
  | deletedOn
  | ownerAccountId
  | token
  | applicationType
  | tokenType
  | inviteId
  | expiresOn
  | acceptedOn
  | logTime
  | logLevel
  | target
  | message
  | version
  | name
  | appliedOn
  | checksum
  | siteName
  | boardCode
  | threadNo
  | isDead
  | lastPostNo
  | lastPostSubNo
  | lastModified
  | ownerThreadId
  | postNo
  | postSubNo
  | ownerDescriptorId
  | replyToDescriptorId
  | deliveryAttempt
  | deliveredOn
  | versionNumber
  deriving DecidableEq, Repr

/-- The name of a column in scripts and messages. -/
def Column.text : Column → String
  | id => "id"
  | accountId => "account_id"
  | validUntil => "valid_until"
  | createdOn => "created_on"
  | deletedOn => "deleted_on"
  | ownerAccountId => "owner_account_id"
  | token => "token"
  | applicationType => "application_type"
  | tokenType => "token_type"
  | inviteId => "invite_id"
  | expiresOn => "expires_on"
  | acceptedOn => "accepted_on"
  | logTime => "log_time"
  | logLevel => "log_level"
  | target => "target"
  | message => "message"
  | version => "version"
  | name => "name"
  | appliedOn => "applied_on"
  | checksum => "checksum"
  | siteName => "site_name"
  | boardCode => "board_code"
  | threadNo => "thread_no"
  | isDead => "is_dead"
  | lastPostNo => "last_processed_post_no"
  | lastPostSubNo => "last_processed_post_sub_no"
  | lastModified => "last_modified"
  | ownerThreadId => "owner_thread_id"
  | postNo => "post_no"
  | postSubNo => "post_sub_no"
  | ownerDescriptorId => "owner_post_descriptor_id"
  | replyToDescriptorId => "reply_to_post_descriptor_id"
  | deliveryAttempt => "notification_delivery_attempt"
  | deliveredOn => "notification_delivered_on"
  | versionNumber => "version_num"

/-- The names of indexes. -/
inductive IndexName where
  | logTime
  | logLevel
  | accountId
  | accountCreatedOn
  | accountDeletedOn
  | tokenOwner
  | tokenText
  | tokenUnique
  | tokenSlot
  | threadUnique
  | descriptorUnique
  | replyUnique
  | replyUndelivered
  | watchOwner
  | watchDescriptor
  | watchUnique
  | postDescriptor
  | inviteId
  | inviteExpiresOn
  deriving DecidableEq, Repr

namespace IndexName

/-- The name of an index in scripts and messages. -/
def text : IndexName → String
  | logTime => "logs_log_time_idx"
  | logLevel => "logs_log_level_idx"
  | accountId => "accounts_account_id_idx"
  | accountCreatedOn => "accounts_created_on_idx"
  | accountDeletedOn => "accounts_deleted_on_idx"
  | tokenOwner => "owner_account_id_idx"
  | tokenText => "token_idx"
  | tokenUnique => "unique_token_idx"
  | tokenSlot => "account_tokens_owner_type_idx"
  | threadUnique => "threads_unique_id_idx"
  | descriptorUnique => "post_descriptors_unique_id_idx"
  | replyUnique => "post_replies_unique_id_idx"
  | replyUndelivered => "post_replies_undelivered_idx"
  | watchOwner => "post_watches_owner_account_id_idx"
  | watchDescriptor => "post_watches_owner_post_descriptor_id_idx"
  | watchUnique => "post_watches_unique_idx"
  | postDescriptor => "posts_owner_post_descriptor_id_idx"
  | inviteId => "invites_invite_id_idx"
  | inviteExpiresOn => "invites_expires_on_idx"

/-- The table that an index belongs to. -/
def table : IndexName → TableName
  | logTime | logLevel => .journal
  | accountId | accountCreatedOn | accountDeletedOn => .accounts
  | tokenOwner | tokenText | tokenUnique | tokenSlot => .tokens
  | threadUnique => .threads
  | descriptorUnique => .descriptors
  | replyUnique | replyUndelivered => .replies
  | watchOwner | watchDescriptor | watchUnique => .watches
  | postDescriptor => .posts
  | inviteId | inviteExpiresOn => .invites

end IndexName

end Lookout.Schema
