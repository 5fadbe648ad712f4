import Lookout.Proofs.Atomicity
import Lookout.Proofs.Integrity

/-!
# Writes of requests

Whatever a request does to a database is made of a few kinds of writes: rows are added that the
store takes, to tables that exist, changed in columns that identify nothing, given another token
that no row holds, or removed with what names them. Which tables may be written follows from the
request alone, and the other tables are the same afterwards.
-/

namespace Lookout

open Schema (Column TableName)
open Store

/-- The tables that may lose rows when rows of a table go. -/
def Schema.TableName.cascade : TableName → List TableName
  | accounts => [.accounts, .tokens, .replies, .watches]
  | threads => [.threads, .descriptors, .posts, .replies, .watches]
  | descriptors => [.descriptors, .posts, .replies, .watches]
  | table => [table]

namespace Database

/-- A table that a statement finds exists. -/
theorem hasTable_of_missing {database : Database} {table : TableName}
    (complete : database.missing? [table] = none) : database.catalog.hasTable table = true := by
  simpa [missing?] using complete

/-- A table that an insertion can be prepared into exists. -/
theorem hasTable_of_obstacle {database : Database} {table : TableName}
    {ignoring : Option (List Column)} (prepared : database.obstacle? table ignoring = none) :
    database.catalog.hasTable table = true := by
  refine hasTable_of_missing ?_
  unfold obstacle? at prepared
  cases lacking : database.missing? [table] with
  | none => rfl
  | some lost => simp [lacking] at prepared

/-- A database is another one after writes to some of its tables. -/
inductive Writes (tables : List TableName) : Database → Database → Prop where
  | refl (database : Database) : Writes tables database database
  | added {α : Type} [Relation α] [LawfulRelation α] {before : Database} {row : α}
      (written : Relation.table α ∈ tables)
      (present : before.catalog.hasTable (Relation.table α) = true)
      (admitted : before.refusal? row = none) : Writes tables before (before.added row)
  | updated {α : Type} [Relation α] [LawfulRelation α] {before : Database}
      {wanted : Entry α → Bool} {step : α → α} (written : Relation.table α ∈ tables)
      (same : ∀ row, ∀ column ∈ (Relation.table α).identifying,
        Relation.cell (step row) column = Relation.cell row column) :
      Writes tables before (before.updated wanted step)
  | replaced {before : Database} {account application kind : Int} {text : Option String}
      {slot : Entry Token} (written : .tokens ∈ tables)
      (free : before.tokens.find? (Token.holds text application kind) = none)
      (found : before.tokens.find? (Token.isSlot account application kind) = some slot) :
      Writes tables before
        (before.updated (fun entry => entry.id = slot.id) fun (row : Token) => { row with text })
  | erased {α : Type} [Relation α] {before : Database} {wanted : Entry α → Bool}
      (written : (Relation.table α).cascade ⊆ tables) :
      Writes tables before (before.erased wanted)
  | trans {before middle after : Database} (first : Writes tables before middle)
      (second : Writes tables middle after) : Writes tables before after

/-- Removing rows leaves the tables alone that name none of them. -/
theorem Agree.erase (database : Database) (gone : Int → Bool) {table other : TableName}
    (spared : other ∉ table.cascade) : database.Agree (database.erase table gone) other := by
  cases table <;> cases other <;> first | rfl | simp [TableName.cascade] at spared

namespace Writes

variable {before after : Database} {tables : List TableName}

/-- Tables that are not written are the same afterwards. -/
theorem agree (writes : before.Writes tables after) {table : TableName} (other : table ∉ tables) :
    before.Agree after table := by
  have unlike {written : TableName} (isWritten : written ∈ tables) : table ≠ written := by
    rintro rfl
    exact other isWritten
  induction writes with
  | refl database => exact .refl database table
  | added written present admitted => exact .added _ (unlike written)
  | updated written same => exact .updated (unlike written)
  | replaced written free found => exact .updated (unlike written)
  | erased written => exact .erase _ _ fun cascades => other (written cascades)
  | trans first second ihFirst ihSecond => exact ihFirst.trans ihSecond

variable {α : Type} [Relation α] [LawfulRelation α]

theorem inserts {key : List Column} {row : α} {answer : Int × Bool}
    {ignoring : Option (List Column)} (written : Relation.table α ∈ tables)
    (prepared : before.obstacle? (Relation.table α) ignoring = none)
    (inserts : before.Inserts key row answer after) : before.Writes tables after := by
  cases inserts with
  | present found => exact .refl before
  | added absent admitted => exact .added written (hasTable_of_obstacle prepared) admitted

theorem addsAll {rows : List α} (written : Relation.table α ∈ tables)
    (found : rows ≠ [] → before.missing? [Relation.table α] = none)
    (adds : before.AddsAll rows after) : before.Writes tables after := by
  induction adds with
  | nil database => exact .refl database
  | @cons before after row rows admitted rest ih =>
      have complete := found (List.cons_ne_nil row rows)
      refine .trans (.added written (hasTable_of_missing complete) admitted) (ih fun _ => ?_)
      unfold missing? Database.added
      rwa [LawfulRelation.catalog_write]

end Writes

end Database

open Database (Writes)

variable {context : Context} {before after : Database} {tables : List TableName}

theorem Account.Inserted.writes {validUntil : Option Time.WallTime} {accountId : Option String}
    {id : Int} (inserted : Inserted context validUntil before accountId id after)
    (written : .accounts ∈ tables) : before.Writes tables after := by
  cases inserted with
  | intro prepared inserts => exact .inserts written prepared inserts

theorem Thread.Inserted.writes {site board : Option String} {number : Option Int} {id : Int}
    (inserted : Inserted context before site board number id after)
    (written : .threads ∈ tables) : before.Writes tables after := by
  cases inserted with
  | intro prepared inserts => exact .inserts written prepared inserts

theorem Descriptor.Inserted.writes {thread postNo postSubNo : Option Int} {id : Int}
    (inserted : Inserted before thread postNo postSubNo id after)
    (written : .descriptors ∈ tables) : before.Writes tables after := by
  cases inserted with
  | intro prepared inserts => exact .inserts written prepared inserts

theorem Post.Inserted.writes {descriptor : Option Int} {id : Int}
    (inserted : Inserted context before descriptor id after)
    (written : .posts ∈ tables) : before.Writes tables after := by
  cases inserted with
  | intro prepared inserts => exact .inserts written prepared inserts

theorem Reply.Inserted.writes {account descriptor replyTo : Option Int} {answer : Int × Bool}
    (inserted : Inserted context before account descriptor replyTo answer after)
    (written : .replies ∈ tables) : before.Writes tables after := by
  cases inserted with
  | intro prepared inserts => exact .inserts written prepared inserts

theorem Reply.InsertedAll.writes {values : List Value} {count : Nat}
    (inserted : InsertedAll context before values count after)
    (written : .replies ∈ tables) : before.Writes tables after := by
  induction inserted with
  | nil database => exact .refl database
  | cons first others ih => exact .trans (first.writes written) ih

theorem Watch.Inserted.writes {account descriptor application : Option Int} {id : Int}
    (inserted : Inserted before account descriptor application id after)
    (written : .watches ∈ tables) : before.Writes tables after := by
  cases inserted with
  | intro prepared storable inserts => exact .inserts written prepared inserts

theorem Token.Registered.writes {account application kind id : Int} {text : Option String}
    (registered : Registered before account text application kind id after)
    (written : .tokens ∈ tables) : before.Writes tables after := by
  cases registered with
  | kept found own => exact .refl before
  | replaced free found => exact .replaced written free found
  | added free absent prepared admitted =>
      exact .added written (Database.hasTable_of_obstacle prepared) admitted

/-- The tables that a request may write. -/
def Request.writes : Request → List TableName
  | upsertAccount .. | setExpiry .. | expireAccount .. => [.accounts]
  | deleteAccount .. => [.accounts, .tokens, .replies, .watches]
  | registerToken .. => [.tokens]
  | generateInvites .. | sweepInvites .. => [.invites]
  | acceptInvite .. => [.invites, .accounts]
  | appendLine .. | appendLines .. => [.journal]
  | recordReply .. | recordReplies .. | countAttempt .. | countAttempts .. | deliverReply ..
  | deliverReplies .. => [.replies]
  | subscribe .. | unsubscribe .. => [.watches]
  | watchPost .. => [.threads, .descriptors, .posts, .watches]
  | resolveDescriptor .. => [.descriptors]
  | ensurePost .. | markPostDead .. => [.posts]
  | resolveThread .. | advanceWatermark .. | storeLastModified .. => [.threads]
  | markThreadDead .. => [.threads, .posts]
  | findAccount .. | checkAccount .. | listBelongings .. | identifyUser .. | listTokens ..
  | findInvite .. | readLines .. | pendingReplies .. | listReplies .. | listWatches ..
  | findWatchers .. | findDescriptor .. | listDescriptors .. | findThread .. | locateThread ..
  | readWatermark .. | readLastModified .. | watchedThreads => []

/-- A request that has had its effect has written the tables that it may write. -/
theorem Request.Effect.writes {request : Request} {answer : request.Answer}
    (effective : request.Effect context before answer after) :
    before.Writes request.writes after := by
  cases request with
  | upsertAccount accountId validUntil => exact Account.Inserted.writes effective (.head _)
  | setExpiry accountId validUntil =>
      obtain ⟨held, _, rfl⟩ := effective
      exact .updated (.head _) (by simp [Relation.table, Relation.cell])
  | expireAccount accountId date =>
      obtain ⟨held, _, rfl⟩ := effective
      exact .updated (.head _) (by simp [Relation.table, Relation.cell])
  | deleteAccount accountId =>
      obtain ⟨_, rfl⟩ := effective
      exact .erased (List.Subset.refl _)
  | registerToken accountId text application kind =>
      obtain ⟨held, applicationNo, kindNo, _, _, _, _, registered⟩ := effective
      exact registered.writes (.head _)
  | generateInvites amount date =>
      obtain ⟨expiresOn, _, _, found, adds⟩ := effective
      exact .addsAll (.head _) (fun drawn => found (mt List.map_eq_nil_iff.mpr drawn)) adds
  | acceptInvite inviteId date =>
      cases effective with
      | refused closed => exact .refl before
      | opened isOpen identified free trial prepared admitted =>
          exact .trans (.updated (.head _) (by simp [Relation.table, Relation.cell]))
            (.added (.tail _ (.head _)) (Database.hasTable_of_obstacle prepared) admitted)
  | sweepInvites date =>
      obtain ⟨_, rfl⟩ := effective
      exact .erased (List.Subset.refl _)
  | appendLine draft =>
      obtain ⟨line, _, found, admitted, _, rfl⟩ := effective
      exact .added (.head _) (Database.hasTable_of_missing found) admitted
  | appendLines drafts =>
      obtain ⟨given, lines, _, areLines, found, _, adds⟩ := effective
      refine .addsAll (.head _) (fun some => found ?_) adds
      rintro rfl
      exact some (List.map_eq_nil_iff.mp areLines.symm)
  | recordReply account descriptor replyTo =>
      obtain ⟨isNew, inserted⟩ := effective
      exact inserted.writes (.head _)
  | recordReplies edges =>
      obtain ⟨given, _, inserted⟩ := effective
      exact inserted.writes (.head _)
  | countAttempt id =>
      obtain ⟨_, rfl⟩ := effective
      exact .updated (.head _) (by simp [Relation.table, Relation.cell])
  | countAttempts ids =>
      obtain ⟨_, rfl⟩ := effective
      exact .updated (.head _) (by simp [Relation.table, Relation.cell])
  | deliverReply id date =>
      obtain ⟨_, _, rfl⟩ := effective
      exact .updated (.head _) (by simp [Relation.table, Relation.cell])
  | deliverReplies accountId ids date =>
      obtain ⟨_, rfl⟩ := effective
      exact .updated (.head _) (by simp [Relation.table, Relation.cell])
  | subscribe account descriptor application =>
      obtain ⟨number, _, inserted⟩ := effective
      exact inserted.writes (.head _)
  | unsubscribe account descriptor application =>
      obtain ⟨chosen, _, _, rfl⟩ := effective
      exact .erased (List.Subset.refl _)
  | watchPost accountId site board threadNo postNo postSubNo application =>
      obtain ⟨number, _, placed⟩ := effective
      cases placed with
      | intro named valid threaded described posted watched =>
          exact .trans
            (.trans (threaded.writes (.head _)) (described.writes (.tail _ (.head _))))
            (.trans (posted.writes (.tail _ (.tail _ (.head _))))
              (watched.writes (.tail _ (.tail _ (.tail _ (.head _))))))
  | resolveDescriptor thread postNo postSubNo =>
      exact Descriptor.Inserted.writes effective (.head _)
  | ensurePost descriptor => exact Post.Inserted.writes effective (.head _)
  | markPostDead descriptor =>
      obtain ⟨id, middle, inserted, _, rfl⟩ := effective
      exact .trans (inserted.writes (.head _))
        (.updated (.head _) (by simp [Relation.table, Relation.cell]))
  | resolveThread site board number => exact Thread.Inserted.writes effective (.head _)
  | advanceWatermark id postNo postSubNo =>
      obtain ⟨number, subNumber, _, _, _, _, rfl⟩ := effective
      exact .updated (.head _) (by simp [Relation.table, Relation.cell, Thread.withWatermark])
  | storeLastModified id date =>
      obtain ⟨held, _, _, rfl⟩ := effective
      exact .updated (.head _) (by simp [Relation.table, Relation.cell])
  | markThreadDead id =>
      obtain ⟨held, _, _, _, rfl⟩ := effective
      exact .trans (.updated (.tail _ (.head _)) (by simp [Relation.table, Relation.cell]))
        (.updated (.head _) (by simp [Relation.table, Relation.cell]))
  | _ =>
      obtain rfl := effective
      exact .refl _

/-- However it ends, a turn has written the tables that its request may write. -/
theorem Turn.writes (turn : Turn) (database : Database) :
    database.Writes turn.request.writes (turn.outcome database).database := by
  rcases turn.changes database with same | ⟨answer, effective⟩
  · rw [same]
    exact .refl database
  · exact effective.writes

end Lookout
