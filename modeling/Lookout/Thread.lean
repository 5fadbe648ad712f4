import Lookout.Session

/-!
# Threads

Threads get a number on first sight. Each carries a watermark, the last post that was
taken in, which only moves forward; a dead thread takes its posts along.
-/

namespace Lookout.Thread

open Operation Store
open Time (Moment WallTime)

/-- A thread as messages show it. -/
def title (site board number : Value) : String :=
  s!"Thread({site.plain}/{board.plain}/{number.plain})"

/-- A stored thread as messages show it. -/
def shown (thread : Thread) : String :=
  title (.text thread.site) (.text thread.board) (.integer thread.number)

/-- What a thread is known by. -/
def naturalKey : List Schema.Column := [.siteName, .boardCode, .threadNo]

/-- The number of a thread, which is added if it is new; nothing is committed. -/
def insert (site board : Option String) (number : Option Int) : Operation Int := do
  prepareInsertion .threads (some naturalKey)
  fits [number]
  let site ← needed .threads .siteName site
  let board ← needed .threads .boardCode board
  let number ← needed .threads .threadNo number
  let (id, _) ← addUnlessAlike naturalKey
    { site, board, number, createdOn := ← stamp : Thread }
  return id

/-- The number of a thread, which is added if it is new. -/
def resolve (site board : Option String) (number : Option Int) : Operation Int := do
  let id ← insert site board number
  commit
  return id

/-- The thread under a number. -/
def lookup (id : Option Int) : Operation (Option (Entry Thread)) := do
  require [.threads]
  fits [id]
  return (← rows Thread).find? fun entry => some entry.id = id

/-- The thread under a number, which must exist. -/
def demand (id : Option Int) : Operation (Entry Thread) := do
  match ← lookup id with
  | some entry => return entry
  | none => throw (.noThread id)

/-- The thread with a site, board and number. -/
def find (site board : Option String) (number : Option Int) :
    Operation (Option (Entry Thread)) := do
  require [.threads]
  fits [number]
  return (← rows Thread).find? fun entry =>
    some entry.row.site = site && some entry.row.board = board && some entry.row.number = number

/-- The watermark of a thread: the numbers of its last post taken in. -/
def watermark (thread : Thread) : Int × Int :=
  (thread.lastPostNo.getD 0, thread.lastPostSubNo.getD 0)

/-- Whether a watermark is behind another one: by the first number, then the second. -/
def isBehind (mark reached : Int × Int) : Bool :=
  mark.1 < reached.1 || (mark.1 = reached.1 && mark.2 < reached.2)

/-- A thread with another watermark. -/
def withWatermark (thread : Thread) (mark : Int × Int) : Thread :=
  { thread with lastPostNo := some mark.1, lastPostSubNo := some mark.2 }

/-- Move the watermark of a thread forward; the answer says whether it moved. -/
def advance (id postNo postSubNo : Option Int) : Operation Bool := do
  match postNo, postSubNo with
  | some number, some subNumber =>
      require [.threads]
      fits [id, postNo, postSubNo]
      let moved ← updateWhere
        (fun (entry : Entry Thread) =>
          some entry.id = id && isBehind entry.row.watermark (number, subNumber))
        fun row => row.withWatermark (number, subNumber)
      commit
      if 0 < moved then
        log .debug .threads
          s!"advance_watermark() thread {Failure.shown id} now at {number}/{subNumber}"
        return true
      else
        let _ ← demand id
        return false
  | _, _ => throw .nullBound

/-- The numbers of the last post taken in, unless there is none yet. -/
def lastProcessed (id : Option Int) : Operation (Option (Int × Int)) := do
  match ← lookup id with
  | some entry =>
      let mark := entry.row.watermark
      return if mark.1 = 0 then none else some mark
  | none => return none

/-- Keep the date that a thread was last modified on. -/
def storeLastModified (id : Option Int) (date : Option Moment) : Operation Unit := do
  let thread ← demand id
  let _ ← updateWhere (fun entry => entry.id = thread.id) fun (row : Thread) =>
    { row with lastModified := date.map (·.wall) }
  commit

/-- The date that a thread was last modified on. -/
def lastModified? (id : Option Int) : Operation (Option WallTime) := do
  return (← demand id).row.lastModified

/-- Mark a thread and all of its posts as dead; the answer says how many posts it has. -/
def markDead (id : Option Int) : Operation Nat := do
  let thread ← demand id
  require [.posts, .descriptors]
  let inThread := (← rows Descriptor).select fun entry => entry.row.thread = thread.id
  let count ← updateWhere
    (fun (entry : Entry Post) =>
      inThread.any fun descriptor => descriptor.id = entry.row.descriptor)
    fun row => { row with isDead := true }
  let _ ← updateWhere (fun entry => entry.id = thread.id) fun (row : Thread) =>
    { row with isDead := some true }
  commit
  log .info .threads
    s!"mark_thread_dead() {thread.row.shown} is dead, {count} posts marked dead"
  return count

/-- Whether a descriptor has a post that is alive and somebody watches it. -/
def isPolled (database : Database) (descriptor : Int) : Bool :=
  (database.posts.entries.any fun post =>
    post.row.descriptor = descriptor && !post.row.isDead && post.row.deletedOn.isNone) &&
  database.watches.entries.any fun watch => watch.row.descriptor = descriptor

/-- Whether a thread still has a watched post that is alive. -/
def isWatched (database : Database) (thread : Entry Thread) : Bool :=
  thread.row.deletedOn.isNone &&
    database.descriptors.entries.any fun descriptor =>
      descriptor.row.thread = thread.id && isPolled database descriptor.id

/-- The threads that still have a watched post that is alive. -/
def watched : Operation (List (Entry Thread)) := do
  require [.threads, .descriptors, .posts, .watches]
  let database ← database
  return database.threads.select (isWatched database)

end Lookout.Thread
