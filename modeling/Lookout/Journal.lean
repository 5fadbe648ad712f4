import Lookout.Session

/-!
# Journal

Log lines that are kept in the store: added at the end, read from the end.
-/

namespace Lookout.Journal

open Operation Store
open Time (Moment)

/-- A log line to be kept. -/
structure Draft where
  time : Option Moment
  level : Option String
  target : Option String
  message : Option String

/-- Add a line without a commit. -/
def insert (draft : Draft) : Operation Int := do
  let time ← needed .journal .logTime draft.time
  let message ← needed .journal .message draft.message
  add { time := time.wall, level := draft.level, target := draft.target, message : JournalLine }

/-- Keep a line; the answer is its number. -/
def append (draft : Draft) : Operation Int := do
  require [.journal]
  let id ← insert draft
  commit
  return id

/-- Add lines one after the other without a commit. -/
def insertAll : List Draft → Operation Unit
  | [] => return
  | draft :: rest => do
      let _ ← insert draft
      insertAll rest

/-- Keep lines together; the answer says how many. -/
def appendAll (drafts : Option (List Draft)) : Operation Nat := do
  match drafts with
  | none => throw (.notList "NoneType")
  | some [] => return 0
  | some drafts =>
      require [.journal]
      insertAll drafts
      commit
      return drafts.length

/-- The newest lines first, at most so many, and only lines before a number if one is
given. -/
def newest (limit before : Option Int) : Operation (List (Entry JournalLine)) := do
  require [.journal]
  fits [limit, before]
  let lines := (← rows JournalLine).select fun entry => before.all fun id => entry.id < id
  return limited limit lines.reverse

end Lookout.Journal
