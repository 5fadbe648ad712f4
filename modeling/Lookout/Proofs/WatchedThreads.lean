import Lookout.Proofs.DeadThreads
import Lookout.Proofs.Plain

/-!
# Watched threads

The threads that are still polled are those in which somebody watches a post that is alive. Each is
listed once, however many posts and watches it has. Marking a thread as dead takes it off the list
and leaves the others where they are, because it reaches the posts of no other thread.
-/

namespace Lookout.Thread

open Operation Store

variable {context : Context} {database : Database} {draws : Draws}

/-- No other descriptor has the number of a stored one, so its post is under its thread alone. -/
theorem hasPost_eq {descriptor : Entry Descriptor}
    (stored : descriptor ∈ database.descriptors.entries) (thread : Int) {post : Entry Post}
    (isPost : post.row.descriptor = descriptor.id) :
    hasPost database thread post = decide (descriptor.row.thread = thread) := by
  rw [hasPost, isPost]
  exact Table.any_select stored

/-! ### Burying a thread -/

variable {thread : Int}

/-- A buried thread is polled by no descriptor of its own. Descriptors of other threads keep their
posts. -/
theorem isPolledBy_buried {other : Int} {descriptor : Entry Descriptor} :
    IsPolledBy (buried database thread) other descriptor ↔
      IsPolledBy database other descriptor ∧ other ≠ thread := by
  constructor
  · rintro ⟨stored, rfl, isWatched, post, isPost, ofDescriptor, isAlive, isThere⟩
    rw [descriptors_buried] at stored
    obtain ⟨before, isStored, rfl⟩ := List.mem_map.mp isPost
    split at ofDescriptor
    · rename_i dies
      rw [if_pos dies] at isAlive
      cases isAlive
    · rename_i spared
      rw [if_neg spared] at isAlive isThere
      rw [hasPost_eq stored thread ofDescriptor, decide_eq_true_iff] at spared
      exact ⟨⟨stored, rfl, isWatched, before, isStored, ofDescriptor, isAlive, isThere⟩, spared⟩
  · rintro ⟨⟨stored, rfl, isWatched, post, isStored, ofDescriptor, isAlive, isThere⟩, apart⟩
    have spared : ¬hasPost database thread post = true := by
      rwa [hasPost_eq stored thread ofDescriptor, decide_eq_true_iff]
    have isKept := Database.mem_updated isStored (hasPost database thread) fun (row : Post) =>
      { row with isDead := true }
    rw [if_neg spared] at isKept
    exact ⟨stored, rfl, isWatched, post, isKept, ofDescriptor, isAlive, isThere⟩

theorem isWatched_buried (entry : Entry Thread) :
    isWatched (buried database thread) entry =
      (isWatched database entry && entry.id ≠ thread) := by
  rw [Bool.eq_iff_iff, Bool.and_eq_true, isWatched_iff, isWatched_iff, decide_eq_true_iff]
  simp only [isPolledBy_buried, exists_and_right, and_assoc]

/-- Once a thread has been buried, the list is what it was, without this thread. -/
theorem select_isWatched_buried :
    (buried database thread).threads.select (isWatched (buried database thread)) =
      (database.threads.select (isWatched database)).filter fun other => other.id ≠ thread := by
  have mine : isWatched (buried database thread) =
      fun other => isWatched database other && other.id ≠ thread := funext isWatched_buried
  calc (buried database thread).threads.select (isWatched (buried database thread))
      = database.threads.select fun other => isWatched database other && other.id ≠ thread := by
        rw [mine]
        apply Table.select_update
        intro entry stored isIt
        simp [of_decide_eq_true isIt]
    _ = (database.threads.select (isWatched database)).filter fun other => other.id ≠ thread := by
        simp only [Table.select, List.filter_filter, Bool.and_comm]

/-! ### Requests -/

/-- The list is read off the tables, and nothing is changed. -/
theorem result_watched (newest : database.IsNewest) (context : Context) (draws : Draws) :
    (watched.perform context database draws).result =
      .ok (database.threads.select (isWatched database), database) := by
  apply result_perform_of_ends
  simp [watched, newest]

/-- A stored thread is buried. -/
theorem result_markDead (newest : database.IsNewest) {held : Entry Thread}
    (stored : held ∈ database.threads.entries) (storable : isStorable held.id = true)
    (context : Context) (draws : Draws) :
    ((markDead (some held.id)).perform context database draws).result =
      .ok (database.posts.count (hasPost database held.id), buried database held.id) := by
  have found : (Relation.read database : Table Thread).find? (fun entry => entry.id = held.id) =
      some held := Table.get?_of_mem stored
  apply result_perform_of_ends
  simp only [markDead, demand, lookup, ends_bind, ends_require, ends_fits, ends_rows,
    ends_updateWhere, ends_commit, ends_log, ends_pure, newest.missing?_eq_none, reduceCtorEq,
    false_implies, implies_true, true_and, true_implies, List.all_cons, List.all_nil,
    Option.all_some, storable, Bool.and_self, Bool.true_eq_false, Option.some.injEq, found]
  exact fun _ => rfl

/-- In a reached database of the newest revision, the list has the threads that are not deleted and
have a descriptor which somebody watches and whose post is alive, each of them once and in the order
of their numbers. Marking a thread as dead answers how many posts are under it, and flags these and
the thread. After that the list is what it was, without this thread. -/
theorem watched_without_dead (reached : database.Reached)
    (newest : database.position = some .invites) (context : Context) (draws : Draws) :
    ∃ polled, (watched.perform context database draws).result = .ok (polled, database) ∧
      (polled.Pairwise fun earlier later => earlier.id < later.id) ∧
      (∀ thread, thread ∈ polled ↔ thread ∈ database.threads.entries ∧
        thread.row.deletedOn = none ∧ ∃ descriptor, IsPolledBy database thread.id descriptor) ∧
      ∀ held ∈ database.threads.entries, isStorable held.id = true →
        let outcome := (markDead (some held.id)).perform context database draws
        outcome.answer = .ok (database.posts.count (hasPost database held.id)) ∧
        outcome.database =
          { database with
            posts := database.posts.update (hasPost database held.id) fun post =>
              { post with isDead := true }
            threads := database.threads.update (fun entry => entry.id = held.id) fun thread =>
              { thread with isDead := some true } } ∧
        ∀ (later : Context) (moreDraws : Draws),
          (watched.perform later outcome.database moreDraws).answer =
            .ok (polled.filter fun other => other.id ≠ held.id) := by
  have isNewest := reached.isNewest newest
  refine ⟨_, result_watched isNewest context draws, database.threads.ascending.filter _, ?_, ?_⟩
  · intro thread
    rw [Table.select, List.mem_filter, isWatched_iff]
  · intro held stored storable outcome
    obtain ⟨answered, left⟩ :=
      Outcome.result_eq_ok_iff.mp (result_markDead isNewest stored storable context draws)
    refine ⟨answered, left, fun later moreDraws => ?_⟩
    have isAfter : outcome.database.IsNewest :=
      isNewest.outcome ⟨.markThreadDead (some held.id), context, draws⟩
    rw [← select_isWatched_buried, ← left]
    exact (Outcome.result_eq_ok_iff.mp (result_watched isAfter later moreDraws)).1

/-- An account watches two posts of one thread, one of them twice, and a post of another thread. -/
def watchedThrice : List Turn :=
  let watching (threadNo postNo application : Int) : Request :=
    .watchPost (some "a") (some "s") (some "b") (some threadNo) (some postNo) (some 0)
      (.integer application)
  [.upsertAccount (some "a") (some (Time.Moment.utc ⟨60000000⟩)), watching 1 2 0, watching 1 2 1,
    watching 1 3 0, watching 2 2 0].map fun request => { request, context := { clock := ⟨7⟩ } }

/-- One of these threads, numbered in the order in which they were seen. -/
def watchedThread (number : Int) : Entry Thread :=
  ⟨number, { site := "s", board := "b", number, createdOn := Time.Stamp.ofClock ⟨7⟩ }⟩

/-- Both are listed, and marking the first one as dead leaves the second one. -/
theorem watched_without_dead_second :
    let database := (Database.atRevision .invites ⟨⟨0⟩, true⟩).after watchedThrice
    let outcome := (markDead (some 1)).perform { clock := ⟨7⟩ } database {}
    database.Reached ∧ database.position = some .invites ∧
      watchedThread 1 ∈ database.threads.entries ∧ isStorable (watchedThread 1).id = true ∧
      (watched.perform { clock := ⟨7⟩ } database {}).answer =
        .ok [watchedThread 1, watchedThread 2] ∧
      outcome.answer = .ok 2 ∧
      (watched.perform { clock := ⟨7⟩ } outcome.database {}).answer = .ok [watchedThread 2] := by
  intro database outcome
  have reached : database.Reached := (Database.Reached.founded .invites ⟨⟨0⟩, true⟩).after _
  have stored : watchedThread 1 ∈ database.threads.entries := by decide +kernel
  have two : database.posts.count (hasPost database (watchedThread 1).id) = 2 := by decide +kernel
  have both : database.threads.select (isWatched database) =
      [watchedThread 1, watchedThread 2] := by decide +kernel
  obtain ⟨polled, listed, -, -, buries⟩ := watched_without_dead reached rfl { clock := ⟨7⟩ } {}
  obtain ⟨answered, -, since⟩ := buries (watchedThread 1) stored (by decide)
  have told := (result_watched (reached.isNewest rfl) { clock := ⟨7⟩ } {}).symm.trans listed
  obtain rfl : _ = polled := congrArg Prod.fst (Except.ok.inj told)
  rw [both] at listed since
  rw [two] at answered
  exact ⟨reached, rfl, stored, by decide, (Outcome.result_eq_ok_iff.mp listed).1, answered,
    since { clock := ⟨7⟩ } {}⟩

end Lookout.Thread
