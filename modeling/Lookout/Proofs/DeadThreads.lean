import Lookout.Proofs.Histories
import Lookout.Proofs.Persistence

/-!
# Dead threads

A thread that has been marked as dead is not polled any more, as long as no post is added to it.
Its posts die with it and stay dead. A post that is added later is alive, whatever the flag of
its thread says, and somebody who watches it has the thread polled again. Only watching a post by
where it stands and asking for the post of a descriptor add posts that are alive.
-/

namespace Lookout

open Operation Store

variable {context : Context} {before after database : Database} {id : Int}

namespace Database

variable {α : Type} [Relation α] [LawfulRelation α] {property : α → Prop}

/-- A row that is there after another one was put was there before, or its number is new. -/
theorem Has.of_inserts {key : List Schema.Column} {row : α} {answer : Int × Bool}
    (has : after.Has id property) (inserts : before.Inserts key row answer after) :
    before.Has id property ∨
      (Relation.read before : Table α).has id = false ∧ answer.1 = id ∧ property row := by
  obtain ⟨held, stored, holds⟩ := has
  cases inserts with
  | present found => exact .inl ⟨held, stored, holds⟩
  | added absent admitted =>
      rw [Database.added, LawfulRelation.read_write, Table.entries_add] at stored
      rcases List.mem_append.mp stored with old | new
      · exact .inl ⟨held, old, holds⟩
      · cases List.mem_singleton.mp new
        exact .inr ⟨Table.has_nextId _, rfl, holds⟩

/-- A row that is there after an update was there before, and the update made it what it is. -/
theorem Has.of_updated {wanted : Entry α → Bool} {step : α → α}
    (has : (before.updated wanted step).Has id property) :
    before.Has id fun row => property (if wanted ⟨id, row⟩ then step row else row) := by
  obtain ⟨held, stored, holds⟩ := has
  rw [Database.updated, LawfulRelation.read_write, Table.entries_update] at stored
  obtain ⟨⟨number, row⟩, isStored, same⟩ := List.mem_map.mp stored
  split at same
  · rename_i isWanted
    cases same
    exact ⟨row, isStored, by simpa [isWanted] using holds⟩
  · rename_i unwanted
    cases same
    exact ⟨held, isStored, by simpa [unwanted] using holds⟩

/-- What holds of a row under a number may be said in weaker words. -/
theorem Has.imp {α : Type} [Relation α] {property weaker : α → Prop} (has : before.Has id property)
    (implies : ∀ row, property row → weaker row) : before.Has id weaker := by
  obtain ⟨row, stored, holds⟩ := has
  exact ⟨row, stored, implies row holds⟩

/-- An update does not bring about what it brings about for no row. -/
theorem Has.of_updated_of_imp {wanted : Entry α → Bool} {step : α → α}
    (has : (before.updated wanted step).Has id property)
    (kept : ∀ row, property (step row) → property row) : before.Has id property := by
  refine has.of_updated.imp fun row holds => ?_
  split at holds
  · exact kept row holds
  · exact holds

end Database

/-- Whether a post is the one of a descriptor and alive. -/
def Post.IsAliveAt (descriptor : Int) (post : Post) : Prop :=
  post.descriptor = descriptor ∧ post.isDead = false

/-- Whether a post is the one of a descriptor and dead. -/
def Post.IsDeadAt (descriptor : Int) (post : Post) : Prop :=
  post.descriptor = descriptor ∧ post.isDead = true

/-- Whether a thread is flagged as dead. -/
def Thread.IsFlagged (thread : Thread) : Prop :=
  thread.isDead = some true

/-- The requests that may add posts that are alive. -/
def Request.addsPosts : Request → Prop
  | watchPost .. | ensurePost .. => True
  | _ => False

namespace Request.Effect

variable {request : Request} {answer : request.Answer}

/-- A post that is alive after a request was so before, or the request has added it. -/
theorem isAliveAt (effective : request.Effect context before answer after) {owner : Int}
    (alive : after.Has id (Post.IsAliveAt owner)) :
    before.Has id (Post.IsAliveAt owner) ∨
      request.addsPosts ∧ before.posts.has id = false := by
  by_cases written : .posts ∈ request.writes
  · cases request with
    | watchPost accountId site board threadNo postNo postSubNo application =>
        obtain ⟨number, -, placed⟩ := effective
        cases placed with
        | @intro _ _ _ _ _ withThread withDescriptor withPost _ named valid threaded described
            posted watched =>
            have first : before.Agree withDescriptor .posts :=
              (threaded.agree (by decide)).trans (described.agree (by decide))
            have rest : withPost.Agree after .posts := watched.agree (by decide)
            cases posted with
            | intro prepared inserts =>
                rcases (alive.of_same (Eq.symm rest)).of_inserts inserts with old | ⟨isNew, -, -⟩
                · exact .inl (old.of_same (Eq.symm first))
                · exact .inr ⟨trivial, (first.hasRow id).trans isNew⟩
    | ensurePost descriptor =>
        cases effective with
        | intro prepared inserts =>
            exact (alive.of_inserts inserts).imp_right fun ⟨isNew, _⟩ => ⟨trivial, isNew⟩
    | markPostDead descriptor =>
        obtain ⟨number, middle, inserted, -, rfl⟩ := effective
        cases inserted with
        | intro prepared inserts =>
            -- A post that has just been added has the number that is marked as dead.
            have spared : middle.Has id fun row : Post => row.IsAliveAt owner ∧ id ≠ number := by
              refine alive.of_updated.imp fun row isAlive => ?_
              split at isAlive
              · cases isAlive.2
              · rename_i unwanted
                refine ⟨isAlive, ?_⟩
                rintro rfl
                simp [isAlive.2] at unwanted
            rcases spared.of_inserts inserts with old | ⟨_, isNumber, -, other⟩
            · exact .inl (old.imp fun row isAlive => isAlive.1)
            · exact absurd isNumber.symm other
    | markThreadDead thread =>
        obtain ⟨held, -, -, -, rfl⟩ := effective
        have dead : (before.updated (Thread.hasPost before held.id) fun (row : Post) =>
            { row with isDead := true }).Has id (Post.IsAliveAt owner) := alive.of_same rfl
        exact .inl (dead.of_updated_of_imp fun row isAlive => nomatch isAlive.2)
    | _ => simp [Request.writes] at written
  · exact .inl (alive.of_same (effective.writes.agree written).symm)

/-- A thread that is flagged after a request was so before, or the request has marked it. -/
theorem isFlagged (effective : request.Effect context before answer after)
    (flagged : after.Has id Thread.IsFlagged) :
    before.Has id Thread.IsFlagged ∨ request = .markThreadDead (some id) := by
  by_cases written : .threads ∈ request.writes
  · cases request with
    | watchPost accountId site board threadNo postNo postSubNo application =>
        obtain ⟨number, -, placed⟩ := effective
        cases placed with
        | @intro _ _ _ _ _ withThread withDescriptor withPost _ named valid threaded described
            posted watched =>
            have rest : withThread.Agree after .threads :=
              ((described.agree (by decide)).trans (posted.agree (by decide))).trans
                (watched.agree (by decide))
            cases threaded with
            | intro prepared inserts =>
                rcases (flagged.of_same (Eq.symm rest)).of_inserts inserts with old | ⟨-, -, isNew⟩
                · exact .inl old
                · cases isNew
    | resolveThread site board number =>
        cases effective with
        | intro prepared inserts =>
            rcases flagged.of_inserts inserts with old | ⟨-, -, isNew⟩
            · exact .inl old
            · cases isNew
    | advanceWatermark thread postNo postSubNo =>
        obtain ⟨number, subNumber, -, -, -, -, rfl⟩ := effective
        exact .inl (flagged.of_updated_of_imp fun row isFlagged => isFlagged)
    | storeLastModified thread date =>
        obtain ⟨held, -, -, rfl⟩ := effective
        exact .inl (flagged.of_updated_of_imp fun row isFlagged => isFlagged)
    | markThreadDead thread =>
        obtain ⟨held, -, rfl, -, rfl⟩ := effective
        by_cases marked : held.id = id
        · exact .inr (by rw [marked])
        · refine .inl (Database.Has.of_same (flagged.of_updated.imp fun row isFlagged => ?_) rfl)
          rwa [if_neg (by simpa using Ne.symm marked)] at isFlagged
    | _ => simp [Request.writes] at written
  · exact .inl (flagged.of_same (effective.writes.agree written).symm)

end Request.Effect

/-- A turn marks a thread as dead and succeeds. -/
def Turn.Buries (turn : Turn) (database : Database) (thread : Int) : Prop :=
  turn.request = .markThreadDead (some thread) ∧
    ∃ answer, (turn.outcome database).answer = .ok answer

/-- An event has added a post under a number, alive. -/
def Event.AddsPost (event : Event) (id : Int) : Prop :=
  event.turn.request.addsPosts ∧ event.before.posts.has id = false ∧
    event.after.posts.has id = true

namespace Turn

/-- A post that is alive after a turn was so before, or the turn has added it. -/
theorem isAliveAt (turn : Turn) {owner : Int}
    (alive : (turn.outcome database).database.Has id (Post.IsAliveAt owner)) :
    database.Has id (Post.IsAliveAt owner) ∨ Event.AddsPost ⟨turn, database⟩ id := by
  rcases turn.changes database with same | ⟨answer, effective⟩
  · exact .inl (same ▸ alive)
  · refine (effective.isAliveAt alive).imp_right fun ⟨adds, isNew⟩ => ⟨adds, isNew, ?_⟩
    obtain ⟨row, stored, -⟩ := alive
    exact Table.has_iff.mpr ⟨_, stored, rfl⟩

/-- A thread that is flagged after a turn was so before, or the turn has buried it. -/
theorem isFlagged (turn : Turn)
    (flagged : (turn.outcome database).database.Has id Thread.IsFlagged) :
    database.Has id Thread.IsFlagged ∨ turn.Buries database id := by
  rcases turn.changes database with same | ⟨_, effective⟩
  · exact .inl (same ▸ flagged)
  · rcases effective.isFlagged flagged with old | marks
    · exact .inl old
    · have dated : turn.request.isDated := by
        rw [marks]
        trivial
      rcases turn.ends dated database with ⟨answer, answered, -⟩ | ⟨failure, -, same⟩
      · exact .inr ⟨marks, answer, answered⟩
      · exact .inl (same ▸ flagged)

/-- A turn that buries a thread leaves it dead with its posts. -/
theorem Buries.outcome {turn : Turn} {thread : Int} (buries : turn.Buries database thread) :
    (turn.outcome database).database = Thread.buried database thread := by
  obtain ⟨request, context, draws⟩ := turn
  obtain ⟨rfl, answer, answered⟩ := buries
  have dated : (Request.markThreadDead (some thread)).isDated := trivial
  obtain ⟨held, -, named, -, same⟩ := (Request.achieves dated).of_answer answered
  rwa [Option.some.inj named] at same

end Turn

namespace Thread

/-- A thread dies with its posts and leaves its descriptors alone. -/
@[simp] theorem descriptors_buried (database : Database) (thread : Int) :
    (buried database thread).descriptors = database.descriptors := rfl

/-- The posts under a thread are those of its descriptors. -/
theorem hasPost_iff {thread : Int} {post : Entry Post} : hasPost database thread post = true ↔
    ∃ descriptor ∈ database.descriptors.entries,
      descriptor.row.thread = thread ∧ descriptor.id = post.row.descriptor := by
  simp [hasPost, Table.select]

/-- The posts of a thread are buried with it. -/
theorem isDeadAt_buried {thread : Int} {post : Entry Post}
    (stored : post ∈ database.posts.entries) (inThread : hasPost database thread post = true) :
    (buried database thread).Has post.id (Post.IsDeadAt post.row.descriptor) := by
  have died := Database.mem_updated stored (hasPost database thread) fun (row : Post) =>
    { row with isDead := true }
  rw [if_pos inThread] at died
  exact Database.Has.of_same ⟨_, died, rfl, rfl⟩ rfl

/-- The posts of a buried thread are dead. -/
theorem not_isAliveAt_buried {thread : Int} {descriptor : Entry Descriptor}
    (stored : descriptor ∈ database.descriptors.entries)
    (inThread : descriptor.row.thread = thread) :
    ¬(buried database thread).Has id (Post.IsAliveAt descriptor.id) := by
  intro alive
  have dead : (database.updated (hasPost database thread) fun (row : Post) =>
      { row with isDead := true }).Has id (Post.IsAliveAt descriptor.id) := alive.of_same rfl
  obtain ⟨row, -, isAlive⟩ := dead.of_updated
  split at isAlive
  · cases isAlive.2
  · rename_i spared
    exact spared (hasPost_iff.mpr ⟨descriptor, stored, inThread, isAlive.1.symm⟩)

end Thread

namespace Database

/-- A post that is alive after a run was so before, or an event of the run has added it. -/
theorem isAliveAt_after {turns : List Turn} {owner : Int}
    (alive : (database.after turns).Has id (Post.IsAliveAt owner)) :
    database.Has id (Post.IsAliveAt owner) ∨
      ∃ event ∈ database.history turns, event.AddsPost id := by
  induction turns generalizing database with
  | nil => exact .inl alive
  | cons turn rest ih =>
      rcases ih alive with middle | ⟨event, happened, adds⟩
      · exact (turn.isAliveAt middle).imp_right fun adds => ⟨_, .head _, adds⟩
      · exact .inr ⟨event, .tail _ happened, adds⟩

/-- A thread that is flagged after a run was so before, or a turn of the run has buried it. -/
theorem isFlagged_after {turns : List Turn}
    (flagged : (database.after turns).Has id Thread.IsFlagged) :
    database.Has id Thread.IsFlagged ∨
      ∃ earlier burial later, turns = earlier ++ burial :: later ∧
        burial.Buries (database.after earlier) id := by
  induction turns generalizing database with
  | nil => exact .inl flagged
  | cons turn rest ih =>
      rcases ih flagged with middle | ⟨earlier, burial, later, rfl, buries⟩
      · exact (turn.isFlagged middle).imp_right fun buries => ⟨[], turn, rest, rfl, buries⟩
      · exact .inr ⟨turn :: earlier, burial, later, rfl, buries⟩

/-- Descriptors are there after a run. -/
theorem mem_descriptors_after {turns : List Turn} {entry : Entry Descriptor}
    (stored : entry ∈ database.descriptors.entries) :
    entry ∈ (database.after turns).descriptors.entries := by
  have kept : ∀ (turn : Turn) (database : Database), entry ∈ database.descriptors.entries →
      entry ∈ (turn.outcome database).database.descriptors.entries :=
    fun turn _ isStored => turn.mem_descriptors isStored
  exact after_of_kept kept stored turns

/-- A post that is dead stays dead. -/
theorem isDeadAt_after {turns : List Turn} {owner : Int}
    (dead : database.Has id (Post.IsDeadAt owner)) :
    (database.after turns).Has id (Post.IsDeadAt owner) := by
  have kept (turn : Turn) (database : Database) (dead : database.Has id (Post.IsDeadAt owner)) :
      (turn.outcome database).database.Has id (Post.IsDeadAt owner) :=
    turn.has_post (fun _ isDead => ⟨isDead.1, rfl⟩) dead
  exact after_of_kept kept dead turns

end Database

namespace Thread

/-- A post keeps a thread polled: it is in the thread, alive and watched. -/
structure IsKeptBy (database : Database) (thread : Int) (post : Entry Post) : Prop where
  stored : post ∈ database.posts.entries
  inThread : hasPost database thread post = true
  isAlive : post.row.isDead = false
  isThere : post.row.deletedOn = none
  isWatched : ∃ watch ∈ database.watches.entries, watch.row.descriptor = post.row.descriptor

/-- A thread that is polled is there, and it is watched. -/
theorem of_mem_watched {draws : Draws} {answer : List (Entry Thread)} {thread : Entry Thread}
    (answered : (watched.perform context database draws).answer = .ok answer)
    (isPolled : thread ∈ answer) :
    thread ∈ database.threads.entries ∧ isWatched database thread = true := by
  have ends : watched.Ends context { saved := database, current := database, draws }
      (fun answer _ => answer = database.threads.select (isWatched database))
      (fun _ _ => True) := by
    simp [watched]
  obtain ⟨_, rfl, -⟩ := ends.of_answer answered
  exact List.mem_filter.mp isPolled

/-- A descriptor has its thread polled: somebody watches it, and its post is alive. -/
structure IsPolledBy (database : Database) (thread : Int) (descriptor : Entry Descriptor) :
    Prop where
  stored : descriptor ∈ database.descriptors.entries
  inThread : descriptor.row.thread = thread
  isWatched : ∃ watch ∈ database.watches.entries, watch.row.descriptor = descriptor.id
  isAlive : ∃ post ∈ database.posts.entries,
    post.row.descriptor = descriptor.id ∧ post.row.isDead = false ∧ post.row.deletedOn = none

theorem isPolled_iff {descriptor : Int} : isPolled database descriptor = true ↔
    (∃ watch ∈ database.watches.entries, watch.row.descriptor = descriptor) ∧
      ∃ post ∈ database.posts.entries, post.row.descriptor = descriptor ∧
        post.row.isDead = false ∧ post.row.deletedOn = none := by
  simp [isPolled, and_comm, and_assoc, and_left_comm]

/-- A thread is on the list where it is not deleted and one of its descriptors has it polled. -/
theorem isWatched_iff {thread : Entry Thread} : isWatched database thread = true ↔
    thread.row.deletedOn = none ∧ ∃ descriptor, IsPolledBy database thread.id descriptor := by
  simp only [isWatched, Bool.and_eq_true, Option.isNone_iff_eq_none, List.any_eq_true,
    decide_eq_true_eq, isPolled_iff]
  constructor
  · rintro ⟨there, descriptor, stored, inThread, isWatched, isAlive⟩
    exact ⟨there, descriptor, stored, inThread, isWatched, isAlive⟩
  · rintro ⟨there, descriptor, stored, inThread, isWatched, isAlive⟩
    exact ⟨there, descriptor, stored, inThread, isWatched, isAlive⟩

/-- A thread that is watched has a post that keeps it polled. -/
theorem exists_isKeptBy {thread : Entry Thread} (polled : isWatched database thread = true) :
    ∃ post, IsKeptBy database thread.id post := by
  obtain ⟨-, descriptor, isStored, inThread, ⟨watch, isWatch, isWatched⟩, post, stored,
    ofDescriptor, isAlive, isThere⟩ := isWatched_iff.mp polled
  have underThread : hasPost database thread.id post = true :=
    hasPost_iff.mpr ⟨descriptor, isStored, inThread, ofDescriptor.symm⟩
  exact ⟨post, stored, underThread, isAlive, isThere, watch, isWatch,
    isWatched.trans ofDescriptor.symm⟩

/-- A thread that was buried in a whole database is polled again only because of a post that has
been added since. -/
theorem IsKeptBy.exists_addsPost {thread : Int} {later : List Turn} {post : Entry Post}
    (integral : (buried database thread).IsIntegral)
    (kept : IsKeptBy ((buried database thread).after later) thread post) :
    ∃ event ∈ (buried database thread).history later, event.AddsPost post.id := by
  have alive : ((buried database thread).after later).Has post.id
      (Post.IsAliveAt post.row.descriptor) := ⟨post.row, kept.stored, rfl, kept.isAlive⟩
  rcases Database.isAliveAt_after alive with ⟨row, stored, isAlive⟩ | added
  · -- The post was there already, so its descriptor was, and it has died with its thread.
    have there : (buried database thread).descriptors.has post.row.descriptor = true :=
      integral.hasRow stored .ownerDescriptorId .descriptors (by decide)
        (congrArg Cell.integer isAlive.1)
    obtain ⟨descriptor, isStored, same⟩ := Table.has_iff.mp there
    obtain ⟨other, isOther, inThread, isPost⟩ := hasPost_iff.mp kept.inThread
    obtain rfl := Table.eq_of_id_eq _ (Database.mem_descriptors_after isStored) isOther
      (same.trans isPost.symm)
    rw [descriptors_buried] at isStored
    have dead : ¬(buried database thread).Has post.id (Post.IsAliveAt descriptor.id) :=
      not_isAliveAt_buried isStored inThread
    rw [same] at dead
    exact absurd ⟨row, stored, isAlive⟩ dead
  · exact added

/-- A thread that is flagged as dead and polled nevertheless was flagged from the start, or a
turn of the run has buried it. Whenever one has, a post has been added to the thread since, by
watching it where it stands or by asking for the post of its descriptor, and it is alive and
watched now. The posts that a thread had when it was buried stay dead. -/
theorem polled_by_new_post {start : Database} (reached : start.Reached)
    (newest : start.position = some .invites) (turns : List Turn) :
    (∀ (context : Context) (draws : Draws) (answer : List (Entry Thread)) (thread : Entry Thread),
      (watched.perform context (start.after turns) draws).answer = .ok answer →
      thread ∈ answer → thread.row.IsFlagged →
      (start.Has thread.id IsFlagged ∨
        ∃ earlier burial later, turns = earlier ++ burial :: later ∧
          burial.Buries (start.after earlier) thread.id) ∧
      ∀ earlier burial later, turns = earlier ++ burial :: later →
        burial.Buries (start.after earlier) thread.id →
          ∃ post, IsKeptBy (start.after turns) thread.id post ∧
            ∃ event ∈ (start.after (earlier ++ [burial])).history later,
              event.AddsPost post.id) ∧
    ∀ earlier burial later thread, turns = earlier ++ burial :: later →
      burial.Buries (start.after earlier) thread →
        ∀ post ∈ (start.after earlier).posts.entries,
          hasPost (start.after earlier) thread post = true →
            (start.after turns).Has post.id (Post.IsDeadAt post.row.descriptor) := by
  have sinceBurial {earlier later : List Turn} {burial : Turn} {thread : Int}
      (buries : burial.Buries (start.after earlier) thread) :
      start.after (earlier ++ burial :: later) =
        (buried (start.after earlier) thread).after later := by
    rw [Database.after_append, Database.after, buries.outcome]
  constructor
  · intro context draws answer thread answered isPolled flagged
    obtain ⟨stored, polled⟩ := of_mem_watched answered isPolled
    refine ⟨Database.isFlagged_after ⟨thread.row, stored, flagged⟩, ?_⟩
    rintro earlier burial later rfl buries
    obtain ⟨post, kept⟩ := exists_isKeptBy polled
    refine ⟨post, kept, ?_⟩
    have whole : (start.after (earlier ++ [burial])).IsIntegral :=
      ((reached.isNewest newest).after _).integral
    rw [sinceBurial buries] at kept
    rw [sinceBurial buries] at whole ⊢
    exact kept.exists_addsPost whole
  · rintro earlier burial later thread rfl buries post stored inThread
    rw [sinceBurial buries]
    exact Database.isDeadAt_after (isDeadAt_buried stored inThread)

/-- A post of a thread is watched, the thread is marked as dead, and another post of it is watched
after that. -/
def watchedTwice : List Turn :=
  [.upsertAccount (some "a") (some (Time.Moment.utc ⟨60000000⟩)),
    .watchPost (some "a") (some "s") (some "b") (some 1) (some 2) (some 0) (.integer 0),
    .markThreadDead (some 1),
    .watchPost (some "a") (some "s") (some "b") (some 1) (some 3) (some 0) (.integer 0)].map
    fun request => { request, context := { clock := ⟨7⟩ } }

/-- The thread of these turns as it is afterwards. -/
def watchedTwiceThread : Entry Thread :=
  ⟨1, { site := "s", board := "b", number := 1, isDead := some true,
        createdOn := Time.Stamp.ofClock ⟨7⟩ }⟩

/-- A thread is polled that has been marked as dead. -/
theorem polled_though_dead :
    let database := (Database.atRevision .invites ⟨⟨0⟩, true⟩).after watchedTwice
    (watched.perform { clock := ⟨7⟩ } database {}).answer = .ok [watchedTwiceThread] ∧
      watchedTwiceThread.row.isDead = some true :=
  ⟨Outcome.answer_eq_ok (by decide +kernel), rfl⟩

/-- The second post is the one that has it polled again, and the first one stays dead. -/
theorem polled_by_new_post_again :
    let start := Database.atRevision .invites ⟨⟨0⟩, true⟩
    let database := start.after watchedTwice
    start.Reached ∧ start.position = some .invites ∧
      (watched.perform { clock := ⟨7⟩ } database {}).answer = .ok [watchedTwiceThread] ∧
      watchedTwiceThread ∈ [watchedTwiceThread] ∧ watchedTwiceThread.row.IsFlagged ∧
      (∃ post, IsKeptBy database 1 post ∧
        ∃ event ∈ (start.after (watchedTwice.take 3)).history (watchedTwice.drop 3),
          event.AddsPost post.id) ∧
      database.Has 1 (Post.IsDeadAt 1) := by
  intro start database
  have reached : start.Reached := .founded .invites ⟨⟨0⟩, true⟩
  have answered : (watched.perform { clock := ⟨7⟩ } database {}).answer =
      .ok [watchedTwiceThread] := Outcome.answer_eq_ok (by decide +kernel)
  obtain ⟨polled, dead⟩ := polled_by_new_post reached rfl watchedTwice
  obtain ⟨-, since⟩ := polled _ _ _ _ answered (.head _) rfl
  have buries : Turn.Buries { request := .markThreadDead (some 1), context := { clock := ⟨7⟩ } }
      (start.after (watchedTwice.take 2)) 1 :=
    ⟨rfl, 1, Outcome.answer_eq_ok (by decide +kernel)⟩
  let first : Entry Post := ⟨1, { descriptor := 1, createdOn := Time.Stamp.ofClock ⟨7⟩ }⟩
  have stored : first ∈ (start.after (watchedTwice.take 2)).posts.entries := by decide +kernel
  have inThread : hasPost (start.after (watchedTwice.take 2)) 1 first = true := by decide +kernel
  exact ⟨reached, rfl, answered, .head _, rfl,
    since (watchedTwice.take 2) _ (watchedTwice.drop 3) rfl buries,
    dead (watchedTwice.take 2) _ (watchedTwice.drop 3) 1 rfl buries first stored inThread⟩

end Thread

end Lookout
