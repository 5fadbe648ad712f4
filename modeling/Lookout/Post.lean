import Lookout.Thread

/-!
# Posts and their descriptors

A descriptor is the identity of a post inside a thread and gets a number on first sight.
The post behind it is made when it is first needed, and may die once.
-/

namespace Lookout

open Operation Store

namespace Descriptor

/-- What a descriptor is known by. -/
def naturalKey : List Schema.Column := [.ownerThreadId, .postNo, .postSubNo]

/-- The number of a descriptor, which is added if it is new; nothing is committed. -/
def insert (thread postNo postSubNo : Option Int) : Operation Int :=
  orFail (.noThread thread) do
    prepareInsertion .descriptors (some naturalKey)
    fits [thread, postNo, postSubNo]
    let thread ← needed .descriptors .ownerThreadId thread
    let postNo ← needed .descriptors .postNo postNo
    let postSubNo ← needed .descriptors .postSubNo postSubNo
    let (id, _) ← addUnlessAlike naturalKey { thread, postNo, postSubNo : Descriptor }
    return id

/-- The number of a descriptor, which is added if it is new. -/
def resolve (thread postNo postSubNo : Option Int) : Operation Int := do
  let id ← insert thread postNo postSubNo
  commit
  return id

/-- A descriptor with its thread and, where it has one, its post. -/
structure Details where
  descriptor : Entry Descriptor
  thread : Option (Entry Thread)
  post : Option (Entry Post)

/-- The descriptor under a number. -/
def lookup (id : Option Int) : Operation (Option Details) := do
  require [.descriptors]
  fits [id]
  match (← rows Descriptor).find? fun entry => some entry.id = id with
  | none => return none
  | some descriptor =>
      require [.threads, .posts]
      return some
        { descriptor
          thread := (← rows Thread).get? descriptor.row.thread
          post := (← rows Post).find? fun entry => entry.row.descriptor = descriptor.id }

/-- The numbers of a thread's descriptors, in the order of its posts. -/
def ofThread (thread : Option Int) : Operation (List Int) := do
  require [.descriptors]
  fits [thread]
  let inThread := (← rows Descriptor).select fun entry => some entry.row.thread = thread
  let sorted := inThread.mergeSort fun left right =>
    left.row.postNo < right.row.postNo ||
      (left.row.postNo = right.row.postNo && left.row.postSubNo ≤ right.row.postSubNo)
  return sorted.map (·.id)

end Descriptor

namespace Post

/-- What a post is known by. -/
def naturalKey : List Schema.Column := [.ownerDescriptorId]

/-- The number of a descriptor's post, which is added if it is missing; nothing is
committed. -/
def insert (descriptor : Option Int) : Operation Int :=
  orFail (.noDescriptor descriptor) do
    prepareInsertion .posts (some naturalKey)
    fits [descriptor]
    let descriptor ← needed .posts .ownerDescriptorId descriptor
    let (id, _) ← addUnlessAlike naturalKey { descriptor, createdOn := ← stamp : Post }
    return id

/-- The number of a descriptor's post, which is added if it is missing. -/
def ensure (descriptor : Option Int) : Operation Int := do
  let id ← insert descriptor
  commit
  return id

/-- Mark the post of a descriptor as dead; the answer says whether it was alive. -/
def markDead (descriptor : Option Int) : Operation Bool := do
  let id ← insert descriptor
  let count ← updateWhere (fun (entry : Entry Post) => entry.id = id && !entry.row.isDead)
    fun row => { row with isDead := true }
  commit
  return 0 < count

end Post

end Lookout
