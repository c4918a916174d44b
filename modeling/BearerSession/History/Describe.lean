import BearerSession.History.Repository

/-!
# Describing the head by its nearest tag

The head is described by the nearest tag on the line back from it, any tag counting, and
falling back to the head's own abbreviated id when no commit on the line is tagged:

* the head itself tagged: the tag's name;
* an older commit tagged: `<name>-<depth>-g<abbrev>`, where `depth` counts the commits above
  the tagged one and `abbrev` is the head's abbreviated id;
* no tag on the line: the head's abbreviated id.

A commit with several tags is named by an annotated one before a lightweight one, and among
tags of one kind by the first name in order. An abbreviated id is the shortest start of the id,
seven characters or more, that starts no other object's id. A repository with no commit has no
description.
-/

namespace BearerSession.History

/-- How strongly a tag names its commit: an annotated tag before a lightweight one. -/
def Tag.rank (t : Tag) : Nat := if t.annotated then 2 else 1

namespace Repository

/-- The name a commit is known by, if it is tagged. -/
def nameOf (r : Repository) (id : String) : Option String :=
  let here := r.tags.filter (·.target == id)
  let best := here.foldl (fun (best : Option Tag) t =>
    match best with
    | none => some t
    | some b => if b.rank < t.rank || (b.rank == t.rank && t.name < b.name) then some t
      else some b) none
  best.map (·.name)

/-- The shortest start of an id, seven characters or more, that starts no other object's id. -/
def shortId (r : Repository) (id : String) : String :=
  let others := r.objects.filter (· != id)
  let unique := fun (n : Nat) => !others.any fun o => o.startsWith (id.take n).toString
  match (List.range (id.length + 1)).find? fun n => 7 ≤ n && unique n with
  | some n => (id.take n).toString
  | none => id

/-- The description of the head, if there is a head. -/
def describe (r : Repository) : Option String :=
  r.head?.map fun head =>
    let line := r.lineFrom head
    let tagged := line.zipIdx.findSome? fun (c, depth) => (r.nameOf c).map (·, depth)
    match tagged with
    | some (name, 0) => name
    | some (name, depth) => name ++ "-" ++ toString depth ++ "-g" ++ r.shortId head
    | none => r.shortId head

end Repository

end BearerSession.History
