/-
# Outstanding timers

The timers that were scheduled and not cancelled since.  A timer leaves the
set only by being cancelled: one that has fired stays, and a repeating timer
stays however often it ticks.
-/
import PageTimers.Timer

namespace PageTimers

/-- A finite set of identifiers. -/
structure Outstanding (ι : Type) where
  ids : List ι
  nodup : ids.Nodup := by exact List.nodup_nil

namespace Outstanding

variable {ι : Type}

def empty : Outstanding ι := { ids := [] }

def size (set : Outstanding ι) : Nat := set.ids.length

def isEmpty (set : Outstanding ι) : Bool := set.ids.isEmpty

variable [DecidableEq ι]

def contains (set : Outstanding ι) (id : ι) : Bool := id ∈ set.ids

/-- Adding what is there already changes nothing. -/
def insert (set : Outstanding ι) (id : ι) : Outstanding ι :=
  if h : id ∈ set.ids then set
  else ⟨id :: set.ids, List.nodup_cons.mpr ⟨h, set.nodup⟩⟩

/-- Removing what is not there changes nothing. -/
def erase (set : Outstanding ι) (id : ι) : Outstanding ι :=
  ⟨set.ids.erase id, set.nodup.erase id⟩

omit [DecidableEq ι]

/-- The identifiers in ascending order. -/
def sorted [Identifier ι] (set : Outstanding ι) : List ι :=
  set.ids.mergeSort Identifier.le

end Outstanding

end PageTimers
