/-
# Sessions

A harness that acts step by step and looks at the page after each step.
-/
import PageTimers.Program.Machine

namespace PageTimers

/-- What one action of the harness did, and how the page stands after it. -/
structure Turn (ι : Type) where
  /-- How it ended; `none` where it was given up on. -/
  ended : Option Ended
  /-- What came of it, unless it threw. -/
  result : Option (Result ι)
  /-- What callbacks did meanwhile, in order. -/
  log : List (Entry ι)
  journal : List (Event ι)
  now : Nat
  pending : List (PendingTimer ι)
  /-- What is outstanding, in ascending order, once it is tracked. -/
  outstanding : Option (List ι)
  completed : Bool

namespace World

variable {σ κ ι : Type}

/-- A world on which nothing has been done yet. -/
def start (provider : σ) (globals : Globals) : World σ ι :=
  ⟨provider, .attach globals, [], [], []⟩

/-- The same world, with an empty log and an empty journal. -/
def forget (world : World σ ι) : World σ ι := { world with log := [], journal := [] }

variable [DecidableEq ι] [Identifier ι]

/-- Let the harness act. -/
def perform (P : Provider σ κ ι (Handler ι)) (fuel : Nat) (action : Action ι)
    (world : World σ ι) : World σ ι × Option Ended :=
  let m := Machine.run P fuel (Machine.load (κ := κ) world [action])
  (m.world, m.ended?)

end World

namespace Entry

variable {ι : Type}

/-- Whether a callback did it. -/
def isOfCallback : Entry ι → Bool
  | started .. => true
  | did (.callback _) _ _ => true
  | did .harness _ _ => false

/-- What came of an action of the harness. -/
def harnessResult? : Entry ι → Option (Result ι)
  | did .harness _ result => some result
  | did (.callback _) _ _ => none
  | started .. => none

end Entry

namespace Turn

variable {σ κ ι : Type} [DecidableEq ι] [Identifier ι]

/-- Let the harness act and look at the page. -/
def take (P : Provider σ κ ι (Handler ι)) (fuel : Nat) (action : Action ι)
    (world : World σ ι) : World σ ι × Turn ι :=
  let (world, ended) := world.forget.perform P fuel action
  (world,
    { ended := ended
      result := world.log.findSome? Entry.harnessResult?
      log := (world.log.filter Entry.isOfCallback).reverse
      journal := world.journal.reverse
      now := P.now world.provider
      pending := P.pending world.provider
      outstanding := world.page.outstanding.map (·.sorted)
      completed := world.page.completed })

/-- Let the harness act step by step. -/
def takeAll (P : Provider σ κ ι (Handler ι)) (fuel : Nat) :
    List (Action ι) → World σ ι → List (Turn ι)
  | [], _ => []
  | action :: rest, world =>
    let (world, turn) := take P fuel action world
    turn :: takeAll P fuel rest world

end Turn

end PageTimers
