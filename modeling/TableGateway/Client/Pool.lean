/-!
# Pools

The pools of the library that a client's connections are pooled with, as its documentation describes them; none of this
is the gateway's own. A pool keeps connections for reuse. It holds records; a record is empty once its connection had to
be thrown away, and is filled again when it is taken. Records are reused in the order in which they came back. At most
`size` of them wait in the pool, and `overflow` counts how many more than `size` there are at all; it begins below zero.
-/

namespace TableGateway

/-- How pools are set up. Without a positive size everything is kept; a limit of minus one or a size of zero lets any
number be out. A lesser limit is never waited for: taking is tried again and again. -/
structure PoolSetup where
  size : Int := 5
  limit : Int := 10
  /-- How long taking may wait, in seconds. -/
  timeout : Int := 30
  deriving DecidableEq

structure Pool (ρ : Type) where
  setup : PoolSetup
  connectionString : String
  idle : List (Option ρ) := []
  overflow : Int := -setup.size
  /-- What the library adds to its report that no record can be taken. -/
  remark : String := ""

namespace Pool

variable {ρ : Type}

/-- What taking a record comes to. -/
inductive Taken (ρ : Type) where
  /-- A record that waited, and the pool without it. -/
  | waiting (record : Option ρ) (rest : Pool ρ)
  /-- A new record, and the pool that counts it. -/
  | new (rest : Pool ρ)
  | exhausted
  /-- Nothing waits, nothing may be added, and nothing says how long to wait. -/
  | endless
  /-- Taking would have to wait for less than no time. -/
  | noTime

/-- May no record be added? -/
def isFull (p : Pool ρ) : Bool :=
  p.setup.size != 0 && p.setup.limit != -1 && decide (p.setup.limit ≤ p.overflow)

/-- Can taking not even begin to wait? -/
def hasNoTime (p : Pool ρ) : Bool := p.isFull && decide (0 ≤ p.setup.limit) && decide (p.setup.timeout < 0)

/-- Takes a record: the one that has waited longest, or a new one. -/
def take (p : Pool ρ) : Taken ρ :=
  if p.hasNoTime then .noTime
  else match p.idle with
    | record :: rest => .waiting record { p with idle := rest }
    | [] =>
      if p.isFull then if 0 ≤ p.setup.limit then .exhausted else .endless
      else .new { p with overflow := p.overflow + 1 }

/-- Is there room for one more record to wait? -/
def hasRoom (p : Pool ρ) : Bool := decide (p.setup.size ≤ 0) || decide ((p.idle.length : Int) < p.setup.size)

/-- The pool with one more record waiting. -/
def put (p : Pool ρ) (record : Option ρ) : Pool ρ := { p with idle := p.idle ++ [record] }

/-- The pool without a record that was out. -/
def forget (p : Pool ρ) : Pool ρ := { p with overflow := p.overflow - 1 }

/-- The pool with nothing waiting, which counts from the beginning. -/
def emptied (p : Pool ρ) : Pool ρ := { p with idle := [], overflow := -p.setup.size }

/-- What is reported when no record can be taken. -/
def exhaustedText (p : Pool ρ) : String :=
  "QueuePool limit of size " ++ toString p.setup.size ++ " overflow " ++ toString p.overflow ++
    " reached, connection timed out, timeout " ++ toString p.setup.timeout ++ ".00" ++ p.remark

end Pool

end TableGateway
