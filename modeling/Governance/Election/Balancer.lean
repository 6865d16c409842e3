import Governance.Endpoint.Weight

set_option autoImplicit false

namespace Governance

-- What a weighted choice takes from outside: the wall clock's readings, a new one for each
-- candidate, and after so many readings the point that is drawn of a number of equally likely ones.
structure Chance where
  wallClock : Nat → Millis
  draw : Nat → Nat → Nat

inductive Balancer where
  | roundRobin (counter : Int64)
  | weighted (chance : Chance) (readings : Nat)
  -- Any other rule, told how many choices it has made.
  | custom (name : String) (rule : Nat → Request → List Endpoint → Option Endpoint) (choices : Nat)

namespace Balancer

def standard : Balancer := .roundRobin 0

-- The count to go by, and the count that is left for the next choice.
def nextCount (counter : Int64) : Int64 × Int64 :=
  if counter < 0 then (0, 1) else (counter, counter + 1)

def roundRobinIndex (count : Int64) (candidates : Nat) : Nat :=
  (count.toInt % (candidates : Int)).toNat

def atPoint : List (Endpoint × Nat) → Nat → Option Endpoint
  | [], _ => none
  | (e, weight) :: rest, point => if point < weight then some e else atPoint rest (point - weight)

def totalWeight : List (Endpoint × Nat) → Nat
  | [] => 0
  | (_, weight) :: rest => weight + totalWeight rest

def chooseAt (shares : List (Endpoint × Nat)) (draw : Nat → Nat) : Option Endpoint :=
  if totalWeight shares = 0 then (shares[draw shares.length]?).map (·.1)
  else (atPoint shares (draw (totalWeight shares))).or (shares.getLast?.map (·.1))

-- Each candidate is weighed at a reading of its own.
def shares (r : Request) (now : Nat → Millis) (candidates : List Endpoint) :
    List (Endpoint × Nat) :=
  candidates.mapIdx (fun i e => (e, (e.weightAt r (now i)).toNat))

def choose (b : Balancer) (r : Request) (candidates : List Endpoint) :
    Option Endpoint × Balancer :=
  match b with
  | .roundRobin counter =>
    if candidates.isEmpty then (none, b)
    else
      let (count, rest) := nextCount counter
      (candidates[roundRobinIndex count candidates.length]?, .roundRobin rest)
  | .weighted chance readings =>
    if candidates.isEmpty then (none, b)
    else
      (chooseAt (shares r (fun i => chance.wallClock (readings + i)) candidates)
        (chance.draw readings), .weighted chance (readings + candidates.length))
  | .custom name rule choices => (rule choices r candidates, .custom name rule (choices + 1))

def describe : Balancer → String
  | .roundRobin counter => "RoundRobinBalancer \x7b counter: " ++ toString counter.toInt ++ " \x7d"
  | .weighted _ _ => "RandomWeightBalancer"
  | .custom name _ _ => name

end Balancer

end Governance
