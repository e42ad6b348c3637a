/-!
# The lookup cache

Many records belong to one species, so what a lookup found is kept. Any number of callers may ask at the
same time; callers of one key that find no value join the same attempt, and the first of them runs the
resolver. An attempt that fails gives its callers the default and leaves nothing behind, so the next
caller tries again.

A call is made of these steps, each of which happens at once:

* `get?` looks for a finished value;
* `join` looks again and otherwise finds or opens the attempt for the key;
* `begin` starts the resolver if the attempt has none yet, and counts the start;
* `finish` settles the attempt by what the resolver found;
* `leave` keeps the value of a successful attempt and closes the attempt if it is still the open one.

`together` runs several calls at once, all of them begun before the first resolver finishes.
-/

namespace Fieldbook

/-- How far an attempt has come. -/
inductive AttemptStage where
  /-- Nobody has started the resolver. -/
  | opened
  /-- The resolver is running. -/
  | running
  /-- The value that the callers get, and whether the resolver found it. -/
  | settled (value : UInt32) (found : Bool)
  deriving DecidableEq

/-- Finished values and open attempts by their keys. Attempts are known by their numbers. -/
structure LookupCache where
  /-- The value of a failed lookup. -/
  default : UInt32 := 1
  /-- The values of successful lookups. -/
  completed : List (String × UInt32) := []
  /-- The open attempt of a key. -/
  inFlight : List (String × Nat) := []
  /-- All attempts ever opened, by number. -/
  attempts : Array AttemptStage := #[]
  /-- How many times a resolver was started. -/
  resolutions : Nat := 0
  deriving DecidableEq

namespace LookupCache

/-- The finished value of a key. -/
def get? (cache : LookupCache) (key : String) : Option UInt32 := cache.completed.lookup key

/-- How many keys have a finished value. -/
def size (cache : LookupCache) : Nat := cache.completed.length

/-- Either the finished value of a key or the number of its attempt. -/
inductive Joined where
  | value (v : UInt32)
  | attempt (number : Nat)
  deriving DecidableEq

/-- Finds the value or the open attempt of a key, opening an attempt if there is neither. -/
def join (cache : LookupCache) (key : String) : LookupCache × Joined :=
  match cache.get? key with
  | some v => (cache, .value v)
  | none =>
    match cache.inFlight.lookup key with
    | some number => (cache, .attempt number)
    | none =>
      let number := cache.attempts.size
      ({ cache with
          inFlight := (key, number) :: cache.inFlight
          attempts := cache.attempts.push .opened },
        .attempt number)

/-- Starts the resolver of an attempt unless it was started before; reports whether it was started
now. -/
def begin (cache : LookupCache) (number : Nat) : LookupCache × Bool :=
  match cache.attempts[number]? with
  | some .opened =>
    ({ cache with
        attempts := cache.attempts.setIfInBounds number .running
        resolutions := cache.resolutions + 1 },
      true)
  | _ => (cache, false)

/-- Settles an attempt by what its resolver found, if anything. -/
def finish (cache : LookupCache) (number : Nat) (found : Option UInt32) : LookupCache :=
  { cache with
    attempts := cache.attempts.setIfInBounds number (.settled (found.getD cache.default) found.isSome) }

/-- Puts the value of a key into a table, in place of the one that was there. -/
def record (table : List (String × UInt32)) (key : String) (value : UInt32) :
    List (String × UInt32) :=
  (key, value) :: table.filter (·.1 != key)

/-- Takes the value of a settled attempt, keeps it if it was found, and closes the attempt if it is
still the open one of the key. -/
def leave (cache : LookupCache) (key : String) (number : Nat) : LookupCache × UInt32 :=
  match cache.attempts[number]? with
  | some (.settled value found) =>
    ({ cache with
        completed := if found then record cache.completed key value else cache.completed
        inFlight := cache.inFlight.filter (· != (key, number)) },
      value)
  | _ => (cache, cache.default)

/-! ## Calls at once -/

/-- A call: the key, and what the resolver finds if this call is the one to run it. -/
structure Call where
  key : String
  found : Option UInt32
  deriving DecidableEq

/-- A call under way: either it has its value, or it waits for an attempt, which it may be running. -/
inductive Pending where
  | answered (v : UInt32)
  | waiting (call : Call) (number : Nat) (running : Bool)
  deriving DecidableEq

/-- The steps of a call up to the start of the resolver. -/
def enter (cache : LookupCache) (call : Call) : LookupCache × Pending :=
  match cache.get? call.key with
  | some v => (cache, .answered v)
  | none =>
    match cache.join call.key with
    | (cache, .value v) => (cache, .answered v)
    | (cache, .attempt number) =>
      let (cache, started) := cache.begin number
      (cache, .waiting call number started)

/-- The resolver that a call runs finishes. -/
def settle (cache : LookupCache) : Pending → LookupCache
  | .waiting call number true => cache.finish number call.found
  | _ => cache

/-- The last step of a call. -/
def depart (cache : LookupCache) : Pending → LookupCache × UInt32
  | .answered v => (cache, v)
  | .waiting call number _ => cache.leave call.key number

/-- Makes a step for each element of a list, one after another. -/
def through {α β : Type} (step : LookupCache → α → LookupCache × β) (cache : LookupCache) :
    List α → LookupCache × List β
  | [] => (cache, [])
  | a :: rest =>
    let (cache, b) := step cache a
    let (cache, bs) := through step cache rest
    (cache, b :: bs)

/-- The call is the one that runs the resolver. -/
def Pending.isRunning : Pending → Bool
  | .waiting _ _ running => running
  | .answered _ => false

/-- Calls that are all begun before any resolver finishes: their values in order, and for each whether
it ran the resolver. -/
def together (cache : LookupCache) (calls : List Call) : LookupCache × List (UInt32 × Bool) :=
  let (cache, pending) := cache.through enter calls
  let cache := pending.foldl settle cache
  let (cache, values) := cache.through depart pending
  (cache, values.zip (pending.map Pending.isRunning))

/-- A call on its own: its value, and whether it ran the resolver. -/
def resolve (cache : LookupCache) (call : Call) : LookupCache × UInt32 × Bool :=
  let (cache, pending) := cache.enter call
  let (cache, value) := (cache.settle pending).depart pending
  (cache, value, pending.isRunning)

end LookupCache

end Fieldbook
