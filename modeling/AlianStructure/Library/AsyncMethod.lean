import Mathlib.Tactic.Common

/-!
# Asynchronous methods as trees of awaits

A method runs in one thread of control between two awaits and may be suspended at
each of them. It is a tree: a leaf is its result, an `await` node sends one
operation to the outside and continues with the answer, a failed operation being
an answer like any other; `get` and `put` touch the memory the process shares
between its calls, `spawn` starts a call whose result nobody waits for, and
`gather` waits for a list of calls to settle. The tree says nothing about the
outside or about other calls.
-/
namespace AlianStructure.Library.AsyncMethod

/-- What a program can ask for, share, fail with and call. -/
structure Runtime where
  Op : Type
  Reply : Op → Type
  Mem : Type
  Err : Type
  Call : Type
  Val : Type

inductive Async (R : Runtime) (α : Type) : Type where
  | done (result : Except R.Err α)
  | get (rest : R.Mem → Async R α)
  | put (mem : R.Mem) (rest : Async R α)
  | await (op : R.Op) (rest : Except R.Err (R.Reply op) → Async R α)
  | spawn (call : R.Call) (rest : Async R α)
  | gather (calls : List R.Call) (rest : List (Except R.Err R.Val) → Async R α)

namespace Async
variable {R : Runtime} {α β : Type}

/-- Continue with the result of a program, a failure included. -/
def andThen : Async R α → (Except R.Err α → Async R β) → Async R β
  | .done result, next => next result
  | .get rest, next => .get fun mem => (rest mem).andThen next
  | .put mem rest, next => .put mem (rest.andThen next)
  | .await op rest, next => .await op fun result => (rest result).andThen next
  | .spawn call rest, next => .spawn call (rest.andThen next)
  | .gather calls rest, next => .gather calls fun results => (rest results).andThen next

/-- The continuation of a sequence: a failure skips it. -/
def onOk (next : α → Async R β) : Except R.Err α → Async R β
  | .ok value => next value
  | .error failure => .done (.error failure)

/-- The continuation of a catch block: a value skips it. -/
def onError (handler : R.Err → Async R α) : Except R.Err α → Async R α
  | .ok value => .done (.ok value)
  | .error failure => handler failure

instance : Monad (Async R) where
  pure value := .done (.ok value)
  bind program next := program.andThen (onOk next)

instance : MonadExceptOf R.Err (Async R) where
  throw failure := .done (.error failure)
  tryCatch program handler := program.andThen (onError handler)

/-- Await one operation. -/
def perform (op : R.Op) : Async R (R.Reply op) := .await op .done

/-- The result of a program, a failure included, as a value. -/
def outcome (program : Async R α) : Async R (Except R.Err α) :=
  program.andThen fun result => .done (.ok result)

/-- Read the memory of the process. -/
def memory : Async R R.Mem := .get fun mem => .done (.ok mem)

/-- Change the memory of the process. -/
def update (change : R.Mem → R.Mem) : Async R Unit :=
  .get fun mem => .put (change mem) (.done (.ok ()))

/-- Start a call without waiting for it. -/
def start (call : R.Call) : Async R Unit := .spawn call (.done (.ok ()))

/-- Start calls and wait until each has returned or failed. -/
def allSettled (calls : List R.Call) : Async R (List (Except R.Err R.Val)) :=
  .gather calls fun results => .done (.ok results)

/-- Run a program up to its next await: the memory it leaves, the calls it
starts on the way and what remains of it. -/
def settle (mem : R.Mem) : Async R α → R.Mem × List R.Call × Async R α
  | .get rest => (rest mem).settle mem
  | .put mem rest => rest.settle mem
  | .spawn call rest =>
    let (mem, calls, rest) := rest.settle mem
    (mem, call :: calls, rest)
  | program => (mem, [], program)

end Async

end AlianStructure.Library.AsyncMethod
