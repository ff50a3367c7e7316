import Mathlib.Data.List.Basic

/-!
# Bounded channels

A queue with a capacity, between senders that never wait and one receiver.  A
value that is sent joins the end of the queue unless the queue is full or the
receiver is gone; the receiver takes values from the front.  What is left in
the queue of a receiver that is gone is not taken by anyone.
-/

namespace HermesAtrust.Concurrency

universe u

inductive TrySendError where
  | full
  | closed
  deriving DecidableEq, Repr

structure Channel (Value : Type u) where
  capacity : Nat
  queue : List Value
  receiving : Bool
  deriving DecidableEq, Repr

namespace Channel

variable {Value : Type u}

def new (capacity : Nat) : Channel Value where
  capacity := capacity
  queue := []
  receiving := true

def trySend (channel : Channel Value) (value : Value) :
    Except TrySendError (Channel Value) :=
  if channel.receiving = false then
    .error .closed
  else if channel.capacity ≤ channel.queue.length then
    .error .full
  else
    .ok { channel with queue := channel.queue ++ [value] }

def recv (channel : Channel Value) : Option (Value × Channel Value) :=
  if channel.receiving then
    match channel.queue with
    | [] => none
    | value :: later => some (value, { channel with queue := later })
  else
    none

def dropReceiver (channel : Channel Value) : Channel Value :=
  { channel with receiving := false }

/-- Everything that was sent has been taken, in order, or waits in the
queue. -/
def Conserves (channel : Channel Value) (sent taken : List Value) : Prop :=
  sent = taken ++ channel.queue

section

variable {channel after : Channel Value} {value : Value}
  {sent taken : List Value}

theorem trySend_ok (accepted : channel.trySend value = .ok after) :
    after = { channel with queue := channel.queue ++ [value] } := by
  unfold trySend at accepted
  split at accepted
  · cases accepted
  · split at accepted
    · cases accepted
    · cases accepted
      rfl

theorem trySend_closed (refused : channel.trySend value = .error .closed) :
    channel.receiving = false := by
  unfold trySend at refused
  split at refused
  · assumption
  · split at refused <;> cases refused

theorem receiving_recv (received : channel.recv = some (value, after)) :
    after.receiving = channel.receiving := by
  unfold Channel.recv at received
  split at received
  · split at received
    · cases received
    · cases received
      rfl
  · cases received

theorem conserves_new (capacity : Nat) :
    (new capacity : Channel Value).Conserves [] [] :=
  rfl

theorem Conserves.trySend (conserves : channel.Conserves sent taken)
    (accepted : channel.trySend value = .ok after) :
    after.Conserves (sent ++ [value]) taken := by
  have same : sent = taken ++ channel.queue := conserves
  rw [trySend_ok accepted, Conserves, same, List.append_assoc]

theorem Conserves.recv (conserves : channel.Conserves sent taken)
    (received : channel.recv = some (value, after)) :
    after.Conserves sent (taken ++ [value]) := by
  have same : sent = taken ++ channel.queue := conserves
  unfold Channel.recv at received
  split at received
  · split at received
    · cases received
    · rename_i head later waiting
      cases received
      rw [Conserves, same, waiting, List.append_assoc]
      rfl
  · cases received

end

end Channel

end HermesAtrust.Concurrency
