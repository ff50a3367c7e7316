import HermesAtrust.Auth.Resource
import HermesAtrust.Collections.HashTable
import HermesAtrust.Concurrency.Transitions

/-!
# The Fake IP pool

Model of `FakeIpPool`.  Every operation first prunes the bindings that are not
of its session epoch and resource generation or have expired.  A number that
was handed out is never handed out again, so an address stands for one host
for as long as the pool exists.

The clock is read once for every binding that is checked and once more for a
new deadline.  An instant is a number of nanoseconds; a deadline beyond the
last instant is a panic, which leaves the pool as it is at that point.
-/

namespace HermesAtrust.Net

open HermesAtrust.L3 HermesAtrust.Auth HermesAtrust.Text
open HermesAtrust.Collections HermesAtrust.Concurrency

abbrev Instant := Nat

structure Binding where
  host : Str
  epoch : Nat
  generation : Nat
  expiry : Instant
  deriving DecidableEq, Repr

structure FakeIpPool where
  fake : HashTable Ipv4Addr Binding
  real : HashTable Ipv4Addr (List Binding)
  next : Nat
  capacity : Nat

/-- What one operation takes from outside: the readings of the clock and the
order in which it finds the bindings. -/
structure Surroundings where
  check : Binding → Instant
  stamp : Instant
  order : IterationOrder (Ipv4Addr × Binding)

inductive PoolError where
  | addrNotAvailable (message : String)
  deriving DecidableEq, Repr

/-- How an operation ends. -/
inductive Ending (α : Type) where
  | returned (result : Except PoolError α)
  | panicked

/-- The address of a 32-bit number. -/
def addressOf (number : Nat) : Ipv4Addr where
  a := UInt8.ofNat (number / 2 ^ 24)
  b := UInt8.ofNat (number / 2 ^ 16)
  c := UInt8.ofNat (number / 2 ^ 8)
  d := UInt8.ofNat number

/-- The first address of `198.18.0.0/15`. -/
def fakeBase : Nat :=
  addressNumber ⟨198, 18, 0, 0⟩

namespace FakeIpPool

/-- `FakeIpPool::new`. -/
def new (capacity : Nat) : FakeIpPool where
  fake := ∅
  real := ∅
  next := 1
  capacity := capacity

/-- `is_fake`. -/
def isFake (ip : Ipv4Addr) : Bool :=
  addressNumber ip &&& 0xfffe0000 == fakeBase

/-- Whether a binding survives a prune. -/
def valid (epoch generation : Nat) (surroundings : Surroundings)
    (binding : Binding) : Bool :=
  decide (binding.epoch = epoch) && decide (binding.generation = generation) &&
    decide (surroundings.check binding < binding.expiry)

/-- `prune`. -/
def prune (pool : FakeIpPool) (epoch generation : Nat)
    (surroundings : Surroundings) : FakeIpPool :=
  { pool with
    fake :=
      HashTable.filterMapValues
        (fun binding =>
          if valid epoch generation surroundings binding then some binding
          else none)
        pool.fake
    real :=
      HashTable.filterMapValues
        (fun bindings =>
          let kept := bindings.filter (valid epoch generation surroundings)
          if kept = [] then none else some kept)
        pool.real }

/-- The number of addresses the pool knows. -/
def size (pool : FakeIpPool) : Nat :=
  HashTable.len pool.fake + HashTable.len pool.real

section Operations

variable (lastInstant : Instant)

/-- `Instant + Duration`. -/
def deadline (stamp : Instant) (ttl : Nat) : Option Instant :=
  if stamp + ttl ≤ lastInstant then some (stamp + ttl) else none

/-- `assign`. -/
def assign (pool : FakeIpPool) (host : Str) (epoch generation ttl : Nat)
    (surroundings : Surroundings) : FakeIpPool × Ending Ipv4Addr :=
  let pruned := pool.prune epoch generation surroundings
  match (surroundings.order.arrange (HashTable.pairs pruned.fake)).find?
      (fun entry => decide (entry.2.host = host)) with
  | some (ip, binding) =>
      match deadline lastInstant surroundings.stamp ttl with
      | none => (pruned, .panicked)
      | some expiry =>
          ({ pruned with
              fake := pruned.fake.insert ip { binding with expiry := expiry } },
            .returned (.ok ip))
  | none =>
      if pruned.capacity ≤ pruned.size ∨ 131071 ≤ pruned.next then
        (pruned,
          .returned (.error (.addrNotAvailable "Fake IP pool is exhausted")))
      else
        let ip := addressOf (fakeBase + pruned.next)
        let advanced := { pruned with next := pruned.next + 1 }
        match deadline lastInstant surroundings.stamp ttl with
        | none => (advanced, .panicked)
        | some expiry =>
            ({ advanced with
                fake :=
                  advanced.fake.insert ip ⟨host, epoch, generation, expiry⟩ },
              .returned (.ok ip))

/-- `lookup`. -/
def lookup (pool : FakeIpPool) (ip : Ipv4Addr) (epoch generation : Nat)
    (surroundings : Surroundings) : FakeIpPool × Option Str :=
  let pruned := pool.prune epoch generation surroundings
  (pruned, (pruned.fake.lookup ip).map Binding.host)

/-- `remember_real`. -/
def rememberReal (pool : FakeIpPool) (ip : Ipv4Addr) (host : Str)
    (epoch generation ttl : Nat) (surroundings : Surroundings) :
    FakeIpPool × Ending Unit :=
  let pruned := pool.prune epoch generation surroundings
  if pruned.real.lookup ip = none ∧ pruned.capacity ≤ pruned.size then
    (pruned,
      .returned (.error (.addrNotAvailable "DNS identity pool is exhausted")))
  else
    let bindings := (pruned.real.lookup ip).getD []
    let entered := { pruned with real := pruned.real.insert ip bindings }
    match bindings.findIdx? (fun binding => decide (binding.host = host)) with
    | some index =>
        match deadline lastInstant surroundings.stamp ttl with
        | none => (entered, .panicked)
        | some expiry =>
            ({ entered with
                real :=
                  entered.real.insert ip
                    (bindings.modify index fun binding =>
                      { binding with expiry := expiry }) },
              .returned (.ok ()))
    | none =>
        if 16 ≤ bindings.length then
          (entered,
            .returned
              (.error
                (.addrNotAvailable "too many domains share this address")))
        else
          match deadline lastInstant surroundings.stamp ttl with
          | none => (entered, .panicked)
          | some expiry =>
              ({ entered with
                  real :=
                    entered.real.insert ip
                      (bindings ++ [⟨host, epoch, generation, expiry⟩]) },
                .returned (.ok ()))

/-- `real_hosts`. -/
def realHosts (pool : FakeIpPool) (ip : Ipv4Addr) (epoch generation : Nat)
    (surroundings : Surroundings) : FakeIpPool × List Str :=
  let pruned := pool.prune epoch generation surroundings
  (pruned, ((pruned.real.lookup ip).getD []).map Binding.host)

end Operations

/-! ## What an operation does to the bindings -/

section Pruning

variable (pool : FakeIpPool) (epoch generation : Nat)
  (surroundings : Surroundings)

theorem prune_next :
    (pool.prune epoch generation surroundings).next = pool.next := rfl

theorem prune_capacity :
    (pool.prune epoch generation surroundings).capacity = pool.capacity := rfl

theorem size_prune_le :
    (pool.prune epoch generation surroundings).size ≤ pool.size :=
  Nat.add_le_add (HashTable.len_filterMapValues_le _ _)
    (HashTable.len_filterMapValues_le _ _)

variable {pool epoch generation surroundings}

/-- What is left after a prune was there before and is valid. -/
theorem lookup_prune_eq_some {ip : Ipv4Addr} {binding : Binding} :
    (pool.prune epoch generation surroundings).fake.lookup ip =
        some binding ↔
      pool.fake.lookup ip = some binding ∧ binding.epoch = epoch ∧
        binding.generation = generation ∧
        surroundings.check binding < binding.expiry := by
  rw [prune, HashTable.lookup_filterMapValues, Option.bind_eq_some_iff]
  simp only [valid, Bool.and_eq_true, decide_eq_true_eq,
    Option.ite_none_right_eq_some, Option.some.injEq]
  constructor
  · intro found
    obtain ⟨stored, lookedUp, isValid, rfl⟩ := found
    exact ⟨lookedUp, isValid.1.1, isValid.1.2, isValid.2⟩
  · intro found
    exact ⟨binding, found.1, ⟨⟨found.2.1, found.2.2.1⟩, found.2.2.2⟩, rfl⟩

end Pruning

/-- An address that is handed out, by a renewal or for the first time. -/
structure HandsOut (lastInstant : Instant) (pruned after : FakeIpPool)
    (ip : Ipv4Addr) (host : Str) (epoch generation ttl : Nat)
    (surroundings : Surroundings) : Prop where
  fits : surroundings.stamp + ttl ≤ lastInstant
  fake :
    after.fake =
      pruned.fake.insert ip
        ⟨host, epoch, generation, surroundings.stamp + ttl⟩
  real : after.real = pruned.real
  capacity : after.capacity = pruned.capacity
  number :
    (∃ binding, pruned.fake.lookup ip = some binding ∧ binding.host = host ∧
        after.next = pruned.next) ∨
      (pruned.size < pruned.capacity ∧ pruned.next < 131071 ∧
        ip = addressOf (fakeBase + pruned.next) ∧
        after.next = pruned.next + 1)

/-- Nothing is handed out; a number may be lost. -/
structure HandsOutNothing (pruned after : FakeIpPool) : Prop where
  fake : after.fake = pruned.fake
  real : after.real = pruned.real
  capacity : after.capacity = pruned.capacity
  number :
    after.next = pruned.next ∨
      (pruned.next < 131071 ∧ after.next = pruned.next + 1)

theorem deadline_eq_some {lastInstant stamp : Instant} {ttl : Nat}
    {expiry : Instant} (known : deadline lastInstant stamp ttl = some expiry) :
    stamp + ttl ≤ lastInstant ∧ expiry = stamp + ttl := by
  unfold deadline at known
  split at known
  · next fits => exact ⟨fits, (Option.some.inj known).symm⟩
  · cases known

/-- The two ways an `assign` can go. -/
theorem assign_cases {lastInstant : Instant} {pool after : FakeIpPool}
    {host : Str} {epoch generation ttl : Nat} {surroundings : Surroundings}
    {ending : Ending Ipv4Addr}
    (assigned :
      assign lastInstant pool host epoch generation ttl surroundings =
        (after, ending)) :
    (∃ ip, ending = .returned (.ok ip) ∧
      HandsOut lastInstant (pool.prune epoch generation surroundings) after ip
        host epoch generation ttl surroundings) ∨
      ((∀ ip, ending ≠ .returned (.ok ip)) ∧
        HandsOutNothing (pool.prune epoch generation surroundings) after) := by
  unfold assign at assigned
  simp only at assigned
  split at assigned
  · next ip binding found =>
      have member := List.mem_of_find?_eq_some found
      rw [surroundings.order.mem_arrange, HashTable.mem_pairs] at member
      have named : binding.host = host := by
        simpa using List.find?_some found
      obtain ⟨-, sameEpoch, sameGeneration, -⟩ :=
        lookup_prune_eq_some.mp member
      cases known : deadline lastInstant surroundings.stamp ttl with
      | none =>
          simp only [known, Prod.mk.injEq] at assigned
          obtain ⟨rfl, rfl⟩ := assigned
          exact .inr ⟨nofun, ⟨rfl, rfl, rfl, .inl rfl⟩⟩
      | some expiry =>
          simp only [known, Prod.mk.injEq] at assigned
          obtain ⟨rfl, rfl⟩ := assigned
          obtain ⟨fits, rfl⟩ := deadline_eq_some known
          refine .inl ⟨ip, rfl, fits, ?_, rfl, rfl,
            .inl ⟨binding, member, named, rfl⟩⟩
          rw [← named, ← sameEpoch, ← sameGeneration]
  · split at assigned
    · cases assigned
      exact .inr ⟨nofun, ⟨rfl, rfl, rfl, .inl rfl⟩⟩
    · next room =>
        have free :
            (pool.prune epoch generation surroundings).size <
                (pool.prune epoch generation surroundings).capacity ∧
              (pool.prune epoch generation surroundings).next < 131071 := by
          omega
        cases known : deadline lastInstant surroundings.stamp ttl with
        | none =>
            simp only [known, Prod.mk.injEq] at assigned
            obtain ⟨rfl, rfl⟩ := assigned
            exact .inr ⟨nofun, ⟨rfl, rfl, rfl, .inr ⟨free.2, rfl⟩⟩⟩
        | some expiry =>
            simp only [known, Prod.mk.injEq] at assigned
            obtain ⟨rfl, rfl⟩ := assigned
            obtain ⟨fits, rfl⟩ := deadline_eq_some known
            exact .inl ⟨_, rfl, fits, rfl, rfl, rfl,
              .inr ⟨free.1, free.2, rfl, rfl⟩⟩

/-- The room an entry for a real address takes. -/
theorem len_entered_le {pruned : FakeIpPool} {ip : Ipv4Addr}
    (room : ¬(pruned.real.lookup ip = none ∧ pruned.capacity ≤ pruned.size))
    (bindings : List Binding) :
    HashTable.len (pruned.real.insert ip bindings) ≤
        HashTable.len pruned.real ∨
      HashTable.len pruned.fake +
          HashTable.len (pruned.real.insert ip bindings) ≤
        pruned.capacity := by
  cases found : pruned.real.lookup ip with
  | some held => exact .inl (HashTable.len_insert_of_lookup found bindings)
  | none =>
      right
      have grown := HashTable.len_insert_le pruned.real ip bindings
      have free : pruned.size < pruned.capacity := by
        by_contra full
        exact room ⟨found, Nat.le_of_not_lt full⟩
      rw [size] at free
      omega

/-- What `remember_real` leaves alone, and that it keeps within the
capacity. -/
structure Remembers (pruned after : FakeIpPool) : Prop where
  fake : after.fake = pruned.fake
  next : after.next = pruned.next
  capacity : after.capacity = pruned.capacity
  bounded : after.size ≤ pruned.size ∨ after.size ≤ pruned.capacity

/-- One entry is made room for and may then be written again. -/
theorem remembers_of_entered {pruned : FakeIpPool} {ip : Ipv4Addr}
    (room : ¬(pruned.real.lookup ip = none ∧ pruned.capacity ≤ pruned.size))
    (first second : List Binding) :
    Remembers pruned { pruned with real := pruned.real.insert ip first } ∧
      Remembers pruned
        { pruned with
          real := (pruned.real.insert ip first).insert ip second } := by
  have entered := len_entered_le room first
  have again :
      HashTable.len ((pruned.real.insert ip first).insert ip second) ≤
        HashTable.len (pruned.real.insert ip first) :=
    HashTable.len_insert_of_lookup (AList.lookup_insert _) second
  constructor
  · refine ⟨rfl, rfl, rfl, ?_⟩
    simp only [size]
    omega
  · refine ⟨rfl, rfl, rfl, ?_⟩
    simp only [size]
    omega

theorem rememberReal_cases {lastInstant : Instant} {pool after : FakeIpPool}
    {ip : Ipv4Addr} {host : Str} {epoch generation ttl : Nat}
    {surroundings : Surroundings} {ending : Ending Unit}
    (remembered :
      rememberReal lastInstant pool ip host epoch generation ttl surroundings =
        (after, ending)) :
    Remembers (pool.prune epoch generation surroundings) after := by
  unfold rememberReal at remembered
  simp only at remembered
  split at remembered
  · cases remembered
    exact ⟨rfl, rfl, rfl, .inl (Nat.le_refl _)⟩
  · next room =>
      have entered := remembers_of_entered room
      split at remembered
      · cases known : deadline lastInstant surroundings.stamp ttl with
        | none =>
            simp only [known, Prod.mk.injEq] at remembered
            obtain ⟨rfl, -⟩ := remembered
            exact (entered _ []).1
        | some expiry =>
            simp only [known, Prod.mk.injEq] at remembered
            obtain ⟨rfl, -⟩ := remembered
            exact (entered _ _).2
      · split at remembered
        · cases remembered
          exact (entered _ []).1
        · cases known : deadline lastInstant surroundings.stamp ttl with
          | none =>
              simp only [known, Prod.mk.injEq] at remembered
              obtain ⟨rfl, -⟩ := remembered
              exact (entered _ []).1
          | some expiry =>
              simp only [known, Prod.mk.injEq] at remembered
              obtain ⟨rfl, -⟩ := remembered
              exact (entered _ _).2

end FakeIpPool

end HermesAtrust.Net
